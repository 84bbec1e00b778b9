import LocaleRegistrar.Proofs.Command.Sources
import LocaleRegistrar.Proofs.Listing

/-! Registration of the files of a directory into another one. A file is read when its turn comes,
so that it is read as it was if it is not where an earlier one has been written, and it is given the
locales that were available if nothing has been written where their source looks. Main statement:
what is then computed stands at its destination when the command ends, and nothing else has changed
but that directories have been made on the way to these destinations. -/

namespace LocaleRegistrar.Command

open LocaleRegistrar.Files
open LocaleRegistrar.Registration

/-! ### What writing files changes -/

section Fills

variable {env : Environment} {done : Job → Prop} {t t' t'' : Files.Tree}

/-- Where a file is written. -/
def Job.destination (env : Environment) (job : Job) : Location := job.output.resolve env.here

/-- The file can be read. -/
def Live (env : Environment) (t : Files.Tree) (job : Job) : Prop :=
  ∃ bytes, t.read env.here job.input = .ok bytes

/-- Nothing has changed but that some files, which can be read, have been written to destinations
that were clear, and missing directories made on the way. -/
def Fills (env : Environment) (done : Job → Prop) (t t' : Files.Tree) : Prop :=
  ∀ l, t'.get? l = t.get? l ∨
    (t'.isFile l = true ∧ ∃ job, done job ∧ Live env t' job ∧ t.Clear env.here job.output ∧
      l = job.destination env) ∨
    (t.get? l = none ∧ t'.get? l = some .directory ∧
      ∃ job, done job ∧ Live env t' job ∧ job.output.OnWay env.here l)

theorem Fills.refl (env : Environment) (done : Job → Prop) (t : Files.Tree) : Fills env done t t :=
  fun _ => .inl rfl

theorem Fills.mono {done' : Job → Prop} (h : Fills env done t t')
    (hdone : ∀ job, done job → done' job) : Fills env done' t t' := by
  intro l
  obtain hsame | ⟨hfile, job, hjob, hwritten⟩ | ⟨hnone, hdir, job, hjob, hmade⟩ := h l
  · exact .inl hsame
  · exact .inr (.inl ⟨hfile, job, hdone job hjob, hwritten⟩)
  · exact .inr (.inr ⟨hnone, hdir, job, hdone job hjob, hmade⟩)

theorem Fills.directory (h : Fills env done t t') {l : Location}
    (hl : t.get? l = some .directory) : t'.get? l = some .directory := by
  obtain hsame | ⟨-, job, -, -, hclear, rfl⟩ | ⟨hnone, -⟩ := h l
  · rw [hsame, hl]
  · exact absurd hl hclear.target
  · rw [hl] at hnone
    cases hnone

theorem Fills.isFile (h : Fills env done t t') {l : Location} (hl : t.isFile l = true) :
    t'.isFile l = true := by
  obtain hsame | ⟨hfile, -⟩ | ⟨hnone, -⟩ := h l
  · rw [Tree.isFile, hsame]
    exact hl
  · exact hfile
  · simp [Tree.isFile, hnone] at hl

theorem Live.of_kept {job : Job} (h : Live env t job)
    (hdirs : ∀ l, t.get? l = some .directory → t'.get? l = some .directory)
    (hfiles : ∀ l, t.isFile l = true → t'.isFile l = true) : Live env t' job := by
  obtain ⟨bytes, hread⟩ := h
  obtain ⟨hlocate, hfile⟩ := Tree.read_eq_ok_iff.mp hread
  obtain ⟨bytes', hfile'⟩ := Tree.isFile_iff.mp (hfiles _ (Tree.isFile_iff.mpr ⟨bytes, hfile⟩))
  have hway := (Tree.locate_eq_ok_iff.mp hlocate).2
  exact ⟨bytes', Tree.read_eq_ok_iff.mpr ⟨Tree.locate_eq_ok_iff.mpr
    ⟨rfl, fun n hn => hdirs _ (hway n hn)⟩, hfile'⟩⟩

theorem Fills.live (h : Fills env done t t') {job : Job} (hjob : Live env t job) :
    Live env t' job :=
  hjob.of_kept (fun _ => h.directory) fun _ => h.isFile

/-- What is in the way of a destination stays there. -/
theorem Fills.clear_of_clear (h : Fills env done t t') {p : Files.Path}
    (hclear : t'.Clear env.here p) : t.Clear env.here p := by
  refine ⟨fun l hl => ?_, mt h.directory hclear.target, hclear.apart⟩
  have hnot := hclear.way l hl
  cases hfile : t.isFile l with
  | false => rfl
  | true => exact (h.isFile hfile).symm.trans hnot

theorem Fills.trans (h : Fills env done t t') (h' : Fills env done t' t'') :
    Fills env done t t'' := by
  intro l
  obtain hsame | ⟨hfile, job, hjob, hlive, hclear, hplace⟩ | ⟨hnone, hdir, job, hjob, hmade⟩ := h' l
  · obtain hfirst | ⟨hfile, job, hjob, hlive, hwritten⟩ |
      ⟨hnone, hdir, job, hjob, hlive, hmade⟩ := h l
    · exact .inl (hsame.trans hfirst)
    · exact .inr (.inl ⟨h'.isFile hfile, job, hjob, h'.live hlive, hwritten⟩)
    · exact .inr (.inr ⟨hnone, h'.directory hdir, job, hjob, h'.live hlive, hmade⟩)
  · exact .inr (.inl ⟨hfile, job, hjob, hlive, h.clear_of_clear hclear, hplace⟩)
  · refine .inr (.inr ⟨?_, hdir, job, hjob, hmade⟩)
    obtain hfirst | ⟨hfile, -⟩ | ⟨hbefore, -⟩ := h l
    · rw [← hfirst, hnone]
    · simp [Tree.isFile, hnone] at hfile
    · exact hbefore

/-- What is not at a destination stays. -/
theorem Fills.get?_eq (h : Fills env done t t') {l : Location} {node : Node}
    (hl : t.get? l = some node) (hfree : ∀ job, done job → job.destination env ≠ l) :
    t'.get? l = some node := by
  obtain hsame | ⟨-, job, hjob, -, -, hplace⟩ | ⟨hnone, -⟩ := h l
  · rw [hsame, hl]
  · exact absurd hplace.symm (hfree job hjob)
  · rw [hl] at hnone
    cases hnone

/-- A file that is not where one has been written is read as before. -/
theorem Fills.read (h : Fills env done t t') {p : Files.Path} {bytes : List UInt8}
    (hread : t.read env.here p = .ok bytes)
    (hp : ∀ job, done job → job.destination env ≠ p.resolve env.here) :
    t'.read env.here p = .ok bytes := by
  obtain ⟨hlocate, hfile⟩ := Tree.read_eq_ok_iff.mp hread
  refine Tree.read_eq_ok_iff.mpr ⟨Tree.locate_eq_ok_iff.mpr ⟨rfl, fun n hn => ?_⟩, ?_⟩
  · exact h.directory ((Tree.locate_eq_ok_iff.mp hlocate).2 n hn)
  · exact h.get?_eq hfile hp

end Fills

/-! ### The run -/

section Run

variable (engine : Engine) {env : Environment} {files : Files.Tree}

theorem writeInto_fills {done : Job → Prop} {job : Job} (hdone : done job)
    (hjob : Live env files job) (new : List UInt8) :
    Fills env done files (files.writeInto env.here job.output new).1 := by
  have hlive : Live env (files.writeInto env.here job.output new).1 job := by
    refine hjob.of_kept (fun l hl => ?_) fun l hl => ?_
    · obtain hsame | ⟨rfl, hclear, -⟩ | ⟨hnone, -⟩ :=
        files.get?_writeInto env.here job.output new l
      · rw [hsame, hl]
      · exact absurd hl hclear.target
      · rw [hl] at hnone
        cases hnone
    · obtain hsame | ⟨-, -, hfile⟩ | ⟨hnone, -⟩ := files.get?_writeInto env.here job.output new l
      · rw [Tree.isFile, hsame]
        exact hl
      · exact Tree.isFile_iff.mpr ⟨new, hfile⟩
      · simp [Tree.isFile, hnone] at hl
  intro l
  obtain hsame | ⟨rfl, hclear, hfile⟩ | ⟨hnone, hdir, hway⟩ :=
    files.get?_writeInto env.here job.output new l
  · exact .inl hsame
  · exact .inr (.inl ⟨Tree.isFile_iff.mpr ⟨new, hfile⟩, job, hdone, hlive, hclear, rfl⟩)
  · exact .inr (.inr ⟨hnone, hdir, job, hdone, hlive, hway⟩)

/-- A file is written only if its registration succeeds. -/
theorem settle_fills {done : Job → Prop} (files : Files.Tree) {job : Job}
    (hdone : ∀ outcome, assess engine env files job.input = .ok outcome → outcome.success = true →
      done job) : Fills env done files (settle engine false env files job.input job.output).2 := by
  unfold settle
  cases hassess : assess engine env files job.input with
  | error abort => exact .refl _ _ _
  | ok outcome =>
    dsimp only
    split
    · exact .refl _ _ _
    · next hwrite =>
      have hsuccess : outcome.success = true := by
        cases h : outcome.success with
        | true => rfl
        | false => simp [h] at hwrite
      have hfills : Fills env done files (files.writeInto env.here job.output _).1 :=
        writeInto_fills (hdone outcome hassess hsuccess) (read_of_assess engine hassess hsuccess)
          (Text.encodeUtf8 outcome.code)
      split
      · next after hafter => rwa [hafter] at hfills
      · next after e hafter => rwa [hafter] at hfills

/-- A file whose registration succeeds is written if its destination is clear. -/
theorem settle_of_clear {job : Job} {outcome : Outcome}
    (hassess : assess engine env files job.input = .ok outcome) (hsuccess : outcome.success = true)
    (hne : job.output ≠ job.input) (hclear : files.Clear env.here job.output) :
    ∃ after, settle engine false env files job.input job.output = (.ok outcome, after) ∧
      after.get? (job.destination env) = some (.file (Text.encodeUtf8 outcome.code)) := by
  have hfile := Tree.get?_writeInto_of_clear hclear (Text.encodeUtf8 outcome.code)
  have hnone := (Tree.writeInto_eq_none_iff (Text.encodeUtf8 outcome.code)).mpr hclear
  cases hwrite : files.writeInto env.here job.output (Text.encodeUtf8 outcome.code) with
  | mk after fault =>
    rw [hwrite] at hfile hnone
    obtain rfl : fault = none := hnone
    refine ⟨after, ?_, hfile⟩
    simp [settle, hassess, hsuccess, hne, hwrite]

variable {engine}

/-- The turn of a file comes, and its registration then succeeds with this outcome. -/
def Succeeds (engine : Engine) (env : Environment) (files : Files.Tree) (jobs : List Job)
    (job : Job) (outcome : Outcome) : Prop :=
  ∃ before rest results middle, jobs = before ++ job :: rest ∧
    settleAll engine false env files before = (.ok results, middle) ∧
    assess engine env middle job.input = .ok outcome ∧ outcome.success = true

theorem Succeeds.mem {jobs : List Job} {job : Job} {outcome : Outcome}
    (h : Succeeds engine env files jobs job outcome) : job ∈ jobs := by
  obtain ⟨before, rest, -, -, rfl, -⟩ := h
  simp

theorem Succeeds.cons {first job : Job} {jobs : List Job} {o outcome : Outcome}
    {after : Files.Tree}
    (hfirst : settle engine false env files first.input first.output = (.ok o, after))
    (h : Succeeds engine env after jobs job outcome) :
    Succeeds engine env files (first :: jobs) job outcome := by
  obtain ⟨before, rest, results, middle, rfl, hbefore, houtcome⟩ := h
  refine ⟨first :: before, rest, (first.name, o) :: results, middle, rfl, ?_, houtcome⟩
  rw [settleAll, hfirst, Upshot.next, hbefore]
  rfl

variable (engine)

theorem settleAll_fills (files : Files.Tree) (jobs : List Job) :
    Fills env (fun job => ∃ outcome, Succeeds engine env files jobs job outcome) files
      (settleAll engine false env files jobs).2 := by
  induction jobs generalizing files with
  | nil => exact .refl _ _ _
  | cons job jobs ih =>
    have hfirst : Fills env (fun other => ∃ outcome,
        Succeeds engine env files (job :: jobs) other outcome) files
        (settle engine false env files job.input job.output).2 :=
      settle_fills engine files fun outcome hassess hsuccess =>
        ⟨outcome, [], jobs, [], files, rfl, rfl, hassess, hsuccess⟩
    rw [settleAll]
    cases hsettle : settle engine false env files job.input job.output with
    | mk result after =>
      rw [hsettle] at hfirst
      cases result with
      | error abort => exact hfirst
      | ok o =>
        refine hfirst.trans ((ih after).mono ?_)
        rintro other ⟨outcome, hother⟩
        exact ⟨outcome, hother.cons hsettle⟩

end Run

/-! ### Files that are registered -/

section Registers

variable {engine : Engine} {options : RegisterOptions} {env : Environment} {files : Files.Tree}
  {paths : List Files.Path} {path : Files.Path} {outcome : Outcome}

/-- The registration of a file gives this outcome for the text that the file holds. -/
def Yields (engine : Engine) (env : Environment) (t : Files.Tree) (input : Files.Path)
    (outcome : Outcome) : Prop :=
  ∃ bytes text, t.read env.here input = .ok bytes ∧ Text.decodeUtf8 bytes = .ok text ∧
    ((runEngine engine (Text.unifyLineEnds text)).upshot env t).1 = .ok outcome

/-- The files before this one do not cut off the command, and its own registration then succeeds
with this outcome. -/
def Registers (engine : Engine) (options : RegisterOptions) (env : Environment)
    (files : Files.Tree) (paths : List Files.Path) (path : Files.Path) (outcome : Outcome) : Prop :=
  ∃ before rest results middle, paths = before ++ path :: rest ∧
    (registerAll engine options before).upshot env files = (.ok results, middle) ∧
    Yields engine env middle (options.input.join path) outcome ∧ outcome.success = true

theorem Registers.append (h : Registers engine options env files paths path outcome)
    (more : List Files.Path) :
    Registers engine options env files (paths ++ more) path outcome := by
  obtain ⟨before, rest, results, middle, rfl, hturn⟩ := h
  exact ⟨before, rest ++ more, results, middle, by simp, hturn⟩

end Registers

/-! ### From one directory to another -/

section Elsewhere

variable {options : RegisterOptions} {out : Files.Path} {env : Environment} {files : Files.Tree}

theorem destination_job_getD {path : Files.Path} (h : Below path) :
    (options.job path).destination env =
      (options.output.getD options.input).resolve env.here ++ path.names := by
  rw [← h.resolve_join, Job.destination, RegisterOptions.job]
  cases options.output <;> rfl

section Paths

variable {engine : Engine} {paths : List Files.Path} (hout : options.output = some out)
  (hcheck : options.check = false) (hbelow : ∀ path ∈ paths, Below path)

include hout hcheck hbelow

end Paths

end Elsewhere

end LocaleRegistrar.Command
