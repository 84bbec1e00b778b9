import LocaleRegistrar.Proofs.Command.Settlement
import LocaleRegistrar.Proofs.Files.Outline

/-! Registration in place, where every file is written to the path it is read from. Writing a file
keeps the outline of the tree, so that later files are read and assessed as if nothing had been
written. -/

namespace LocaleRegistrar

namespace Files.Tree

/-- Nothing has changed but what is in files at the given places. -/
structure Rewrites (places : Location → Prop) (t t' : Tree) : Prop where
  wellFormed : t'.WellFormed
  outline : t'.outline = t.outline
  frame : ∀ l, ¬places l → t'.get? l = t.get? l

theorem Rewrites.refl {t : Tree} (h : t.WellFormed) (places : Location → Prop) :
    Rewrites places t t :=
  ⟨h, rfl, fun _ _ => rfl⟩

theorem Rewrites.trans {places : Location → Prop} {t t' t'' : Tree} (h : Rewrites places t t')
    (h' : Rewrites places t' t'') : Rewrites places t t'' :=
  ⟨h'.wellFormed, h'.outline.trans h.outline,
    fun l hl => (h'.frame l hl).trans (h.frame l hl)⟩

theorem Rewrites.mono {places places' : Location → Prop} {t t' : Tree} (h : Rewrites places t t')
    (hplaces : ∀ l, places l → places' l) : Rewrites places' t t' :=
  ⟨h.wellFormed, h.outline, fun l hl => h.frame l (mt (hplaces l) hl)⟩

theorem Rewrites.directory {places : Location → Prop} {t t' : Tree} (h : Rewrites places t t')
    {l : Location} (hl : t.get? l = some .directory) : t'.get? l = some .directory := by
  rw [← isDirectory_iff] at hl ⊢
  rw [← isDirectory_outline, h.outline, isDirectory_outline, hl]

theorem rewrites_insert {t : Tree} (h : t.WellFormed) {l : Location} {old : List UInt8}
    (hold : t.get? l = some (.file old)) (new : List UInt8) :
    Rewrites (· = l) t (t.insert l (.file new)) := by
  have hl : l ≠ [] := t.ne_nil_of_get? (by simp [hold])
  refine ⟨h.insert hl hold _, outline_insert h hold new, fun place hplace => ?_⟩
  rw [t.get?_insert hl, if_neg hplace]

end Files.Tree

namespace Command

open LocaleRegistrar.Files
open LocaleRegistrar.Files.Tree (Rewrites)
open LocaleRegistrar.Registration

/-! ### One file -/

section File

variable (engine : Engine) {env : Environment} {files : Files.Tree}

/-- A file is assessed by the outline of the files and what is in that file. -/
theorem assess_congr {files' : Files.Tree} {input : Files.Path}
    (houtline : files'.outline = files.outline)
    (hget : files'.get? (input.resolve env.here) = files.get? (input.resolve env.here)) :
    assess engine env files' input = assess engine env files input := by
  have hresult (code : String) :
      engineResult engine env files' code = engineResult engine env files code :=
    engineResult_congr (engine.source.list_congr env.here env.searchPath houtline)
      (engine.source.listNotes_congr env.here env.searchPath houtline)
  rw [assess, assess, Tree.read_congr houtline hget]
  simp only [hresult]

theorem read_of_assess {input : Files.Path} {o : Outcome}
    (h : assess engine env files input = .ok o) (hsuccess : o.success = true) :
    ∃ bytes, files.read env.here input = .ok bytes := by
  obtain ⟨e, rfl⟩ | ⟨bytes, text, hread, -⟩ := assess_cases h
  · cases hsuccess
  · exact ⟨bytes, hread⟩

/-- A check writes nothing. -/
theorem settle_check (input output : Files.Path) :
    settle engine true env files input output = (assess engine env files input, files) := by
  unfold settle
  cases assess engine env files input with
  | error abort => rfl
  | ok outcome => simp

/-- The files after a registration in place. -/
def rewritten (env : Environment) (files : Files.Tree) (input : Files.Path) :
    Except Abort Outcome → Files.Tree
  | .ok outcome =>
    if outcome.success && outcome.changed then
      files.insert (input.resolve env.here) (.file (Text.encodeUtf8 outcome.code))
    else files
  | .error _ => files

theorem names_ne_nil_of_read {input : Files.Path} {bytes : List UInt8}
    (hhere : files.get? env.here = some .directory)
    (h : files.read env.here input = .ok bytes) : input.names ≠ [] := by
  intro hnil
  have hfile := (Tree.read_eq_ok_iff.mp h).2
  have hplace : input.resolve env.here = env.here ∨ input.resolve env.here = [] := by
    unfold Path.resolve
    rw [hnil]
    by_cases hroot : input.root = .here <;> simp [hroot]
  rcases hplace with hplace | hplace <;> simp [hplace, hhere] at hfile

/-- In place, a file is written if its registration succeeded and changed its text. -/
theorem settle_inPlace (hhere : files.get? env.here = some .directory) (input : Files.Path) :
    settle engine false env files input input = (assess engine env files input,
      rewritten env files input (assess engine env files input)) := by
  unfold settle
  cases hassess : assess engine env files input with
  | error abort => rfl
  | ok outcome =>
    cases hsuccess : outcome.success with
    | false => simp [rewritten, hsuccess]
    | true =>
      cases hchanged : outcome.changed with
      | false => simp [rewritten, hchanged]
      | true =>
        obtain ⟨bytes, hread⟩ := read_of_assess engine hassess hsuccess
        have hwrite := Tree.writeInto_of_read hread (names_ne_nil_of_read hhere hread)
        simp [rewritten, hsuccess, hchanged, hwrite]

theorem settle_fst (hhere : files.get? env.here = some .directory) (check : Bool)
    (input : Files.Path) :
    (settle engine check env files input input).1 = assess engine env files input := by
  cases check with
  | true => rw [settle_check]
  | false => rw [settle_inPlace engine hhere]

theorem settle_rewrites (hwf : files.WellFormed) (hhere : files.get? env.here = some .directory)
    (check : Bool) (input : Files.Path) :
    Rewrites (· = input.resolve env.here) files (settle engine check env files input input).2 := by
  cases check with
  | true =>
    rw [settle_check]
    exact .refl hwf _
  | false =>
    rw [settle_inPlace engine hhere]
    cases hassess : assess engine env files input with
    | error abort => exact .refl hwf _
    | ok outcome =>
      dsimp only [rewritten]
      split
      · next hwritten =>
        rw [Bool.and_eq_true] at hwritten
        obtain ⟨bytes, hread⟩ := read_of_assess engine hassess hwritten.1
        exact Tree.rewrites_insert hwf (Tree.read_eq_ok_iff.mp hread).2 _
      · exact .refl hwf _

/-- What stands at the place of a file after its registration. -/
theorem get?_settle (hhere : files.get? env.here = some .directory) (input : Files.Path) :
    (settle engine false env files input input).2.get? (input.resolve env.here) =
      match assess engine env files input with
      | .ok outcome =>
        if outcome.success && outcome.changed then some (.file (Text.encodeUtf8 outcome.code))
        else files.get? (input.resolve env.here)
      | .error _ => files.get? (input.resolve env.here) := by
  rw [settle_inPlace engine hhere]
  cases hassess : assess engine env files input with
  | error abort => rfl
  | ok outcome =>
    dsimp only [rewritten]
    split
    · next hwritten =>
      rw [Bool.and_eq_true] at hwritten
      obtain ⟨bytes, hread⟩ := read_of_assess engine hassess hwritten.1
      have hfile := (Tree.read_eq_ok_iff.mp hread).2
      rw [files.get?_insert (files.ne_nil_of_get? (by simp [hfile])), if_pos rfl]
    · rfl

end File

/-! ### All files -/

section Batch

variable (engine : Engine) {env : Environment} {files : Files.Tree}

theorem settleAll_singleton (check : Bool) (files : Files.Tree) (job : Job) :
    settleAll engine check env files [job] =
      (settle engine check env files job.input job.output).map fun outcome =>
        [(job.name, outcome)] := by
  rw [settleAll]
  cases settle engine check env files job.input job.output with
  | mk result after => cases result <;> rfl

theorem settleAll_append (check : Bool) (files : Files.Tree) (before after : List Job) :
    settleAll engine check env files (before ++ after) =
      (settleAll engine check env files before).next fun results middle =>
        (settleAll engine check env middle after).map (results ++ ·) := by
  induction before generalizing files with
  | nil =>
    change settleAll engine check env files after =
      (settleAll engine check env files after).map ([] ++ ·)
    match settleAll engine check env files after with
    | (.ok _, _) | (.error _, _) => rfl
  | cons job before ih =>
    simp only [List.cons_append, settleAll, ih, Upshot.next_next, Upshot.map_next, Upshot.next_map,
      Upshot.map_map]
    rfl

/-- Once the turn of a file comes, the files are left as it and those after it leave them. -/
theorem settleAll_snd_of_turn {check : Bool} {before rest : List Job} {job : Job}
    {results : List (String × Outcome)} {middle : Files.Tree}
    (hbefore : settleAll engine check env files before = (.ok results, middle)) :
    (settleAll engine check env files (before ++ job :: rest)).2 =
      (settleAll engine check env middle (job :: rest)).2 := by
  rw [settleAll_append, hbefore]
  rfl

theorem settleAll_check (jobs : List Job) : (settleAll engine true env files jobs).2 = files := by
  induction jobs with
  | nil => rfl
  | cons job jobs ih =>
    rw [settleAll, settle_check]
    cases assess engine env files job.input with
    | error abort => rfl
    | ok outcome => exact ih

/-- All files are written to the paths they are read from. -/
def InPlace (jobs : List Job) : Prop := ∀ job ∈ jobs, job.output = job.input

def Job.place (env : Environment) (job : Job) : Location := job.input.resolve env.here

/-- In place nothing is written if no registration changes a text. -/
theorem settleAll_unchanged (check : Bool) {jobs : List Job} (hjobs : InPlace jobs)
    (h : ∀ job ∈ jobs, ∀ o, assess engine env files job.input = .ok o → o.success = true →
      o.changed = false) : (settleAll engine check env files jobs).2 = files := by
  induction jobs with
  | nil => rfl
  | cons job jobs ih =>
    obtain ⟨hjob, hrest⟩ := List.forall_mem_cons.mp hjobs
    obtain ⟨hfirst, hlater⟩ := List.forall_mem_cons.mp h
    have hsettle : settle engine check env files job.input job.input =
        (assess engine env files job.input, files) := by
      unfold settle
      cases hassess : assess engine env files job.input with
      | error abort => rfl
      | ok outcome =>
        cases hsuccess : outcome.success with
        | false => simp [hsuccess]
        | true => simp [hfirst outcome hassess hsuccess]
    rw [settleAll, hjob, hsettle]
    cases assess engine env files job.input with
    | error abort => rfl
    | ok outcome => exact ih hrest hlater

theorem settleAll_rewrites (hwf : files.WellFormed)
    (hhere : files.get? env.here = some .directory) (check : Bool) {jobs : List Job}
    (hjobs : InPlace jobs) :
    Rewrites (fun l => ∃ job ∈ jobs, l = job.place env) files
      (settleAll engine check env files jobs).2 := by
  induction jobs generalizing files with
  | nil => exact .refl hwf _
  | cons job jobs ih =>
    obtain ⟨hjob, hrest⟩ := List.forall_mem_cons.mp hjobs
    have hfirst : Rewrites (fun l => ∃ other ∈ job :: jobs, l = other.place env) files
        (settle engine check env files job.input job.output).2 := by
      rw [hjob]
      exact (settle_rewrites engine hwf hhere check job.input).mono fun l hl =>
        ⟨job, List.mem_cons_self .., hl⟩
    rw [settleAll]
    cases hsettle : settle engine check env files job.input job.output with
    | mk result after =>
      rw [hsettle] at hfirst
      cases result with
      | error abort => exact hfirst
      | ok outcome =>
        have hlater := ih hfirst.wellFormed (hfirst.directory hhere) hrest
        refine hfirst.trans (hlater.mono ?_)
        rintro l ⟨other, hother, hl⟩
        exact ⟨other, List.mem_cons_of_mem _ hother, hl⟩

/-- What all files are assessed to as they stand before the first one is written. -/
def assessAll (engine : Engine) (env : Environment) (files : Files.Tree) :
    List Job → Except Abort (List (String × Outcome))
  | [] => .ok []
  | job :: rest => do
    let outcome ← assess engine env files job.input
    return (job.name, outcome) :: (← assessAll engine env files rest)

theorem mem_assessAll {jobs : List Job} {results : List (String × Outcome)}
    (h : assessAll engine env files jobs = .ok results) :
    (∀ job ∈ jobs, ∃ o, assess engine env files job.input = .ok o ∧ (job.name, o) ∈ results) ∧
      ∀ r ∈ results, ∃ job ∈ jobs, assess engine env files job.input = .ok r.2 := by
  induction jobs generalizing results with
  | nil =>
    cases h
    simp
  | cons job jobs ih =>
    rw [assessAll] at h
    cases hjob : assess engine env files job.input with
    | error abort =>
      rw [hjob] at h
      cases h
    | ok outcome =>
      cases hrest : assessAll engine env files jobs with
      | error abort =>
        rw [hjob, hrest] at h
        cases h
      | ok others =>
        rw [hjob, hrest] at h
        cases h
        obtain ⟨hjobs, hresults⟩ := ih hrest
        constructor
        · refine List.forall_mem_cons.mpr
            ⟨⟨outcome, hjob, List.mem_cons_self ..⟩, fun other hother => ?_⟩
          obtain ⟨o, ho, hmem⟩ := hjobs other hother
          exact ⟨o, ho, List.mem_cons_of_mem _ hmem⟩
        · refine List.forall_mem_cons.mpr ⟨⟨job, List.mem_cons_self .., hjob⟩, fun r hr => ?_⟩
          obtain ⟨other, hother, ho⟩ := hresults r hr
          exact ⟨other, List.mem_cons_of_mem _ hother, ho⟩

theorem assessAll_congr {files' : Files.Tree} {jobs : List Job}
    (h : ∀ job ∈ jobs, assess engine env files' job.input = assess engine env files job.input) :
    assessAll engine env files' jobs = assessAll engine env files jobs := by
  induction jobs with
  | nil => rfl
  | cons job jobs ih =>
    obtain ⟨hjob, hrest⟩ := List.forall_mem_cons.mp h
    rw [assessAll, assessAll, hjob, ih hrest]

/-- No two files are at the same place. -/
def Apart (env : Environment) (jobs : List Job) : Prop :=
  jobs.Pairwise fun job other => job.place env ≠ other.place env

/-- The first of several files gave a result, and left the others to be worked on as if nothing had
been written. -/
structure Passed (check : Bool) (env : Environment) (files : Files.Tree) (job : Job)
    (jobs : List Job) (outcome : Outcome) (after : Files.Tree) : Prop where
  assessed : assess engine env files job.input = .ok outcome
  left : settle engine check env files job.input job.input = (.ok outcome, after)
  rest : settleAll engine check env files (job :: jobs) =
    (settleAll engine check env after jobs).map ((job.name, outcome) :: ·)
  rewrites : Rewrites (· = job.place env) files after
  here : after.get? env.here = some .directory
  same : ∀ other ∈ jobs, assess engine env after other.input = assess engine env files other.input

/-- The first of several files is worked on in place: it cuts off the command, or the others are
worked on. -/
theorem settleAll_cons (hwf : files.WellFormed) (hhere : files.get? env.here = some .directory)
    (check : Bool) {job : Job} {jobs : List Job} (hjob : job.output = job.input)
    (hapart : ∀ other ∈ jobs, job.place env ≠ other.place env) :
    (∃ abort, assess engine env files job.input = .error abort ∧
      settleAll engine check env files (job :: jobs) = (.error abort, files)) ∨
    ∃ outcome after, Passed engine check env files job jobs outcome after := by
  have hrewrites := settle_rewrites engine hwf hhere check job.input
  have hfirst : ∃ after, settle engine check env files job.input job.input =
      (assess engine env files job.input, after) ∧
        ∀ abort, assess engine env files job.input = .error abort → after = files := by
    cases check with
    | true => exact ⟨files, settle_check engine job.input job.input, fun _ _ => rfl⟩
    | false =>
      refine ⟨_, settle_inPlace engine hhere job.input, fun abort habort => ?_⟩
      rw [habort]
      rfl
  obtain ⟨after, hsettle, hkept⟩ := hfirst
  rw [hsettle] at hrewrites
  cases hassess : assess engine env files job.input with
  | error abort =>
    refine .inl ⟨abort, rfl, ?_⟩
    rw [settleAll, hjob, hsettle, hassess, hkept abort hassess]
    rfl
  | ok outcome =>
    rw [hassess] at hsettle
    refine .inr ⟨outcome, after, hassess, hsettle, ?_, hrewrites, hrewrites.directory hhere, ?_⟩
    · rw [settleAll, hjob, hsettle]
      rfl
    · intro other hother
      exact assess_congr engine hrewrites.outline
        (hrewrites.frame _ (Ne.symm (hapart other hother)))

/-- In place, all files get the results that they would get before the first one is written. -/
theorem settleAll_fst (hwf : files.WellFormed) (hhere : files.get? env.here = some .directory)
    (check : Bool) {jobs : List Job} (hjobs : InPlace jobs) (hapart : Apart env jobs) :
    (settleAll engine check env files jobs).1 = assessAll engine env files jobs := by
  induction jobs generalizing files with
  | nil => rfl
  | cons job jobs ih =>
    obtain ⟨hjob, hrest⟩ := List.forall_mem_cons.mp hjobs
    obtain ⟨hfirst, hlater⟩ := List.pairwise_cons.mp hapart
    rw [assessAll]
    obtain ⟨abort, hassess, hall⟩ | ⟨outcome, after, hpassed⟩ :=
      settleAll_cons engine hwf hhere check hjob hfirst
    · rw [hall, hassess]
      rfl
    · rw [hpassed.rest, hpassed.assessed, ← assessAll_congr engine hpassed.same,
        ← ih hpassed.rewrites.wellFormed hpassed.here hrest hlater]
      cases hmore : (settleAll engine check env after jobs).1 with
      | error abort => simp [Upshot.map, hmore, Except.map, bind, Except.bind]
      | ok results => simp [Upshot.map, hmore, Except.map, bind, Except.bind, pure, Except.pure]

/-- The files that are worked on before the command is cut off. -/
def reached (engine : Engine) (env : Environment) (files : Files.Tree) (jobs : List Job) :
    List Job :=
  jobs.takeWhile fun job => (assess engine env files job.input).isOk

theorem reached_congr {files' : Files.Tree} {jobs : List Job}
    (h : ∀ job ∈ jobs, assess engine env files' job.input = assess engine env files job.input) :
    reached engine env files' jobs = reached engine env files jobs := by
  unfold reached
  induction jobs with
  | nil => rfl
  | cons job jobs ih =>
    obtain ⟨hjob, hrest⟩ := List.forall_mem_cons.mp h
    rw [List.takeWhile_cons, List.takeWhile_cons, hjob, ih hrest]

theorem Passed.reached_eq {check : Bool} {job : Job} {jobs : List Job} {outcome : Outcome}
    {after : Files.Tree} (h : Passed engine check env files job jobs outcome after) :
    reached engine env files (job :: jobs) = job :: reached engine env after jobs := by
  rw [reached_congr engine h.same, reached, List.takeWhile_cons, h.assessed]
  rfl

/-- Nothing is changed but the files that are reached. -/
theorem get?_settleAll_frame (hwf : files.WellFormed)
    (hhere : files.get? env.here = some .directory) (check : Bool) {jobs : List Job}
    (hjobs : InPlace jobs) (hapart : Apart env jobs) {l : Location}
    (hl : ∀ job ∈ reached engine env files jobs, l ≠ job.place env) :
    (settleAll engine check env files jobs).2.get? l = files.get? l := by
  induction jobs generalizing files with
  | nil => rfl
  | cons job jobs ih =>
    obtain ⟨hjob, hrest⟩ := List.forall_mem_cons.mp hjobs
    obtain ⟨hfirst, hlater⟩ := List.pairwise_cons.mp hapart
    obtain ⟨abort, -, hall⟩ | ⟨outcome, after, hpassed⟩ :=
      settleAll_cons engine hwf hhere check hjob hfirst
    · rw [hall]
    · rw [hpassed.reached_eq, List.forall_mem_cons] at hl
      rw [hpassed.rest]
      exact (ih hpassed.rewrites.wellFormed hpassed.here hrest hlater hl.2).trans
        (hpassed.rewrites.frame l hl.1)

/-- A file that is reached ends as its own registration leaves it. -/
theorem get?_settleAll_of_reached (hwf : files.WellFormed)
    (hhere : files.get? env.here = some .directory) {jobs : List Job} (hjobs : InPlace jobs)
    (hapart : Apart env jobs) {job : Job} (hjob : job ∈ reached engine env files jobs) :
    (settleAll engine false env files jobs).2.get? (job.place env) =
      (settle engine false env files job.input job.input).2.get? (job.place env) := by
  induction jobs generalizing files with
  | nil => cases hjob
  | cons first jobs ih =>
    obtain ⟨hsame, hrest⟩ := List.forall_mem_cons.mp hjobs
    obtain ⟨hfirst, hlater⟩ := List.pairwise_cons.mp hapart
    obtain ⟨abort, hassess, -⟩ | ⟨outcome, after, hpassed⟩ :=
      settleAll_cons engine hwf hhere false hsame hfirst
    · simp [reached, hassess, Except.isOk, Except.toBool] at hjob
    · rw [hpassed.reached_eq] at hjob
      rw [hpassed.rest]
      rcases List.mem_cons.mp hjob with rfl | hjob
      · -- no later file is at the place of the first one
        rw [hpassed.left]
        refine get?_settleAll_frame engine hpassed.rewrites.wellFormed hpassed.here false hrest
          hlater fun other hother => hfirst other ?_
        exact (List.takeWhile_sublist _).mem hother
      · have hmem : job ∈ jobs := (List.takeWhile_sublist _).mem hjob
        have hkept : after.get? (job.place env) = files.get? (job.place env) :=
          hpassed.rewrites.frame _ (Ne.symm (hfirst job hmem))
        refine (ih hpassed.rewrites.wellFormed hpassed.here hrest hlater hjob).trans ?_
        rw [Job.place, get?_settle engine hpassed.here, get?_settle engine hhere,
          hpassed.same job hmem]
        rw [Job.place] at hkept
        rw [hkept]

end Batch

end Command

end LocaleRegistrar
