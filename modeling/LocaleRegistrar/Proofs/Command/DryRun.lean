import LocaleRegistrar.Proofs.Command.Sources
import LocaleRegistrar.Proofs.Growth

/-! A check as a dry run. It writes nothing, and in place it goes through the same files with the
same results as the run that it stands for. Main statement: it ends with 0 exactly if that run ends
with 0 and leaves all files as they are. -/

namespace LocaleRegistrar.Command

open LocaleRegistrar.Files
open LocaleRegistrar.Registration

section Files

variable {engine : Engine} {env : Environment} {files : Files.Tree}

/-- A text that is changed is not the one in the file. -/
theorem get?_ne_of_changed {input : Files.Path} {o : Outcome}
    (h : assess engine env files input = .ok o) (hchanged : o.changed = true) :
    files.get? (input.resolve env.here) ≠ some (.file (Text.encodeUtf8 o.code)) := by
  intro hfile
  obtain ⟨e, rfl⟩ | ⟨bytes, text, hread, hdecode, hrun⟩ := assess_cases h
  · cases hchanged
  · have hbytes := (Tree.read_eq_ok_iff.mp hread).2
    rw [hfile] at hbytes
    obtain rfl : Text.encodeUtf8 o.code = bytes := by simpa using hbytes
    rw [Text.decodeUtf8_encodeUtf8] at hdecode
    exact code_ne_of_changed hrun hchanged (Except.ok.inj hdecode)

/-- A file that is reached is altered exactly if its registration succeeded and changed its text,
and then it holds that text. -/
theorem altered_iff (hwf : files.WellFormed) (hhere : files.get? env.here = some .directory)
    {jobs : List Job} (hjobs : InPlace jobs) (hapart : Apart env jobs) {job : Job}
    (hjob : job ∈ reached engine env files jobs) {o : Outcome}
    (h : assess engine env files job.input = .ok o) :
    let after := (settleAll engine false env files jobs).2
    (after.get? (job.place env) ≠ files.get? (job.place env) ↔
      o.success = true ∧ o.changed = true) ∧
    (o.success = true → o.changed = true →
      after.get? (job.place env) = some (.file (Text.encodeUtf8 o.code))) := by
  intro after
  have hend : after.get? (job.place env) = if o.success && o.changed then
      some (.file (Text.encodeUtf8 o.code)) else files.get? (job.place env) := by
    have hlast := get?_settle engine hhere job.input
    rw [h] at hlast
    exact (get?_settleAll_of_reached engine hwf hhere hjobs hapart hjob).trans hlast
  by_cases hwritten : (o.success && o.changed) = true
  · rw [if_pos hwritten] at hend
    rw [Bool.and_eq_true] at hwritten
    refine ⟨iff_of_true ?_ hwritten, fun _ _ => hend⟩
    rw [hend]
    exact Ne.symm (get?_ne_of_changed h hwritten.2)
  · rw [if_neg hwritten] at hend
    rw [Bool.and_eq_true] at hwritten
    exact ⟨iff_of_false (not_not_intro hend) hwritten, fun hs hc => absurd ⟨hs, hc⟩ hwritten⟩

theorem reached_append {before : List Job} {results : List (String × Outcome)}
    (h : assessAll engine env files before = .ok results) (rest : List Job) :
    reached engine env files (before ++ rest) = before ++ reached engine env files rest := by
  refine List.takeWhile_append_of_pos fun job hjob => ?_
  obtain ⟨o, ho, -⟩ := (mem_assessAll engine h).1 job hjob
  rw [ho]
  rfl

/-- When the turn of a file comes, the files before it have left it as it was. -/
theorem read_of_before (hwf : files.WellFormed) (hhere : files.get? env.here = some .directory)
    {before rest : List Job} {job : Job} (hjobs : InPlace (before ++ job :: rest))
    (hapart : Apart env (before ++ job :: rest)) {results : List (String × Outcome)}
    {middle : Files.Tree} (h : settleAll engine false env files before = (.ok results, middle)) :
    middle.get? env.here = some .directory ∧
      middle.read env.here job.input = files.read env.here job.input ∧
      assess engine env middle job.input = assess engine env files job.input := by
  have hfirst : InPlace before := fun other hother => hjobs other (List.mem_append_left _ hother)
  have hrewrites := settleAll_rewrites engine hwf hhere false hfirst
  rw [h] at hrewrites
  have hkept : middle.get? (job.input.resolve env.here) =
      files.get? (job.input.resolve env.here) := by
    refine hrewrites.frame _ ?_
    rintro ⟨other, hother, hplace⟩
    exact (List.pairwise_append.mp hapart).2.2 other hother job (List.mem_cons_self ..) hplace.symm
  exact ⟨hrewrites.directory hhere, Tree.read_congr hrewrites.outline hkept,
    assess_congr engine hrewrites.outline hkept⟩

end Files

section Check

variable {options : RegisterOptions} {env : Environment} {files : Files.Tree}

theorem register_check_snd (options : RegisterOptions) (env : Environment) (files : Files.Tree) :
    ((register { options with check := true }).upshot env files).2 = files := by
  obtain ⟨engine, jobs, hworks⟩ | ⟨x, -, hends⟩ := works_or_idle options env files
  · rw [(register_ends (works_check hworks true)).upshot_eq]
    exact settleAll_check engine jobs
  · rw [(hends true).upshot_eq]

theorem register_fst {engine : Engine} {jobs : List Job} (hwf : files.WellFormed)
    (hhere : files.get? env.here = some .directory) (hout : options.output = none)
    (hworks : Works options env files engine jobs) (check : Bool) :
    ((register { options with check }).upshot env files).1 =
      (assessAll engine env files jobs).map (exitCode check) := by
  rw [(register_ends (works_check hworks check)).upshot_eq,
    ← settleAll_fst engine hwf hhere check (hworks.inPlace hout) (hworks.apart hwf)]
  rfl

/-- In place, a check ends with 0 exactly if the run that it stands for does and leaves all files as
they are. -/
theorem check_eq_zero_iff {engine : Engine} {jobs : List Job} (hwf : files.WellFormed)
    (hhere : files.get? env.here = some .directory) (hout : options.output = none)
    (hworks : Works options env files engine jobs) :
    ((register { options with check := true }).upshot env files).1 = .ok 0 ↔
      ((register { options with check := false }).upshot env files).1 = .ok 0 ∧
        ((register { options with check := false }).upshot env files).2 = files := by
  have hplaces := hworks.inPlace hout
  have hsnd : ((register { options with check := false }).upshot env files).2 =
      (settleAll engine false env files jobs).2 :=
    congrArg Prod.snd (register_ends (works_check hworks false)).upshot_eq
  rw [register_fst hwf hhere hout hworks, register_fst hwf hhere hout hworks, hsnd]
  cases hall : assessAll engine env files jobs with
  | error abort => simp [Except.map]
  | ok results =>
    obtain ⟨hjobs, hresults⟩ := mem_assessAll engine hall
    change (.ok _ : Except Abort Nat) = .ok 0 ↔ (.ok _ : Except Abort Nat) = .ok 0 ∧ _
    rw [Except.ok.injEq, Except.ok.injEq, exitCode_eq_zero_iff, exitCode_eq_zero_iff]
    constructor
    · intro hclean
      refine ⟨fun r hr => ⟨(hclean r hr).1, by simp⟩, ?_⟩
      refine settleAll_unchanged engine false hplaces fun job hjob o ho _ => ?_
      obtain ⟨o', ho', hmem⟩ := hjobs job hjob
      obtain rfl : o = o' := Except.ok.inj (ho.symm.trans ho')
      exact (hclean _ hmem).2 rfl
    · rintro ⟨hsuccess, hsame⟩ r hr
      refine ⟨(hsuccess r hr).1, fun _ => ?_⟩
      obtain ⟨job, hjob, ho⟩ := hresults r hr
      have hreached := reached_append hall []
      rw [List.append_nil] at hreached
      have hjob' : job ∈ reached engine env files jobs := by
        rw [hreached]
        exact List.mem_append_left _ hjob
      obtain ⟨haltered, -⟩ := altered_iff hwf hhere hplaces (hworks.apart hwf) hjob' ho
      rw [hsame] at haltered
      simpa [(hsuccess r hr).1] using haltered

/-- A check changes nothing. In place, the run that it stands for reads every file as the check does
and gets the same result for it, and it alters the file exactly if the result is a success that
changed the text, so that the check ends with 0 exactly if the run does and leaves all files as they
are. -/
theorem register_check_foretells (options : RegisterOptions) (env : Environment)
    (files : Files.Tree) :
    let dry := (register { options with check := true }).upshot env files
    let real := (register { options with check := false }).upshot env files
    dry.2 = files ∧
    (files.WellFormed → files.get? env.here = some .directory → options.output = none →
      (dry.1 = .ok 0 ↔ real.1 = .ok 0 ∧ real.2 = files) ∧
      (∀ abort, dry.1 = .error abort ↔ real.1 = .error abort) ∧
      ∀ engine jobs, Works options env files engine jobs →
        (∀ l, (∀ job ∈ jobs, l ≠ job.place env) → real.2.get? l = files.get? l) ∧
        ∀ before job rest, jobs = before ++ job :: rest → ∀ results middle,
          (registerJobs engine false before).upshot env files = (.ok results, middle) →
          let result := ((registerFile engine false job.input job.output).upshot env middle).1
          (registerJobs engine true before).upshot env files = (.ok results, files) ∧
          middle.read env.here job.input = files.read env.here job.input ∧
          ((registerFile engine true job.input job.output).upshot env files).1 = result ∧
          (∀ o, result = .ok o →
            (real.2.get? (job.place env) ≠ files.get? (job.place env) ↔
              o.success = true ∧ o.changed = true) ∧
            (o.success = true → o.changed = true →
              real.2.get? (job.place env) = some (.file (Text.encodeUtf8 o.code)))) ∧
          ∀ abort, result = .error abort → ∀ other ∈ job :: rest,
            real.2.get? (other.place env) = files.get? (other.place env)) := by
  intro dry real
  refine ⟨register_check_snd options env files, fun hwf hhere hout => ⟨?_, ?_, ?_⟩⟩
  · obtain ⟨engine, jobs, hworks⟩ | ⟨x, hx, hends⟩ := works_or_idle options env files
    · exact check_eq_zero_iff hwf hhere hout hworks
    · rw [show dry = _ from (hends true).upshot_eq, show real = _ from (hends false).upshot_eq]
      exact ⟨fun hzero => absurd (hx 0 hzero) (by decide),
        fun hzero => absurd (hx 0 hzero.1) (by decide)⟩
  · intro abort
    obtain ⟨engine, jobs, hworks⟩ | ⟨x, -, hends⟩ := works_or_idle options env files
    · rw [show dry.1 = _ from register_fst hwf hhere hout hworks true,
        show real.1 = _ from register_fst hwf hhere hout hworks false]
      cases assessAll engine env files jobs <;> simp [Except.map]
    · rw [show dry = _ from (hends true).upshot_eq, show real = _ from (hends false).upshot_eq]
  · intro engine jobs hworks
    have hplaces := hworks.inPlace hout
    have hapart := hworks.apart hwf
    have hreal : real.2 = (settleAll engine false env files jobs).2 := by
      rw [show real = _ from (register_ends (works_check hworks false)).upshot_eq]
      rfl
    rw [hreal]
    refine ⟨fun l hl => ?_, fun before job rest hsplit results middle hbefore => ?_⟩
    · exact get?_settleAll_frame engine hwf hhere false hplaces hapart fun job hjob =>
        hl job ((List.takeWhile_sublist _).mem hjob)
    · intro result
      subst hsplit
      rw [(registerJobs_ends engine false before).upshot_eq] at hbefore
      have hfirst : InPlace before := fun other hother =>
        hplaces other (List.mem_append_left _ hother)
      have hbeforeApart := (List.pairwise_append.mp hapart).1
      obtain ⟨hdir, hread, hassess⟩ := read_of_before hwf hhere hplaces hapart hbefore
      have hall : assessAll engine env files before = .ok results := by
        rw [← settleAll_fst engine hwf hhere false hfirst hbeforeApart, hbefore]
      have hsame : job.output = job.input := hplaces job (by simp)
      have hresult : result = assess engine env files job.input := by
        rw [← hassess, ← settle_fst engine hdir false]
        exact (congrArg Prod.fst (registerFile_ends engine false _ _).upshot_eq).trans
          (by rw [hsame])
      refine ⟨?_, hread, ?_, fun o ho => ?_, fun abort habort other hother => ?_⟩
      · rw [(registerJobs_ends engine true before).upshot_eq]
        refine Prod.ext ?_ (settleAll_check engine before)
        rw [settleAll_fst engine hwf hhere true hfirst hbeforeApart, hall]
      · rw [(registerFile_ends engine true _ _).upshot_eq, settle_check, hresult]
      · rw [hresult] at ho
        refine altered_iff hwf hhere hplaces hapart ?_ ho
        rw [reached_append hall, reached, List.takeWhile_cons, ho]
        simp [Except.isOk, Except.toBool]
      · -- the command is cut off here, and no file before this one is at the same place
        rw [hresult] at habort
        refine get?_settleAll_frame engine hwf hhere false hplaces hapart fun earlier hearlier => ?_
        rw [reached_append hall, reached, List.takeWhile_cons, habort] at hearlier
        have hmem : earlier ∈ before := by simpa [Except.isOk, Except.toBool] using hearlier
        exact Ne.symm ((List.pairwise_append.mp hapart).2.2 earlier hmem other hother)

end Check

/-- A check of two files, of which the run rewrites the second. -/
theorem register_check_foretells_rewrite :
    let files := Sample.tree ["b.py"] (Text.encodeUtf8 "x = 1\n")
      (Text.encodeUtf8 "f().bootstrapModule(App)\n")
    let options := Sample.options "de" none
    let dry := (register { options with check := true }).upshot Sample.environment files
    let real := (register { options with check := false }).upshot Sample.environment files
    dry.2 = files ∧ dry.1 ≠ .ok 0 ∧
      real.2.get? ["d", "a.py"] = files.get? ["d", "a.py"] ∧
      real.2.get? ["d", "b.py"] ≠ files.get? ["d", "b.py"] := by
  intro files options dry real
  let engine := Sample.engine "de"
  have hnames : ["b.py"] = ["b.py"] ∨ ["b.py"] = ["build", "a.py"] := .inl rfl
  have hworks : Works options Sample.environment files engine
      [options.job ⟨.here, ["a.py"]⟩, options.job ⟨.here, ["b.py"]⟩] :=
    Sample.works hnames _ _ (.inl rfl) none
  have hwf : files.WellFormed := Sample.wellFormed hnames _ _
  have hhere : files.get? Sample.environment.here = some .directory := rfl
  have hout : options.output = none := rfl
  have hfirst : assess engine Sample.environment files ⟨.here, ["d", "a.py"]⟩ =
      .ok { code := "x = 1\n" } := Sample.assess_first hnames _ _ rfl (by decide +kernel)
  obtain ⟨o, hrun, hsuccess, hchanged⟩ := Sample.exists_registered
  have hsecond : assess engine Sample.environment files ⟨.here, ["d", "b.py"]⟩ = .ok o :=
    Sample.assess_second hnames _ _ rfl hrun
  have hsettle := settle_inPlace engine hhere ⟨.here, ["d", "a.py"]⟩
  rw [hfirst] at hsettle
  have hbefore : (registerJobs engine false [options.job ⟨.here, ["a.py"]⟩]).upshot
      Sample.environment files = (.ok [("a.py", { code := "x = 1\n" })], files) := by
    rw [(registerJobs_ends engine false _).upshot_eq, settleAll_singleton]
    exact congrArg (Upshot.map _) hsettle
  have hnone : (registerJobs engine false []).upshot Sample.environment files = (.ok [], files) :=
    rfl
  have hresult (input : Files.Path) :
      ((registerFile engine false input input).upshot Sample.environment files).1 =
        assess engine Sample.environment files input := by
    rw [(registerFile_ends engine false _ _).upshot_eq, settle_fst engine hhere]
  obtain ⟨hsame, hrest⟩ := register_check_foretells options Sample.environment files
  obtain ⟨hzero, -, hfiles⟩ := hrest hwf hhere hout
  obtain ⟨-, hturn⟩ := hfiles engine _ hworks
  obtain ⟨-, -, -, hkept, -⟩ := hturn [] _ _ rfl _ _ hnone
  obtain ⟨-, -, -, haltered, -⟩ := hturn [_] _ _ rfl _ _ hbefore
  have hkept := (hkept _ ((hresult _).trans hfirst)).1
  have haltered := (haltered o ((hresult _).trans hsecond)).1.mpr ⟨hsuccess, hchanged⟩
  refine ⟨hsame, fun hdry => ?_, Classical.not_not.mp fun hne => ?_, haltered⟩
  · have hfiles := (hzero.mp hdry).2
    exact haltered (by rw [hfiles])
  · have hchanged := (hkept.mp hne).2
    cases hchanged

end LocaleRegistrar.Command
