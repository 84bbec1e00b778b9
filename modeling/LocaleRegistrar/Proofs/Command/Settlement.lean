import LocaleRegistrar.Proofs.Command.Messages
import LocaleRegistrar.Proofs.Command.Upshot

/-! What the registration of files comes to, one file after the other: `assess` says what a file's
registration computes from the files as they stand, and `settle` what is then written. Main
statement: the command goes through its files in this way, and its exit code is that of their
outcomes. -/

namespace LocaleRegistrar.Command

open LocaleRegistrar.Console
open LocaleRegistrar.Files
open LocaleRegistrar.Registration

/-- The notes about the text of a file. -/
def textNotes (engine : Engine) (env : Environment) (files : Files.Tree) (code : String) :
    List Note :=
  let s : Locale.Surroundings := ⟨files, env.here, env.searchPath⟩
  engine.request.runNotes (engine.source.listNotes s) (engine.source.list s) code

/-- What the registration gives for the text of a file. -/
def engineResult (engine : Engine) (env : Environment) (files : Files.Tree) (code : String) :
    Except Abort Outcome :=
  (reporting env (textNotes engine env files code)).bind fun _ =>
    (engine.request.run (engine.source.list ⟨files, env.here, env.searchPath⟩) code).mapError .fault

section EngineResult

variable {engine : Engine} {env : Environment} {files : Files.Tree} {code : String}

theorem engineResult_eq_ok_iff {o : Outcome} :
    engineResult engine env files code = .ok o ↔
      (env.verbose = true → firstFault (textNotes engine env files code) = none) ∧
        engine.request.run (engine.source.list ⟨files, env.here, env.searchPath⟩) code = .ok o := by
  rw [← reporting_eq_ok_iff, engineResult]
  cases reporting env (textNotes engine env files code) with
  | error abort => simp [Except.bind]
  | ok _ =>
    cases engine.request.run (engine.source.list ⟨files, env.here, env.searchPath⟩) code with
    | error f =>
      change Except.error (Abort.fault f) = .ok o ↔ _
      simp
    | ok a =>
      change Except.ok a = .ok o ↔ _
      simp

/-- What is said and computed about a text depends on the files through the available locales. -/
theorem engineResult_congr {files' : Files.Tree}
    (hlist : engine.source.list ⟨files', env.here, env.searchPath⟩ =
      engine.source.list ⟨files, env.here, env.searchPath⟩)
    (hnotes : engine.source.listNotes ⟨files', env.here, env.searchPath⟩ =
      engine.source.listNotes ⟨files, env.here, env.searchPath⟩) :
    engineResult engine env files' code = engineResult engine env files code := by
  unfold engineResult textNotes
  dsimp only
  rw [hlist, hnotes]

end EngineResult

/-- What the registration of a file computes before anything is written. -/
def assess (engine : Engine) (env : Environment) (files : Files.Tree) (input : Files.Path) :
    Except Abort Outcome :=
  match files.read env.here input with
  | .error e => .ok (.failed "" e.message)
  | .ok bytes =>
    match Text.decodeUtf8 bytes with
    | .error _ => .error .undecodable
    | .ok text => engineResult engine env files (Text.unifyLineEnds text)

theorem assess_of_run {engine : Engine} {env : Environment} {files : Files.Tree}
    {input : Files.Path} {bytes : List UInt8} {text : String} {available : List String}
    {o : Outcome} (hread : files.read env.here input = .ok bytes)
    (hdecode : Text.decodeUtf8 bytes = .ok text) (hquiet : env.verbose = false)
    (hlist : engine.source.list ⟨files, env.here, env.searchPath⟩ = available)
    (hrun : engine.request.run available (Text.unifyLineEnds text) = .ok o) :
    assess engine env files input = .ok o := by
  have hresult : engineResult engine env files (Text.unifyLineEnds text) = .ok o :=
    engineResult_eq_ok_iff.mpr ⟨by simp [hquiet], hlist ▸ hrun⟩
  simp [assess, hread, hdecode, hresult]

/-- A result says why the file cannot be read, or is that of the text in the file. -/
theorem assess_cases {engine : Engine} {env : Environment} {files : Files.Tree}
    {input : Files.Path} {o : Outcome} (h : assess engine env files input = .ok o) :
    (∃ e : FileError, o = .failed "" e.message) ∨
    ∃ bytes text, files.read env.here input = .ok bytes ∧ Text.decodeUtf8 bytes = .ok text ∧
      engine.request.run (engine.source.list ⟨files, env.here, env.searchPath⟩)
        (Text.unifyLineEnds text) = .ok o := by
  unfold assess at h
  split at h
  · next e _ =>
    cases h
    exact .inl ⟨e, rfl⟩
  · next bytes hread =>
    split at h
    · cases h
    · next text hdecode =>
      refine .inr ⟨bytes, text, hread, hdecode, ?_⟩
      exact (engineResult_eq_ok_iff.mp h).2

/-- What the registration of a file comes to. -/
def settle (engine : Engine) (check : Bool) (env : Environment) (files : Files.Tree)
    (input output : Files.Path) : Upshot Outcome :=
  match assess engine env files input with
  | .error abort => (.error abort, files)
  | .ok outcome =>
    if !outcome.success || check || (!outcome.changed && output = input) then (.ok outcome, files)
    else
      match files.writeInto env.here output (Text.encodeUtf8 outcome.code) with
      | (files, none) => (.ok outcome, files)
      | (files, some e) => (.ok (.failed outcome.code e.message), files)

section Files

variable {env : Environment} {files : Files.Tree}

theorem surroundings_ends :
    surroundings.Ends env files (.ok ⟨files, env.here, env.searchPath⟩, files) :=
  Run.ends_read (Run.ends_get fun _ => Run.ends_pure _)

theorem reportPending_ends (input : Files.Path) (outcome : Outcome) :
    (reportPending input outcome).Ends env files (.ok (), files) := by
  have hlines : (outcome.inserted.forM fun line => print ("   + " ++ escape line)).Ends env files
      (.ok (), files) := by
    induction outcome.inserted with
    | nil => exact Run.ends_pure ()
    | cons line lines ih =>
      exact (ends_print (marked_append (by decide) (marked_escape line))).bind_ok ih
  unfold reportPending
  split
  · exact (ends_log .warning (marked_append (by decide) (marked_pathMarkup input))).bind_ok hlines
  · exact Run.ends_pure ()

theorem writeOutcome_ends (engine : Engine) (input output : Files.Path) (outcome : Outcome) :
    (writeOutcome engine input output outcome).Ends env files
      (if !outcome.changed && output = input then (.ok outcome, files)
      else
        match files.writeInto env.here output (Text.encodeUtf8 outcome.code) with
        | (after, none) => (.ok outcome, after)
        | (after, some e) => (.ok (.failed outcome.code e.message), after)) := by
  unfold writeOutcome
  split
  · exact Run.ends_pure outcome
  · refine Run.ends_get fun printed => Run.ends_read ?_
    dsimp only
    match files.writeInto env.here output (Text.encodeUtf8 outcome.code) with
    | (after, none) =>
      refine (Run.ends_modify after).bind_ok ?_
      cases outcome.changed
      · exact Run.ends_pure outcome
      · exact (ends_log .success (marked_registered _ _ _)).bind_ok (Run.ends_pure outcome)
    | (after, some e) =>
      refine (Run.ends_modify after).bind_ok ?_
      exact (ends_log .error (marked_fileMessage (by decide) output e)).bind_ok
        (Run.ends_pure _)

theorem runEngine_ends (engine : Engine) (code : String) :
    (runEngine engine code).Ends env files (engineResult engine env files code, files) := by
  have hnotes := @ends_report env files (textNotes engine env files code)
  refine surroundings_ends.bind_ok ?_
  unfold engineResult
  cases hreported : reporting env (textNotes engine env files code) with
  | error abort =>
    rw [hreported] at hnotes
    exact hnotes.bind_error _
  | ok _ =>
    rw [hreported] at hnotes
    refine hnotes.bind_ok ?_
    cases engine.request.run (engine.source.list ⟨files, env.here, env.searchPath⟩) code with
    | ok outcome => exact Run.ends_pure outcome
    | error fault => exact Run.ends_throw _

/-- The registration of a file comes to what is said of it. -/
theorem registerFile_ends (engine : Engine) (check : Bool) (input output : Files.Path) :
    (registerFile engine check input output).Ends env files
      (settle engine check env files input output) := by
  unfold registerFile settle assess
  refine Run.ends_get fun printed => Run.ends_read ?_
  dsimp only
  cases files.read env.here input with
  | error e =>
    exact (ends_log .error (marked_fileMessage (by decide) input e)).bind_ok (Run.ends_pure _)
  | ok bytes =>
    dsimp only
    cases Text.decodeUtf8 bytes with
    | error e => exact Run.ends_throw .undecodable
    | ok text =>
      dsimp only
      have hrun : (runEngine engine (Text.unifyLineEnds text)).Ends env files
          (engineResult engine env files (Text.unifyLineEnds text), files) := runEngine_ends _ _
      cases hresult : engineResult engine env files (Text.unifyLineEnds text) with
      | error abort =>
        rw [hresult] at hrun
        exact hrun.bind_error _
      | ok outcome =>
        rw [hresult] at hrun
        refine hrun.bind_ok ?_
        dsimp only
        cases outcome.success with
        | false => exact Run.ends_pure outcome
        | true =>
          cases check with
          | true => exact (reportPending_ends input outcome).bind_ok (Run.ends_pure outcome)
          | false => exact writeOutcome_ends engine input output outcome

/-! ### One file after the other -/

/-- A file to register the locale in: its name in the report, where it is read and where it is
written. -/
structure Job where
  name : String
  input : Files.Path
  output : Files.Path

/-- The file that the command is asked for. -/
def RegisterOptions.single (options : RegisterOptions) : Job :=
  ⟨options.input.name, options.input, options.output.getD options.input⟩

/-- A file below the directory that the command is asked for. -/
def RegisterOptions.job (options : RegisterOptions) (path : Files.Path) : Job where
  name := path.text
  input := options.input.join path
  output :=
    match options.output with
    | some dir => dir.join path
    | none => options.input.join path

/-- Registers the locale in files, one after the other. -/
def registerJobs (engine : Engine) (check : Bool) : List Job → Run (List (String × Outcome))
  | [] => return []
  | job :: rest => do
    let outcome ← registerFile engine check job.input job.output
    return (job.name, outcome) :: (← registerJobs engine check rest)

theorem registerAll_eq_registerJobs (engine : Engine) (options : RegisterOptions)
    (paths : List Files.Path) :
    registerAll engine options paths =
      registerJobs engine options.check (paths.map options.job) := by
  induction paths with
  | nil => rfl
  | cons path paths ih =>
    rw [registerAll, List.map_cons, registerJobs, ih]
    rfl

/-- What the registration of files comes to. -/
def settleAll (engine : Engine) (check : Bool) (env : Environment) :
    Files.Tree → List Job → Upshot (List (String × Outcome))
  | files, [] => (.ok [], files)
  | files, job :: rest =>
    (settle engine check env files job.input job.output).next fun outcome files =>
      (settleAll engine check env files rest).map ((job.name, outcome) :: ·)

theorem registerJobs_ends (engine : Engine) (check : Bool) (jobs : List Job) :
    (registerJobs engine check jobs).Ends env files (settleAll engine check env files jobs) := by
  induction jobs generalizing files with
  | nil => exact Run.ends_pure []
  | cons job jobs ih =>
    exact (registerFile_ends engine check job.input job.output).bind fun outcome after _ =>
      ih.bind_map fun results last => Run.ends_pure _

/-! ### The command -/

/-- The exit code is 0 if all files succeeded and, with a check, none would change. -/
theorem exitCode_eq_zero_iff {check : Bool} {results : List (String × Outcome)} :
    exitCode check results = 0 ↔
      ∀ r ∈ results, r.2.success = true ∧ (check = true → r.2.changed = false) := by
  unfold exitCode
  split
  · next hfail =>
    obtain ⟨r, hr, hbad⟩ := List.any_eq_true.mp hfail
    refine iff_of_false (by omega) fun hall => ?_
    simp [(hall r hr).1] at hbad
  · next hfail =>
    have hsuccess : ∀ r ∈ results, r.2.success = true := by simpa using hfail
    split
    · next hchange =>
      rw [Bool.and_eq_true] at hchange
      obtain ⟨r, hr, hbad⟩ := List.any_eq_true.mp hchange.2
      refine iff_of_false (by omega) fun hall => ?_
      simp [(hall r hr).2 hchange.1] at hbad
    · next hchange =>
      refine iff_of_true rfl fun r hr => ⟨hsuccess r hr, fun hcheck => ?_⟩
      have hnone : ∀ r ∈ results, r.2.changed = false := by simpa [hcheck] using hchange
      exact hnone r hr

theorem summarize_ends (check : Bool) (results : List (String × Outcome)) :
    (summarize check results).Ends env files (.ok (), files) := by
  unfold summarize
  dsimp only
  split
  · exact ends_log .success (marked_batchComplete _ _ check)
  · exact (ends_emit (tabled_of_marked (marked_plain (by decide)) (marked_report _))).bind_ok
      (ends_print (marked_summary _ _ check))

/-- What is done with the results of all files. -/
theorem conclude_ends (check : Bool) (results : List (String × Outcome)) :
    Run.Ends (do summarize check results; return exitCode check results) env files
      (.ok (exitCode check results), files) :=
  (summarize_ends check results).bind_ok (Run.ends_pure _)

/-- Loading the configuration leaves the files as they are. -/
theorem loadConfig_ends (env : Environment) (files : Files.Tree) (args : Configuration.Arguments) :
    ∃ x, (loadConfig args).Ends env files (x, files) := by
  cases hload : Configuration.load files env.here args with
  | ok config =>
    refine ⟨.ok (some config), Run.ends_get fun _ => Run.ends_read ?_⟩
    rw [hload]
    exact Run.ends_pure _
  | error fault =>
    cases fault with
    | invalid problems =>
      refine ⟨.ok none, Run.ends_get fun _ => Run.ends_read ?_⟩
      rw [hload]
      exact (ends_log .error (marked_escape _)).bind_ok (Run.ends_pure _)
    | undecodable e =>
      refine ⟨.ok none, Run.ends_get fun _ => Run.ends_read ?_⟩
      rw [hload]
      exact (ends_log .error (marked_escape _)).bind_ok (Run.ends_pure _)
    | toolNotTable =>
      refine ⟨.error .toolNotTable, Run.ends_get fun _ => Run.ends_read ?_⟩
      rw [hload]
      exact Run.ends_throw _
    | sectionNotTable =>
      refine ⟨.error .sectionNotTable, Run.ends_get fun _ => Run.ends_read ?_⟩
      rw [hload]
      exact Run.ends_throw _
    | directoryNotText =>
      refine ⟨.error .directoryNotText, Run.ends_get fun _ => Run.ends_read ?_⟩
      rw [hload]
      exact Run.ends_throw _

theorem loadEngine_ends (env : Environment) (files : Files.Tree) (options : RegisterOptions)
    (start : Files.Path) : ∃ x, (loadEngine options start).Ends env files (x, files) := by
  unfold loadEngine
  obtain ⟨x, hconfig⟩ := loadConfig_ends env files
    { locale := options.locale, entryModule := options.entryModule,
      localesDir := options.localesDir, searchPath := some start }
  match x with
  | .error abort => exact ⟨_, hconfig.bind_error _⟩
  | .ok none => exact ⟨_, hconfig.bind_ok (Run.ends_pure none)⟩
  | .ok (some config) =>
    cases hrequest : config.request with
    | ok request =>
      refine ⟨.ok (some ⟨request, config.source⟩), hconfig.bind_ok ?_⟩
      simp only [hrequest]
      exact Run.ends_pure _
    | error missing =>
      refine ⟨.ok none, hconfig.bind_ok ?_⟩
      simp only [hrequest]
      exact (ends_log .error (marked_escape _)).bind_ok (Run.ends_pure none)

end Files

/-- The command has files to register the locale in, with a configured registration. -/
inductive Works (options : RegisterOptions) (env : Environment) (files : Files.Tree)
    (engine : Engine) : List Job → Prop
  | file {l : Location} {bytes : List UInt8} (located : files.locate env.here options.input = .ok l)
      (isFile : files.get? l = some (.file bytes))
      (loaded : ((loadEngine options options.input.parent).upshot env files).1 = .ok (some engine)) :
      Works options env files engine [options.single]
  | directory {l : Location} (located : files.locate env.here options.input = .ok l)
      (isDirectory : files.get? l = some .directory)
      (loaded : ((loadEngine options options.input).upshot env files).1 = .ok (some engine)) :
      Works options env files engine ((sourcePaths files l).map options.job)

section Command

variable {env : Environment} {files : Files.Tree}

theorem loadEngine_ends_of_upshot {options : RegisterOptions} {start : Files.Path}
    {x : Except Abort (Option Engine)} (h : ((loadEngine options start).upshot env files).1 = x) :
    (loadEngine options start).Ends env files (x, files) := by
  obtain ⟨y, hends⟩ := loadEngine_ends env files options start
  rw [hends.upshot_eq] at h
  exact h ▸ hends

theorem registerSingle_ends (engine : Engine) (options : RegisterOptions) :
    (registerSingle engine options).Ends env files
      ((settleAll engine options.check env files [options.single]).map
        (exitCode options.check)) := by
  rw [settleAll, Upshot.map_next]
  exact (registerFile_ends engine options.check options.input _).bind fun outcome after _ =>
    conclude_ends options.check [(options.input.name, outcome)]

theorem registerDirectory_ends (engine : Engine) (options : RegisterOptions) (dir : Location) :
    (registerDirectory engine options dir).Ends env files
      ((settleAll engine options.check env files ((sourcePaths files dir).map options.job)).map
        (exitCode options.check)) := by
  refine Run.ends_get fun printed => ?_
  dsimp only
  split
  · next hempty =>
    rw [List.isEmpty_iff.mp hempty]
    have hzero : exitCode options.check [] = 0 := by simp [exitCode]
    rw [List.map_nil, settleAll, Upshot.map, Except.map, hzero]
    exact (ends_log .warning (marked_noFiles options.input)).bind_ok (Run.ends_pure 0)
  · rw [registerAll_eq_registerJobs]
    refine (ends_log .info (marked_processing _ options.input)).bind_ok ?_
    exact (registerJobs_ends engine options.check _).bind_map fun results after =>
      conclude_ends options.check results

/-- The command registers the locale in its files, one after the other. -/
theorem register_ends {options : RegisterOptions} {engine : Engine} {jobs : List Job}
    (h : Works options env files engine jobs) :
    (register options).Ends env files
      ((settleAll engine options.check env files jobs).map (exitCode options.check)) := by
  refine surroundings_ends.bind_ok ?_
  cases h with
  | file located isFile loaded =>
    simp only [located, isFile]
    exact (loadEngine_ends_of_upshot loaded).bind_ok (registerSingle_ends engine options)
  | directory located isDirectory loaded =>
    simp only [located, isDirectory]
    exact (loadEngine_ends_of_upshot loaded).bind_ok (registerDirectory_ends engine options _)

theorem works_check {options : RegisterOptions} {engine : Engine} {jobs : List Job}
    (h : Works options env files engine jobs) (check : Bool) :
    Works { options with check } env files engine jobs := by
  cases h with
  | file located isFile loaded => exact .file located isFile loaded
  | directory located isDirectory loaded => exact .directory located isDirectory loaded

/-- Without a configured registration there is nothing to do. -/
theorem ends_unconfigured {options : RegisterOptions} {start : Files.Path}
    (h : ∀ engine, ((loadEngine options start).upshot env files).1 ≠ .ok (some engine)) :
    ∃ x, (∀ code, x = .ok code → code = 1) ∧ ∀ work : Engine → Run Nat,
      Run.Ends (do
        match ← loadEngine options start with
        | none => return 1
        | some engine => work engine) env files (x, files) := by
  obtain ⟨y, hload⟩ := loadEngine_ends env files options start
  rw [hload.upshot_eq] at h
  match y with
  | .error abort => exact ⟨.error abort, by simp, fun work => hload.bind_error _⟩
  | .ok none => exact ⟨.ok 1, by simp, fun work => hload.bind_ok (Run.ends_pure 1)⟩
  | .ok (some engine) => exact absurd rfl (h engine)

/-- A command that has no files to work on leaves all files as they are, whether it is a check or
not, and its exit code is 1 if it gives one. -/
theorem works_or_idle (options : RegisterOptions) (env : Environment) (files : Files.Tree) :
    (∃ engine jobs, Works options env files engine jobs) ∨
    ∃ x, (∀ code, x = .ok code → code = 1) ∧
      ∀ check, (register { options with check }).Ends env files (x, files) := by
  refine Classical.or_iff_not_imp_left.mpr fun hidle => ?_
  have h (engine : Engine) (jobs : List Job) : ¬Works options env files engine jobs :=
    fun hworks => hidle ⟨engine, jobs, hworks⟩
  have hmissing (check : Bool) : (register.notFound { options with check }).Ends env files
      (.ok 1, files) :=
    (ends_log .error (marked_notFound options.input)).bind_ok (Run.ends_pure 1)
  unfold register
  cases hl : files.locate env.here options.input with
  | error fault =>
    refine ⟨.ok 1, by simp, fun check => surroundings_ends.bind_ok ?_⟩
    simp only [hl]
    exact hmissing check
  | ok l =>
    cases hnode : files.get? l with
    | none =>
      refine ⟨.ok 1, by simp, fun check => surroundings_ends.bind_ok ?_⟩
      simp only [hl, hnode]
      exact hmissing check
    | some node =>
      cases node with
      | file bytes =>
        obtain ⟨x, hx, hends⟩ := ends_unconfigured fun engine loaded =>
          h engine _ (.file hl hnode loaded)
        refine ⟨x, hx, fun check => surroundings_ends.bind_ok ?_⟩
        simp only [hl, hnode]
        exact hends _
      | directory =>
        obtain ⟨x, hx, hends⟩ := ends_unconfigured fun engine loaded =>
          h engine _ (.directory hl hnode loaded)
        refine ⟨x, hx, fun check => surroundings_ends.bind_ok ?_⟩
        simp only [hl, hnode]
        exact hends _

end Command

end LocaleRegistrar.Command
