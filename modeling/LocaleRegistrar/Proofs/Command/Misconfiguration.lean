import LocaleRegistrar.Command.Line
import LocaleRegistrar.Proofs.Command.Notes
import LocaleRegistrar.Proofs.Configuration.Precedence

/-! Configurations that cannot be loaded. A file that is not UTF-8 and values that are refused are
reported, and the command exits with 1. Nothing is reported where the tables on the way to the
settings are no tables or the directory of data modules is no path: that cuts off the command. Main
statement: these are the only ways in which a configuration cuts off a command. -/

namespace LocaleRegistrar

/-! ### Values of the wrong shape -/

namespace Configuration

open LocaleRegistrar.Data
open LocaleRegistrar.Files

/-- Something has the wrong shape before any value is checked. -/
inductive Misfit (files : Files.Tree) (here : Location) (args : Arguments) : LoadError → Prop
  | tools {dir : Location} {text : String} {document : Table} {v : Value}
      (nearest : Nearest files (args.start here) dir) (reads : Reads files dir text)
      (parsed : Toml.parse text = some document) (found : document.lookup toolKey = some v)
      (noTable : ∀ t, v ≠ .table t) : Misfit files here args .toolNotTable
  | settings {dir : Location} {text : String} {document tools : Table} {v : Value}
      (nearest : Nearest files (args.start here) dir) (reads : Reads files dir text)
      (parsed : Toml.parse text = some document)
      (there : document.lookup toolKey = some (.table tools))
      (found : tools.lookup sectionKey = some v) (noTable : ∀ t, v ≠ .table t) :
      Misfit files here args .sectionNotTable
  | directory {settings : Table} {base : Option Location} {v : Value}
      (declares : Declares files (args.start here) settings base)
      (implicit : args.localesDir = none) (chosen : args.chosen settings .localesDir = some v)
      (noPath : ∀ path, checkPath v ≠ .ok (some path)) : Misfit files here args .directoryNotText

theorem sectionOf_eq_error_iff {document : Table} {e : LoadError} :
    sectionOf document = .error e ↔
      (∃ v, document.lookup toolKey = some v ∧ (∀ t, v ≠ .table t) ∧ e = .toolNotTable) ∨
      ∃ tools v, document.lookup toolKey = some (.table tools) ∧ tools.lookup sectionKey = some v ∧
        (∀ t, v ≠ .table t) ∧ e = .sectionNotTable := by
  constructor
  · intro h
    unfold sectionOf at h
    split at h
    · cases h
    · next tools there =>
      split at h
      · cases h
      · cases h
      · next v hv found =>
        obtain rfl := Except.error.inj h
        exact .inr ⟨tools, v, there, found, hv, rfl⟩
    · next v hv found =>
      obtain rfl := Except.error.inj h
      exact .inl ⟨v, found, hv, rfl⟩
  · rintro (⟨v, found, hv, rfl⟩ | ⟨tools, v, there, found, hv, rfl⟩)
    · unfold sectionOf
      split
      · next hnone => rw [found] at hnone; cases hnone
      · next tools hsome =>
        rw [found] at hsome
        exact absurd (Option.some.inj hsome) (hv tools)
      · rfl
    · simp only [sectionOf, there]
      split
      · next hnone => rw [found] at hnone; cases hnone
      · next settings hsome =>
        rw [found] at hsome
        exact absurd (Option.some.inj hsome) (hv settings)
      · rfl

/-- The directory is refused only where it is a value that is no path. -/
theorem directoryValue_eq_error_iff {here : Location} {base : Option Location}
    {explicit : Option Files.Path} {values : Table} {e : LoadError} :
    directoryValue here base explicit values = .error e ↔
      explicit = none ∧ (∃ v, given values .localesDir = some v ∧
        ∀ path, checkPath v ≠ .ok (some path)) ∧ e = .directoryNotText := by
  constructor
  · intro h
    unfold directoryValue at h
    split at h
    · cases h
    · refine ⟨rfl, ?_⟩
      rw [given]
      split at h
      · cases h
      · cases h
      · cases h
      · next v hstring hpath found =>
        obtain rfl := Except.error.inj h
        refine ⟨⟨v, found, fun path accepted => ?_⟩, rfl⟩
        cases v with
        | string s => exact hstring s rfl
        | path p => exact hpath p rfl
        | null => cases Except.ok.inj accepted
        | _ => cases accepted
  · rintro ⟨rfl, ⟨v, found, noPath⟩, rfl⟩
    rw [given] at found
    simp only [directoryValue, found]
    split
    · next hnone => cases hnone
    · next s hs =>
      obtain rfl := Option.some.inj hs
      exact absurd rfl (noPath (Files.Path.parse s))
    · next p hp =>
      obtain rfl := Option.some.inj hp
      exact absurd rfl (noPath p)
    · rfl

/-- With the settings of the file known, a configuration is refused where its directory is no path
or its values are refused. -/
theorem Declares.load_eq_error_iff {files : Files.Tree} {here : Location} {args : Arguments}
    {settings : Table} {base : Option Location} {e : LoadError}
    (h : Declares files (args.start here) settings base) :
    load files here args = .error e ↔
      directoryValue here base args.localesDir (args.values settings) = .error e ∨
        ∃ directory problems,
          directoryValue here base args.localesDir (args.values settings) = .ok directory ∧
          check (directory ++ args.values settings) = .error problems ∧ e = .invalid problems := by
  rw [load_of_declares h]
  cases directoryValue here base args.localesDir (args.values settings) with
  | error e' => simp [Except.bind]
  | ok directory =>
    simp only [Except.bind, Except.ok.injEq, exists_and_left, exists_eq_left']
    cases check (directory ++ args.values settings) with
    | error problems =>
      change Except.error (LoadError.invalid problems) = .error e ↔ _
      simp [eq_comm]
    | ok c =>
      change Except.ok c = .error e ↔ _
      simp

theorem Misfit.load_eq {files : Files.Tree} {here : Location} {args : Arguments} {e : LoadError}
    (h : Misfit files here args e) : load files here args = .error e := by
  cases h with
  | tools nearest reads parsed found noTable =>
    exact load_of_unreadable (.misshapen nearest reads parsed
      (sectionOf_eq_error_iff.mpr (.inl ⟨_, found, noTable, rfl⟩)))
  | settings nearest reads parsed there found noTable =>
    exact load_of_unreadable (.misshapen nearest reads parsed
      (sectionOf_eq_error_iff.mpr (.inr ⟨_, _, there, found, noTable, rfl⟩)))
  | directory declares implicit chosen noPath =>
    refine declares.load_eq_error_iff.mpr (.inl (directoryValue_eq_error_iff.mpr ?_))
    exact ⟨implicit, ⟨_, (given_argumentValues _ _ _).trans chosen, noPath⟩, rfl⟩

end Configuration

/-! ### Commands -/

namespace Command

open LocaleRegistrar.Configuration
open LocaleRegistrar.Console
open LocaleRegistrar.Files

/-- What a command does about a configuration that cannot be loaded: it reports a message, or it is
cut off by a fault. -/
def response : LoadError → Except Abort String
  | .undecodable e => .ok e.message
  | .invalid problems => .ok (invalidMessage problems)
  | .toolNotTable => .error .toolNotTable
  | .sectionNotTable => .error .sectionNotTable
  | .directoryNotText => .error .directoryNotText

/-- Loading fails without a report exactly if something has the wrong shape. -/
theorem misfit_iff {files : Files.Tree} {here : Location} {args : Arguments} {e : LoadError} :
    Misfit files here args e ↔
      load files here args = .error e ∧ ∃ abort, response e = .error abort := by
  constructor
  · intro h
    refine ⟨h.load_eq, ?_⟩
    cases h <;> exact ⟨_, rfl⟩
  · rintro ⟨hload, abort, hresponse⟩
    obtain ⟨settings, base, hdeclares⟩ | ⟨e', hunreadable⟩ :=
      declares_or_unreadable files (args.start here)
    · rcases hdeclares.load_eq_error_iff.mp hload with hdirectory | ⟨_, problems, -, -, rfl⟩
      · obtain ⟨implicit, ⟨v, found, noPath⟩, rfl⟩ := directoryValue_eq_error_iff.mp hdirectory
        rw [given_argumentValues] at found
        exact .directory hdeclares implicit found noPath
      · cases hresponse
    · obtain rfl := Except.error.inj ((load_of_unreadable hunreadable).symm.trans hload)
      cases hunreadable with
      | undecodable => cases hresponse
      | misshapen nearest reads parsed misshapen =>
        rcases sectionOf_eq_error_iff.mp misshapen with
          ⟨v, found, noTable, rfl⟩ | ⟨tools, v, there, found, noTable, rfl⟩
        · exact .tools nearest reads parsed found noTable
        · exact .settings nearest reads parsed there found noTable

/-- The arguments that a registration loads its configuration with. -/
def RegisterOptions.arguments (options : RegisterOptions) (start : Files.Path) : Arguments :=
  { locale := options.locale, entryModule := options.entryModule,
    localesDir := options.localesDir, searchPath := some start }

/-- The commands that load a configuration, and the arguments that they load it with. A registration
does so if its input is there. -/
inductive Loads (files : Files.Tree) (here : Location) : Invocation → Arguments → Prop
  | locales (localesDir : Option Files.Path) : Loads files here (.locales localesDir) { localesDir }
  | resolve (requested : String) (localesDir : Option Files.Path) :
      Loads files here (.resolve requested localesDir) { localesDir }
  | file {options : RegisterOptions} {l : Location} {bytes : List UInt8}
      (located : files.locate here options.input = .ok l)
      (found : files.get? l = some (.file bytes)) :
      Loads files here (.register options) (options.arguments options.input.parent)
  | directory {options : RegisterOptions} {l : Location}
      (located : files.locate here options.input = .ok l)
      (found : files.get? l = some .directory) :
      Loads files here (.register options) (options.arguments options.input)

section

variable {α : Type} {env : Environment} {files : Files.Tree} {args : Arguments} {e : LoadError}

theorem Run.exec_get (f : State → Run α) (s : State) :
    (get >>= f).exec env s = (f s).exec env s := rfl

theorem Run.exec_read (f : Environment → Run α) (s : State) :
    (read >>= f).exec env s = (f env).exec env s := rfl

/-- An error with a message is reported, and there is no configuration then. -/
theorem loadConfig_exec_reported {message : String} {items : List Item}
    (hload : load files env.here args = .error e) (hresponse : response e = .ok message)
    (hitems : logged .error (escape message) = .ok items) :
    (loadConfig args).exec env { files } = (.ok none, { files, output := items }) := by
  rw [loadConfig, Run.exec_get, Run.exec_read, hload]
  cases e with
  | undecodable e =>
    obtain rfl := Except.ok.inj hresponse
    simp only [log, hitems]
    rfl
  | invalid problems =>
    obtain rfl := Except.ok.inj hresponse
    simp only [log, hitems]
    rfl
  | toolNotTable => cases hresponse
  | sectionNotTable => cases hresponse
  | directoryNotText => cases hresponse

/-- Any other error cuts off the run. -/
theorem loadConfig_exec_aborted {abort : Abort} (hload : load files env.here args = .error e)
    (hresponse : response e = .error abort) :
    (loadConfig args).exec env { files } = (.error abort, { files }) := by
  rw [loadConfig, Run.exec_get, Run.exec_read, hload]
  cases e with
  | undecodable e => cases hresponse
  | invalid problems => cases hresponse
  | toolNotTable => cases hresponse; rfl
  | sectionNotTable => cases hresponse; rfl
  | directoryNotText => cases hresponse; rfl

/-- Where the inner run gives nothing or is cut off, the outer one gives `b` or is cut off, and does
no more than the inner one has done. -/
structure Relays {β : Type} (env : Environment) (files : Files.Tree) (inner : Run (Option α))
    (outer : Run β) (b : β) : Prop where
  nothing : ∀ s, inner.exec env { files } = (.ok none, s) → outer.exec env { files } = (.ok b, s)
  aborted : ∀ abort s, inner.exec env { files } = (.error abort, s) →
    outer.exec env { files } = (.error abort, s)

theorem Relays.bind {β : Type} (inner : Run (Option α)) {f : Option α → Run β} {b : β}
    (h : f none = pure b) : Relays env files inner (inner >>= f) b := by
  refine ⟨fun s hs => ?_, fun abort s hs => Run.exec_bind_error hs⟩
  rw [Run.exec_bind_ok hs, h]
  rfl

theorem Relays.trans {β γ : Type} {inner : Run (Option α)} {middle : Run (Option β)}
    {outer : Run γ} {c : γ} (h : Relays env files inner middle none)
    (h' : Relays env files middle outer c) : Relays env files inner outer c :=
  ⟨fun s hs => h'.nothing s (h.nothing s hs),
    fun abort s hs => h'.aborted abort s (h.aborted abort s hs)⟩

theorem exec_surroundings (f : Locale.Surroundings → Run α) :
    (surroundings >>= f).exec env { files } =
      (f { files, here := env.here, searchPath := env.searchPath }).exec env { files } := rfl

theorem loadEngine_relays (options : RegisterOptions) (start : Files.Path) :
    Relays env files (loadConfig (options.arguments start)) (loadEngine options start) none :=
  .bind _ rfl

/-- Without a configuration a command ends with 1, and it is cut off where loading is. -/
theorem Loads.relays {invocation : Invocation} (h : Loads files env.here invocation args) :
    Relays env files (loadConfig args) invocation.run 1 := by
  cases h with
  | locales localesDir => exact .bind _ rfl
  | resolve requested localesDir => exact .bind _ rfl
  | @file options l bytes located found =>
    refine (loadEngine_relays options _).trans ⟨fun s hs => ?_, fun abort s hs => ?_⟩
    all_goals
      rw [Invocation.run, register, exec_surroundings]
      simp only [located, found]
    · exact Run.exec_bind_ok hs
    · exact Run.exec_bind_error hs
  | @directory options l located found =>
    refine (loadEngine_relays options _).trans ⟨fun s hs => ?_, fun abort s hs => ?_⟩
    all_goals
      rw [Invocation.run, register, exec_surroundings]
      simp only [located, found]
    · exact Run.exec_bind_ok hs
    · exact Run.exec_bind_error hs

end

/-- A configuration is given or a message about it reported, unless something has the wrong shape,
and then the error has no message. A command that loads it and gets an error reports the message,
exits with 1 and changes nothing; without a message it is cut off. -/
theorem misconfiguration_reported_iff (files : Files.Tree) (here : Location) (args : Arguments) :
    (((∃ c, load files here args = .ok c) ∨
        ∃ e message, load files here args = .error e ∧ response e = .ok message) ↔
      ∀ e, ¬Misfit files here args e) ∧
    (∀ e, Misfit files here args e →
      load files here args = .error e ∧ ∃ abort, response e = .error abort) ∧
    ∀ invocation env e, env.here = here → Loads files here invocation args →
      load files here args = .error e →
      (∀ message, response e = .ok message → ∃ items, logged .error (escape message) = .ok items ∧
        invocation.run.run' env files = (.ok 1, { files, output := items })) ∧
      ∀ abort, response e = .error abort →
        invocation.run.run' env files = (.error abort, { files }) := by
  refine ⟨⟨?_, fun h => ?_⟩, fun e => misfit_iff.mp, ?_⟩
  · intro h e hmisfit
    obtain ⟨hload, abort, hresponse⟩ := misfit_iff.mp hmisfit
    obtain ⟨c, hc⟩ | ⟨e', message, hload', hresponse'⟩ := h
    · cases hc.symm.trans hload
    · obtain rfl := Except.error.inj (hload'.symm.trans hload)
      cases hresponse'.symm.trans hresponse
  · cases hload : load files here args with
    | ok c => exact .inl ⟨c, rfl⟩
    | error e =>
      cases hresponse : response e with
      | ok message => exact .inr ⟨e, message, rfl, hresponse⟩
      | error abort => exact absurd (misfit_iff.mpr ⟨hload, abort, hresponse⟩) (h e)
  · rintro invocation env e rfl hloads hload
    refine ⟨fun message hresponse => ?_, fun abort hresponse => ?_⟩
    · obtain ⟨items, hitems⟩ := logged_of_marked .error (marked_escape message)
      exact ⟨items, hitems,
        hloads.relays.nothing _ (loadConfig_exec_reported hload hresponse hitems)⟩
    · exact hloads.relays.aborted abort _ (loadConfig_exec_aborted hload hresponse)

/-- A project whose configuration file has this text. -/
def projectOf (text : String) : Files.Tree where
  entries := [(["pyproject.toml"], .file (Text.encodeUtf8 text))]

theorem nearest_projectOf (text : String) : Nearest (projectOf text) [] [] := by
  refine ⟨List.prefix_rfl, rfl, fun other hother _ => hother⟩

theorem reads_projectOf (text : String) : Reads (projectOf text) [] text :=
  ⟨_, rfl, Text.decodeUtf8_encodeUtf8 text⟩

/-- A number in place of the directory cuts off the command that lists locales, and a number in
place of all tables the one that resolves a locale. -/
theorem misconfiguration_number :
    let env : Environment := ⟨[], [], false⟩
    let directory := projectOf "[tool.locale_bootstrap]\nlocales_dir=3"
    let tools := projectOf "tool=1"
    (load directory [] {} = .error .directoryNotText ∧
      (Invocation.locales none).run.run' env directory =
        (.error .directoryNotText, { files := directory })) ∧
    load tools [] {} = .error .toolNotTable ∧
      (Invocation.resolve "de" none).run.run' env tools =
        (.error .toolNotTable, { files := tools }) := by
  intro env directory tools
  have hdirectory : Misfit directory [] {} .directoryNotText := by
    have hparsed : Toml.parse "[tool.locale_bootstrap]\nlocales_dir=3" = some [("tool", .table
        [("locale_bootstrap", .table [("locales_dir", .integer 3)])])] := by rfl
    have hdeclares : Declares directory [] [("locales_dir", .integer 3)] (some []) :=
      .document (nearest_projectOf _) (reads_projectOf _) hparsed (.settings rfl rfl)
    exact .directory hdeclares rfl rfl (by simp [checkPath])
  have htools : Misfit tools [] {} .toolNotTable := by
    have hparsed : Toml.parse "tool=1" = some [("tool", .integer 1)] := by rfl
    exact .tools (nearest_projectOf _) (reads_projectOf _) hparsed rfl (by simp)
  obtain ⟨-, hmisfit, hcommand⟩ := misconfiguration_reported_iff directory [] {}
  obtain ⟨-, hmisfit', hcommand'⟩ := misconfiguration_reported_iff tools [] {}
  have hload := (hmisfit _ hdirectory).1
  have hload' := (hmisfit' _ htools).1
  exact ⟨⟨hload, (hcommand _ env _ rfl (.locales none) hload).2 _ rfl⟩, hload',
    (hcommand' _ env _ rfl (.resolve "de" none) hload').2 _ rfl⟩

end Command

end LocaleRegistrar
