import LocaleRegistrar.Configuration.Load
import LocaleRegistrar.Proofs.Configuration.NormalForm
import LocaleRegistrar.Proofs.Utf8
import Mathlib.Data.List.Induction

/-! Where the settings of a loaded configuration come from. The nearest configuration file at or
above the start of the search is the only one that counts, whatever it holds, and each setting is
taken from the first place that has one: an explicit argument, the overrides, the file. Main
statement: this determines what loading gives, and what stands above the nearest file plays no
part. -/

namespace LocaleRegistrar.Configuration

open LocaleRegistrar.Data
open LocaleRegistrar.Files

/-! ### The nearest configuration file -/

/-- Of the directories from the start upwards, this is the first with a configuration file: all
others that have one are above it. -/
structure Nearest (files : Files.Tree) (start dir : Location) : Prop where
  above : dir <+: start
  isFile : files.isFile (dir ++ [fileName]) = true
  first : ∀ other, other <+: start → files.isFile (other ++ [fileName]) = true → other <+: dir

theorem ancestors_nil : ancestors [] = [[]] := rfl

theorem ancestors_concat (l : Location) (name : String) :
    ancestors (l ++ [name]) = (l ++ [name]) :: ancestors l := by
  have hlength : (l ++ [name]).length = l.length + 1 := by simp
  rw [ancestors, ancestors, hlength, List.range_succ_eq_map, List.map_cons, List.map_map]
  congr 1
  · rw [Nat.sub_zero, ← hlength, List.take_length]
  · refine List.map_congr_left fun n hn => ?_
    have hn := List.mem_range.mp hn
    have hshift : l.length + 1 - (n + 1) = l.length - n := by omega
    rw [Function.comp_apply, Nat.succ_eq_add_one, hshift, List.take_append_of_le_length (by omega)]

theorem mem_ancestors_iff {l other : Location} : other ∈ ancestors l ↔ other <+: l := by
  induction l using List.reverseRecOn with
  | nil => simp [ancestors_nil]
  | append_singleton l name ih =>
    rw [ancestors_concat, List.mem_cons, ih, List.prefix_concat_iff]

theorem nearest?_eq_none_iff {files : Files.Tree} {start : Location} :
    nearest? files start = none ↔
      ∀ other, other <+: start → files.isFile (other ++ [fileName]) = false := by
  rw [nearest?, List.find?_eq_none]
  simp only [mem_ancestors_iff, Bool.not_eq_true]

theorem nearest?_eq_some_iff {files : Files.Tree} {start dir : Location} :
    nearest? files start = some dir ↔ Nearest files start dir := by
  induction start using List.reverseRecOn with
  | nil =>
    rw [nearest?, ancestors_nil, List.find?_singleton]
    constructor
    · intro h
      obtain ⟨hfile, hdir⟩ := Option.ite_none_right_eq_some.mp h
      obtain rfl := Option.some.inj hdir
      exact ⟨List.prefix_rfl, hfile, fun other hother _ => hother⟩
    · rintro ⟨habove, hfile, -⟩
      obtain rfl := List.prefix_nil.mp habove
      exact if_pos hfile
  | append_singleton start name ih =>
    rw [nearest?, ancestors_concat, List.find?_cons]
    cases hfile : files.isFile (start ++ [name] ++ [fileName]) with
    | true =>
      constructor
      · intro h
        obtain rfl := Option.some.inj h
        exact ⟨List.prefix_rfl, hfile, fun other hother _ => hother⟩
      · intro h
        have hbelow := h.first _ List.prefix_rfl hfile
        rw [hbelow.eq_of_length_le h.above.length_le]
    | false =>
      -- the start has no file, so that the search goes on above it
      rw [← nearest?, ih]
      constructor
      · intro h
        refine ⟨h.above.trans (List.prefix_append _ _), h.isFile, fun other hother hother' => ?_⟩
        rcases List.prefix_concat_iff.mp hother with rfl | hother
        · rw [hfile] at hother'
          cases hother'
        · exact h.first other hother hother'
      · intro h
        rcases List.prefix_concat_iff.mp h.above with rfl | habove
        · rw [h.isFile] at hfile
          cases hfile
        · exact ⟨habove, h.isFile, fun other hother =>
            h.first other (hother.trans (List.prefix_append _ _))⟩

/-- What stands above the nearest file is not looked at. -/
theorem Nearest.congr {files files' : Files.Tree} {start dir : Location}
    (h : Nearest files start dir)
    (hsame : ∀ l, dir <+: l → l <+: start →
      files'.get? (l ++ [fileName]) = files.get? (l ++ [fileName])) :
    Nearest files' start dir := by
  have hisFile : ∀ l, dir <+: l → l <+: start →
      files'.isFile (l ++ [fileName]) = files.isFile (l ++ [fileName]) := by
    intro l hlow hhigh
    rw [Files.Tree.isFile, Files.Tree.isFile, hsame l hlow hhigh]
  refine ⟨h.above, ?_, fun other hother hfile => ?_⟩
  · rw [hisFile dir List.prefix_rfl h.above, h.isFile]
  · rcases List.prefix_or_prefix_of_prefix hother h.above with habove | hbelow
    · exact habove
    · rw [hisFile other hbelow hother] at hfile
      exact h.first other hother hfile

/-! ### What the file declares -/

/-- The configuration file of a directory has this text. -/
def Reads (files : Files.Tree) (dir : Location) (text : String) : Prop :=
  ∃ bytes, files.get? (dir ++ [fileName]) = some (.file bytes) ∧ Text.decodeUtf8 bytes = .ok text

/-- These are the settings in a document: those of this tool's table, or none where that table, or
the table of all tools, is missing. -/
inductive Holds (document : Table) : Table → Prop
  | noTools (missing : document.lookup toolKey = none) : Holds document []
  | noSection {tools : Table} (there : document.lookup toolKey = some (.table tools))
      (missing : tools.lookup sectionKey = none) : Holds document []
  | settings {tools settings : Table} (there : document.lookup toolKey = some (.table tools))
      (found : tools.lookup sectionKey = some (.table settings)) : Holds document settings

/-- These are the settings of the nearest configuration file and the directory it is in. Without
such a file, or with one that is no TOML, there are no settings and no directory. -/
inductive Declares (files : Files.Tree) (start : Location) : Table → Option Location → Prop
  | noFile (missing : ∀ dir, dir <+: start → files.isFile (dir ++ [fileName]) = false) :
      Declares files start [] none
  | malformed {dir : Location} {text : String} (nearest : Nearest files start dir)
      (reads : Reads files dir text) (malformed : Toml.parse text = none) :
      Declares files start [] none
  | document {dir : Location} {text : String} {document settings : Table}
      (nearest : Nearest files start dir) (reads : Reads files dir text)
      (parsed : Toml.parse text = some document) (holds : Holds document settings) :
      Declares files start settings (some dir)

theorem sectionOf_eq_ok_iff {document settings : Table} :
    sectionOf document = .ok settings ↔ Holds document settings := by
  constructor
  · intro h
    unfold sectionOf at h
    split at h
    · next missing =>
      obtain rfl := Except.ok.inj h
      exact .noTools missing
    · next tools there =>
      split at h
      · next missing =>
        obtain rfl := Except.ok.inj h
        exact .noSection there missing
      · next found =>
        obtain rfl := Except.ok.inj h
        exact .settings there found
      · cases h
    · cases h
  · intro h
    cases h with
    | noTools missing => rw [sectionOf, missing]
    | noSection there missing => simp only [sectionOf, there, missing]
    | settings there found => simp only [sectionOf, there, found]

theorem Nearest.exists_bytes {files : Files.Tree} {start dir : Location}
    (h : Nearest files start dir) :
    ∃ bytes, files.get? (dir ++ [fileName]) = some (.file bytes) := by
  have hfile := h.isFile
  unfold Files.Tree.isFile at hfile
  split at hfile
  · next bytes hbytes => exact ⟨bytes, hbytes⟩
  · cases hfile

theorem fileSettings_of_declares {files : Files.Tree} {start : Location} {settings : Table}
    {base : Option Location} (h : Declares files start settings base) :
    fileSettings files start = .ok (settings, base) := by
  cases h with
  | noFile missing => rw [fileSettings, nearest?_eq_none_iff.mpr missing]
  | malformed nearest reads malformed =>
    obtain ⟨bytes, hbytes, htext⟩ := reads
    simp only [fileSettings, nearest?_eq_some_iff.mpr nearest, hbytes, htext, malformed]
  | document nearest reads parsed holds =>
    obtain ⟨bytes, hbytes, htext⟩ := reads
    simp only [fileSettings, nearest?_eq_some_iff.mpr nearest, hbytes, htext, parsed,
      sectionOf_eq_ok_iff.mpr holds, Except.map]

/-- What keeps the settings of the nearest file from being read: its bytes are not UTF-8, or a table
on the way to this tool's settings is none. -/
inductive Unreadable (files : Files.Tree) (start : Location) : LoadError → Prop
  | undecodable {dir : Location} {bytes : List UInt8} {e : Text.Utf8Error}
      (nearest : Nearest files start dir)
      (found : files.get? (dir ++ [fileName]) = some (.file bytes))
      (undecodable : Text.decodeUtf8 bytes = .error e) : Unreadable files start (.undecodable e)
  | misshapen {dir : Location} {text : String} {document : Table} {e : LoadError}
      (nearest : Nearest files start dir) (reads : Reads files dir text)
      (parsed : Toml.parse text = some document) (misshapen : sectionOf document = .error e) :
      Unreadable files start e

theorem declares_or_unreadable (files : Files.Tree) (start : Location) :
    (∃ settings base, Declares files start settings base) ∨ ∃ e, Unreadable files start e := by
  cases hnearest : nearest? files start with
  | none => exact .inl ⟨[], none, .noFile (nearest?_eq_none_iff.mp hnearest)⟩
  | some dir =>
    have hnearest := nearest?_eq_some_iff.mp hnearest
    obtain ⟨bytes, hbytes⟩ := hnearest.exists_bytes
    cases htext : Text.decodeUtf8 bytes with
    | error e => exact .inr ⟨_, .undecodable hnearest hbytes htext⟩
    | ok text =>
      have hreads : Reads files dir text := ⟨bytes, hbytes, htext⟩
      cases hparsed : Toml.parse text with
      | none => exact .inl ⟨[], none, .malformed hnearest hreads hparsed⟩
      | some document =>
        cases hsection : sectionOf document with
        | error e => exact .inr ⟨e, .misshapen hnearest hreads hparsed hsection⟩
        | ok settings =>
          exact .inl ⟨settings, some dir, .document hnearest hreads hparsed
            (sectionOf_eq_ok_iff.mp hsection)⟩

theorem fileSettings_of_unreadable {files : Files.Tree} {start : Location} {e : LoadError}
    (h : Unreadable files start e) : fileSettings files start = .error e := by
  cases h with
  | undecodable nearest found undecodable =>
    simp only [fileSettings, nearest?_eq_some_iff.mpr nearest, found, undecodable]
  | misshapen nearest reads parsed misshapen =>
    obtain ⟨bytes, hbytes, htext⟩ := reads
    simp only [fileSettings, nearest?_eq_some_iff.mpr nearest, hbytes, htext, parsed, misshapen,
      Except.map]

/-! ### Which value counts -/

/-- The explicit argument for a setting, if there is one. An empty text is none. -/
def Arguments.explicit? (args : Arguments) : Field → Option Value
  | .locale => (args.locale.filter (· ≠ "")).map .string
  | .entryModule => (args.entryModule.filter (· ≠ "")).map .string
  | .localesDir | .localesPackage | .registryModule | .registerFunction => none

/-- The value of a setting by precedence: the explicit argument, the override, the file's value. -/
def Arguments.chosen (args : Arguments) (settings : Table) (field : Field) : Option Value :=
  (args.explicit? field).or ((given args.overrides field).or (given settings field))

/-- Where the search for a configuration file starts. -/
def Arguments.start (args : Arguments) (here : Location) : Location :=
  match args.searchPath with
  | some path => path.resolve here
  | none => here

/-- What the directory of data modules is. An explicit one is read from the current directory, any
other one from the directory of the file, or from the current one if there is no file. -/
inductive Located (here : Location) (base : Option Location) :
    Option Files.Path → Option Value → Option Files.Path → Prop
  | explicit (path : Files.Path) (v : Option Value) :
      Located here base (some path) v (some (.ofLocation (path.resolve here)))
  | missing : Located here base none none none
  | chosen {v : Value} {path : Files.Path} (accepted : checkPath v = .ok (some path)) :
      Located here base none (some v) (some (.ofLocation (path.resolve (base.getD here))))

/-- The settings of a configuration are those that count. -/
structure Merged (here : Location) (args : Arguments) (settings : Table) (base : Option Location)
    (c : Config) : Prop where
  locale : Takes checkOptionalString none (args.chosen settings .locale) c.locale
  entryModule : Takes checkEntry none (args.chosen settings .entryModule) c.entryModule
  localesDir : Located here base args.localesDir (args.chosen settings .localesDir) c.localesDir
  localesPackage : Takes checkModulePath Locale.defaultPackage
    (args.chosen settings .localesPackage) c.settings.localesPackage
  registryModule : Takes checkModulePath "i18n_common" (args.chosen settings .registryModule)
    c.settings.registryModule
  registerFunction : Takes checkFunctionName "register_locale_data"
    (args.chosen settings .registerFunction) c.settings.registerFunction

/-- All values that are given, those that count first. -/
def Arguments.values (args : Arguments) (settings : Table) : Table :=
  givenText .locale args.locale ++ givenText .entryModule args.entryModule ++ args.overrides ++
    settings

theorem given_append (values more : Table) (field : Field) :
    given (values ++ more) field = (given values field).or (given more field) :=
  List.lookup_append

theorem Field.key_injective {field other : Field} (h : field.key = other.key) : field = other := by
  revert h
  cases field <;> cases other <;> decide

theorem given_singleton (field other : Field) (v : Value) :
    given [(field.key, v)] other = if other = field then some v else none := by
  rw [given, List.lookup_cons]
  by_cases h : other = field
  · simp [h]
  · have hkey : (other.key == field.key) = false :=
      beq_eq_false_iff_ne.mpr fun hkey => h (Field.key_injective hkey)
    simp [h, hkey]

theorem given_givenText (field other : Field) (text : Option String) :
    given (givenText field text) other =
      if other = field then (text.filter (· ≠ "")).map .string else none := by
  cases text with
  | none => simp [givenText, given]
  | some s =>
    by_cases hs : s = ""
    · simp [givenText, given, hs, Option.filter]
    · simp [givenText, given_singleton, hs, Option.filter]

/-- The first value that is given is the one that counts. -/
theorem given_argumentValues (args : Arguments) (settings : Table) (field : Field) :
    given (args.values settings) field = args.chosen settings field := by
  simp only [Arguments.values, given_append, given_givenText, Arguments.chosen]
  cases field <;> simp [Arguments.explicit?, Option.or_assoc]

/-! ### The directory of data modules -/

/-- The values for a directory that was located. -/
def directoryTable (dir : Option Files.Path) : Table :=
  (dir.map fun path => (Field.localesDir.key, .path path)).toList

theorem given_directoryTable (dir : Option Files.Path) (field : Field) :
    given (directoryTable dir) field = if field = .localesDir then dir.map .path else none := by
  cases dir with
  | none => simp [directoryTable, given]
  | some path => exact given_singleton .localesDir field (.path path)

theorem directoryValue_eq_ok_iff {here : Location} {base : Option Location}
    {explicit : Option Files.Path} {values directory : Table} :
    directoryValue here base explicit values = .ok directory ↔
      ∃ dir, Located here base explicit (given values .localesDir) dir ∧
        directory = directoryTable dir := by
  constructor
  · intro h
    cases explicit with
    | some path => exact ⟨_, .explicit path _, (Except.ok.inj h).symm⟩
    | none =>
      unfold directoryValue at h
      dsimp only at h
      rw [given]
      split at h
      · next hnone =>
        rw [hnone]
        exact ⟨none, .missing, (Except.ok.inj h).symm⟩
      · next s hs =>
        rw [hs]
        exact ⟨some (.ofLocation ((Files.Path.parse s).resolve (base.getD here))), .chosen rfl,
          (Except.ok.inj h).symm⟩
      · next path hpath =>
        rw [hpath]
        exact ⟨some (.ofLocation (path.resolve (base.getD here))), .chosen rfl,
          (Except.ok.inj h).symm⟩
      · cases h
  · rintro ⟨dir, hlocated, rfl⟩
    generalize hv : given values .localesDir = v at hlocated
    rw [given] at hv
    cases hlocated with
    | explicit path => rfl
    | missing =>
      simp only [directoryValue, hv]
      rfl
    | @chosen v path accepted =>
      cases v with
      | string s =>
        obtain rfl := Option.some.inj (Except.ok.inj accepted)
        simp only [directoryValue, hv]
        rfl
      | path p =>
        obtain rfl := Option.some.inj (Except.ok.inj accepted)
        simp only [directoryValue, hv]
        rfl
      | null => cases Except.ok.inj accepted
      | _ => cases accepted

/-- With the directory located, what is checked is what counts. -/
theorem given_located {here : Location} {args : Arguments} {settings : Table}
    {base : Option Location} {dir : Option Files.Path}
    (h : Located here base args.localesDir (args.chosen settings .localesDir) dir) (field : Field) :
    given (directoryTable dir ++ args.values settings) field =
      if field = .localesDir then dir.map .path else args.chosen settings field := by
  rw [given_append, given_directoryTable, given_argumentValues]
  by_cases hfield : field = .localesDir
  · subst hfield
    generalize args.localesDir = explicit at h
    generalize args.chosen settings .localesDir = v at h ⊢
    cases h <;> simp
  · simp [hfield]

theorem takes_path_iff {dir dir' : Option Files.Path} :
    Takes checkPath none (dir.map .path) dir' ↔ dir' = dir := by
  constructor
  · intro h
    cases dir with
    | none => cases h; rfl
    | some path =>
      cases h with
      | checked accepted => exact (Except.ok.inj accepted).symm
  · rintro rfl
    cases dir' with
    | none => exact .default
    | some path => exact .checked rfl

/-- What is checked is what counts. -/
theorem check_merged_iff {here : Location} {args : Arguments} {settings : Table}
    {base : Option Location} {c : Config} :
    (∃ directory, directoryValue here base args.localesDir (args.values settings) = .ok directory ∧
        check (directory ++ args.values settings) = .ok c) ↔
      Merged here args settings base c := by
  simp only [directoryValue_eq_ok_iff, given_argumentValues, check_eq_ok_iff]
  constructor
  · rintro ⟨_, ⟨dir, hlocated, rfl⟩, hsettled⟩
    rw [funext (given_located hlocated)] at hsettled
    obtain ⟨hlocale, hentry, hdir, hpackage, hregistry, hfunction⟩ := hsettled
    obtain rfl := takes_path_iff.mp hdir
    exact ⟨hlocale, hentry, hlocated, hpackage, hregistry, hfunction⟩
  · intro h
    refine ⟨_, ⟨c.localesDir, h.localesDir, rfl⟩, ?_⟩
    rw [funext (given_located h.localesDir)]
    exact ⟨h.locale, h.entryModule, takes_path_iff.mpr rfl, h.localesPackage, h.registryModule,
      h.registerFunction⟩

/-! ### Loading -/

/-- Loading reads the file, locates the directory and checks what counts. -/
theorem load_eq (files : Files.Tree) (here : Location) (args : Arguments) :
    load files here args =
      (fileSettings files (args.start here)).bind fun declared =>
        (directoryValue here declared.2 args.localesDir (args.values declared.1)).bind
          fun directory => (check (directory ++ args.values declared.1)).mapError .invalid := by
  have hstart : load files here args = (fileSettings files (args.start here)).bind _ := rfl
  rw [hstart]
  congr 1
  funext declared
  obtain ⟨settings, base⟩ := declared
  show Except.bind (directoryValue here base args.localesDir (args.values settings)) _ = _
  congr 1
  funext directory
  unfold Arguments.values
  split
  · next hcheck =>
    rw [hcheck]
    rfl
  · next hcheck =>
    rw [hcheck]
    rfl

theorem load_of_declares {files : Files.Tree} {here : Location} {args : Arguments}
    {settings : Table} {base : Option Location}
    (h : Declares files (args.start here) settings base) :
    load files here args =
      (directoryValue here base args.localesDir (args.values settings)).bind fun directory =>
        (check (directory ++ args.values settings)).mapError .invalid := by
  rw [load_eq, fileSettings_of_declares h]
  rfl

theorem load_of_unreadable {files : Files.Tree} {here : Location} {args : Arguments}
    {e : LoadError} (h : Unreadable files (args.start here) e) :
    load files here args = .error e := by
  rw [load_eq, fileSettings_of_unreadable h]
  rfl

/-- With the settings of the file known, a configuration is loaded exactly if its settings are those
that count. -/
theorem Declares.load_eq_ok_iff {files : Files.Tree} {here : Location} {args : Arguments}
    {settings : Table} {base : Option Location} {c : Config}
    (h : Declares files (args.start here) settings base) :
    load files here args = .ok c ↔ Merged here args settings base c := by
  rw [load_of_declares h, ← check_merged_iff]
  cases directoryValue here base args.localesDir (args.values settings) with
  | error e => simp [Except.bind]
  | ok directory =>
    simp only [Except.bind, Except.ok.injEq, exists_eq_left']
    cases check (directory ++ args.values settings) with
    | error problems =>
      change Except.error (LoadError.invalid problems) = .ok c ↔ _
      simp
    | ok checked =>
      change Except.ok checked = .ok c ↔ _
      simp

theorem load_eq_ok_iff {files : Files.Tree} {here : Location} {args : Arguments} {c : Config} :
    load files here args = .ok c ↔ ∃ settings base, Declares files (args.start here) settings base ∧
      Merged here args settings base c := by
  constructor
  · intro h
    obtain ⟨settings, base, hdeclares⟩ | ⟨e, hunreadable⟩ :=
      declares_or_unreadable files (args.start here)
    · exact ⟨settings, base, hdeclares, hdeclares.load_eq_ok_iff.mp h⟩
    · rw [load_of_unreadable hunreadable] at h
      cases h
  · rintro ⟨settings, base, hdeclares, h⟩
    exact hdeclares.load_eq_ok_iff.mpr h

/-- Loading looks at no file but the nearest one and the places below it where one could be. -/
theorem load_congr {files files' : Files.Tree} {here dir : Location} {args : Arguments}
    (h : Nearest files (args.start here) dir)
    (hsame : ∀ l, dir <+: l → l <+: args.start here →
      files'.get? (l ++ [fileName]) = files.get? (l ++ [fileName])) :
    load files' here args = load files here args := by
  have hnearest := nearest?_eq_some_iff.mpr h
  have hnearest' := nearest?_eq_some_iff.mpr (h.congr hsame)
  have hfile : fileSettings files' (args.start here) = fileSettings files (args.start here) := by
    rw [fileSettings, fileSettings, hnearest, hnearest']
    simp only [hsame dir List.prefix_rfl h.above]
  rw [load_eq, load_eq, hfile]

/-- Loading merges by precedence. It gives a configuration exactly if each setting of it is the
checked form of the explicit argument, otherwise of the override, otherwise of what the nearest file
declares, otherwise the default, with the directory of data modules made absolute. Files above the
nearest one make no difference, whether that one is well formed, has the settings, or not. -/
theorem load_by_precedence (files : Files.Tree) (here : Location) (args : Arguments) :
    (∀ c, load files here args = .ok c ↔ ∃ settings base,
      Declares files (args.start here) settings base ∧ Merged here args settings base c) ∧
    ∀ dir files', Nearest files (args.start here) dir →
      (∀ l, dir <+: l → l <+: args.start here →
        files'.get? (l ++ [fileName]) = files.get? (l ++ [fileName])) →
      load files' here args = load files here args :=
  ⟨fun _ => load_eq_ok_iff, fun _ _ => load_congr⟩

/-- The file of a project inside another one. -/
def innerProject : String :=
  "[tool.locale_bootstrap]\nlocale='de'\nlocales_dir='../loc'"

/-- A project inside another one, whose file has this text. -/
def nestedProjects (outer : String) : Files.Tree where
  entries := [(["w"], .directory), (["w", "pyproject.toml"], .file (Text.encodeUtf8 outer)),
    (["w", "app"], .directory),
    (["w", "app", "pyproject.toml"], .file (Text.encodeUtf8 innerProject))]

/-- An empty argument does not count, an override does, the directory is relative to the file, and
the outer project may say what it likes. -/
theorem load_by_precedence_nested :
    let args : Arguments :=
      { locale := some "", overrides := [("locale", .string "it")],
        searchPath := some { names := ["app", "src"] } }
    let c : Config := { locale := some "it", localesDir := some (.ofLocation ["w", "loc"]) }
    load (nestedProjects "[tool.locale_bootstrap]\nlocale='fr'") ["w"] args = .ok c ∧
      load (nestedProjects "[") ["w"] args = .ok c := by
  intro args c
  have hnearest : Nearest (nestedProjects "[") ["w", "app", "src"] ["w", "app"] :=
    nearest?_eq_some_iff.mp (by decide +kernel)
  have hparsed : Toml.parse innerProject = some [("tool", .table [("locale_bootstrap", .table
      [("locale", .string "de"), ("locales_dir", .string "../loc")])])] := by rfl
  have hload : load (nestedProjects "[") ["w"] args = .ok c := by
    refine ((load_by_precedence _ _ _).1 c).mpr ⟨_, some ["w", "app"], .document hnearest
      ⟨_, rfl, Text.decodeUtf8_encodeUtf8 innerProject⟩ hparsed (.settings rfl rfl), ?_⟩
    have hdir : Located ["w"] (some ["w", "app"]) none (some (.string "../loc")) c.localesDir :=
      @Located.chosen _ _ (.string "../loc") (Files.Path.parse "../loc") rfl
    exact ⟨.checked rfl, .default, hdir, .default, .default, .default⟩
  have houter := (load_by_precedence (nestedProjects "[") ["w"] args).2 ["w", "app"]
    (nestedProjects "[tool.locale_bootstrap]\nlocale='fr'") hnearest
  refine ⟨(houter fun l hlow hhigh => ?_).trans hload, hload⟩
  -- the two trees differ in the outer project only
  have hl : l ∈ ancestors ["w", "app", "src"] := mem_ancestors_iff.mpr hhigh
  have hancestors : ancestors ["w", "app", "src"] =
      [["w", "app", "src"], ["w", "app"], ["w"], []] := by decide
  simp only [hancestors, List.mem_cons, List.not_mem_nil, or_false] at hl
  rcases hl with rfl | rfl | rfl | rfl
  · rfl
  · rfl
  · exact absurd hlow (by decide)
  · exact absurd hlow (by decide)

end LocaleRegistrar.Configuration
