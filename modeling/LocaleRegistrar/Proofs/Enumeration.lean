import LocaleRegistrar.Proofs.Resolution
import LocaleRegistrar.Proofs.Wording

/-! Locales that are listed from the data modules of a directory. The name of a data module is turned
into a locale id and back, which loses nothing if the name is an identifier. So what a request is
resolved to among the listed locales has a data module, and the registration imports that module. -/

namespace LocaleRegistrar

/-! ### Characters of identifiers -/

namespace Text

/-- A character that may not stand in an identifier does not. -/
theorem not_mem_of_isIdentifier {s : String} {c : Char} (h : isIdentifier s = true)
    (hc : isIdentifierPart c = false) : c ∉ s.toList := by
  intro hmem
  rw [forall_isIdentifierPart h c hmem] at hc
  cases hc

theorem fieldsList_of_not_mem {sep : Char} {cs : List Char} (h : sep ∉ cs) :
    fieldsList sep cs = [cs] := by
  induction cs with
  | nil => rfl
  | cons c rest ih =>
    have hc : c ≠ sep := fun he => h (he ▸ List.mem_cons_self)
    have hrest : sep ∉ rest := fun hmem => h (List.mem_cons_of_mem _ hmem)
    rw [fieldsList, if_neg hc, ih hrest]

theorem fields_of_not_mem {sep : Char} {s : String} (h : sep ∉ s.toList) : fields sep s = [s] := by
  simp [fields, fieldsList_of_not_mem h]

end Text

namespace Locale

/-! ### Ids and module names -/

/-- A module name without hyphens is found again from the id that is made of it. -/
theorem moduleName_ofModuleName {name : String} (h : '-' ∉ name.toList) :
    moduleName (ofModuleName name) = name := by
  refine String.toList_inj.mp ?_
  simp only [moduleName, ofModuleName, substitute, String.toList_ofList, List.map_map]
  refine (List.map_congr_left fun c hc => ?_).trans (List.map_id _)
  have hhyphen : c ≠ '-' := fun he => h (he ▸ hc)
  by_cases hunderscore : c = '_'
  · simp [hunderscore]
  · simp [hunderscore, hhyphen]

theorem moduleName_of_isIdentifier {name : String} (h : Text.isIdentifier name = true) :
    moduleName (ofModuleName name) = name :=
  moduleName_ofModuleName (Text.not_mem_of_isIdentifier h (by decide +kernel))

/-- The symbol of a locale is an identifier if its word characters may stand in one. -/
theorem isIdentifier_symbol {locale : String}
    (h : ∀ c ∈ locale.toList, Text.isWord c = true → Text.isIdentifierPart c = true) :
    Text.isIdentifier (symbol locale) = true := by
  refine Text.isIdentifier_iff.mpr ⟨'_', "_locale_".toList ++ locale.toList.filter Text.isWord ++
    "__".toList, by simp [symbol], by decide +kernel, ?_⟩
  simp only [List.forall_mem_append, List.mem_filter]
  exact ⟨⟨by decide +kernel, fun c hc => h c hc.1 hc.2⟩, by decide +kernel⟩

theorem isIdentifier_symbol_ofModuleName {name : String} (h : Text.isIdentifier name = true) :
    Text.isIdentifier (symbol (ofModuleName name)) = true := by
  refine isIdentifier_symbol fun c hc hword => ?_
  simp only [ofModuleName, substitute, String.toList_ofList, List.mem_map] at hc
  obtain ⟨d, hd, rfl⟩ := hc
  split
  · next hunderscore =>
    -- hyphens are no word characters, so none is left in the symbol
    rw [if_pos hunderscore] at hword
    exact absurd hword (by decide +kernel)
  · exact Text.forall_isIdentifierPart h d hd

/-! ### Resolution and enumeration -/

theorem mem_ofFileNames_iff {names : List String} {id : String} :
    id ∈ ofFileNames names ↔ ∃ name ∈ names, ∃ stem, stem? name = some stem ∧
      ofModuleName stem = id := by
  simp only [ofFileNames, List.mem_map, List.mem_mergeSort, List.mem_filterMap]
  constructor
  · rintro ⟨stem, ⟨name, hname, hstem⟩, hid⟩
    exact ⟨name, hname, stem, hstem, hid⟩
  · rintro ⟨name, hname, stem, hstem, hid⟩
    exact ⟨stem, ⟨name, hname, hstem⟩, hid⟩

/-- The name of a data module's file is that of the module with `.py` after it. -/
theorem eq_of_stem? {fileName stem : String} (h : stem? fileName = some stem) :
    fileName = stem ++ ".py" := by
  unfold stem? at h
  dsimp only at h
  split at h
  · next htest =>
    rw [Bool.and_eq_true, List.isSuffixOf_iff_suffix] at htest
    obtain ⟨⟨start, hstart⟩, -⟩ := htest
    cases h
    refine String.toList_inj.mp ?_
    rw [← hstart]
    simp
  · cases h

theorem matchesPattern_of_stem? {fileName stem : String} (h : stem? fileName = some stem) :
    Files.Tree.matchesPattern "*.py".toList fileName.toList = true := by
  have hpattern : "*.py".toList = '*' :: ".py".toList := by decide +kernel
  rw [hpattern, Files.Tree.matchesPattern_star (by decide +kernel), List.isSuffixOf_iff_suffix,
    eq_of_stem? h, String.toList_append]
  exact List.suffix_append _ _

/-- Every data module matches `*.py`, so that looking at such files alone loses none. -/
theorem ofFileNames_glob (t : Files.Tree) (l : Files.Location) :
    ofFileNames (fileNames (t.glob l "*.py")) = ofFileNames (fileNames (t.children l)) := by
  have hstems : (fileNames (t.glob l "*.py")).filterMap stem? =
      (fileNames (t.children l)).filterMap stem? := by
    unfold Files.Tree.glob fileNames
    rw [List.filterMap_filterMap, List.filterMap_filterMap, List.filterMap_filter]
    congr 1
    funext child
    obtain ⟨name, _ | _⟩ := child
    · split
      · rfl
      · next hmatch =>
        cases hstem : stem? name with
        | none => simp [hstem]
        | some stem => exact absurd (matchesPattern_of_stem? hstem) hmatch
    · split <;> rfl
  rw [ofFileNames, ofFileNames, hstems]

theorem Source.list_of_directory {s : Surroundings} {path : Files.Path} {l : Files.Location}
    (h : Source.directory? s path = some l) :
    Source.list s (.directory path) = ofFileNames (fileNames (s.files.children l)) := by
  rw [Source.list, h]
  exact ofFileNames_glob s.files l

/-- The data modules of a directory are all named by identifiers. -/
def NamedByIdentifiers (names : List String) : Prop :=
  ∀ name ∈ names, ∀ stem, stem? name = some stem → Text.isIdentifier stem = true

/-- Two data modules that give the same locale are the same file. -/
theorem eq_of_ofModuleName_eq {names : List String} (h : NamedByIdentifiers names)
    {first second x y : String} (hfirst : first ∈ names) (hsecond : second ∈ names)
    (hx : stem? first = some x) (hy : stem? second = some y)
    (heq : ofModuleName x = ofModuleName y) : first = second := by
  have hstems : x = y := by
    rw [← moduleName_of_isIdentifier (h first hfirst x hx), heq,
      moduleName_of_isIdentifier (h second hsecond y hy)]
  rw [eq_of_stem? hx, eq_of_stem? hy, hstems]

/-- What is resolved among the locales of data modules is the locale of one of them. -/
theorem exists_stem_of_resolve {names : List String} (h : NamedByIdentifiers names)
    {requested package : String} {resolution : Resolution}
    (hres : resolve requested (ofFileNames names) package = .ok resolution) :
    ∃ name ∈ names, ∃ stem, stem? name = some stem ∧ Text.isIdentifier stem = true ∧
      resolution.id = ofModuleName stem := by
  obtain ⟨name, hname, stem, hstem, hid⟩ := mem_ofFileNames_iff.mp (resolve_mem hres)
  exact ⟨name, hname, stem, hstem, h name hname stem hstem, hid.symm⟩

end Locale

namespace Registration

open LocaleRegistrar.Python

/-- The edits that register a locale with valid names can be built, and each says its line of the
wording. -/
theorem build_of_namesValid {settings : Settings} {locale : String}
    (h : NamesValid settings locale) (anchor : Option Nat) (start : Int) :
    ∃ edits, build settings locale anchor start = .ok edits ∧
      edits.map (·.statement.alone) = (wording settings locale).map (· ++ "\n") := by
  obtain ⟨ss, hss⟩ := statements_isOk_iff.mpr h
  refine ⟨editsAt anchor start ss, by rw [build, hss]; rfl, ?_⟩
  have hstatements := editsAt_map_statement anchor start ss
  rw [← map_alone (statements_worded hss), ← hstatements, List.map_map, hstatements]
  rfl

end Registration

namespace Configuration

open LocaleRegistrar.Data
open LocaleRegistrar.Locale
open LocaleRegistrar.Registration

/-- A data module that is named by an identifier can be imported. -/
theorem importable_ofModuleName {stem : String} (h : Text.isIdentifier stem = true) :
    Importable (ofModuleName stem) := by
  refine ⟨?_, isIdentifier_symbol_ofModuleName h⟩
  rw [moduleName_of_isIdentifier h,
    Text.fields_of_not_mem (Text.not_mem_of_isIdentifier h (by decide +kernel))]
  simpa using h

/-- What a request is resolved to among the locales of a directory has a data module there, no two
data modules give the same locale, and the registration imports the one that was found. -/
theorem resolved_data_module_imported {values : Table} {c : Config} (hc : check values = .ok c)
    {s : Surroundings} {path : Files.Path} {directory : Files.Location}
    (hdirectory : Source.directory? s path = some directory)
    (hnames : NamedByIdentifiers (fileNames (s.files.children directory)))
    {requested package : String} {resolution : Resolution}
    (hres : resolve requested (Source.list s (.directory path)) package = .ok resolution) :
    (∃ name ∈ fileNames (s.files.children directory),
        stem? name = some (moduleName resolution.id)) ∧
      (∀ first ∈ fileNames (s.files.children directory),
        ∀ second ∈ fileNames (s.files.children directory), ∀ x y,
          stem? first = some x → stem? second = some y → ofModuleName x = ofModuleName y →
            first = second) ∧
      ∀ anchor start, ∃ edit rest,
        build c.settings resolution.id anchor start = .ok (edit :: rest) ∧
          edit.statement.alone = "import " ++ c.settings.localesPackage ++ "." ++
            moduleName resolution.id ++ " as " ++ symbol resolution.id ++ "\n" := by
  rw [Source.list_of_directory hdirectory] at hres
  obtain ⟨name, hname, stem, hstem, hidentifier, hid⟩ := exists_stem_of_resolve hnames hres
  refine ⟨⟨name, hname, ?_⟩, fun first hfirst second hsecond x y hx hy =>
    eq_of_ofModuleName_eq hnames hfirst hsecond hx hy, fun anchor start => ?_⟩
  · rw [hid, moduleName_of_isIdentifier hidentifier, hstem]
  · have hvalid : NamesValid c.settings resolution.id :=
      namesValid_of_importable hc (hid ▸ importable_ofModuleName hidentifier)
    obtain ⟨edits, hedits, halone⟩ := build_of_namesValid hvalid anchor start
    cases edits with
    | nil => simp [wording] at halone
    | cons edit rest => exact ⟨edit, rest, hedits, (List.cons.inj halone).1⟩

/-- A directory with two data modules, a module of its own and a file that is no module. -/
def twoLocales : Surroundings where
  files := ⟨[(["locales"], .directory), (["locales", "__init__.py"], .file []),
    (["locales", "de.py"], .file []), (["locales", "en_US.py"], .file []),
    (["locales", "notes.txt"], .file [])]⟩

/-- A request in another spelling is met by the module that has the data. -/
theorem respelled_data_module_imported :
    resolve "EN_us" (Source.list twoLocales (.directory { names := ["locales"] })) =
        .ok (.respelled "en-US") ∧
      (∃ name ∈ fileNames (twoLocales.files.children ["locales"]),
        stem? name = some (moduleName "en-US")) ∧
      ∃ edit rest, build {} "en-US" none 0 = .ok (edit :: rest) ∧
        edit.statement.alone =
          "import i18n_common.locales.en_US as __locale_enUS__\n" := by
  have hcheck : check [] = .ok {} := rfl
  have hdirectory : Source.directory? twoLocales { names := ["locales"] } = some ["locales"] := by
    decide +kernel
  have hstems : (fileNames (twoLocales.files.children ["locales"])).filterMap stem? =
      ["de", "en_US"] := by decide +kernel
  have hnames : NamedByIdentifiers (fileNames (twoLocales.files.children ["locales"])) := by
    have hidentifiers : ∀ stem ∈ ["de", "en_US"], Text.isIdentifier stem = true := by
      decide +kernel
    intro name hname stem hstem
    exact hidentifiers stem (hstems ▸ List.mem_filterMap.mpr ⟨name, hname, hstem⟩)
  have hres : resolve "EN_us" (Source.list twoLocales (.directory { names := ["locales"] })) =
      .ok (.respelled "en-US") := by
    -- sorting does not reduce, but the names are listed in order
    have hsorted : ["de", "en_US"].mergeSort (fun a b => decide (a ≤ b)) = ["de", "en_US"] :=
      List.mergeSort_of_pairwise (by decide +kernel)
    simp only [Source.list_of_directory hdirectory, ofFileNames, hstems, hsorted]
    decide +kernel
  obtain ⟨hfile, -, hbuild⟩ := resolved_data_module_imported hcheck hdirectory hnames hres
  exact ⟨hres, hfile, hbuild none 0⟩

end Configuration

end LocaleRegistrar
