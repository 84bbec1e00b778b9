import LocaleRegistrar.Proofs.Wording

/-! The names in a registration. They are checked in the order in which the text has them, part by
part where they have dots, so that a registration either can be built, and then says its three
lines, or is refused for the first of its names that is no identifier. -/

namespace LocaleRegistrar

namespace Python

/-- The first of some names that is no identifier. -/
def firstBad? (names : List String) : Option String :=
  names.find? fun name => !Text.isIdentifier name

/-- Why a text that is no identifier is refused. -/
def BadName.of (text : String) : BadName :=
  if text = "" then .empty else .notIdentifier text

/-- What is built checks these names in their order and nothing else: it is refused for the first of
them that is no identifier, and given if there is none. -/
structure ChecksNames {α : Type} (built : Except BadName α) (names : List String) : Prop where
  given : firstBad? names = none → ∃ a, built = .ok a
  refused : ∀ bad, firstBad? names = some bad → built = .error (.of bad)

theorem firstBad?_eq_none_iff {names : List String} :
    firstBad? names = none ↔ ∀ name ∈ names, Text.isIdentifier name = true := by
  simp [firstBad?]

theorem checkName_eq_error {text : String} (h : Text.isIdentifier text = false) :
    checkName text = .error (.of text) := by
  unfold checkName BadName.of
  split
  · rfl
  · rw [h]
    rfl

namespace ChecksNames

theorem pure {α : Type} (a : α) : ChecksNames (Pure.pure a) [] :=
  ⟨fun _ => ⟨a, rfl⟩, nofun⟩

/-- What is built in two steps checks the names of the first step first. -/
theorem bind {α β : Type} {first : Except BadName α} {next : α → Except BadName β}
    {names more : List String} (hfirst : ChecksNames first names)
    (hnext : ∀ a, ChecksNames (next a) more) : ChecksNames (first >>= next) (names ++ more) := by
  have happend : firstBad? (names ++ more) = (firstBad? names).or (firstBad? more) :=
    List.find?_append
  cases hnames : firstBad? names with
  | none =>
    obtain ⟨a, rfl⟩ := hfirst.given hnames
    rw [hnames, Option.none_or] at happend
    exact ⟨fun h => (hnext a).given (happend ▸ h), fun bad h => (hnext a).refused bad (happend ▸ h)⟩
  | some bad =>
    rw [hnames, Option.some_or] at happend
    refine ⟨fun h => ?_, fun other h => ?_⟩
    · rw [happend] at h
      cases h
    · rw [happend] at h
      obtain rfl := Option.some.inj h
      rw [hfirst.refused bad hnames]
      rfl

theorem nameNode (text : String) : ChecksNames (Python.nameNode text) [text] := by
  cases htext : Text.isIdentifier text with
  | true =>
    refine ⟨fun _ => ⟨_, nameNode_of_isIdentifier htext⟩, fun bad h => ?_⟩
    simp [firstBad?, htext] at h
  | false =>
    refine ⟨fun h => ?_, fun bad h => ?_⟩
    · simp [firstBad?, htext] at h
    · obtain rfl : text = bad := by simpa [firstBad?, htext] using h
      rw [Python.nameNode, checkName_eq_error htext]
      rfl

/-- The parts of a path are put on one by one. -/
theorem foldlM_memberNode (parts : List String) (value : Tree) :
    ChecksNames (parts.foldlM (fun value part => do
      return memberNode value (← Python.nameNode part)) value) parts := by
  induction parts generalizing value with
  | nil => exact pure value
  | cons part parts ih =>
    have hpart : ChecksNames (do return memberNode value (← Python.nameNode part)) ([part] ++ []) :=
      (nameNode part).bind fun attr => pure (memberNode value attr)
    exact hpart.bind ih

theorem dottedNode (path : String) :
    ChecksNames (Python.dottedNode path) (Text.fields '.' path) := by
  unfold Python.dottedNode
  split
  · next hnil => simp [Text.fields, Text.fieldsList_ne_nil] at hnil
  · next part parts hparts =>
    rw [hparts]
    exact (nameNode part).bind fun value => foldlM_memberNode parts value

end ChecksNames

end Python

namespace Registration

open LocaleRegistrar.Python

/-- The names that a registration is written with: the parts of the data module's path, the symbol,
the parts of the registry's path, and the function. -/
def writtenNames (settings : Settings) (locale : String) : List String :=
  Text.fields '.' (settings.localesPackage ++ "." ++ Locale.moduleName locale) ++
    ([Locale.symbol locale] ++
      (Text.fields '.' settings.registryModule ++ [settings.registerFunction]))

theorem statements_checksNames (settings : Settings) (locale : String) :
    ChecksNames (statements settings locale) (writtenNames settings locale) := by
  refine (ChecksNames.dottedNode _).bind fun path => ?_
  refine (ChecksNames.nameNode _).bind fun symbol => ?_
  refine (ChecksNames.dottedNode _).bind fun origin => ?_
  exact (ChecksNames.nameNode _).bind fun function => ChecksNames.pure _

/-- A registration whose names are all identifiers is built as three edits at the anchor, with
successive orders, which import the data module, import the function and call it. One with a name
that is no identifier is refused, for the first such name. -/
theorem build_checks_names (settings : Settings) (locale : String) (anchor : Option Nat)
    (start : Int) :
    ((∀ name ∈ writtenNames settings locale, Text.isIdentifier name = true) →
      ∃ dataImport registryImport call,
        build settings locale anchor start = .ok [⟨anchor, dataImport, start⟩,
          ⟨anchor, registryImport, start + 1⟩, ⟨anchor, call, start + 2⟩] ∧
        dataImport.alone = "import " ++ settings.localesPackage ++ "." ++
          Locale.moduleName locale ++ " as " ++ Locale.symbol locale ++ "\n" ∧
        registryImport.alone = "from " ++ settings.registryModule ++ " import " ++
          settings.registerFunction ++ "\n" ∧
        call.alone = settings.registerFunction ++ "(" ++ Locale.symbol locale ++ ")" ++ "\n") ∧
      ∀ bad, firstBad? (writtenNames settings locale) = some bad →
        build settings locale anchor start =
          .error (if bad = "" then .empty else .notIdentifier bad) := by
  refine ⟨fun hvalid => ?_, fun bad hbad => ?_⟩
  · obtain ⟨ss, hss⟩ :=
      (statements_checksNames settings locale).given (firstBad?_eq_none_iff.mpr hvalid)
    obtain ⟨dataImport, registryImport, call, rfl⟩ : ∃ a b c, ss = [a, b, c] := by
      obtain ⟨_, _, -, -, -, -, rfl⟩ := statements_eq_ok hss
      exact ⟨_, _, _, rfl⟩
    have halone := map_alone (statements_worded hss)
    simp only [wording, List.map_cons, List.map_nil, List.cons.injEq, and_true] at halone
    refine ⟨dataImport, registryImport, call, ?_, halone⟩
    have horder : start + 1 + 1 = start + 2 := by omega
    rw [build, hss, ← horder]
    rfl
  · rw [build, (statements_checksNames settings locale).refused bad hbad]
    rfl

/-- A locale with a dot in it has a data module two levels down; a superscript belongs to a word but
to no identifier, and is refused before the symbol that holds it too. -/
theorem build_checks_names_dot_and_superscript :
    (∃ dataImport registryImport call,
      build {} "zh-Hant.x" (some 3) 6 =
        .ok [⟨some 3, dataImport, 6⟩, ⟨some 3, registryImport, 7⟩, ⟨some 3, call, 8⟩] ∧
      dataImport.alone =
        "import i18n_common.locales.zh_Hant.x as __locale_zhHantx__\n" ∧
      registryImport.alone = "from i18n_common import register_locale_data\n" ∧
      call.alone = "register_locale_data(__locale_zhHantx__)\n") ∧
    build { localesPackage := "data", registerFunction := "" } "de.²" none 0 =
      .error (.notIdentifier "²") ∧
    build { localesPackage := "data.", registerFunction := "1" } "²" none 0 = .error .empty := by
  have hvalid : ∀ name ∈ writtenNames {} "zh-Hant.x", Text.isIdentifier name = true := by
    decide +kernel
  have hsuperscript : firstBad? (writtenNames { localesPackage := "data", registerFunction := "" }
      "de.²") = some "²" := by decide +kernel
  have hempty : firstBad? (writtenNames { localesPackage := "data.", registerFunction := "1" }
      "²") = some "" := by decide +kernel
  obtain ⟨dataImport, registryImport, call, hbuild, htexts⟩ :=
    (build_checks_names {} "zh-Hant.x" (some 3) 6).1 hvalid
  exact ⟨⟨dataImport, registryImport, call, hbuild, htexts⟩,
    (build_checks_names _ _ none 0).2 "²" hsuperscript,
    (build_checks_names _ _ none 0).2 "" hempty⟩

end Registration

end LocaleRegistrar
