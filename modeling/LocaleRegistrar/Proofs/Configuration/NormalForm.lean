import LocaleRegistrar.Proofs.Configuration.Settings
import LocaleRegistrar.Proofs.Naming
import LocaleRegistrar.Proofs.Reference

/-! Checked configurations are normal forms. Main statement: the values of a checked configuration
are checked to the same configuration, its class can be read, and its names are identifiers, so that
only the locale can keep a registration from being built. -/

namespace LocaleRegistrar.Configuration

open LocaleRegistrar.Bootstrap
open LocaleRegistrar.Data
open LocaleRegistrar.Python
open LocaleRegistrar.Registration

/-! ### The values of a configuration -/

/-- A text, or nothing. -/
def textValue : Option String → Value
  | some s => .string s
  | none => .null

/-- A path, or nothing. -/
def pathValue : Option Files.Path → Value
  | some p => .path p
  | none => .null

/-- The value that a configuration has for a setting. -/
def Config.value (c : Config) : Field → Value
  | .locale => textValue c.locale
  | .entryModule => textValue c.entryModule
  | .localesDir => pathValue c.localesDir
  | .localesPackage => .string c.settings.localesPackage
  | .registryModule => .string c.settings.registryModule
  | .registerFunction => .string c.settings.registerFunction

/-- The values that a configuration has for all settings. -/
def Config.values (c : Config) : Table :=
  [Field.locale, .entryModule, .localesDir, .localesPackage, .registryModule,
    .registerFunction].map fun field => (field.key, c.value field)

theorem given_values (c : Config) : given c.values = fun field => some (c.value field) := by
  funext field
  cases field <;> rfl

/-- If a check accepts the default and what it has accepted before, it accepts every setting. -/
theorem Takes.again {α : Type} {check : Value → Except Cause α} {default a : α} {v : Option Value}
    (h : Takes check default v a) (value : α → Value)
    (hdefault : check (value default) = .ok default)
    (hchecked : ∀ v a, check v = .ok a → check (value a) = .ok a) :
    Takes check default (some (value a)) a := by
  cases h with
  | default => exact .checked hdefault
  | checked accepted => exact .checked (hchecked _ _ accepted)

theorem checkOptionalString_textValue (s : Option String) :
    checkOptionalString (textValue s) = .ok s := by
  cases s <;> rfl

theorem checkPath_pathValue (p : Option Files.Path) : checkPath (pathValue p) = .ok p := by
  cases p <;> rfl

/-- What the check of a reference accepts: nothing, or the text of a reference. -/
theorem checkEntry_eq_ok_iff {v : Value} {reference : Option String} :
    checkEntry v = .ok reference ↔ v = .null ∧ reference = none ∨
      ∃ text e, v = .string text ∧ Entry.parse text = .ok e ∧ reference = some e.text := by
  cases v with
  | null => simp [checkEntry, checkOptionalString, bind, Except.bind, pure, Except.pure, eq_comm]
  | string text =>
    cases hparse : Entry.parse text with
    | ok e =>
      simp [checkEntry, checkOptionalString, bind, Except.bind, pure, Except.pure, hparse, eq_comm]
    | error bad => simp [checkEntry, checkOptionalString, bind, Except.bind, hparse, throw,
        throwThe, MonadExceptOf.throw]
  | _ => simp [checkEntry, checkOptionalString, bind, Except.bind]

theorem checkEntry_again (v : Value) (reference : Option String)
    (h : checkEntry v = .ok reference) : checkEntry (textValue reference) = .ok reference := by
  obtain ⟨-, rfl⟩ | ⟨text, e, -, hparse, rfl⟩ := checkEntry_eq_ok_iff.mp h
  · rfl
  · exact checkEntry_eq_ok_iff.mpr
      (.inr ⟨e.text, e, rfl, Entry.parse_text_of_parse hparse, rfl⟩)

theorem checkTrimmed_again {accepts : String → Bool} {cause : String → Cause} (v : Value)
    (text : String) (h : checkTrimmed accepts cause v = .ok text) :
    checkTrimmed accepts cause (.string text) = .ok text := by
  obtain ⟨given, -, rfl, haccepts⟩ := checkTrimmed_eq_ok_iff.mp h
  exact checkTrimmed_eq_ok_iff.mpr ⟨_, rfl, (Text.trim_trim given).symm, haccepts⟩

/-- The values of a checked configuration are checked to the same configuration. -/
theorem check_values {given : Field → Option Value} {c : Config} (h : Settled given c) :
    check c.values = .ok c := by
  rw [check_eq_ok_iff, given_values]
  refine ⟨?_, ?_, ?_, ?_, ?_, ?_⟩
  · exact h.locale.again textValue rfl fun _ s _ => checkOptionalString_textValue s
  · exact h.entryModule.again textValue rfl checkEntry_again
  · exact h.localesDir.again pathValue rfl fun _ p _ => checkPath_pathValue p
  · exact h.localesPackage.again .string (by rfl) checkTrimmed_again
  · exact h.registryModule.again .string (by rfl) checkTrimmed_again
  · exact h.registerFunction.again .string (by rfl) checkTrimmed_again

/-! ### The class that is configured -/

/-- There is no class where none is given, and otherwise it is the one that the given text refers
to, kept in its usual form. -/
theorem Settled.entry_cases {given : Field → Option Value} {c : Config} (h : Settled given c) :
    (given .entryModule = none ∨ given .entryModule = some .null) ∧ c.entryModule = none ∧
        c.entry = none ∨
      ∃ text e, given .entryModule = some (.string text) ∧ Entry.parse text = .ok e ∧
        c.entryModule = some e.text ∧ c.entry = some e := by
  have hentry := h.entryModule
  rw [Config.entry]
  generalize given .entryModule = v at hentry ⊢
  generalize c.entryModule = reference at hentry ⊢
  cases hentry with
  | default => exact .inl ⟨.inl rfl, rfl, rfl⟩
  | checked accepted =>
    obtain ⟨rfl, rfl⟩ | ⟨text, e, rfl, hparse, rfl⟩ := checkEntry_eq_ok_iff.mp accepted
    · exact .inl ⟨.inr rfl, rfl, rfl⟩
    · refine .inr ⟨text, e, rfl, hparse, rfl, ?_⟩
      rw [Option.bind_some, Entry.parse_text_of_parse hparse]
      rfl

/-- A checked reference can be read. -/
theorem Settled.mapM_parse {given : Field → Option Value} {c : Config} (h : Settled given c) :
    c.entryModule.mapM Entry.parse = .ok c.entry := by
  obtain ⟨-, hreference, hentry⟩ | ⟨text, e, -, hparse, hreference, hentry⟩ := h.entry_cases
  · rw [hreference, hentry]
    rfl
  · rw [hreference, hentry, Option.mapM_some, Entry.parse_text_of_parse hparse]
    rfl

theorem Settled.entry_eq_none_iff {given : Field → Option Value} {c : Config}
    (h : Settled given c) :
    c.entry = none ↔ given .entryModule = none ∨ given .entryModule = some .null := by
  obtain ⟨hgiven, -, hentry⟩ | ⟨text, e, hgiven, -, -, hentry⟩ := h.entry_cases
  · simp only [hentry, hgiven]
  · simp [hentry, hgiven]

theorem Settled.entry_eq_some_iff {given : Field → Option Value} {c : Config} (h : Settled given c)
    (e : Entry) :
    c.entry = some e ↔ ∃ text, given .entryModule = some (.string text) ∧
      Entry.parse text = .ok e := by
  obtain ⟨hgiven | hgiven, -, hentry⟩ | ⟨text, e', hgiven, hparse, -, hentry⟩ := h.entry_cases
  · simp [hentry, hgiven]
  · simp [hentry, hgiven]
  · simp [hentry, hgiven, hparse]

/-! ### Building a registration -/

/-- The names that a registration takes from the locale: the parts of its data module's name, and
the symbol. -/
def localeNames (locale : String) : List String :=
  Text.fields '.' (Locale.moduleName locale) ++ [Locale.symbol locale]

theorem firstBad?_append (names more : List String) :
    firstBad? (names ++ more) = (firstBad? names).or (firstBad? more) :=
  List.find?_append

/-- Where the settings are made of identifiers, the first name that is none is the locale's. -/
theorem firstBad?_writtenNames {settings : Settings}
    (hpackage : ∀ part ∈ Text.fields '.' settings.localesPackage, Text.isIdentifier part = true)
    (hregistry : ∀ part ∈ Text.fields '.' settings.registryModule, Text.isIdentifier part = true)
    (hfunction : Text.isIdentifier settings.registerFunction = true) (locale : String) :
    firstBad? (writtenNames settings locale) = firstBad? (localeNames locale) := by
  have hpackage := firstBad?_eq_none_iff.mpr hpackage
  have hregistry := firstBad?_eq_none_iff.mpr hregistry
  have hfunction : firstBad? [settings.registerFunction] = none :=
    firstBad?_eq_none_iff.mpr (by simpa using hfunction)
  rw [writtenNames, localeNames, Text.fields_dot_append]
  simp only [firstBad?_append, hpackage, hregistry, hfunction, Option.none_or, Option.or_none]

/-- The edits of a registration are built from its statements and check the same names. -/
theorem build_checksNames (settings : Settings) (locale : String) (anchor : Option Nat)
    (start : Int) :
    ChecksNames (build settings locale anchor start) (writtenNames settings locale) := by
  have hbuild := (statements_checksNames settings locale).bind fun statements =>
    ChecksNames.pure (editsAt anchor start statements)
  rwa [List.append_nil] at hbuild

/-- A checked configuration is a normal form. Its values are checked to the same configuration. Its
reference can be read and gives the class that the original value refers to, or none exactly if that
was missing or null. Its names are identifiers, so that a registration is refused only for a name
that comes from the locale. -/
theorem checked_normal_form {values : Table} {c : Config} (h : check values = .ok c) :
    check c.values = .ok c ∧
    (c.entryModule.mapM Entry.parse = .ok c.entry ∧
      (∀ e, c.entry = some e ↔ ∃ text, values.lookup Field.entryModule.key = some (.string text) ∧
        Entry.parse text = .ok e) ∧
      (c.entry = none ↔ values.lookup Field.entryModule.key = none ∨
        values.lookup Field.entryModule.key = some .null)) ∧
    (∀ part ∈ Text.fields '.' c.settings.localesPackage, Text.isIdentifier part = true) ∧
    (∀ part ∈ Text.fields '.' c.settings.registryModule, Text.isIdentifier part = true) ∧
    Text.isIdentifier c.settings.registerFunction = true ∧
    ∀ locale anchor start,
      ChecksNames (build c.settings locale anchor start) (localeNames locale) := by
  have hsettled := check_eq_ok_iff.mp h
  obtain ⟨hpackage, hregistry, hfunction⟩ := hsettled.names
  refine ⟨check_values hsettled, ⟨hsettled.mapM_parse, hsettled.entry_eq_some_iff,
    hsettled.entry_eq_none_iff⟩, hpackage, hregistry, hfunction, fun locale anchor start => ?_⟩
  have hnames := firstBad?_writtenNames hpackage hregistry hfunction locale
  have hbuild := build_checksNames c.settings locale anchor start
  exact ⟨fun hnone => hbuild.given (hnames.trans hnone),
    fun bad hbad => hbuild.refused bad (hnames.trans hbad)⟩

/-- Values between blanks, with a path and a key that is no setting. The names are kept without the
blanks, and a registration is refused for a locale with a blank in it. -/
theorem checked_normal_form_blanks :
    let c : Config :=
      { entryModule := some "src#v2#App", localesDir := some { names := ["loc"] },
        settings := { localesPackage := "data.locales", registerFunction := "f" } }
    check [("entry_module", .string " src#v2 #\u3000App"),
      ("locales_dir", .path { names := ["loc"] }), ("locales_package", .string "\tdata.locales "),
      ("register_function", .string "f\n"), ("locale", .null), ("other", .integer 3)] = .ok c ∧
    check c.values = .ok c ∧ c.entry = some ⟨"src#v2", "App"⟩ ∧
    build c.settings "de CH" none 0 = .error (.notIdentifier "de CH") := by
  intro c
  have hcheck : check [("entry_module", .string " src#v2 #\u3000App"),
      ("locales_dir", .path { names := ["loc"] }), ("locales_package", .string "\tdata.locales "),
      ("register_function", .string "f\n"), ("locale", .null), ("other", .integer 3)] = .ok c := by
    rfl
  obtain ⟨hvalues, ⟨-, hentry, -⟩, -, -, -, hbuild⟩ := checked_normal_form hcheck
  refine ⟨hcheck, hvalues, (hentry _).mpr ⟨_, rfl, by decide +kernel⟩, ?_⟩
  exact (hbuild "de CH" none 0).refused "de CH" (by decide +kernel)

end LocaleRegistrar.Configuration
