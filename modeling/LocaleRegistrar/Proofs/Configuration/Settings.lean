import LocaleRegistrar.Configuration.Check

/-! The settings of a configuration. A table is accepted exactly if every setting is, and each
setting is the checked form of the value given for it, or its default. So the names in a checked
configuration are identifiers. -/

namespace LocaleRegistrar.Configuration

open LocaleRegistrar.Data

/-- What a setting is: the checked form of the value that is given, or the default if none is. -/
inductive Takes {α : Type} (check : Value → Except Cause α) (default : α) :
    Option Value → α → Prop
  | default : Takes check default none default
  | checked {v : Value} {a : α} (accepted : check v = .ok a) : Takes check default (some v) a

/-- The settings of a configuration are those that come from the values given for them. -/
structure Settled (given : Field → Option Value) (c : Config) : Prop where
  locale : Takes checkOptionalString none (given .locale) c.locale
  entryModule : Takes checkEntry none (given .entryModule) c.entryModule
  localesDir : Takes checkPath none (given .localesDir) c.localesDir
  localesPackage : Takes checkModulePath Locale.defaultPackage (given .localesPackage)
    c.settings.localesPackage
  registryModule : Takes checkModulePath "i18n_common" (given .registryModule)
    c.settings.registryModule
  registerFunction : Takes checkFunctionName "register_locale_data" (given .registerFunction)
    c.settings.registerFunction

/-- The values that a table has for the settings. -/
def given (values : Table) (field : Field) : Option Value :=
  values.lookup field.key

theorem checkField_eq_ok_iff {α : Type} {values : Table} {field : Field} {default a : α}
    {check : Value → Except Cause α} :
    checkField values field default check = .ok a ↔
      Takes check default (given values field) a := by
  unfold checkField given
  cases values.lookup field.key with
  | none =>
    constructor
    · intro h
      obtain rfl := Except.ok.inj h
      exact .default
    · rintro ⟨⟩
      rfl
  | some v =>
    dsimp only
    cases hv : check v with
    | ok b =>
      constructor
      · intro h
        obtain rfl := Except.ok.inj h
        exact .checked hv
      · rintro (_ | hchecked)
        obtain rfl := Except.ok.inj (hv.symm.trans hchecked)
        rfl
    | error cause =>
      constructor
      · intro h
        cases h
      · rintro (_ | hchecked)
        cases hv.symm.trans hchecked

/-- A table is accepted exactly if each setting is. -/
theorem check_eq_ok_iff {values : Table} {c : Config} :
    check values = .ok c ↔ Settled (given values) c := by
  constructor
  · intro h
    unfold check at h
    dsimp only at h
    split at h
    next hlocale hentry hdir hpackage hregistry hfunction =>
      obtain rfl := Except.ok.inj h
      exact ⟨checkField_eq_ok_iff.mp hlocale, checkField_eq_ok_iff.mp hentry,
        checkField_eq_ok_iff.mp hdir, checkField_eq_ok_iff.mp hpackage,
        checkField_eq_ok_iff.mp hregistry, checkField_eq_ok_iff.mp hfunction⟩
    next => cases h
  · intro h
    unfold check
    dsimp only
    rw [checkField_eq_ok_iff.mpr h.locale, checkField_eq_ok_iff.mpr h.entryModule,
      checkField_eq_ok_iff.mpr h.localesDir, checkField_eq_ok_iff.mpr h.localesPackage,
      checkField_eq_ok_iff.mpr h.registryModule, checkField_eq_ok_iff.mpr h.registerFunction]

/-! ### Names -/

theorem checkTrimmed_eq_ok_iff {accepts : String → Bool} {cause : String → Cause} {v : Value}
    {text : String} :
    checkTrimmed accepts cause v = .ok text ↔
      ∃ s, v = .string s ∧ text = Text.trim s ∧ accepts text = true := by
  constructor
  · intro h
    unfold checkTrimmed at h
    split at h
    · next s =>
      split at h
      · next haccepts =>
        obtain rfl := Except.ok.inj h
        exact ⟨s, rfl, rfl, haccepts⟩
      · cases h
    · cases h
  · rintro ⟨s, rfl, rfl, haccepts⟩
    exact if_pos haccepts

/-- A setting that is checked in this way is accepted if its default is. -/
theorem Takes.accepts {accepts : String → Bool} {cause : String → Cause} {default text : String}
    {v : Option Value} (h : Takes (checkTrimmed accepts cause) default v text)
    (hdefault : accepts default = true) : accepts text = true := by
  cases h with
  | default => exact hdefault
  | checked accepted =>
    obtain ⟨-, -, -, haccepts⟩ := checkTrimmed_eq_ok_iff.mp accepted
    exact haccepts

/-- The names in a checked configuration are identifiers. -/
theorem Settled.names {given : Field → Option Value} {c : Config} (h : Settled given c) :
    (∀ part ∈ Text.fields '.' c.settings.localesPackage, Text.isIdentifier part = true) ∧
      (∀ part ∈ Text.fields '.' c.settings.registryModule, Text.isIdentifier part = true) ∧
      Text.isIdentifier c.settings.registerFunction = true := by
  refine ⟨?_, ?_, ?_⟩
  · exact List.all_eq_true.mp (h.localesPackage.accepts (by decide +kernel))
  · exact List.all_eq_true.mp (h.registryModule.accepts (by decide +kernel))
  · exact h.registerFunction.accepts (by decide +kernel)

end LocaleRegistrar.Configuration
