import LocaleRegistrar.Proofs.Configuration.Settings
import LocaleRegistrar.Proofs.Planning
import LocaleRegistrar.Registration.Outcome

/-! Which runs complete. A run over a text gives an outcome unless the text has a bootstrap site for
which no registration can be written: the site stands in the prologue of the split module, or the
locale that the request resolves to has no module name or no symbol. A run that gives a failed
outcome leaves the text as it was and says why. -/

namespace LocaleRegistrar

/-! ### Names -/

namespace Text

theorem fieldsList_append (sep : Char) (a b : List Char) :
    fieldsList sep (a ++ sep :: b) = fieldsList sep a ++ fieldsList sep b := by
  induction a with
  | nil => simp [fieldsList]
  | cons c rest ih =>
    simp only [List.cons_append, fieldsList]
    split
    · rw [ih, List.cons_append]
    · rw [ih]
      cases hrest : fieldsList sep rest with
      | nil => exact absurd hrest (fieldsList_ne_nil sep rest)
      | cons field fields => simp

/-- The fields of two paths with a dot between them are those of the first and those of the
second. -/
theorem fields_dot_append (a b : String) :
    fields '.' (a ++ "." ++ b) = fields '.' a ++ fields '.' b := by
  have hchars : (a ++ "." ++ b).toList = a.toList ++ '.' :: b.toList := by simp
  rw [fields, fields, fields, hchars, fieldsList_append, List.map_append]

theorem isIdentifier_ne_empty {s : String} (h : isIdentifier s = true) : s ≠ "" := by
  rintro rfl
  simp [isIdentifier, isIdentifierList] at h

end Text

namespace Python

theorem checkName_eq_ok_iff {text : String} :
    checkName text = .ok () ↔ Text.isIdentifier text = true := by
  unfold checkName
  constructor
  · intro h
    split at h
    · simp at h
    · split at h
      next hid => exact hid
      next => simp at h
  · intro h
    rw [if_neg (Text.isIdentifier_ne_empty h), if_pos h]

theorem nameNode_of_isIdentifier {text : String} (h : Text.isIdentifier text = true) :
    nameNode text = .ok (.ofName text) := by
  rw [nameNode, checkName_eq_ok_iff.mpr h]
  rfl

/-- What is built from a name that is no identifier is refused. -/
theorem nameNode_isOk_iff {text : String} :
    (∃ t, nameNode text = .ok t) ↔ Text.isIdentifier text = true := by
  constructor
  · rintro ⟨t, h⟩
    refine checkName_eq_ok_iff.mp ?_
    unfold nameNode at h
    cases hc : checkName text with
    | error bad => simp [hc, bind, Except.bind] at h
    | ok _ => rfl
  · exact fun h => ⟨_, nameNode_of_isIdentifier h⟩

theorem foldlM_memberNode_isOk_iff (parts : List String) (value : Tree) :
    (∃ t, parts.foldlM (fun value part => do return memberNode value (← nameNode part)) value =
      Except.ok t) ↔ ∀ part ∈ parts, Text.isIdentifier part = true := by
  induction parts generalizing value with
  | nil => simp [pure, Except.pure]
  | cons part parts ih =>
    rw [List.forall_mem_cons, ← nameNode_isOk_iff, List.foldlM_cons]
    cases hp : nameNode part with
    | error bad => simp [bind, Except.bind]
    | ok attr =>
      simp only [bind, Except.bind, pure, Except.pure, Except.ok.injEq, exists_eq', true_and]
      exact ih (memberNode value attr)

/-- A dotted path is accepted if all its parts are identifiers. -/
theorem dottedNode_isOk_iff {path : String} :
    (∃ t, dottedNode path = .ok t) ↔
      ∀ part ∈ Text.fields '.' path, Text.isIdentifier part = true := by
  unfold dottedNode
  split
  next hnil => simp [Text.fields, Text.fieldsList_ne_nil] at hnil
  next part parts hparts =>
    rw [hparts, List.forall_mem_cons, ← nameNode_isOk_iff]
    cases hp : nameNode part with
    | error bad => simp [bind, Except.bind]
    | ok value =>
      simp only [bind, Except.bind, Except.ok.injEq, exists_eq', true_and]
      exact foldlM_memberNode_isOk_iff parts value

end Python

namespace Registration

open LocaleRegistrar.Python
open LocaleRegistrar.Bootstrap

/-- The names that a registration is written with are all identifiers. -/
structure NamesValid (settings : Settings) (locale : String) : Prop where
  package : ∀ part ∈ Text.fields '.' settings.localesPackage, Text.isIdentifier part = true
  module : ∀ part ∈ Text.fields '.' (Locale.moduleName locale), Text.isIdentifier part = true
  symbol : Text.isIdentifier (Locale.symbol locale) = true
  registry : ∀ part ∈ Text.fields '.' settings.registryModule, Text.isIdentifier part = true
  function : Text.isIdentifier settings.registerFunction = true

theorem statements_isOk_iff {settings : Settings} {locale : String} :
    (∃ ss, statements settings locale = .ok ss) ↔ NamesValid settings locale := by
  constructor
  · rintro ⟨ss, h⟩
    obtain ⟨path, origin, hpath, horigin, hsymbol, hfunction, -⟩ := statements_eq_ok h
    have hparts := dottedNode_isOk_iff.mp ⟨path, hpath⟩
    rw [Text.fields_dot_append, List.forall_mem_append] at hparts
    exact ⟨hparts.1, hparts.2, checkName_eq_ok_iff.mp hsymbol,
      dottedNode_isOk_iff.mp ⟨origin, horigin⟩, checkName_eq_ok_iff.mp hfunction⟩
  · rintro ⟨hpackage, hmodule, hsymbol, hregistry, hfunction⟩
    have hparts := List.forall_mem_append.mpr ⟨hpackage, hmodule⟩
    rw [← Text.fields_dot_append] at hparts
    obtain ⟨path, hpath⟩ := dottedNode_isOk_iff.mpr hparts
    obtain ⟨origin, horigin⟩ := dottedNode_isOk_iff.mpr hregistry
    refine ⟨[importStatement path (.ofName (Locale.symbol locale)),
      importFromStatement origin (.ofName settings.registerFunction),
      callStatement (.ofName settings.registerFunction) (.ofName (Locale.symbol locale))], ?_⟩
    rw [statements, hpath, nameNode_of_isIdentifier hsymbol, horigin,
      nameNode_of_isIdentifier hfunction]
    rfl

/-! ### Plans without edits -/

/-- Planned edits can always be put in. -/
theorem outcome_success {r : Request} {available : List String} {m : Python.Module} {code : String}
    {edits : List Edit} (h : r.plan available m = .ok edits) (hne : edits ≠ []) :
    (Request.outcome code m edits).success = true := by
  obtain ⟨-, rfl⟩ | ⟨resolution, ss, hp⟩ := plan_ok_cases h
  · exact absurd rfl hne
  · rw [Request.outcome, hp.apply_eq]

/-- A run that changes the text puts planned edits into the split module. -/
theorem run_changed {r : Request} {available : List String} {code : String} {o : Outcome}
    (h : r.run available code = .ok o) (hchanged : o.changed = true) :
    ∃ m edits resolution ss, parseModule code = some m ∧
      Planned r available (splitFutureImports m) edits resolution ss ∧
      o = Request.outcome code (splitFutureImports m) edits := by
  unfold Request.run at h
  split at h
  · cases h
    cases hchanged
  · next m hm =>
    dsimp only at h
    split at h
    · cases h
      cases hchanged
    · cases h
    · cases h
      cases hchanged
    · next edit edits hplan =>
      obtain ⟨-, hnil⟩ | ⟨resolution, ss, hp⟩ := plan_ok_cases hplan
      · cases hnil
      · exact ⟨m, _, resolution, ss, hm, hp, by simpa using h.symm⟩

/-- A run that succeeds and changes nothing leaves a module as it was. -/
theorem run_unchanged {r : Request} {available : List String} {code : String} {o : Outcome}
    (h : r.run available code = .ok o) (hsuccess : o.success = true) (hchanged : o.changed = false) :
    o.code = code ∧ (parseModule code).isSome := by
  unfold Request.run at h
  split at h
  · cases h
    cases hsuccess
  · next m hm =>
    refine ⟨?_, by simp [hm]⟩
    dsimp only at h
    split at h
    · cases h
      cases hsuccess
    · cases h
    · cases h
      rfl
    · next edit edits hplan =>
      obtain ⟨-, hnil⟩ | ⟨resolution, ss, hp⟩ := plan_ok_cases hplan
      · cases hnil
      · cases h
        simp [Request.outcome, hp.apply_eq] at hchanged

/-- A failed outcome is that of a text that is no module or of a locale that is not available. -/
theorem run_failed {r : Request} {available : List String} {code : String} {o : Outcome}
    (h : r.run available code = .ok o) (hfail : o.success = false) :
    ∃ error, o = .failed code error := by
  unfold Request.run at h
  split at h
  · exact ⟨_, by simpa using h.symm⟩
  · dsimp only at h
    split at h
    · exact ⟨_, by simpa using h.symm⟩
    · simp at h
    · obtain rfl : _ = o := by simpa using h
      simp at hfail
    next edit edits hplan =>
      obtain rfl : _ = o := by simpa using h
      simp [outcome_success hplan (by simp)] at hfail

end Registration

/-! ### Checked configurations -/

namespace Configuration

open LocaleRegistrar.Python
open LocaleRegistrar.Bootstrap
open LocaleRegistrar.Data
open LocaleRegistrar.Registration

/-- A locale's data can be imported and bound: the parts of its module name and its symbol are
identifiers. -/
def Importable (locale : String) : Prop :=
  (∀ part ∈ Text.fields '.' (Locale.moduleName locale), Text.isIdentifier part = true) ∧
    Text.isIdentifier (Locale.symbol locale) = true

/-- The names of a registration with checked settings are valid if the locale can be imported. -/
theorem namesValid_of_importable {values : Table} {c : Config} (hc : check values = .ok c)
    {locale : String} (h : Importable locale) : NamesValid c.settings locale := by
  obtain ⟨hpackage, hregistry, hfunction⟩ := (check_eq_ok_iff.mp hc).names
  exact ⟨hpackage, h.1, h.2, hregistry, hfunction⟩

end Configuration

end LocaleRegistrar
