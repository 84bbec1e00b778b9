import LocaleRegistrar.Proofs.FlatOrder
import LocaleRegistrar.Proofs.Passes

/-! The place of future imports. Python has a rule for it that is about the flat order of small
statements, while code is put between lines. Main statement: in every module that keeps the rule, a
registration leaves everything before a future import as it was. -/

namespace LocaleRegistrar.Bootstrap

open LocaleRegistrar.Python

/-! ### The rule for future imports -/

/-- Does this import start from the package that the module is in? There are dots before the name of
the module then. -/
def isRelative (content : Python.Tree) : Bool :=
  (content.parts.takeWhile fun part => !part.isNode).any fun
    | .piece (.text dots) => dots = "." || dots = "..."
    | _ => false

namespace Element

/-- Is this a future import? Python has only imports from the module `__future__` itself in mind, and
with `relative` those from a module of that name in a package count too. -/
def isFuture (relative : Bool) : Element → Bool
  | small content => isFutureSmall { content } && (relative || !isRelative content)
  | whole _ => false

def isString : Element → Bool
  | small content => isStringExpression { content }
  | whole _ => false

end Element

/-- What may come before a future import: a string at the very start, and future imports. -/
def MayPrecede (relative : Bool) (before : List Element) : Prop :=
  (∀ d ∈ before.head?, d.isString = true ∨ d.isFuture relative = true) ∧
    ∀ d ∈ before.tail, d.isFuture relative = true

/-- The rule that Python has for the place of future imports. -/
def FuturesFirst (relative : Bool) (es : List Element) : Prop :=
  ∀ before e after, es = before ++ e :: after → e.isFuture relative = true →
    MayPrecede relative before

theorem futuresFirst_iff {relative : Bool} {es : List Element} :
    FuturesFirst relative es ↔
      ∀ i : Fin es.length, es[i].isFuture relative = true → MayPrecede relative (es.take i) := by
  constructor
  · intro h i
    refine h _ es[i] (es.drop (i + 1)) ?_
    rw [Fin.getElem_fin, List.getElem_cons_drop, List.take_append_drop]
  · rintro h before e after rfl hfuture
    have hi := h ⟨before.length, by simp⟩
    simp only [Fin.getElem_fin, List.getElem_append_right (Nat.le_refl _), Nat.sub_self,
      List.getElem_cons_zero, List.take_left] at hi
    exact hi hfuture

/-- Statements that are no future imports come before one only as a string at the very start. -/
theorem MayPrecede.eq_string {relative : Bool} {front ds between : List Element}
    (h : MayPrecede relative (front ++ ds ++ between)) (hne : ds ≠ [])
    (hnone : ∀ d ∈ ds, d.isFuture relative = false) :
    front = [] ∧ ∃ d, ds = [d] ∧ d.isString = true := by
  obtain ⟨hhead, htail⟩ := h
  obtain ⟨d, others, rfl⟩ := List.exists_cons_of_ne_nil hne
  have hd := hnone d List.mem_cons_self
  cases front with
  | cons f fs =>
    have hd' := htail d (by simp)
    simp [hd] at hd'
  | nil =>
    cases others with
    | cons x xs =>
      have hx := hnone x (by simp)
      have hx' := htail x (by simp)
      simp [hx] at hx'
    | nil => exact ⟨rfl, d, rfl, by simpa [hd] using hhead d rfl⟩

instance (relative : Bool) (before : List Element) : Decidable (MayPrecede relative before) :=
  inferInstanceAs (Decidable (_ ∧ _))

instance (relative : Bool) (es : List Element) : Decidable (FuturesFirst relative es) :=
  decidable_of_iff _ futuresFirst_iff.symm

theorem not_isFuture_of_mem_elements (relative : Bool) {s : Statement}
    (hs : isFutureImport s = false) : ∀ e ∈ elements s, e.isFuture relative = false := by
  intro e he
  by_contra hfuture
  rw [Bool.not_eq_false] at hfuture
  suffices isFutureImport s = true by simp [hs] at this
  unfold elements at he
  split at he
  · cases List.mem_singleton.mp he
    cases hfuture
  · obtain ⟨small, hsmall, rfl⟩ := List.mem_map.mp he
    exact List.any_eq_true.mpr ⟨small, hsmall, (Bool.and_eq_true_iff.mp hfuture).1⟩
  · cases List.mem_singleton.mp he
    cases hfuture

theorem isDocstring_of_elements {s : Statement} {d : Element} (hs : elements s = [d])
    (hd : d.isString = true) : isDocstring s = true := by
  unfold elements at hs
  split at hs
  · cases hs
    cases hd
  next line _ =>
    obtain ⟨small, hbody, rfl⟩ := List.map_eq_singleton_iff.mp hs
    obtain ⟨leading, body, tail⟩ := line
    subst hbody
    exact hd
  · cases hs
    cases hd

/-- The prologue ends at the first line after its start that holds no future import. -/
theorem not_isFutureImport_after_prologue {body rest : List Statement} {s : Statement}
    (h : body.drop (prologueLength body) = s :: rest) : isFutureImport s = false := by
  cases body with
  | nil => simp at h
  | cons first others =>
    rw [prologueLength] at h
    split at h
    · have hothers := List.takeWhile_append_dropWhile (p := isFutureImport) (l := others)
      have hdrop : others.dropWhile isFutureImport = s :: rest := by
        rw [List.drop_succ_cons] at h
        nth_rewrite 2 [← hothers] at h
        rwa [List.drop_left] at h
      simpa [hdrop] using List.head?_dropWhile_not isFutureImport others
    next hfirst =>
      obtain ⟨rfl, -⟩ := List.cons.inj h
      simp only [Bool.or_eq_true, not_or, Bool.not_eq_true] at hfirst
      exact hfirst.2

theorem prologueLength_ne_zero {s : Statement} {rest : List Statement}
    (h : isDocstring s = true) : prologueLength (s :: rest) ≠ 0 := by
  simp [prologueLength, h]

/-- Where the rule is kept, all future imports are in the prologue. -/
theorem FuturesFirst.after_prologue {relative : Bool} {body : List Statement}
    (h : FuturesFirst relative (flatOrder body)) :
    ∀ e ∈ flatOrder (body.drop (prologueLength body)), e.isFuture relative = false := by
  intro e he
  by_contra hfuture
  rw [Bool.not_eq_false] at hfuture
  cases hdrop : body.drop (prologueLength body) with
  | nil => simp [hdrop, flatOrder] at he
  | cons s rest =>
    have hnone := not_isFuture_of_mem_elements relative (not_isFutureImport_after_prologue hdrop)
    -- the future import comes in a later statement, and all of this one stands before it
    rw [hdrop, flatOrder, List.flatMap_cons, List.mem_append] at he
    obtain ⟨between, after, hrest⟩ := List.append_of_mem
      (he.resolve_left fun hmem => by simp [hnone e hmem] at hfuture)
    have hflat : flatOrder body =
        flatOrder (body.take (prologueLength body)) ++ elements s ++ between ++ e :: after := by
      conv_lhs => rw [← List.take_append_drop (prologueLength body) body, flatOrder_append, hdrop]
      simp [flatOrder, hrest]
    obtain ⟨hfront, d, hs, hd⟩ :=
      (h _ _ _ hflat hfuture).eq_string (elements_ne_nil s) hnone
    -- so it is a docstring and the first statement, and then the prologue has it
    have htake := flatOrder_eq_nil_iff.mp hfront
    have hbody : body = s :: rest := by
      rw [← List.take_append_drop (prologueLength body) body, htake, hdrop, List.nil_append]
    subst hbody
    obtain hzero | hnil := List.take_eq_nil_iff.mp htake
    · exact prologueLength_ne_zero (isDocstring_of_elements hs hd) hzero
    · cases hnil

end LocaleRegistrar.Bootstrap

namespace LocaleRegistrar.Registration

open LocaleRegistrar.Python
open LocaleRegistrar.Bootstrap

/-- Planned edits go after the prologue, if there are any. -/
theorem apply_of_plan {r : Request} {available : List String} {m : Python.Module}
    {edits : List Edit} (h : r.plan available m = .ok edits) :
    apply m edits = .ok { m with
      body := m.body.take (prologueLength m.body) ++ edits.map (·.statement) ++
        m.body.drop (prologueLength m.body) } := by
  obtain ⟨-, rfl⟩ | ⟨resolution, ss, hp⟩ := plan_ok_cases h
  · simp [apply, splice_nil]
  · exact hp.apply_eq

/-- A module keeps the rule for future imports. Where a registration is planned in it, then what
comes before one of its future imports afterwards is what came before it: future imports of the
module, and perhaps a string at the very start. -/
theorem future_imports_stay_first (relative : Bool) (r : Request) (available : List String)
    (m : Python.Module) {edits : List Edit} (hrule : FuturesFirst relative (flatOrder m.body))
    (h : r.plan available (splitFutureImports m) = .ok edits) :
    ∃ edited, apply (splitFutureImports m) edits = .ok edited ∧
      ∀ before e after, flatOrder m.body = before ++ e :: after → e.isFuture relative = true →
        MayPrecede relative before ∧ ∃ rest, flatOrder edited.body = before ++ e :: rest := by
  refine ⟨_, apply_of_plan h, fun before e after hflat hfuture => ⟨hrule _ _ _ hflat hfuture, ?_⟩⟩
  rw [← flatOrder_split] at hrule hflat
  have hlate := hrule.after_prologue
  generalize (splitFutureImports m).body = body at *
  rw [← List.take_append_drop (prologueLength body) body, flatOrder_append,
    List.append_eq_append_iff] at hflat
  -- the future import is in the prologue, which stays where it is
  obtain ⟨between, -, hdrop⟩ | ⟨front, htake, hdrop⟩ := hflat
  · have hnot := hlate e (by simp [hdrop])
    simp [hnot] at hfuture
  · cases front with
    | nil =>
      rw [List.nil_append] at hdrop
      have hnot := hlate e (hdrop ▸ List.mem_cons_self)
      simp [hnot] at hfuture
    | cons first front =>
      obtain ⟨rfl, -⟩ := List.cons.inj hdrop
      refine ⟨front ++ flatOrder (edits.map (·.statement)) ++
        flatOrder (body.drop (prologueLength body)), ?_⟩
      simp only [flatOrder_append, htake, List.append_assoc, List.cons_append]

/-- A future import keeps its place after a docstring on its line, and one that shares its line with
the site keeps its place before the registration. -/
theorem future_imports_stay_first_docstring_line :
    ∃ m edits edited, parseModule ("\"doc\"; from __future__ import annotations\n" ++
        "from __future__ import division; start().bootstrapModule(App)\n") = some m ∧
      FuturesFirst false (flatOrder m.body) ∧
      Request.plan { entry := ⟨"app", "App"⟩, locale := "de" } ["de"] (splitFutureImports m) =
        .ok edits ∧ edits.length = 3 ∧ apply (splitFutureImports m) edits = .ok edited ∧
      ∃ doc annotations division rest, flatOrder edited.body = doc :: annotations :: division :: rest ∧
        doc.isString = true ∧ annotations.isFuture false = true ∧ division.isFuture false = true := by
  let r : Request := { entry := ⟨"app", "App"⟩, locale := "de" }
  have hrun : (parseModule ("\"doc\"; from __future__ import annotations\n" ++
      "from __future__ import division; start().bootstrapModule(App)\n")).map (fun m =>
        (decide (FuturesFirst false (flatOrder m.body)),
          (flatOrder m.body).map fun e => (e.isString, e.isFuture false),
          (r.plan ["de"] (splitFutureImports m)).toOption.map (·.length))) =
      some (true, [(true, false), (false, true), (false, true), (false, false)], some 3) := by
    decide +kernel
  obtain ⟨m, hm, hrun⟩ := Option.map_eq_some_iff.mp hrun
  obtain ⟨hrule, hrun⟩ := Prod.mk.inj hrun
  obtain ⟨hflat, hplan⟩ := Prod.mk.inj hrun
  obtain ⟨doc, others, hflat, hdoc, hothers⟩ := List.map_eq_cons_iff.mp hflat
  obtain ⟨annotations, others, rfl, hannotations, hothers⟩ := List.map_eq_cons_iff.mp hothers
  obtain ⟨division, after, rfl, hdivision, -⟩ := List.map_eq_cons_iff.mp hothers
  cases hedits : r.plan ["de"] (splitFutureImports m) with
  | error refusal =>
    rw [hedits] at hplan
    cases hplan
  | ok edits =>
    rw [hedits] at hplan
    have hrule := of_decide_eq_true hrule
    have hdivision : division.isFuture false = true := congrArg Prod.snd hdivision
    obtain ⟨edited, happly, hfirst⟩ := future_imports_stay_first false r ["de"] m hrule hedits
    obtain ⟨-, rest, hrest⟩ := hfirst [doc, annotations] division after hflat hdivision
    exact ⟨m, edits, edited, hm, hrule, hedits, Option.some.inj hplan, happly, doc, annotations,
      division, rest, hrest, congrArg Prod.fst hdoc, congrArg Prod.snd hannotations, hdivision⟩

end LocaleRegistrar.Registration
