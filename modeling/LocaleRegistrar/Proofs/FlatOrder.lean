import LocaleRegistrar.Bootstrap.Prologue
import LocaleRegistrar.Bootstrap.Site
import Mathlib.Data.List.Forall2
import Mathlib.Data.List.TakeWhile

/-! Splitting the lines of a module, and its flat order: the small statements of all its lines, one
after the other, with the compound statements between them. What comes out of one statement is said
once, by the relation `Splits`, and everything else follows from it. Main statement: splitting a
module conserves its flat order and its sites, and leaves no line to split. -/

namespace LocaleRegistrar.Bootstrap

open LocaleRegistrar.Python

/-! ### Splitting one statement -/

/-- Does this line begin with a future import and hold another kind of statement too? An import from
a module `__future__` of a package counts as a future import. -/
def isShared : Statement → Bool
  | .simple ⟨_, s :: others, _⟩ => isFutureSmall s && others.any fun other => !isFutureSmall other
  | _ => false

/-- What comes out of a statement. A shared line is cut before its first statement of another kind:
the lines before it stay with the future imports, and what ends it stays with the others. -/
inductive Splits : Statement → List Statement → Prop
  | kept {s : Statement} (unshared : isShared s = false) : Splits s [s]
  | cut {line : Line} {futures others : List Python.Small} {other : Python.Small}
      (body : line.body = futures ++ other :: others)
      (nonempty : futures ≠ [])
      (future : ∀ s ∈ futures, isFutureSmall s = true)
      (foreign : isFutureSmall other = false) :
      Splits (.simple line)
        [.simple { leading := line.leading, body := unseparated futures, tail := {} },
         .simple { leading := [], body := unseparated (other :: others), tail := line.tail }]

@[simp] theorem isFutureSmall_unseparated (s : Python.Small) :
    isFutureSmall { s with semicolon := none } = isFutureSmall s := rfl

theorem map_content_unseparated {α : Type} (f : Python.Tree → α) (body : List Python.Small) :
    (unseparated body).map (fun s => f s.content) = body.map fun s => f s.content := by
  rw [unseparated, List.map_map]
  rfl

theorem isMixed_eq_isShared (s : Statement) : isMixed s = isShared s := by
  cases s with
  | compound => rfl
  | simple line =>
    obtain ⟨leading, body, tail⟩ := line
    cases body with
    | nil => rfl
    | cons first others =>
      cases hfirst : isFutureSmall first with
      | false => simp [isMixed, isShared, hfirst]
      | true =>
        have hothers : (others.dropWhile isFutureSmall).isEmpty = others.all isFutureSmall := by
          rw [Bool.eq_iff_iff, List.isEmpty_iff, List.dropWhile_eq_nil_iff, List.all_eq_true]
        simp [isMixed, isShared, hfirst, hothers, List.not_all_eq_any_not]

theorem splits_splitStatement (s : Statement) : Splits s (splitStatement s) := by
  cases s with
  | compound => exact .kept rfl
  | simple line =>
    rw [splitStatement]
    split
    next hmixed =>
      simp only [isMixed, Bool.and_eq_true, Bool.not_eq_true', List.isEmpty_eq_false_iff] at hmixed
      obtain ⟨hfutures, hothers⟩ := hmixed
      have hbody := List.takeWhile_append_dropWhile (p := isFutureSmall) (l := line.body)
      have hforeign := List.head?_dropWhile_not isFutureSmall line.body
      cases hdrop : line.body.dropWhile isFutureSmall with
      | nil => exact absurd hdrop hothers
      | cons other others =>
        rw [hdrop] at hbody hforeign
        exact .cut hbody.symm hfutures (fun s => List.mem_takeWhile_imp) (by simpa using hforeign)
    next hmixed =>
      rw [isMixed_eq_isShared, Bool.not_eq_true] at hmixed
      exact .kept hmixed

theorem isShared_of_cut {line : Line} {futures others : List Python.Small} {other : Python.Small}
    (body : line.body = futures ++ other :: others) (nonempty : futures ≠ [])
    (future : ∀ s ∈ futures, isFutureSmall s = true) (foreign : isFutureSmall other = false) :
    isShared (.simple line) = true := by
  obtain ⟨leading, smalls, tail⟩ := line
  obtain ⟨first, futures, rfl⟩ := List.exists_cons_of_ne_nil nonempty
  subst body
  have hfirst := future first List.mem_cons_self
  simp [isShared, hfirst, foreign]

/-- Nothing that comes out of a statement has to be cut again. -/
theorem Splits.not_isShared {s : Statement} {parts : List Statement} (h : Splits s parts) :
    ∀ part ∈ parts, isShared part = false := by
  cases h with
  | kept unshared => simpa using unshared
  | cut body nonempty future foreign =>
    rename_i line futures others other
    intro part hpart
    obtain rfl | rfl := List.mem_pair.mp hpart
    · -- the half with the future imports holds nothing else
      cases futures with
      | nil => rfl
      | cons first futures =>
        obtain ⟨hfirst, hrest⟩ := List.forall_mem_cons.mp future
        simpa [isShared, unseparated, hfirst] using hrest
    · -- the half with the others begins with one of them
      simp [isShared, unseparated, foreign]

theorem Splits.length_eq {s : Statement} {parts : List Statement} (h : Splits s parts) :
    parts.length = (if isShared s then 1 else 0) + 1 := by
  cases h with
  | kept unshared => simp [unshared]
  | cut body nonempty future foreign =>
    rw [isShared_of_cut body nonempty future foreign]
    rfl

theorem Splits.eq_singleton {s : Statement} {parts : List Statement} (h : Splits s parts)
    (hs : isShared s = false) : parts = [s] := by
  cases h with
  | kept => rfl
  | cut body nonempty future foreign =>
    simp [isShared_of_cut body nonempty future foreign] at hs

/-! ### The flat order -/

/-- A member of the flat order of a module: a small statement without its semicolon, or a whole
statement that holds none on its line. -/
inductive Element
  | small (content : Python.Tree)
  | whole (s : Statement)

/-- The small statements of a line. A compound statement is one member of the flat order, and so is
a line without small statements, which stands for `pass`. -/
def elements : Statement → List Element
  | .simple ⟨leading, [], tail⟩ => [.whole (.simple ⟨leading, [], tail⟩)]
  | .simple line => line.body.map fun s => .small s.content
  | s => [.whole s]

/-- The flat order of statements. -/
def flatOrder (body : List Statement) : List Element := body.flatMap elements

@[simp] theorem flatOrder_append (before after : List Statement) :
    flatOrder (before ++ after) = flatOrder before ++ flatOrder after :=
  List.flatMap_append

theorem elements_of_ne_nil {line : Line} (h : line.body ≠ []) :
    elements (.simple line) = line.body.map fun s => .small s.content := by
  obtain ⟨leading, body, tail⟩ := line
  cases body with
  | nil => exact absurd rfl h
  | cons => rfl

theorem elements_ne_nil (s : Statement) : elements s ≠ [] := by
  unfold elements
  split
  · exact List.cons_ne_nil _ _
  next line hline =>
    obtain ⟨leading, body, tail⟩ := line
    refine mt List.map_eq_nil_iff.mp ?_
    rintro rfl
    exact hline leading tail rfl
  · exact List.cons_ne_nil _ _

theorem flatOrder_eq_nil_iff {body : List Statement} : flatOrder body = [] ↔ body = [] := by
  rw [flatOrder, List.flatMap_eq_nil_iff, List.eq_nil_iff_forall_not_mem]
  exact forall₂_congr fun s _ => iff_false_intro (elements_ne_nil s)

/-- A statement has the small statements of what comes out of it. -/
theorem Splits.flatOrder_eq {s : Statement} {parts : List Statement} (h : Splits s parts) :
    flatOrder parts = elements s := by
  cases h with
  | kept => exact List.append_nil _
  | cut body nonempty future foreign =>
    rename_i line futures others other
    have hline : line.body ≠ [] := by simp [body]
    have hfutures : unseparated futures ≠ [] := mt List.map_eq_nil_iff.mp nonempty
    have hothers : unseparated (other :: others) ≠ [] := List.cons_ne_nil _ _
    rw [flatOrder, List.flatMap_cons, List.flatMap_cons, List.flatMap_nil, List.append_nil,
      elements_of_ne_nil hline, elements_of_ne_nil hfutures, elements_of_ne_nil hothers,
      map_content_unseparated, map_content_unseparated, ← List.map_append, body]

theorem flatOrder_split (m : Python.Module) :
    flatOrder (splitFutureImports m).body = flatOrder m.body := by
  rw [flatOrder, splitFutureImports, List.flatMap_assoc]
  exact List.flatMap_congr fun s _ => (splits_splitStatement s).flatOrder_eq

/-! ### Splitting a module -/

theorem trees_simple (line : Line) :
    (Statement.simple line).trees = line.body.map fun s => s.content := by
  show (line.body.map Part.small).filterMap Part.tree? = _
  rw [List.filterMap_map]
  exact congrFun (List.filterMap_eq_map (f := fun s : Python.Small => s.content)) line.body

theorem Splits.sites_eq {s : Statement} {parts : List Statement} (h : Splits s parts)
    (className : String) : parts.flatMap (sitesOf className) = sitesOf className s := by
  cases h with
  | kept => exact List.append_nil _
  | cut body nonempty future foreign =>
    simp only [List.flatMap_cons, List.flatMap_nil, List.append_nil, sitesOf, trees_simple,
      map_content_unseparated fun t => t, ← List.flatMap_append, ← List.map_append, body]

theorem sites_split (className : String) (m : Python.Module) :
    sites className (splitFutureImports m) = sites className m := by
  rw [sites, splitFutureImports, List.flatMap_assoc]
  exact List.flatMap_congr fun s _ => (splits_splitStatement s).sites_eq className

theorem not_isShared_split (m : Python.Module) :
    ∀ s ∈ (splitFutureImports m).body, isShared s = false := by
  intro part hpart
  obtain ⟨s, -, hpart⟩ := List.mem_flatMap.mp hpart
  exact (splits_splitStatement s).not_isShared part hpart

theorem length_split (body : List Statement) :
    (body.flatMap splitStatement).length = body.length + body.countP isShared := by
  induction body with
  | nil => rfl
  | cons s rest ih =>
    have hs := (splits_splitStatement s).length_eq
    rw [List.flatMap_cons, List.length_append, List.length_cons, List.countP_cons, ih, hs]
    omega

/-- Splitting changes nothing exactly if there is no shared line. -/
theorem splitFutureImports_eq_self_iff (m : Python.Module) :
    splitFutureImports m = m ↔ ∀ s ∈ m.body, isShared s = false := by
  constructor
  · intro h
    exact h ▸ not_isShared_split m
  · intro h
    have hbody : m.body.flatMap splitStatement = m.body.flatMap fun s => [s] :=
      List.flatMap_congr fun s hs => (splits_splitStatement s).eq_singleton (h s hs)
    rw [splitFutureImports, hbody, List.flatMap_singleton']

/-- Splitting leaves everything outside the body alone. The small statements stay in their order, as
do the compound statements between them. Only shared lines are cut, each into two, which is how much
longer the body gets. All sites are found again in their order. In the result no line is shared, so
that splitting it changes nothing more, and a module without such a line is left as it is. -/
theorem splitFutureImports_conserves (m : Python.Module) :
    splitFutureImports m = { m with body := (splitFutureImports m).body } ∧
    flatOrder (splitFutureImports m).body = flatOrder m.body ∧
    (∃ parts, (splitFutureImports m).body = parts.flatten ∧ List.Forall₂ Splits m.body parts) ∧
    (∀ className, sites className (splitFutureImports m) = sites className m) ∧
    (∀ s ∈ (splitFutureImports m).body, isShared s = false) ∧
    (splitFutureImports m).body.length = m.body.length + m.body.countP isShared ∧
    (splitFutureImports m = m ↔ ∀ s ∈ m.body, isShared s = false) ∧
    (isSplit m = true ↔ ∀ s ∈ m.body, isShared s = false) ∧
    splitFutureImports (splitFutureImports m) = splitFutureImports m := by
  refine ⟨rfl, flatOrder_split m, ⟨m.body.map splitStatement, List.flatMap_def, ?_⟩,
    fun className => sites_split className m, not_isShared_split m, length_split m.body,
    splitFutureImports_eq_self_iff m, ?_,
    (splitFutureImports_eq_self_iff _).mpr (not_isShared_split m)⟩
  · exact List.forall₂_map_right_iff.mpr (List.forall₂_same.mpr fun s _ => splits_splitStatement s)
  · simp only [isSplit, Bool.not_eq_true', List.any_eq_false, isMixed_eq_isShared,
      Bool.not_eq_true]

end LocaleRegistrar.Bootstrap
