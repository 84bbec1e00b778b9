import LocaleRegistrar.Proofs.Reparse.Names

/-!
Which imports the grammar accepts: those whose names are not reserved.
-/

namespace LocaleRegistrar.Python.Grammar

theorem iterate_eq_none {α : Type} {step : α → Parser (Option α)} {a : α} {t : Token}
    {s : List Token} (h : step a (t :: s) = none) : iterate step a (t :: s) = none := by
  show iterateUpTo step (s.length + 1) a (t :: s) = none
  rw [iterateUpTo]
  exact bind_eq_none h

/-! ### Reading if names are free -/

/-- The parser reads `s` up to `rest` if none of the names is reserved, and fails otherwise. -/
def AcceptsIfFree {α : Type} (names : List String) (p : Parser α) (s rest : List Token) : Prop :=
  (∀ v ∈ names, v ∉ reserved) ∧ Accepts p s rest ∨ (∃ v ∈ names, v ∈ reserved) ∧ p s = none

namespace AcceptsIfFree

variable {α β : Type} {names : List String} {p : Parser α} {s t u : List Token}

theorem of_accepts (hnames : ∀ v ∈ names, v ∉ reserved) (h : Accepts p s t) :
    AcceptsIfFree names p s t :=
  .inl ⟨hnames, h⟩

theorem of_reserved {v : String} (hv : v ∈ names) (hreserved : v ∈ reserved) (h : p s = none) :
    AcceptsIfFree names p s t :=
  .inr ⟨⟨v, hv, hreserved⟩, h⟩

theorem cons {w : String} (h : AcceptsIfFree names p s t) (hw : w ∉ reserved) :
    AcceptsIfFree (w :: names) p s t := by
  rcases h with ⟨hnames, h⟩ | ⟨⟨v, hv, hreserved⟩, h⟩
  · exact of_accepts (List.forall_mem_cons.mpr ⟨hw, hnames⟩) h
  · exact of_reserved (List.mem_cons_of_mem w hv) hreserved h

theorem bind {f : α → Parser β} (h : AcceptsIfFree names p s t) (hf : ∀ a, Accepts (f a) t u) :
    AcceptsIfFree names (p >>= f) s u :=
  h.imp (fun h => ⟨h.1, h.2.bind hf⟩) fun h => ⟨h.1, bind_eq_none h.2⟩

/-- The parser goes on as another one does from where that starts. -/
theorem congr {q : Parser α} (h : AcceptsIfFree names q t u) (hpq : p s = q t) :
    AcceptsIfFree names p s u := by
  rwa [AcceptsIfFree, Accepts, hpq]

end AcceptsIfFree

/-! ### Dotted names -/

/-- Each of these names after a dot. -/
def dotTokens (names : List String) : List Token :=
  names.flatMap fun w => [symbol "." [], word w []]

theorem length_dotTokens (names : List String) : (dotTokens names).length = 2 * names.length := by
  induction names with
  | nil => rfl
  | cons w names ih =>
    show (dotTokens names).length + 2 = 2 * (names.length + 1)
    omega

/-- One more name of a dotted name. -/
def dotStep (value : Tree) : Parser (Option Tree) := do
  if !(← nextIs ".") then return none
  let dot ← next "."
  return some (.bare .member (value :: dot.trees ++ (← spaced name)))

theorem dottedName_eq : dottedName = name >>= iterate dotStep := rfl

theorem dotStep_cons (value : Tree) (w : String) (more : List Token) :
    dotStep value (symbol "." [] :: word w [] :: more) =
      if w ∈ reserved then none
      else some (some (.bare .member [value, .text ".", .ofName w]), more) := by
  have hdot : dotStep value (symbol "." [] :: word w [] :: more) =
      (spaced name >>= fun parts => pure (some (Tree.bare .member (value :: .text "." :: parts))))
        (word w [] :: more) := (bind_eq (nextIs_eq _ _)).trans (bind_eq (next_eq rfl _))
  rw [hdot]
  split
  · next h => exact bind_eq_none ((bind_eq rfl).trans (bind_eq_none (name_eq_none h [] more)))
  · next h => exact bind_eq ((bind_eq rfl).trans (bind_eq (name_eq h [] more)))

theorem dotStep_done (value : Tree) {rest : List Token} (h : startsWith rest "." = false) :
    dotStep value rest = some (none, rest) := by
  rw [dotStep, bind_eq (nextIs_eq _ _), h]
  rfl

theorem iterateUpTo_dots (names : List String) {rest : List Token}
    (hrest : startsWith rest "." = false) (value : Tree) {fuel : Nat}
    (hfuel : names.length ≤ fuel) :
    AcceptsIfFree names (iterateUpTo dotStep fuel value) (dotTokens names ++ rest) rest := by
  induction names generalizing value fuel with
  | nil =>
    exact .of_accepts (by simp) ⟨value, iterateUpTo_eq_self (dotStep_done value hrest) fuel⟩
  | cons w names ih =>
    obtain ⟨fuel, rfl⟩ : ∃ n, fuel = n + 1 := ⟨fuel - 1, by simp at hfuel; omega⟩
    have hcons : dotTokens (w :: names) ++ rest =
        symbol "." [] :: word w [] :: (dotTokens names ++ rest) := rfl
    rw [hcons]
    have hstep := dotStep_cons value w (dotTokens names ++ rest)
    by_cases hw : w ∈ reserved
    · rw [if_pos hw] at hstep
      exact .of_reserved (List.mem_cons_self) hw (bind_eq_none hstep)
    · rw [if_neg hw] at hstep
      have hrest := ih (.bare .member [value, .text ".", .ofName w]) (Nat.le_of_succ_le_succ hfuel)
      refine AcceptsIfFree.cons (hrest.congr ?_) hw
      exact bind_eq hstep

/-- Dotted names are read if none of them is reserved. -/
theorem acceptsIfFree_dottedName (w : String) (names : List String) (gap : Pieces)
    {rest : List Token} (hrest : startsWith rest "." = false) :
    AcceptsIfFree (w :: names) dottedName (word w gap :: (dotTokens names ++ rest)) rest := by
  rw [dottedName_eq]
  by_cases hw : w ∈ reserved
  · exact .of_reserved List.mem_cons_self hw (bind_eq_none (name_eq_none hw gap _))
  · have hfuel : names.length ≤ (dotTokens names ++ rest).length := by
      rw [List.length_append, length_dotTokens]
      omega
    have hdots := iterateUpTo_dots names hrest (.ofName w) hfuel
    refine AcceptsIfFree.cons (hdots.congr ?_) hw
    exact bind_eq (name_eq hw gap _)

/-! ### Imported names -/

theorem importNames_one {names : List String} {origin : Parser Tree} {t : Token} {s : List Token}
    (trailing : Bool) (h : AcceptsIfFree names (Rules.boundName origin) (t :: s) []) :
    AcceptsIfFree names (Rules.importNames origin trailing) (t :: s) [] := by
  rcases h with ⟨hnames, parts, hparts⟩ | ⟨hreserved, hnone⟩
  · exact .of_accepts hnames ⟨_, bind_eq (@iterate_eq_one _ _ _
      ([Tree.bare .importAlias parts], true, false) _ _ [] ((bind_eq hparts).trans rfl) rfl)⟩
  · exact .inr ⟨hreserved, bind_eq_none (iterate_eq_none (bind_eq_none hnone))⟩

/-! ### Import statements -/

/-- The tokens of `import path as x`. -/
def importTokens (w : String) (names : List String) (x : String) (gap : Pieces) : List Token :=
  word "import" [] :: word w gap :: (dotTokens names ++ [word "as" gap, word x gap])

/-- The tokens of `from path import f`. -/
def importFromTokens (w : String) (names : List String) (f : String) (gap : Pieces) : List Token :=
  word "from" [] :: word w gap :: (dotTokens names ++ [word "import" gap, word f gap])

theorem acceptsIfFree_import (r : Rules) (w : String) (names : List String) {x : String}
    (gap : Pieces) (hx : x ∉ reserved) :
    AcceptsIfFree (w :: names) r.small (importTokens w names x gap) [] := by
  have hbound : AcceptsIfFree (w :: names) (Rules.boundName dottedName)
      (word w gap :: (dotTokens names ++ [word "as" gap, word x gap])) [] := by
    refine (acceptsIfFree_dottedName w names gap rfl).bind fun id => .test rfl ?_
    refine Accepts.bind ⟨_, next_eq rfl _⟩ fun keyword => ?_
    exact Accepts.bind (.test rfl (Accepts.bind ⟨_, name_eq hx gap []⟩ fun _ => .pure _)) fun _ =>
      .pure _
  have hnames := (importNames_one false hbound).bind fun y =>
    .pure (Tree.bare .importModules (Pieces.trees ([.text "import"] ++ gap) ++ y.1))
  exact hnames.congr rfl

theorem acceptsIfFree_importTargets {f : String} (hf : Text.isIdentifier f = true) (gap : Pieces) :
    AcceptsIfFree [f] Rules.importTargets [word f gap] [] := by
  have htargets : Rules.importTargets [word f gap] =
      (Rules.importNames name false >>= fun y => pure (gap.trees ++ y.1)) [word f gap] := by
    rw [Rules.importTargets, bind_eq (nextIs_eq _ _), startsWith_identifier hf (by decide),
      if_neg Bool.false_ne_true, bind_eq (nextIs_eq _ _),
      startsWith_identifier hf (by decide), if_neg Bool.false_ne_true]
    rfl
  have hname : AcceptsIfFree [f] name [word f gap] [] := by
    by_cases h : f ∈ reserved
    · exact .of_reserved (by simp) h (name_eq_none h gap [])
    · exact .of_accepts (by simpa using h) ⟨_, name_eq h gap []⟩
  have hbound : AcceptsIfFree [f] (Rules.boundName name) [word f gap] [] :=
    hname.bind fun _ => .test rfl (.pure _)
  exact ((importNames_one false hbound).bind fun _ => .pure _).congr htargets

theorem acceptsIfFree_importOrigin (w : String) (names : List String) (gap : Pieces)
    {rest : List Token} (hrest : startsWith rest "." = false) :
    AcceptsIfFree (w :: names) (Rules.importOrigin []) (word w gap :: (dotTokens names ++ rest))
      rest := by
  by_cases hw : w = "import"
  · subst hw
    exact .of_reserved List.mem_cons_self (by decide) rfl
  · have hpath := (acceptsIfFree_dottedName w names gap hrest).bind fun path =>
      .pure (gap.trees ++ [path])
    refine hpath.congr ?_
    rw [Rules.importOrigin, bind_eq (nextIs_eq _ _), startsWith_word, beq_eq_false_iff_ne.mpr hw,
      if_neg Bool.false_ne_true]
    rfl

theorem acceptsIfFree_importFrom (r : Rules) {w : String} (hw : Text.isIdentifier w = true)
    (names : List String) {f : String} (hf : Text.isIdentifier f = true) (gap : Pieces) :
    AcceptsIfFree (f :: w :: names) r.small (importFromTokens w names f gap) [] := by
  let rest := dotTokens names ++ [word "import" gap, word f gap]
  have hdots : Rules.relativeDots (word w gap :: rest) = some ([], word w gap :: rest) := by
    refine iterate_eq_self ?_
    have hnone : [".", "..."].any (startsWith (word w gap :: rest)) = false := by
      simp [startsWith_identifier hw (by decide : "." ∈ Lexeme.symbols),
        startsWith_identifier hw (by decide : "..." ∈ Lexeme.symbols)]
    rw [bind_eq (nextIn_eq _ _), hnone]
    rfl
  have hsmall : r.small (importFromTokens w names f gap) =
      (do
        let dots ← Rules.relativeDots
        let origin ← Rules.importOrigin dots
        let keyword ← next "import"
        return Tree.bare .importFrom
          ([Tree.text "from"] ++ dots.trees ++ origin ++ keyword.trees ++ (← Rules.importTargets)))
        (word w gap :: rest) := rfl
  refine AcceptsIfFree.congr ?_ (hsmall.trans (bind_eq hdots))
  have horigin := @acceptsIfFree_importOrigin w names gap [word "import" gap, word f gap] rfl
  rcases acceptsIfFree_importTargets hf gap with ⟨hfree, htargets⟩ | ⟨⟨v, hv, hreserved⟩, htargets⟩
  · refine (horigin.bind fun origin => ?_).cons (hfree f (by simp))
    refine Accepts.bind ⟨_, next_eq rfl _⟩ fun keyword => ?_
    exact htargets.bind fun _ => .pure _
  · -- Whatever the origin is, the name after it cannot be read.
    obtain rfl := List.mem_singleton.mp hv
    refine .of_reserved List.mem_cons_self hreserved ?_
    rcases horigin with ⟨-, origin, horigin⟩ | ⟨-, horigin⟩
    · exact (bind_eq horigin).trans ((bind_eq (next_eq rfl _)).trans (bind_eq_none htargets))
    · exact bind_eq_none horigin

end LocaleRegistrar.Python.Grammar
