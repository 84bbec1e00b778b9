import LocaleRegistrar.Python.Grammar.Compound

/-!
What a parser reads is spelled by what it gives. The pieces of a result, in order, are the pieces of
the tokens that were taken: a parser of a node leaves out those before its first token, and other
parsers keep them.

Here are the rules that this follows from, one for each way to build a parser, and the parsers that
the grammar is built from.
-/

namespace LocaleRegistrar.Python

mutual

/-- The pieces of a tree from left to right. -/
def Tree.pieces : Tree → Pieces
  | .piece p => [p]
  | .node _ opening parts closing => opening ++ Tree.piecesAll parts ++ closing

def Tree.piecesAll : List Tree → Pieces
  | [] => []
  | t :: rest => t.pieces ++ Tree.piecesAll rest

end

attribute [simp] Tree.piecesAll

@[simp] theorem Tree.pieces_text (s : String) : (Tree.text s).pieces = [.text s] := by
  simp [Tree.text, Tree.pieces]

@[simp] theorem Tree.pieces_bare (kind : Kind) (parts : List Tree) :
    (Tree.bare kind parts).pieces = Tree.piecesAll parts := by
  simp [Tree.bare, Tree.pieces]

@[simp] theorem Tree.pieces_ofName (id : String) : (Tree.ofName id).pieces = [.text id] := by
  simp [Tree.ofName]

@[simp] theorem Tree.pieces_parenthesize (opening closing : Pieces) (t : Tree) :
    (t.parenthesize opening closing).pieces = opening ++ (t.pieces ++ closing) := by
  cases t <;> simp [Tree.parenthesize, Tree.pieces]

@[simp] theorem Tree.piecesAll_append (ts us : List Tree) :
    Tree.piecesAll (ts ++ us) = Tree.piecesAll ts ++ Tree.piecesAll us := by
  induction ts with
  | nil => rfl
  | cons t rest ih => simp [ih]

@[simp] theorem Tree.piecesAll_trees (ps : Pieces) : Tree.piecesAll ps.trees = ps := by
  induction ps with
  | nil => rfl
  | cons p rest ih => simpa [Pieces.trees, Tree.pieces] using ih

mutual

theorem Tree.write_eq (c : Context) : (t : Tree) → t.write c = t.pieces.map (·.write c)
  | .piece p => by simp [Tree.write, Tree.pieces]
  | .node _ opening parts closing => by
    simp [Tree.write, Tree.pieces, Tree.writeAll_eq c parts]

theorem Tree.writeAll_eq (c : Context) :
    (ts : List Tree) → Tree.writeAll c ts = (Tree.piecesAll ts).map (·.write c)
  | [] => by simp [Tree.writeAll]
  | t :: rest => by simp [Tree.writeAll, Tree.write_eq c t, Tree.writeAll_eq c rest]

end

/-- A token with the pieces before it. -/
def Token.pieces (t : Token) : Pieces := t.gap ++ [.text t.text]

def spelled (tokens : List Token) : Pieces := tokens.flatMap Token.pieces

namespace Grammar

/-- The tokens without the pieces before the first one. -/
def bare (tokens : List Token) : Pieces := spelled (ungapped tokens)

theorem spelled_eq (s : List Token) : spelled s = headGap s ++ bare s := by
  cases s with
  | nil => rfl
  | cons t rest => simp [spelled, bare, headGap, ungapped, Token.pieces]

theorem bare_cons (t : Token) (rest : List Token) : bare (t :: rest) = .text t.text :: spelled rest := by
  simp [bare, ungapped, spelled, Token.pieces]

/-! ### Reasoning about parsers -/

/-- If the parser reads something from `s`, then `Q` holds of the result and the tokens left. -/
def Yields {α : Type} (p : Parser α) (s : List Token) (Q : α → List Token → Prop) : Prop :=
  ∀ a t, p s = some (a, t) → Q a t

namespace Yields

variable {α β : Type} {s : List Token}

theorem pure {a : α} {Q : α → List Token → Prop} (h : Q a s) :
    Yields (Pure.pure a : Parser α) s Q := by
  intro b t e
  cases e
  exact h

theorem failure {Q : α → List Token → Prop} : Yields (failure : Parser α) s Q := by
  intro b t e
  cases e

theorem bind {p : Parser α} {f : α → Parser β} {P : α → List Token → Prop}
    {Q : β → List Token → Prop} (hp : Yields p s P) (hf : ∀ a t, P a t → Yields (f a) t Q) :
    Yields (p >>= f) s Q := by
  intro b u e
  obtain ⟨⟨a, t⟩, ha, hb⟩ := Option.bind_eq_some_iff.mp e
  exact hf a t (hp a t ha) b u hb

theorem map {p : Parser α} {f : α → β} {Q : β → List Token → Prop}
    (hp : Yields p s fun a t => Q (f a) t) : Yields (f <$> p) s Q := by
  intro b u e
  obtain ⟨⟨a, t⟩, ha, hb⟩ := Option.bind_eq_some_iff.mp e
  cases hb
  exact hp a _ ha

theorem mono {p : Parser α} {P Q : α → List Token → Prop} (hp : Yields p s P)
    (h : ∀ a t, P a t → Q a t) : Yields p s Q :=
  fun a t e => h a t (hp a t e)

theorem ite {c : Prop} [Decidable c] {p q : Parser α} {Q : α → List Token → Prop}
    (hp : c → Yields p s Q) (hq : ¬ c → Yields q s Q) : Yields (if c then p else q) s Q := by
  split
  · exact hp ‹_›
  · exact hq ‹_›

theorem orElse {p q : Parser α} {Q : α → List Token → Prop} (hp : Yields p s Q)
    (hq : Yields q s Q) : Yields (p <|> q) s Q := by
  intro a t e
  replace e : (p s <|> q s) = some (a, t) := e
  cases h : p s with
  | none => exact hq a t (by simpa [h] using e)
  | some x => exact hp a t (by simpa [h] using e)

theorem attempt {p : Parser α} {Q : Option α → List Token → Prop}
    (hp : Yields p s fun a t => Q (some a) t) (hn : Q none s) : Yields (attempt p) s Q :=
  orElse (map hp) (pure hn)

end Yields

/-- The parser takes no token. -/
def Keeps {α : Type} (p : Parser α) : Prop := ∀ s, Yields p s fun _ t => t = s

/-- After a test the tokens are the same. -/
theorem Yields.test {α β : Type} {s : List Token} {p : Parser α} {f : α → Parser β}
    {Q : β → List Token → Prop} (hp : Keeps p) (hf : ∀ a, Yields (f a) s Q) :
    Yields (p >>= f) s Q :=
  (hp s).bind fun a _ e => e ▸ hf a

/-- What the parser takes, seen as `view` says, is spelled by the result as `shown` says. -/
def Spells {α : Type} (view : List Token → Pieces) (shown : α → Pieces) (p : Parser α) : Prop :=
  ∀ s, Yields p s fun a t => view s = shown a ++ spelled t

/-- The parser gives a node without the pieces before its first token. -/
abbrev SpellsNode (p : Parser Tree) : Prop := Spells bare Tree.pieces p

/-- The parser gives trees with the pieces before their first token. -/
abbrev SpellsTrees (p : Parser (List Tree)) : Prop := Spells spelled Tree.piecesAll p

/-- A step of a loop keeps what is known of the state and the tokens left. -/
theorem yields_iterateUpTo {α : Type} {step : α → Parser (Option α)}
    {I : α → List Token → Prop}
    (hstep : ∀ a s, I a s → Yields (step a) s fun o t => I (o.getD a) t) (fuel : Nat) (a : α)
    (s : List Token) (h : I a s) : Yields (iterateUpTo step fuel a) s I := by
  induction fuel generalizing a s with
  | zero => exact .pure h
  | succ fuel ih =>
    refine (hstep a s h).bind fun o t ht => ?_
    cases o with
    | none => exact .pure ht
    | some b => exact ih b t ht

theorem yields_iterate {α : Type} {step : α → Parser (Option α)} {I : α → List Token → Prop}
    {a : α} {s : List Token} (h : I a s)
    (hstep : ∀ a s, I a s → Yields (step a) s fun o t => I (o.getD a) t) :
    Yields (iterate step a) s I :=
  fun b t e => yields_iterateUpTo hstep s.length a s h b t e

/-! ### Tests -/

theorem keeps_peek : Keeps peek := by
  intro s a t e
  cases e
  rfl

theorem keeps_nextIs (w : String) : Keeps (nextIs w) := by
  intro s a t e
  cases e
  rfl

theorem keeps_nextIn (ws : List String) : Keeps (nextIn ws) := by
  intro s a t e
  cases e
  rfl

theorem keeps_secondIs (w : String) : Keeps (secondIs w) := by
  intro s a t e
  match s with
  | [] | [_] | _ :: _ :: _ => cases e; rfl

theorem keeps_guarded (condition : Bool) : Keeps (guarded condition) := by
  intro s a t e
  cases condition <;> cases e
  rfl

/-- The pieces before the next token are split off from those of the token. -/
theorem yields_gap (s : List Token) :
    Yields gap s fun g t => t = s ∧ spelled s = g ++ bare s := by
  intro g t e
  cases e
  refine ⟨rfl, ?_⟩
  cases s <;> exact spelled_eq _

/-! ### The parsers that the grammar is built from -/

theorem yields_take (s : List Token) : Yields take s fun token t => s = token :: t := by
  intro token t e
  cases s <;> cases e
  rfl

theorem text_of_is {t : Token} {w : String} (h : t.is w) : t.text = w := by
  simp only [Token.is, Bool.and_eq_true, beq_iff_eq] at h
  exact h.2

theorem yields_guarded (condition : Bool) (s : List Token) :
    Yields (guarded condition) s fun _ t => condition = true ∧ t = s := by
  intro a t e
  cases condition <;> cases e
  exact ⟨rfl, rfl⟩

theorem yields_first (w : String) (s : List Token) :
    Yields (first w) s fun a t => a = [.text w] ∧ bare s = .text w :: spelled t := by
  refine (yields_take s).bind fun token t ht => ?_
  refine (yields_guarded _ t).bind fun _ u hu => .pure ⟨rfl, ?_⟩
  rw [ht, hu.2, bare_cons, text_of_is hu.1]

theorem spells_first (w : String) : Spells bare id (first w) := fun s =>
  (yields_first w s).mono fun a t h => by simp [h.1, h.2]

theorem spells_firstOf (ws : List String) : Spells bare id (firstOf ws) := by
  intro s
  refine (yields_take s).bind fun token t ht => ?_
  refine .test (keeps_guarded _) fun _ => .pure ?_
  rw [ht, bare_cons]
  rfl

/-- A parser after the pieces before its first token. -/
theorem yields_gap_bind {α β : Type} {shown : α → Pieces} {p : Parser α} (hp : Spells bare shown p)
    (s : List Token) {f : Pieces → α → Parser β} {Q : β → List Token → Prop}
    (hf : ∀ g a t, spelled s = g ++ shown a ++ spelled t → Yields (f g a) t Q) :
    Yields (do let g ← gap; let a ← p; f g a) s Q := by
  refine (yields_gap s).bind fun g t ht => ?_
  obtain ⟨rfl, hg⟩ := ht
  refine (hp t).bind fun a u ha => hf g a u ?_
  rw [hg, ha, List.append_assoc]

theorem spells_next (w : String) : Spells spelled id (next w) := fun s =>
  yields_gap_bind (spells_first w) s fun _ _ _ h => .pure h

theorem spells_nextOf (ws : List String) : Spells spelled id (nextOf ws) := fun s =>
  yields_gap_bind (spells_firstOf ws) s fun _ _ _ h => .pure h

theorem spells_optionalNext (w : String) : Spells spelled id (optionalNext w) := by
  intro s
  refine .test (keeps_nextIs w) fun b => .ite (fun _ => spells_next w s) fun _ => .pure rfl

theorem spells_anyText : SpellsNode anyText := by
  intro s
  refine (yields_take s).bind fun token t ht => .pure ?_
  simp [ht, bare_cons]

theorem spells_spaced {p : Parser Tree} (hp : SpellsNode p) :
    SpellsTrees (spaced p) := fun s =>
  yields_gap_bind hp s fun g a t h => .pure (by simp [h])

theorem spells_optionally (w : String) {p : Parser Tree} (hp : SpellsNode p) :
    SpellsTrees (optionally w p) := by
  intro s
  refine .test (keeps_nextIs w) fun b => .ite (fun _ => ?_) fun _ => .pure rfl
  refine (spells_next w s).bind fun mark t hm => ?_
  refine (spells_spaced hp t).bind fun value u hv => .pure ?_
  simp [hm, hv]

theorem spells_unlessNext (ws : List String) {p : Parser Tree} (hp : SpellsNode p) :
    SpellsTrees (unlessNext ws p) := by
  intro s
  exact .test (keeps_nextIn ws) fun b => .ite (fun _ => .pure rfl) fun _ => spells_spaced hp s

theorem spells_name : SpellsNode name := by
  intro s
  refine (yields_take s).bind fun token t ht => ?_
  refine .test (keeps_guarded _) fun _ => .pure ?_
  simp [ht, bare_cons]

/-- Further elements go on with what has been read: from `x`, the parts of the elements so far. If
there is no comma, there are none. -/
theorem yields_moreElements {element : Parser Tree} (he : SpellsNode element)
    {x : Pieces} {parts : List Tree} {s : List Token} (h : x = Tree.piecesAll parts ++ spelled s) :
    Yields (moreElements element parts) s fun a t =>
      x = Tree.piecesAll a.1 ++ spelled t ∧ (a.2 = false → a.1 = parts) := by
  refine (yields_iterate (I := fun a t =>
    x = Tree.piecesAll a.1 ++ spelled t ∧ (a.2.1 = false → a.1 = parts)) ⟨h, fun _ => rfl⟩ ?_).bind
    fun a t ha => .pure ha
  rintro ⟨read, comma, ended⟩ s ⟨h, hc⟩
  refine .test (keeps_nextIs ",") fun b => .ite (fun _ => .pure ⟨h, hc⟩) fun _ => ?_
  refine (spells_next "," s).bind fun mark t hm => ?_
  refine (Yields.attempt (Q := fun o u => x = Tree.piecesAll (read ++ mark.trees ++ o.getD []) ++
    spelled u) ?_ ?_).bind fun o u hu => ?_
  · exact (spells_spaced he t).mono fun a u ha => by simp [h, hm, ha]
  · simp [h, hm]
  · cases o with
    | none => exact .pure ⟨by simpa using hu, by simp⟩
    | some more => exact .pure ⟨by simpa using hu, by simp⟩

theorem spells_elements {element : Parser Tree} (he : SpellsNode element) :
    Spells bare (fun a => Tree.piecesAll a.1) (elements element) := by
  intro s
  refine (he s).bind fun head t ht => ?_
  exact (yields_moreElements he (x := bare s) (by simp [ht])).mono fun a u h => h.1

theorem spells_separated {element : Parser Tree} (he : SpellsNode element) :
    Spells bare Tree.piecesAll (separated element) := by
  intro s
  refine (he s).bind fun head t ht => yields_iterate (by simp [ht]) fun parts u hu => ?_
  refine .test (keeps_nextIs ",") fun b => .ite (fun _ => .pure hu) fun _ => ?_
  refine (spells_next "," u).bind fun mark v hv => ?_
  refine (spells_spaced he v).bind fun more w hw => .pure ?_
  simp [hu, hv, hw]

theorem spells_dottedName : SpellsNode dottedName := by
  intro s
  refine (spells_name s).bind fun head t ht => yields_iterate ht fun value u hu => ?_
  refine .test (keeps_nextIs ".") fun b => .ite (fun _ => .pure hu) fun _ => ?_
  refine (spells_next "." u).bind fun dot v hv => ?_
  refine (spells_spaced spells_name v).bind fun attr w hw => .pure ?_
  simp [hu, hv, hw]

end Grammar

end LocaleRegistrar.Python
