import LocaleRegistrar.Proofs.Address
import LocaleRegistrar.Proofs.Reparse.Splitting

/-! Statements that hold no call. The grammar lets an import from a module name things only, and a
string literal without replacement fields has no parts of its own, but a tree as such may put a call
anywhere. Main statement: the lines of every module that was read are as the grammar has them. -/

namespace LocaleRegistrar.Python

namespace Tree

/-- No node of the tree is a call. -/
def Inert (t : Tree) : Prop := ∀ u ∈ t.nodes, u.isCall = false

/-- None of the trees holds a call. -/
def AllInert (ts : List Tree) : Prop := ∀ t ∈ ts, t.Inert

theorem allInert_nil : AllInert [] := List.forall_mem_nil _

theorem AllInert.cons {t : Tree} {ts : List Tree} (ht : t.Inert) (hts : AllInert ts) :
    AllInert (t :: ts) :=
  List.forall_mem_cons.mpr ⟨ht, hts⟩

theorem AllInert.append {ts us : List Tree} (hts : AllInert ts) (hus : AllInert us) :
    AllInert (ts ++ us) :=
  List.forall_mem_append.mpr ⟨hts, hus⟩

theorem mem_nodesAll {ts : List Tree} {u : Tree} : u ∈ nodesAll ts ↔ ∃ t ∈ ts, u ∈ t.nodes := by
  rw [nodesAll_eq_flatMap, List.mem_flatMap]

theorem inert_node_iff {kind : Kind} {opening closing : Pieces} {parts : List Tree} :
    (node kind opening parts closing).Inert ↔ kind ≠ .call ∧ AllInert parts := by
  simp only [Inert, AllInert, nodes, List.forall_mem_cons, mem_nodesAll, isCall, kind?]
  constructor
  · rintro ⟨hkind, hparts⟩
    exact ⟨by simpa using hkind, fun t ht u hu => hparts u ⟨t, ht, hu⟩⟩
  · rintro ⟨hkind, hparts⟩
    refine ⟨by simpa using hkind, ?_⟩
    rintro u ⟨t, ht, hu⟩
    exact hparts t ht u hu

theorem inert_piece (p : Piece) : (piece p).Inert := by
  intro u hu
  cases hu

/-- A node that is no call and has none below it. -/
theorem inert_of_children {t : Tree} {kind : Kind} (hkind : t.kind? = some kind)
    (hcall : kind ≠ .call) (h : AllInert t.children) : t.Inert := by
  cases t with
  | piece p => exact inert_piece p
  | node own opening parts closing =>
    obtain rfl : own = kind := Option.some.inj hkind
    refine inert_node_iff.mpr ⟨hcall, fun part hpart => ?_⟩
    cases part with
    | piece p => exact inert_piece p
    | node => exact h _ (List.mem_filter.mpr ⟨hpart, rfl⟩)

theorem inert_bare {kind : Kind} {parts : List Tree} (hkind : kind ≠ .call)
    (hparts : AllInert parts) : (bare kind parts).Inert :=
  inert_node_iff.mpr ⟨hkind, hparts⟩

theorem inert_ofName (id : String) : (ofName id).Inert :=
  inert_bare (by decide) (.cons (inert_piece _) allInert_nil)

theorem allInert_trees (ps : Pieces) : AllInert ps.trees := by
  intro t h
  obtain ⟨p, -, rfl⟩ := List.mem_map.mp h
  exact inert_piece p

@[simp] theorem kind?_relativeTo (usual : String) (t : Tree) :
    (t.relativeTo usual).kind? = t.kind? := by
  cases t <;> rfl

theorem relativeToAll_eq_map (usual : String) (ts : List Tree) :
    relativeToAll usual ts = ts.map (·.relativeTo usual) := by
  induction ts with
  | nil => rfl
  | cons t rest ih => rw [relativeToAll, ih, List.map_cons]

mutual

theorem Inert.relativeTo (usual : String) : (t : Tree) → t.Inert → (t.relativeTo usual).Inert
  | piece p, _ => inert_piece _
  | node _ _ parts _, h => by
    obtain ⟨hkind, hparts⟩ := inert_node_iff.mp h
    exact inert_node_iff.mpr ⟨hkind, Inert.relativeToAll usual parts hparts⟩

theorem Inert.relativeToAll (usual : String) :
    (ts : List Tree) → AllInert ts → AllInert (Tree.relativeToAll usual ts)
  | [], _ => allInert_nil
  | t :: rest, h => by
    obtain ⟨ht, hrest⟩ := List.forall_mem_cons.mp h
    exact .cons (Inert.relativeTo usual t ht) (Inert.relativeToAll usual rest hrest)

end

/-- The tree is no string literal, or it holds no call. -/
def LiteralInert (t : Tree) : Prop := t.kind? = some .stringLiteral → t.Inert

/-- What the grammar lets a small statement be: one that imports from a module holds no call, and
neither does one that is a string literal. -/
structure Grammatical (t : Tree) : Prop where
  importFrom : t.kind? = some .importFrom → t.Inert
  literal : t.kind? = some .expression → ∀ value ∈ t.children, value.LiteralInert

theorem children_relativeTo (usual : String) (t : Tree) :
    (t.relativeTo usual).children = t.children.map (·.relativeTo usual) := by
  cases t with
  | piece => rfl
  | node kind opening parts closing =>
    have hnode : isNode ∘ (·.relativeTo usual) = isNode := by
      funext t
      cases t <;> rfl
    show (relativeToAll usual parts).filter isNode = (parts.filter isNode).map _
    rw [relativeToAll_eq_map, List.filter_map, hnode]

theorem Grammatical.relativeTo (usual : String) {t : Tree} (h : t.Grammatical) :
    (t.relativeTo usual).Grammatical := by
  constructor
  · intro hkind
    rw [kind?_relativeTo] at hkind
    exact .relativeTo usual t (h.importFrom hkind)
  · intro hkind value hvalue hliteral
    rw [kind?_relativeTo] at hkind
    rw [children_relativeTo, List.mem_map] at hvalue
    obtain ⟨value, hmem, rfl⟩ := hvalue
    rw [kind?_relativeTo] at hliteral
    exact .relativeTo usual value (h.literal hkind value hmem hliteral)

theorem Inert.grammatical {t : Tree} (h : t.Inert) : t.Grammatical := by
  refine ⟨fun _ => h, fun _ value hvalue _ => ?_⟩
  cases t with
  | piece => cases hvalue
  | node => exact (inert_node_iff.mp h).2 value (List.mem_of_mem_filter hvalue)

/-- Statements of the other kinds may hold what they like. -/
theorem grammatical_of_kind {t : Tree} {kind : Kind} (h : t.kind? = some kind)
    (hfrom : kind ≠ .importFrom) (hexpression : kind ≠ .expression) : t.Grammatical := by
  constructor <;> intro hkind <;> rw [h, Option.some.injEq] at hkind
  · exact absurd hkind hfrom
  · exact absurd hkind hexpression

theorem grammatical_other (parts : List Tree) : (Grammar.other parts).Grammatical :=
  grammatical_of_kind rfl (by decide) (by decide)

/-- A node that is no string literal. -/
theorem literalInert_bare {kind : Kind} (parts : List Tree) (h : kind ≠ .stringLiteral) :
    (bare kind parts).LiteralInert := by
  intro hkind
  exact absurd (Option.some.inj hkind) h

theorem literalInert_other (parts : List Tree) : (Grammar.other parts).LiteralInert :=
  literalInert_bare parts (by decide)

/-- Parentheses around a tree change neither its kind nor its parts. -/
theorem LiteralInert.parenthesize {t : Tree} (h : t.LiteralInert) (opening closing : Pieces) :
    (t.parenthesize opening closing).LiteralInert := by
  cases t with
  | piece => exact nofun
  | node => exact fun hkind => inert_node_iff.mpr (inert_node_iff.mp (h hkind))

end Tree

namespace Grammar

/-! ### What a parser gives -/

/-- All that the parser gives satisfies `P`. -/
def Gives {α : Type} (P : α → Prop) (p : Parser α) : Prop := ∀ s, Yields p s fun a _ => P a

namespace Gives

variable {α β : Type} {P : α → Prop} {Q : β → Prop}

theorem pure {a : α} (h : P a) : Gives P (Pure.pure a : Parser α) := fun _ => .pure h

theorem failure : Gives P (failure : Parser α) := fun _ => .failure

theorem bind {p : Parser α} {f : α → Parser β} (hp : Gives P p) (hf : ∀ a, P a → Gives Q (f a)) :
    Gives Q (p >>= f) :=
  fun s => (hp s).bind fun a t ha => hf a ha t

/-- Whatever the first parser gives. -/
theorem after {p : Parser α} {f : α → Parser β} (hf : ∀ a, Gives Q (f a)) : Gives Q (p >>= f) :=
  fun _ => Yields.bind (P := fun _ _ => True) (fun _ _ _ => trivial) fun a t _ => hf a t

theorem map {p : Parser α} {f : α → β} (hp : Gives (fun a => Q (f a)) p) : Gives Q (f <$> p) :=
  fun s => (hp s).map

theorem ite {c : Prop} [Decidable c] {p q : Parser α} (hp : Gives P p) (hq : Gives P q) :
    Gives P (if c then p else q) :=
  fun s => .ite (fun _ => hp s) fun _ => hq s

theorem mono {p : Parser α} {P' : α → Prop} (hp : Gives P p) (h : ∀ a, P a → P' a) : Gives P' p :=
  fun s => (hp s).mono fun a _ => h a

theorem iterate {step : α → Parser (Option α)} {a : α} (h : P a)
    (hstep : ∀ a, P a → Gives (fun o => P (o.getD a)) (step a)) : Gives P (iterate step a) :=
  fun _ => yields_iterate (I := fun a _ => P a) h fun a s ha => hstep a ha s

theorem spaced {p : Parser Tree} (hp : Gives Tree.Inert p) :
    Gives Tree.AllInert (spaced p) :=
  after fun gap => hp.bind fun _ ht =>
    pure ((Tree.allInert_trees gap).append (.cons ht Tree.allInert_nil))

end Gives

/-! ### Imports -/

theorem inert_name : Gives Tree.Inert name :=
  .after fun _ => .after fun _ => .pure (Tree.inert_ofName _)

theorem inert_dottedName : Gives Tree.Inert dottedName := by
  refine inert_name.bind fun head hhead => .iterate hhead fun value hvalue => ?_
  refine .after fun _ => .ite (.pure hvalue) (.after fun dot => ?_)
  refine inert_name.spaced.bind fun attr hattr => .pure ?_
  exact Tree.inert_bare (by decide) (.cons hvalue ((Tree.allInert_trees dot).append hattr))

namespace Rules

theorem inert_boundName {origin : Parser Tree} (h : Gives Tree.Inert origin) :
    Gives Tree.AllInert (boundName origin) := by
  refine h.bind fun id hid => .after fun _ => .ite (.after fun keyword => ?_) ?_
  · refine inert_name.spaced.bind fun bound hbound => .pure ?_
    exact .cons hid ((Tree.allInert_trees keyword).append hbound)
  · exact .pure (.cons hid Tree.allInert_nil)

theorem inert_importNames {origin : Parser Tree} (h : Gives Tree.Inert origin) (trailing : Bool) :
    Gives (fun names => Tree.AllInert names.1) (importNames origin trailing) := by
  refine (Gives.iterate (P := fun state : List Tree × Bool × Bool => Tree.AllInert state.1)
    Tree.allInert_nil ?_).bind fun state hstate => .after fun _ => .pure hstate
  rintro ⟨names, ended, comma⟩ hnames
  refine .ite (.pure hnames) ((inert_boundName h).bind fun parts hparts => .after fun _ => ?_)
  have halias {more : List Tree} (hmore : Tree.AllInert more) :
      Tree.AllInert (names ++ [.bare .importAlias (parts ++ more)]) :=
    hnames.append (.cons (Tree.inert_bare (by decide) (hparts.append hmore)) Tree.allInert_nil)
  refine .ite ?_ ?_
  · exact .after fun comma => .after fun gap => .after fun _ =>
      .pure (halias (Tree.allInert_trees (comma ++ gap)))
  · exact .pure (by simpa using halias Tree.allInert_nil)

theorem inert_importTargets : Gives Tree.AllInert importTargets := by
  refine .after fun _ => .ite (.after fun star => .pure (Tree.allInert_trees star)) ?_
  refine .after fun _ => .ite ?_ ?_
  · refine .after fun opening => .after fun gap => ?_
    refine (inert_importNames inert_name true).bind fun names hnames => .after fun closing => ?_
    exact .pure (((Tree.allInert_trees (opening ++ gap)).append hnames).append
      (Tree.allInert_trees closing))
  · refine .after fun before => (inert_importNames inert_name false).bind fun names hnames => ?_
    exact .pure ((Tree.allInert_trees before).append hnames)

theorem inert_importOrigin (dots : Pieces) : Gives Tree.AllInert (importOrigin dots) :=
  .after fun _ => .ite (.after fun _ => .pure Tree.allInert_nil) inert_dottedName.spaced

theorem inert_importFrom : Gives Tree.Inert importFrom := by
  refine .after fun keyword => .after fun dots => ?_
  refine (inert_importOrigin dots).bind fun origin horigin => .after fun importKeyword => ?_
  refine inert_importTargets.bind fun targets htargets => .pure ?_
  have hstart := ((Tree.allInert_trees keyword).append (Tree.allInert_trees dots)).append horigin
  exact Tree.inert_bare (by decide)
    ((hstart.append (Tree.allInert_trees importKeyword)).append htargets)

/-! ### Expressions -/

section
variable {r : Rules} (hr : Gives Tree.LiteralInert r.expression)

theorem literal_starred : Gives Tree.LiteralInert r.starred :=
  .after fun _ => .after fun _ => .pure (Tree.literalInert_bare _ (by decide))

theorem literal_yieldExpression : Gives Tree.LiteralInert r.yieldExpression := by
  refine .after fun _ => .after fun _ => .ite ?_ (.after fun value => ?_)
  · exact .after fun _ => .after fun _ => .pure (Tree.literalInert_other _)
  · cases value with
    | none => exact .pure (Tree.literalInert_other _)
    | some => exact .pure (Tree.literalInert_other _)

/-- A literal is one token. -/
theorem literal_stringPart : Gives Tree.LiteralInert r.stringPart := by
  refine .after fun token => .ite (.pure fun _ => ?_) (.ite ?_ .failure)
  · exact Tree.inert_bare (by decide) (.cons (Tree.inert_piece _) Tree.allInert_nil)
  · exact .after fun _ => .after fun _ => .pure (Tree.literalInert_other _)

theorem literal_strings : Gives Tree.LiteralInert r.strings := by
  refine literal_stringPart.bind fun head hhead => .after fun more => .pure ?_
  split
  · exact hhead
  · exact Tree.literalInert_bare _ (by decide)

theorem literal_bracketed : Gives Tree.LiteralInert r.bracketed := by
  have hlist (parts : List Tree) : (Tree.bare .list parts).LiteralInert :=
    Tree.literalInert_bare parts (by decide)
  refine .after fun _ => .after fun _ => .after fun _ => .ite ?_ ?_
  · exact .after fun _ => .pure (hlist _)
  · refine .after fun _ => .after fun _ => .ite ?_ ?_
    · exact .after fun _ => .after fun _ => .after fun _ => .pure (Tree.literalInert_other _)
    · exact .after fun _ => .after fun _ => .pure (hlist _)

theorem literal_braced : Gives Tree.LiteralInert r.braced := by
  have hother (parts : List Tree) := Tree.literalInert_other parts
  refine .after fun _ => .after fun _ => .after fun _ => .ite ?_ (.after fun _ => .ite ?_ ?_)
  · exact .after fun _ => .pure (hother _)
  · exact .after fun _ => .after fun _ => .pure (hother _)
  refine .after fun _ => .after fun _ => .after fun _ => .ite ?_ (.after fun _ => .ite ?_ ?_)
  · refine .after fun _ => .after fun _ => .after fun _ => .ite ?_ ?_
    · exact .after fun _ => .after fun _ => .pure (hother _)
    · exact .after fun _ => .after fun _ => .pure (hother _)
  · exact .after fun _ => .after fun _ => .after fun _ => .pure (hother _)
  · exact .after fun _ => .after fun _ => .pure (hother _)

theorem literal_leftAssociative {operand : Parser Tree} (h : Gives Tree.LiteralInert operand)
    (ops : List String) : Gives Tree.LiteralInert (leftAssociative ops operand) := by
  refine h.bind fun left hleft => .iterate hleft fun value hvalue => ?_
  refine .after fun _ => .ite (.pure hvalue) ?_
  exact .after fun _ => .after fun _ => .pure (Tree.literalInert_other _)

theorem literal_oneOrTuple {element : Parser Tree} (h : Gives Tree.LiteralInert element) :
    Gives Tree.LiteralInert (oneOrTuple element) := by
  refine h.bind fun head hhead => .after fun more => .pure ?_
  split
  · exact Tree.literalInert_bare _ (by decide)
  · exact hhead

include hr

theorem literal_named : Gives Tree.LiteralInert r.named := by
  refine .after fun _ => .ite ?_ hr
  exact .after fun _ => .after fun _ => .after fun _ => .pure (Tree.literalInert_other _)

theorem literal_starNamed : Gives Tree.LiteralInert r.starNamed :=
  .after fun _ => .ite literal_starred (literal_named hr)

theorem literal_starExpressions : Gives Tree.LiteralInert r.starExpressions :=
  literal_oneOrTuple (.after fun _ => .ite literal_starred hr)

theorem literal_parenthesized : Gives Tree.LiteralInert r.parenthesized := by
  refine .after fun _ => .after fun _ => .after fun _ => .ite ?_ (.after fun _ => .ite ?_ ?_)
  · exact .after fun _ => .pure nofun
  · exact literal_yieldExpression.bind fun value hvalue => .after fun _ =>
      .pure (hvalue.parenthesize _ _)
  · refine (literal_starNamed hr).bind fun head hhead => .after fun _ => .ite ?_ ?_
    · exact .after fun _ => .after fun _ => .after fun _ => .pure nofun
    refine .after fun _ => .ite ?_ ?_
    · exact .after fun _ => .after fun _ => .pure nofun
    · exact .after fun _ => .after fun _ => .pure (hhead.parenthesize _ _)

theorem literal_atom : Gives Tree.LiteralInert r.atom := by
  have hname : Gives Tree.LiteralInert name :=
    .after fun _ => .after fun _ => .pure (Tree.literalInert_bare _ (by decide))
  refine .after fun next => ?_
  cases next with
  | none => exact .failure
  | some token =>
    dsimp only
    cases token.kind with
    | word => exact .ite (.after fun _ => .pure (Tree.literalInert_bare _ (by decide))) hname
    | number =>
      refine .after fun _ => .pure (Tree.literalInert_bare _ ?_)
      split <;> decide
    | string | templateStart => exact literal_strings
    | symbol =>
      refine .ite (literal_parenthesized hr) (.ite ?_ (.ite ?_ (.ite ?_ .failure)))
      · exact literal_bracketed
      · exact literal_braced
      · exact .after fun _ => .pure (Tree.literalInert_other _)
    | _ => exact .failure

theorem literal_primaryRule : Gives Tree.LiteralInert r.primaryRule := by
  refine (literal_atom hr).bind fun head hhead => .iterate hhead fun value hvalue => ?_
  refine .after fun _ => .ite ?_ (.after fun _ => .ite ?_ (.after fun _ => .ite ?_ (.pure hvalue)))
  · exact .after fun _ => .after fun _ => .pure (Tree.literalInert_bare _ (by decide))
  · exact .map (.after fun _ => .pure (Tree.literalInert_bare _ (by decide)))
  · exact .map (.after fun _ => .after fun _ => .after fun _ => .after fun _ =>
      .pure (Tree.literalInert_bare _ (by decide)))

theorem literal_factorRule : Gives Tree.LiteralInert r.factorRule := by
  have hawaited : Gives Tree.LiteralInert r.awaited :=
    .after fun _ => .ite (.after fun _ => .after fun _ => .pure (Tree.literalInert_other _))
      (literal_primaryRule hr)
  have hpower : Gives Tree.LiteralInert r.power := by
    refine hawaited.bind fun base hbase => .after fun _ => .ite ?_ (.pure hbase)
    exact .after fun _ => .after fun _ => .pure (Tree.literalInert_other _)
  exact .after fun _ =>
    .ite (.after fun _ => .after fun _ => .pure (Tree.literalInert_other _)) hpower

theorem literal_bitwiseOrRule : Gives Tree.LiteralInert r.bitwiseOrRule :=
  literal_leftAssociative (literal_leftAssociative (literal_leftAssociative (literal_leftAssociative
    (literal_leftAssociative (literal_leftAssociative (literal_factorRule hr) _) _) _) _) _) _

theorem literal_comparison : Gives Tree.LiteralInert r.comparison := by
  refine (literal_bitwiseOrRule hr).bind fun left hleft => .after fun more => .pure ?_
  split
  · exact hleft
  · exact Tree.literalInert_other _

theorem literal_disjunctionRule : Gives Tree.LiteralInert r.disjunctionRule := by
  have hinversion : Gives Tree.LiteralInert r.inversionRule :=
    .after fun _ => .ite (.after fun _ => .after fun _ => .pure (Tree.literalInert_other _))
      (literal_comparison hr)
  exact literal_leftAssociative (literal_leftAssociative hinversion _) _

theorem literal_expressionRule : Gives Tree.LiteralInert r.expressionRule := by
  refine .after fun _ => .ite ?_ ?_
  · exact .after fun _ => .after fun _ => .after fun _ => .after fun _ =>
      .pure (Tree.literalInert_other _)
  · refine (literal_disjunctionRule hr).bind fun value hvalue => .after fun choice => ?_
    cases choice with
    | none => exact .pure hvalue
    | some => exact .pure (Tree.literalInert_other _)

end

/-- No rule makes a literal of anything but one token. -/
theorem literal_expression (depth : Nat) : Gives Tree.LiteralInert (rules depth).expression := by
  induction depth with
  | zero => exact .failure
  | succ depth ih => exact literal_expressionRule ih

/-! ### Small statements -/

theorem grammatical_expressionStatement {r : Rules} (hr : Gives Tree.LiteralInert r.expression) :
    Gives Tree.Grammatical r.expressionStatement := by
  have hexpression {value : Tree} (h : value.LiteralInert) :
      (Tree.bare .expression [value]).Grammatical := by
    refine ⟨nofun, fun _ child hchild => ?_⟩
    obtain rfl := List.mem_singleton.mp (List.mem_of_mem_filter hchild)
    exact h
  have hother (parts : List Tree) := Tree.grammatical_other parts
  refine .after fun _ => .ite ?_ ?_
  · exact literal_yieldExpression.bind fun value hvalue => .pure (hexpression hvalue)
  refine (literal_starExpressions hr).bind fun value hvalue => ?_
  refine .after fun _ => .ite ?_ (.after fun _ => .ite ?_ (.after fun _ => .ite ?_ ?_))
  · exact .after fun _ => .after fun _ => .pure (hother _)
  · exact .after fun _ => .after fun _ => .after fun _ => .after fun _ => .pure (hother _)
  · exact .after fun _ => .after fun _ => .after fun _ => .pure (hother _)
  · exact .pure (hexpression hvalue)

theorem grammatical_small {r : Rules} (hr : Gives Tree.LiteralInert r.expression) :
    Gives Tree.Grammatical r.small := by
  have hother (parts : List Tree) := Tree.grammatical_other parts
  have hexpression := grammatical_expressionStatement hr
  refine .after fun next => ?_
  cases next with
  | none => exact .failure
  | some token =>
    refine .ite (.ite ?_ (.ite ?_ (.ite ?_ (.ite ?_ (.ite ?_ (.ite ?_ (.ite ?_ (.ite ?_
      (.after fun _ => .ite ?_ hexpression))))))))) hexpression
    · -- import
      exact .after fun _ => .after fun _ => .after fun _ =>
        .pure (Tree.grammatical_of_kind rfl (by decide) (by decide))
    · -- from
      exact inert_importFrom.mono fun _ => Tree.Inert.grammatical
    · -- pass, break, continue
      exact .after fun _ => .pure (hother _)
    · -- return
      refine .after fun _ => .after fun value => ?_
      cases value <;> exact .pure (hother _)
    · -- raise
      refine .after fun _ => .after fun value => ?_
      cases value with
      | none => exact .pure (hother _)
      | some => exact .after fun _ => .pure (hother _)
    · -- global, nonlocal
      exact .after fun _ => .after fun _ => .after fun _ => .pure (hother _)
    · -- del
      exact .after fun _ => .after fun _ => .pure (hother _)
    · -- assert
      exact .after fun _ => .after fun _ => .after fun _ => .pure (hother _)
    · -- type
      exact .after fun _ => .after fun _ => .after fun _ => .after fun _ => .after fun _ =>
        .pure (hother _)

end Rules

theorem grammatical_readSmall {tokens : List Token} {t : Tree} (h : readSmall tokens = some t) :
    t.Grammatical := by
  unfold readSmall onTokens at h
  split at h
  next a hrun =>
    cases h
    exact Rules.grammatical_small (Rules.literal_expression _) _ _ _ hrun
  next => cases h

/-! ### Modules -/

/-- The lines of the body are as the grammar has them. -/
def GrammaticalLines (body : List Statement) : Prop :=
  ∀ line, .simple line ∈ body → ∀ s ∈ line.body, s.content.Grammatical

theorem grammatical_readItem {u : Usual} {item : Item} {line : Line}
    (h : readItem u false item = some (.simple line)) : ∀ s ∈ line.body, s.content.Grammatical := by
  obtain ⟨l, body, rfl, hbody, rfl⟩ := readItem_eq_simple h
  have hread := (smallsFrom_chunks hbody).flip.imp fun s chunk hs =>
    And.intro (grammatical_readSmall hs) hs
  intro s hs
  have hmem := List.mem_map_of_mem (f := (·.content)) hs
  rw [endLine_content, smallsRelativeTo, List.map_map] at hmem
  obtain ⟨small, hsmall, hcontent⟩ := List.mem_map.mp hmem
  rw [← hcontent]
  exact (((List.forall₂_and_left _ _).mp hread).1 small hsmall).relativeTo u.lineEnd

/-- A line of small statements is a reading of its own. -/
theorem simple_mem_of_joinLines {readings : List Reading} {j : Joined}
    (h : joinLines readings = some j) {line : Line} (hmem : .simple line ∈ j.done) :
    .simple line ∈ readings := by
  induction readings generalizing j with
  | nil =>
    cases h
    cases hmem
  | cons r rest ih =>
    obtain ⟨k, hk, hadd⟩ := Option.bind_eq_some_iff.mp h
    cases Joined.add_eq_some_iff.mp hadd with
    | simple own hpending =>
      obtain heq | hmem := List.mem_cons.mp hmem
      · cases heq
        exact List.mem_cons_self
      · exact List.mem_cons_of_mem _ (ih hk hmem)
    | decorator d s t others hpending hdone ht =>
      obtain rfl | hmem := List.mem_cons.mp hmem
      · cases decorable_of_decorate ht
      · exact List.mem_cons_of_mem _ (ih hk (hdone ▸ List.mem_cons_of_mem _ hmem))
    | continued | alternative => exact List.mem_cons_of_mem _ (ih hk hmem)
    | compound =>
      obtain heq | hmem := List.mem_cons.mp hmem
      · cases heq
      · exact List.mem_cons_of_mem _ (ih hk hmem)

theorem readItem_of_mem {u : Usual} {choices : Bool} {items : List Item} {readings : List Reading}
    (h : readItems u choices items = some readings) {r : Reading} (hr : r ∈ readings) :
    ∃ item, readItem u choices item = some r := by
  induction items generalizing readings with
  | nil =>
    cases h
    cases hr
  | cons item items ih =>
    obtain ⟨first, hfirst, h⟩ := Option.bind_eq_some_iff.mp h
    obtain ⟨rest, hrest, h⟩ := Option.bind_eq_some_iff.mp h
    cases h
    obtain rfl | hr := List.mem_cons.mp hr
    · exact ⟨item, hfirst⟩
    · exact ih hrest hr

end Grammar

/-- The lines of a module that was read are as the grammar has them. -/
theorem grammatical_parseModule {text : String} {m : Module} (h : parseModule text = some m) :
    Grammar.GrammaticalLines m.body := by
  obtain ⟨⟨body, footer, usual⟩, htext, h⟩ := Option.bind_eq_some_iff.mp h
  obtain ⟨layout, -, htext⟩ := Option.bind_eq_some_iff.mp htext
  obtain ⟨readings, hreadings, htext⟩ := Option.bind_eq_some_iff.mp htext
  obtain ⟨statements, hstatements, htext⟩ := Option.bind_eq_some_iff.mp htext
  cases htext
  have hlines : Grammar.GrammaticalLines body := by
    intro line hline
    have hmem :=
      Grammar.simple_mem_of_joinLines (Grammar.statements_eq_some_iff.mp hstatements) hline
    obtain ⟨item, hitem⟩ := Grammar.readItem_of_mem hreadings hmem
    exact Grammar.grammatical_readItem hitem
  cases body with
  | nil =>
    cases h
    exact hlines
  | cons statement rest =>
    cases h
    intro line hline
    obtain heq | hline := List.mem_cons.mp hline
    · -- the first line has lost the lines before it
      cases statement with
      | compound => cases heq
      | simple own =>
        cases heq
        exact hlines own List.mem_cons_self
    · exact hlines line (List.mem_cons_of_mem _ hline)

end LocaleRegistrar.Python
