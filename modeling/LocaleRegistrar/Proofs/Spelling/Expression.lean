import LocaleRegistrar.Proofs.Spelling.Parser

/-!
The rules of expressions spell what they read, if the rules nested in them do.
-/

namespace LocaleRegistrar.Python.Grammar

/-- The nested rules spell what they read. -/
structure Rules.Faithful (r : Rules) : Prop where
  primary : SpellsNode r.primary
  factor : SpellsNode r.factor
  bitwiseOr : SpellsNode r.bitwiseOr
  inversion : SpellsNode r.inversion
  disjunction : SpellsNode r.disjunction
  expression : SpellsNode r.expression
  field : SpellsNode r.field
  pattern : SpellsNode r.pattern

@[simp] theorem pieces_other (parts : List Tree) : (other parts).pieces = Tree.piecesAll parts :=
  Tree.pieces_bare _ _

/-- A node alone, or with more after it as one node. -/
theorem pieces_headOrAll (kind : Kind) (head : Tree) (more : List Tree) :
    (if more.isEmpty then head else .bare kind (head :: more)).pieces =
      head.pieces ++ Tree.piecesAll more := by
  cases more <;> simp

namespace Rules

/-! ### Lists of expressions -/

theorem spells_oneOrTuple {element : Parser Tree} (he : SpellsNode element) :
    SpellsNode (oneOrTuple element) := by
  intro s
  refine (he s).bind fun head t ht => ?_
  refine (yields_moreElements he (x := bare s) (by simp [ht])).bind fun a u ha => .pure ?_
  obtain ⟨parts, comma⟩ := a
  cases comma with
  | true => simpa using ha.1
  | false =>
    obtain rfl : parts = [head] := ha.2 rfl
    simpa using ha.1

variable {r : Rules}

section
variable (hr : r.Faithful)
include hr

theorem spells_starred : SpellsNode r.starred := by
  intro s
  refine (spells_first "*" s).bind fun star t hs => ?_
  refine (spells_spaced hr.bitwiseOr t).bind fun value u hv => .pure ?_
  simp [hs, hv]

theorem spells_named : SpellsNode r.named := by
  intro s
  refine .test (keeps_secondIs ":=") fun b => .ite (fun _ => ?_) fun _ => hr.expression s
  refine (spells_name s).bind fun target t ht => ?_
  refine (spells_next ":=" t).bind fun walrus u hu => ?_
  refine (spells_spaced hr.expression u).bind fun value v hv => .pure ?_
  simp [ht, hu, hv]

theorem spells_starNamed : SpellsNode r.starNamed := fun s =>
  .test (keeps_nextIs "*") fun _ =>
    .ite (fun _ => spells_starred hr s) fun _ => spells_named hr s

theorem spells_starExpression : SpellsNode r.starExpression := fun s =>
  .test (keeps_nextIs "*") fun _ =>
    .ite (fun _ => spells_starred hr s) fun _ => hr.expression s

theorem spells_starExpressions : SpellsNode r.starExpressions :=
  spells_oneOrTuple (spells_starExpression hr)

theorem spells_yieldExpression : SpellsNode r.yieldExpression := by
  intro s
  refine (spells_first "yield" s).bind fun keyword t hk => ?_
  refine .test (keeps_nextIs "from") fun b => .ite (fun _ => ?_) fun _ => ?_
  · refine (spells_next "from" t).bind fun origin u hu => ?_
    refine (spells_spaced hr.expression u).bind fun value v hv => .pure ?_
    simp [hk, hu, hv]
  · refine (Yields.attempt (Q := fun o u => bare s = keyword ++ Tree.piecesAll (o.getD []) ++
      spelled u) ?_ (by simp [hk])).bind fun o u hu => ?_
    · exact (spells_spaced (spells_starExpressions hr) t).mono fun a u ha => by simp [hk, ha]
    · cases o with
      | none => exact .pure (by simpa using hu)
      | some value => exact .pure (by simpa using hu)

theorem spells_assigned : SpellsNode r.assigned := fun s =>
  .test (keeps_nextIs "yield") fun _ =>
    .ite (fun _ => spells_yieldExpression hr s) fun _ => spells_starExpressions hr s

/-! ### Targets and comprehensions -/

theorem spells_starPrimary : SpellsNode r.starPrimary := by
  intro s
  refine .test (keeps_nextIs "*") fun b => .ite (fun _ => ?_) fun _ => hr.primary s
  refine (spells_first "*" s).bind fun star t hs => ?_
  refine (spells_spaced hr.primary t).bind fun value u hv => .pure ?_
  simp [hs, hv]

theorem spells_starTarget : SpellsNode r.starTarget := by
  intro s
  refine (spells_starPrimary hr s).bind fun target t ht => ?_
  exact .test (keeps_guarded _) fun _ => .pure ht

theorem spells_starTargets : SpellsNode r.starTargets :=
  spells_oneOrTuple (spells_starTarget hr)

omit hr in
theorem keeps_startsComprehension : Keeps startsComprehension := fun _ =>
  .test (keeps_nextIs "for") fun _ => .test (keeps_nextIs "async") fun _ =>
    .test (keeps_secondIs "for") fun _ => .pure rfl

theorem spells_comprehensionClause : SpellsTrees r.comprehensionClause := by
  intro s
  refine (spells_optionalNext "async" s).bind fun mark t hm => ?_
  refine (spells_next "for" t).bind fun keyword u hk => ?_
  refine (spells_spaced (spells_starTargets hr) u).bind fun target v ht => ?_
  refine (spells_next "in" v).bind fun within w hw => ?_
  refine (spells_spaced hr.disjunction w).bind fun values x hx => ?_
  refine yields_iterate (by simp [hm, hk, ht, hw, hx]) fun parts y hy => ?_
  refine .test (keeps_nextIs "if") fun b => .ite (fun _ => .pure hy) fun _ => ?_
  refine (spells_next "if" y).bind fun condition z hz => ?_
  refine (spells_spaced hr.disjunction z).bind fun value _ hv => .pure ?_
  simp [hy, hz, hv]

theorem spells_comprehension : SpellsTrees r.comprehension := by
  intro s
  refine (spells_comprehensionClause hr s).bind fun head t ht => ?_
  refine yields_iterate ht fun parts u hu => ?_
  refine .test keeps_startsComprehension fun b => .ite (fun _ => .pure hu) fun _ => ?_
  refine (spells_comprehensionClause hr u).bind fun more v hv => .pure ?_
  simp [hu, hv]

/-! ### Strings -/

theorem spells_templateParts (ends : Token → Bool) : SpellsTrees (r.templateParts ends) := by
  intro s
  refine yields_iterate rfl fun parts t ht => ?_
  refine .test keeps_peek fun next => ?_
  cases next with
  | none => exact .failure
  | some token =>
    refine .ite (fun _ => .pure ht) fun _ => .ite (fun _ => ?_) fun _ => ?_
    · refine (spells_spaced spells_anyText t).bind fun more u hu => .pure ?_
      simp [ht, hu]
    · refine (spells_spaced hr.field t).bind fun more u hu => .pure ?_
      simp [ht, hu]

omit hr in
theorem spells_conversion : Spells spelled id conversion := by
  intro s
  refine .test (keeps_nextIs "!") fun b => .ite (fun _ => ?_) fun _ => .pure rfl
  refine (spells_next "!" s).bind fun mark t hm => ?_
  refine (spells_nextOf ["s", "r", "a"] t).bind fun letter u hl => .pure ?_
  simp [hm, hl]

theorem spells_formatSpec : SpellsTrees r.formatSpec := by
  intro s
  refine .test (keeps_nextIs ":") fun b => .ite (fun _ => ?_) fun _ => .pure rfl
  refine (spells_next ":" s).bind fun colon t hc => ?_
  refine (spells_templateParts hr _ t).bind fun parts u hu => .pure ?_
  simp [hc, hu]

theorem spells_templateField : SpellsNode r.templateField := by
  intro s
  refine (spells_first "\x7b" s).bind fun opening t ho => ?_
  refine (spells_spaced (spells_assigned hr) t).bind fun value u hv => ?_
  refine (spells_optionalNext "=" u).bind fun equal v he => ?_
  refine (spells_conversion v).bind fun conversion w hw => ?_
  refine (spells_formatSpec hr w).bind fun spec x hx => ?_
  refine (spells_next "\x7d" x).bind fun closing y hy => .pure ?_
  simp [ho, hv, he, hw, hx, hy]

theorem spells_stringPart : SpellsNode r.stringPart := by
  intro s
  refine (yields_take s).bind fun token t ht => ?_
  refine .ite (fun _ => .pure ?_) fun _ => .ite (fun _ => ?_) fun _ => .failure
  · simp [ht, bare_cons]
  · refine (spells_templateParts hr _ t).bind fun parts u hu => ?_
    refine (spells_spaced spells_anyText u).bind fun ending v hv => .pure ?_
    simp [ht, bare_cons, hu, hv]

omit hr in
theorem keeps_startsString : Keeps startsString := fun _ =>
  .test keeps_peek fun next => by cases next <;> exact .pure rfl

theorem spells_strings : SpellsNode r.strings := by
  intro s
  refine (spells_stringPart hr s).bind fun head t ht => ?_
  refine (yields_iterate (I := fun more u => spelled t = Tree.piecesAll more ++ spelled u) rfl
    fun more u hu => ?_).bind fun more u hu => .pure ?_
  · refine .test keeps_startsString fun b => .ite (fun _ => .pure hu) fun _ => ?_
    refine (spells_spaced (spells_stringPart hr) u).bind fun part v hv => .pure ?_
    simp [hu, hv]
  · rw [pieces_headOrAll, ht, hu, List.append_assoc]

/-! ### Atoms -/

theorem spells_parenthesized : SpellsNode r.parenthesized := by
  intro s
  refine (spells_first "(" s).bind fun opening t ho => ?_
  refine (yields_gap t).bind fun g t' hg => ?_
  obtain ⟨rfl, hg⟩ := hg
  refine .test (keeps_nextIs ")") fun b => .ite (fun _ => ?_) fun _ => ?_
  · refine (spells_first ")" t').bind fun closing u hc => .pure ?_
    simp [Tree.pieces, ho, hg, hc]
  refine .test (keeps_nextIs "yield") fun b => .ite (fun _ => ?_) fun _ => ?_
  · refine (spells_yieldExpression hr t').bind fun value u hv => ?_
    refine (spells_next ")" u).bind fun closing v hc => .pure ?_
    simp [ho, hg, hv, hc]
  refine (spells_starNamed hr t').bind fun head u hh => ?_
  refine .test keeps_startsComprehension fun b => .ite (fun _ => ?_) fun _ => ?_
  · refine .test (keeps_guarded _) fun _ => ?_
    refine (spells_comprehension hr u).bind fun clauses v hv => ?_
    refine (spells_next ")" v).bind fun closing w hc => .pure ?_
    simp [Tree.pieces, ho, hg, hh, hv, hc]
  refine .test (keeps_nextIs ",") fun b => .ite (fun _ => ?_) fun _ => ?_
  · refine (yields_moreElements (spells_starNamed hr) (x := bare t') (by simp [hh])).bind
      fun parts v hv => ?_
    refine (spells_next ")" v).bind fun closing w hc => .pure ?_
    simp [Tree.pieces, ho, hg, hv.1, hc]
  · refine .test (keeps_guarded _) fun _ => ?_
    refine (spells_next ")" u).bind fun closing w hc => .pure ?_
    simp [ho, hg, hh, hc]

theorem spells_bracketed : SpellsNode r.bracketed := by
  intro s
  refine (spells_first "[" s).bind fun opening t ho => ?_
  refine (yields_gap t).bind fun g t' hg => ?_
  obtain ⟨rfl, hg⟩ := hg
  refine .test (keeps_nextIs "]") fun b => .ite (fun _ => ?_) fun _ => ?_
  · refine (spells_first "]" t').bind fun closing u hc => .pure ?_
    simp [ho, hg, hc]
  refine (spells_starNamed hr t').bind fun head u hh => ?_
  refine .test keeps_startsComprehension fun b => .ite (fun _ => ?_) fun _ => ?_
  · refine .test (keeps_guarded _) fun _ => ?_
    refine (spells_comprehension hr u).bind fun clauses v hv => ?_
    refine (spells_next "]" v).bind fun closing w hc => .pure ?_
    simp [ho, hg, hh, hv, hc]
  · refine (yields_moreElements (spells_starNamed hr) (x := bare t') (by simp [hh])).bind
      fun parts v hv => ?_
    refine (spells_next "]" v).bind fun closing w hc => .pure ?_
    simp [ho, hg, hv.1, hc]

theorem spells_dictElement : SpellsNode r.dictElement := by
  intro s
  refine .test (keeps_nextIs "**") fun b => .ite (fun _ => ?_) fun _ => ?_
  · refine (spells_first "**" s).bind fun stars t hs => ?_
    refine (spells_spaced hr.bitwiseOr t).bind fun value u hv => .pure ?_
    simp [hs, hv]
  · refine (hr.expression s).bind fun key t hk => ?_
    refine (spells_next ":" t).bind fun colon u hc => ?_
    refine (spells_spaced hr.expression u).bind fun value v hv => .pure ?_
    simp [hk, hc, hv]

theorem spells_braced : SpellsNode r.braced := by
  intro s
  refine (spells_first "\x7b" s).bind fun opening t ho => ?_
  refine (yields_gap t).bind fun g t' hg => ?_
  obtain ⟨rfl, hg⟩ := hg
  refine .test (keeps_nextIs "\x7d") fun b => .ite (fun _ => ?_) fun _ => ?_
  · refine (spells_first "\x7d" t').bind fun closing u hc => .pure ?_
    simp [ho, hg, hc]
  refine .test (keeps_nextIs "**") fun b => .ite (fun _ => ?_) fun _ => ?_
  · refine (spells_elements (spells_dictElement hr) t').bind fun parts u hu => ?_
    refine (spells_next "\x7d" u).bind fun closing v hc => .pure ?_
    simp [ho, hg, hu, hc]
  refine .test (keeps_secondIs ":=") fun walrus => ?_
  refine (spells_starNamed hr t').bind fun head u hh => ?_
  refine .test (keeps_nextIs ":") fun b => .ite (fun _ => ?_) fun _ => ?_
  · refine (spells_next ":" u).bind fun colon v hc => ?_
    refine (spells_spaced hr.expression v).bind fun value w hv => ?_
    refine .test keeps_startsComprehension fun b => .ite (fun _ => ?_) fun _ => ?_
    · refine (spells_comprehension hr w).bind fun clauses x hx => ?_
      refine (spells_next "\x7d" x).bind fun closing y hy => .pure ?_
      simp [ho, hg, hh, hc, hv, hx, hy]
    · refine (yields_moreElements (spells_dictElement hr) (x := bare t')
        (by simp [hh, hc, hv])).bind fun parts x hx => ?_
      refine (spells_next "\x7d" x).bind fun closing y hy => .pure ?_
      simp [ho, hg, hx.1, hy]
  refine .test keeps_startsComprehension fun b => .ite (fun _ => ?_) fun _ => ?_
  · refine .test (keeps_guarded _) fun _ => ?_
    refine (spells_comprehension hr u).bind fun clauses v hv => ?_
    refine (spells_next "\x7d" v).bind fun closing w hc => .pure ?_
    simp [ho, hg, hh, hv, hc]
  · refine (yields_moreElements (spells_starNamed hr) (x := bare t') (by simp [hh])).bind
      fun parts v hv => ?_
    refine (spells_next "\x7d" v).bind fun closing w hc => .pure ?_
    simp [ho, hg, hv.1, hc]

theorem spells_atom : SpellsNode r.atom := by
  intro s
  refine .test keeps_peek fun next => ?_
  cases next with
  | none => exact .failure
  | some token =>
    dsimp only
    split
    · refine .ite (fun _ => ?_) fun _ => spells_name s
      refine (yields_take s).bind fun token t ht => .pure ?_
      simp [ht, bare_cons]
    · refine (yields_take s).bind fun token t ht => .pure ?_
      simp [ht, bare_cons]
    · exact spells_strings hr s
    · exact spells_strings hr s
    · refine .ite (fun _ => spells_parenthesized hr s) fun _ => ?_
      refine .ite (fun _ => spells_bracketed hr s) fun _ => ?_
      refine .ite (fun _ => spells_braced hr s) fun _ => ?_
      refine .ite (fun _ => ?_) fun _ => .failure
      exact (spells_first "..." s).bind fun dots t hd => .pure (by simp [hd])
    · exact .failure

/-! ### Calls and subscripts -/

theorem spells_argument (phase : ArgumentPhase) :
    Spells bare (fun a => Tree.piecesAll a.2.1) (r.argument phase) := by
  intro s
  refine .test (keeps_nextIs "*") fun b => .ite (fun _ => ?_) fun _ => ?_
  · refine .test (keeps_guarded _) fun _ => ?_
    refine (spells_first "*" s).bind fun star t hs => ?_
    refine (spells_spaced hr.expression t).bind fun value u hv => .pure ?_
    simp [hs, hv]
  refine .test (keeps_nextIs "**") fun b => .ite (fun _ => ?_) fun _ => ?_
  · refine (spells_first "**" s).bind fun stars t hs => ?_
    refine (spells_spaced hr.expression t).bind fun value u hv => .pure ?_
    simp [hs, hv]
  refine .test (keeps_secondIs "=") fun b => .ite (fun _ => ?_) fun _ => ?_
  · refine (spells_name s).bind fun keyword t hk => ?_
    refine (spells_next "=" t).bind fun equal u he => ?_
    refine (spells_spaced hr.expression u).bind fun value v hv => .pure ?_
    simp [hk, he, hv]
  · refine .test (keeps_guarded _) fun _ => ?_
    exact (spells_named hr s).bind fun value t hv => .pure (by simp [hv])

/-- The parts that a generator makes of an argument go on with it. -/
theorem yields_generatorParts (allowed : Bool) {x : Pieces} {parts : List Tree} {s : List Token}
    (h : x = Tree.piecesAll parts ++ spelled s) :
    Yields (r.generatorParts allowed parts) s fun a t => x = Tree.piecesAll a ++ spelled t := by
  refine .test keeps_startsComprehension fun b => .ite (fun _ => ?_) fun _ => .pure h
  refine (spells_comprehension hr s).bind fun clauses t hc => .pure ?_
  simp [h, hc]

end

/-- What is left of the tokens, with the pieces before them unless these have an owner. -/
def unowned (owned : Bool) (s : List Token) : Pieces := if owned then bare s else spelled s

theorem yields_gapIf (asked : Bool) (s : List Token) :
    Yields (gapIf asked) s fun g t => t = s ∧ spelled s = g ++ unowned asked s := by
  cases asked with
  | true => exact yields_gap s
  | false => exact .pure ⟨rfl, rfl⟩

section
variable (hr : r.Faithful)
include hr

theorem yields_arguments (call : Bool) (s : List Token) :
    Yields (r.arguments call) s fun a t => bare s = Tree.piecesAll a.1 ++ unowned a.2 t := by
  refine .test (keeps_nextIs ")") fun none => ?_
  -- Before an argument the pieces in front of it have an owner: the bracket or the last comma.
  refine (yields_iterate (I := fun a t =>
    bare s = Tree.piecesAll a.1 ++ unowned (a.2.2.2 || !a.2.2.1) t) rfl ?_).bind fun a t ha => ?_
  · rintro ⟨args, phase, ended, owned⟩ t ht
    refine .ite (fun _ => .pure ht) fun hended => ?_
    replace ht : bare s = Tree.piecesAll args ++ bare t := by simpa [hended, unowned] using ht
    refine (spells_argument hr phase t).bind fun argument u hu => ?_
    obtain ⟨starred, parts, phase⟩ := argument
    refine .test (keeps_nextIs ",") fun b => .ite (fun _ => ?_) fun _ => ?_
    · refine (spells_next "," u).bind fun comma v hv => ?_
      refine (yields_gap v).bind fun g v' hg => ?_
      obtain ⟨rfl, hg⟩ := hg
      refine .test (keeps_nextIs ")") fun ended => .pure ?_
      simp [ht, hu, hv, hg, unowned]
    · refine (yields_generatorParts hr _ (x := bare t) hu).bind fun parts v hv => ?_
      refine .test (keeps_nextIs ")") fun b => .test (keeps_guarded b) fun _ => ?_
      refine (yields_gapIf call v).bind fun g v' hg => ?_
      obtain ⟨rfl, hg⟩ := hg
      exact .pure (by simp [ht, hv, hg])
  · obtain ⟨args, phase, ended, owned⟩ := a
    refine (yields_guarded ended t).bind fun _ u hu => ?_
    obtain ⟨rfl, rfl⟩ := hu
    exact .pure (by simpa using ha)

omit hr in
/-- The closing parenthesis, with the pieces before it unless they have an owner. -/
theorem yields_closing (owned : Bool) (s : List Token) :
    Yields (closing owned) s fun a t => unowned owned s = a ++ spelled t := by
  cases owned with
  | true => exact spells_first ")" s
  | false => exact spells_next ")" s

theorem spells_argumentList (call : Bool) : SpellsTrees (r.argumentList call) := by
  intro s
  refine (spells_next "(" s).bind fun opening t ho => ?_
  refine (yields_gap t).bind fun g t' hg => ?_
  obtain ⟨rfl, hg⟩ := hg
  refine (yields_arguments hr call t').bind fun a u ha => ?_
  obtain ⟨args, owned⟩ := a
  refine (yields_closing owned u).bind fun closing v hc => .pure ?_
  simp [ho, hg, ha, hc]

theorem spells_callTail (s : List Token) (callee : Tree) :
    Yields (r.callTail callee) s fun a t => callee.pieces ++ spelled s = a.pieces ++ spelled t :=
  (spells_argumentList hr true s).bind fun args t ha => .pure (by simp [ha])

theorem spells_sliceEnd : SpellsTrees r.sliceEnd := by
  intro s
  refine (spells_unlessNext _ hr.expression s).bind fun upper t hu => ?_
  refine .test (keeps_nextIs ":") fun b => .ite (fun _ => ?_) fun _ => .pure hu
  refine (spells_next ":" t).bind fun colon u hc => ?_
  refine (spells_unlessNext _ hr.expression u).bind fun step v hv => .pure ?_
  simp [hu, hc, hv]

theorem spells_slice : SpellsNode r.slice := by
  intro s
  refine .test (keeps_nextIs "*") fun b => .ite (fun _ => ?_) fun _ => ?_
  · refine (spells_first "*" s).bind fun star t hs => ?_
    refine (spells_spaced hr.expression t).bind fun value u hv => .pure ?_
    simp [hs, hv]
  refine .test (keeps_nextIs ":") fun b => .ite (fun _ => ?_) fun _ => ?_
  · refine (spells_first ":" s).bind fun colon t hc => ?_
    refine (spells_sliceEnd hr t).bind fun rest u hu => .pure ?_
    simp [hc, hu]
  refine .test (keeps_secondIs ":=") fun walrus => ?_
  refine (spells_named hr s).bind fun lower t hl => ?_
  refine .test (keeps_nextIs ":") fun b => .ite (fun _ => ?_) fun _ => .pure hl
  refine .test (keeps_guarded _) fun _ => ?_
  refine (spells_next ":" t).bind fun colon u hc => ?_
  refine (spells_sliceEnd hr u).bind fun rest v hv => .pure ?_
  simp [hl, hc, hv]

theorem spells_subscriptTail (s : List Token) (value : Tree) :
    Yields (r.subscriptTail value) s fun a t =>
      value.pieces ++ spelled s = a.pieces ++ spelled t := by
  refine (spells_next "[" s).bind fun opening t ho => ?_
  refine (yields_gap t).bind fun g t' hg => ?_
  obtain ⟨rfl, hg⟩ := hg
  refine (spells_elements (spells_slice hr) t').bind fun parts u hu => ?_
  refine (spells_next "]" u).bind fun closing v hc => .pure ?_
  simp [ho, hg, hu, hc]

theorem spells_primaryRule : SpellsNode r.primaryRule := by
  intro s
  refine (spells_atom hr s).bind fun head t ht => yields_iterate ht fun value u hu => ?_
  refine .test (keeps_nextIs ".") fun b => .ite (fun _ => ?_) fun _ => ?_
  · refine (spells_next "." u).bind fun dot v hv => ?_
    refine (spells_spaced spells_name v).bind fun attr w hw => .pure ?_
    simp [hu, hv, hw]
  refine .test (keeps_nextIs "(") fun b => .ite (fun _ => .map ?_) fun _ => ?_
  · exact (spells_callTail hr u value).mono fun a t ha => by simp [hu, ha]
  refine .test (keeps_nextIs "[") fun b => .ite (fun _ => .map ?_) fun _ => .pure hu
  exact (spells_subscriptTail hr u value).mono fun a t ha => by simp [hu, ha]

/-! ### Operators -/

theorem spells_awaited : SpellsNode r.awaited := by
  intro s
  refine .test (keeps_nextIs "await") fun b => .ite (fun _ => ?_) fun _ => spells_primaryRule hr s
  refine (spells_first "await" s).bind fun keyword t hk => ?_
  refine (spells_spaced (spells_primaryRule hr) t).bind fun value u hv => .pure ?_
  simp [hk, hv]

theorem spells_power : SpellsNode r.power := by
  intro s
  refine (spells_awaited hr s).bind fun base t hb => ?_
  refine .test (keeps_nextIs "**") fun b => .ite (fun _ => ?_) fun _ => .pure hb
  refine (spells_next "**" t).bind fun op u ho => ?_
  refine (spells_spaced hr.factor u).bind fun value v hv => .pure ?_
  simp [hb, ho, hv]

theorem spells_factorRule : SpellsNode r.factorRule := by
  intro s
  refine .test (keeps_nextIn _) fun b => .ite (fun _ => ?_) fun _ => spells_power hr s
  refine (spells_firstOf _ s).bind fun op t ho => ?_
  refine (spells_spaced hr.factor t).bind fun value u hv => .pure ?_
  simp [ho, hv]

omit hr in
theorem spells_leftAssociative (ops : List String) {operand : Parser Tree}
    (h : SpellsNode operand) : SpellsNode (leftAssociative ops operand) := by
  intro s
  refine (h s).bind fun head t ht => yields_iterate ht fun left u hu => ?_
  refine .test (keeps_nextIn ops) fun b => .ite (fun _ => .pure hu) fun _ => ?_
  refine (spells_nextOf ops u).bind fun op v hv => ?_
  refine (spells_spaced h v).bind fun right w hw => .pure ?_
  simp [hu, hv, hw]

omit hr in
theorem spells_levels (levels : List (List String)) {operand : Parser Tree}
    (h : SpellsNode operand) :
    SpellsNode (levels.foldl (fun operand ops => leftAssociative ops operand) operand) := by
  induction levels generalizing operand with
  | nil => exact h
  | cons ops rest ih => exact ih (spells_leftAssociative ops h)

theorem spells_bitwiseOrRule : SpellsNode r.bitwiseOrRule :=
  spells_levels _ (spells_factorRule hr)

omit hr in
theorem spells_comparisonOperator : Spells spelled (·.getD []) comparisonOperator := by
  intro s
  refine .test (keeps_nextIn _) fun b => .ite (fun _ => .map (spells_nextOf _ s)) fun _ => ?_
  refine .test (keeps_nextIs "is") fun b => .ite (fun _ => ?_) fun _ => ?_
  · refine (spells_next "is" s).bind fun op t ho => ?_
    refine (spells_optionalNext "not" t).bind fun not u hu => .pure ?_
    simp [ho, hu]
  refine .test (keeps_nextIs "not") fun b => .test (keeps_secondIs "in") fun c => ?_
  refine .ite (fun _ => ?_) fun _ => .pure rfl
  refine (spells_next "not" s).bind fun op t ho => ?_
  refine (spells_next "in" t).bind fun within u hu => .pure ?_
  simp [ho, hu]

theorem spells_comparison : SpellsNode r.comparison := by
  intro s
  refine (spells_bitwiseOrRule hr s).bind fun left t ht => ?_
  refine (yields_iterate (I := fun more u => spelled t = Tree.piecesAll more ++ spelled u) rfl
    fun more u hu => ?_).bind fun more u hu => .pure ?_
  · refine (spells_comparisonOperator u).bind fun op v hv => ?_
    cases op with
    | none => exact .pure (by simpa [hu] using hv)
    | some op =>
      refine (spells_spaced (spells_bitwiseOrRule hr) v).bind fun right w hw => .pure ?_
      simp [hu, hv, hw]
  · rw [other, pieces_headOrAll, ht, hu, List.append_assoc]

theorem spells_inversionRule : SpellsNode r.inversionRule := by
  intro s
  refine .test (keeps_nextIs "not") fun b => .ite (fun _ => ?_) fun _ => spells_comparison hr s
  refine (spells_first "not" s).bind fun op t ho => ?_
  refine (spells_spaced hr.inversion t).bind fun value u hv => .pure ?_
  simp [ho, hv]

theorem spells_disjunctionRule : SpellsNode r.disjunctionRule :=
  spells_leftAssociative _ (spells_leftAssociative _ (spells_inversionRule hr))

/-! ### Parameters and lambdas -/

omit hr in
theorem spells_parameterName (annotated : Bool) {hint : Parser Tree} (h : SpellsNode hint) :
    Spells bare Tree.piecesAll (parameterName annotated hint) := by
  intro s
  refine (spells_name s).bind fun id t hi => ?_
  refine .test (keeps_nextIs ":") fun b => .ite (fun _ => ?_) fun _ => .pure (by simp [hi])
  refine (spells_next ":" t).bind fun colon u hc => ?_
  refine (spells_spaced h u).bind fun value v hv => .pure ?_
  simp [hi, hc, hv]

omit hr in
theorem spells_otherParameterName (annotated : Bool) {hint : Parser Tree} (h : SpellsNode hint) :
    SpellsNode (other <$> parameterName annotated hint) := fun s =>
  .map ((spells_parameterName annotated h s).mono fun a t ha => by simp [ha])

theorem yields_parameter (annotated : Bool) (phase : ParameterPhase) (s : List Token) :
    Yields (r.parameter annotated phase) s fun a t =>
      bare s = a.2.pieces ++ spelled t ∧ a.1.parts = phase.parts := by
  refine .test (keeps_nextIs "/") fun b => .ite (fun _ => ?_) fun _ => ?_
  · refine .test (keeps_guarded _) fun _ => ?_
    exact (spells_first "/" s).bind fun slash t hs => .pure ⟨by simp [hs], rfl⟩
  refine .test (keeps_nextIs "*") fun b => .ite (fun _ => ?_) fun _ => ?_
  · refine .test (keeps_guarded _) fun _ => ?_
    refine (spells_first "*" s).bind fun star t hs => ?_
    refine .test (keeps_nextIs ",") fun b => .ite (fun _ => .pure ⟨by simp [hs], rfl⟩) fun _ => ?_
    refine (spells_spaced (spells_otherParameterName annotated (spells_starExpression hr)) t).bind
      fun id u hi => .pure ⟨by simp [hs, hi], rfl⟩
  refine .test (keeps_nextIs "**") fun b => .ite (fun _ => ?_) fun _ => ?_
  · refine .test (keeps_guarded _) fun _ => ?_
    refine (spells_first "**" s).bind fun stars t hs => ?_
    refine (spells_spaced (spells_otherParameterName annotated hr.expression) t).bind
      fun id u hi => .pure ⟨by simp [hs, hi], rfl⟩
  refine (spells_parameterName annotated hr.expression s).bind fun id t hi => ?_
  refine .test (keeps_nextIs "=") fun b => .ite (fun _ => ?_) fun _ => ?_
  · refine (spells_next "=" t).bind fun equal u he => ?_
    exact (spells_spaced hr.expression u).bind fun value v hv =>
      .pure ⟨by simp [hi, he, hv], rfl⟩
  · exact .test (keeps_guarded _) fun _ => .pure ⟨by simp [hi], rfl⟩

theorem spells_parameters (annotated : Bool) (stop : String) :
    SpellsTrees (r.parameters annotated stop) := by
  intro s
  refine .test (keeps_nextIs stop) fun none => ?_
  refine (yields_iterate (I := fun a t => spelled s = Tree.piecesAll a.1.parts ++ spelled t) rfl
    ?_).bind fun a t ha => .test (keeps_guarded _) fun _ => .pure ha
  rintro ⟨phase, done⟩ t ht
  refine .ite (fun _ => .pure ht) fun _ => ?_
  refine (yields_gap t).bind fun before t' hb => ?_
  obtain ⟨rfl, hb⟩ := hb
  refine (yields_parameter hr annotated phase t').bind fun a u ha => ?_
  obtain ⟨phase', parameter⟩ := a
  have hp : bare t' = parameter.pieces ++ spelled u := ha.1
  have hparts : phase'.parts = phase.parts := ha.2
  refine .test (keeps_nextIs ",") fun b => .ite (fun _ => ?_) fun _ => ?_
  · refine (spells_next "," u).bind fun comma v hc => ?_
    exact .test (keeps_nextIs stop) fun _ => .pure (by simp [ht, hb, hp, hc, hparts])
  · refine .test (keeps_nextIs stop) fun b => .test (keeps_guarded b) fun _ => .pure ?_
    simp [ht, hb, hp, hparts]

theorem spells_lambda : SpellsNode r.lambda := by
  intro s
  refine (spells_first "lambda" s).bind fun keyword t hk => ?_
  refine (spells_parameters hr false ":" t).bind fun params u hp => ?_
  refine (spells_next ":" u).bind fun colon v hc => ?_
  refine (spells_spaced hr.expression v).bind fun value w hv => .pure ?_
  simp [hk, hp, hc, hv]

theorem spells_expressionRule : SpellsNode r.expressionRule := by
  intro s
  refine .test (keeps_nextIs "lambda") fun b => .ite (fun _ => spells_lambda hr s) fun _ => ?_
  refine (spells_disjunctionRule hr s).bind fun value t hv => ?_
  refine (Yields.attempt (Q := fun o u => spelled t = Tree.piecesAll (o.getD []) ++ spelled u) ?_
    rfl).bind fun choice u hu => ?_
  · refine (spells_next "if" t).bind fun mark u hm => ?_
    refine (spells_spaced hr.disjunction u).bind fun condition v hc => ?_
    refine (spells_next "else" v).bind fun other w ho => ?_
    refine (spells_spaced hr.expression w).bind fun alternative x ha => .pure ?_
    simp [hm, hc, ho, ha]
  · cases choice with
    | none => exact .pure (by simpa [hv] using hu)
    | some rest => exact .pure (by simp [hv, hu])

/-! ### Type parameters -/

theorem spells_typeParameter : SpellsNode r.typeParameter := by
  intro s
  refine .test (keeps_nextIn _) fun b => .ite (fun _ => ?_) fun _ => ?_
  · refine (spells_firstOf _ s).bind fun mark t hm => ?_
    refine (spells_spaced spells_name t).bind fun id u hi => ?_
    refine (spells_optionally "=" (spells_starExpression hr) u).bind fun default v hd => .pure ?_
    simp [hm, hi, hd]
  · refine (spells_name s).bind fun id t hi => ?_
    refine (spells_optionally ":" hr.expression t).bind fun bound u hb => ?_
    refine (spells_optionally "=" (spells_starExpression hr) u).bind fun default v hd => .pure ?_
    simp [hi, hb, hd]

theorem spells_typeParameters : SpellsTrees r.typeParameters := by
  intro s
  refine .test (keeps_nextIs "[") fun b => .ite (fun _ => ?_) fun _ => .pure rfl
  refine (spells_next "[" s).bind fun opening t ho => ?_
  refine (yields_gap t).bind fun g t' hg => ?_
  obtain ⟨rfl, hg⟩ := hg
  refine (spells_elements (spells_typeParameter hr) t').bind fun parts u hu => ?_
  refine (spells_next "]" u).bind fun closing v hc => .pure ?_
  simp [ho, hg, hu, hc]

end

end Rules

end LocaleRegistrar.Python.Grammar
