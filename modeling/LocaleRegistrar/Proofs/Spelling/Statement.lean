import LocaleRegistrar.Proofs.Spelling.Expression

/-!
The rules of patterns, small statements and headers spell what they read. So do the rules tied
together, and with them what is read from all the tokens of a list.
-/

namespace LocaleRegistrar.Python.Grammar

namespace Rules

variable {r : Rules}

/-! ### Patterns -/

theorem spells_number : SpellsNode number := by
  intro s
  refine (yields_take s).bind fun token t ht => ?_
  exact .test (keeps_guarded _) fun _ => .pure (by simp [ht, bare_cons])

theorem spells_realNumber : SpellsNode realNumber := by
  intro s
  refine .test (keeps_nextIs "-") fun b => .ite (fun _ => ?_) fun _ => spells_number s
  refine (spells_first "-" s).bind fun sign t hs => ?_
  refine (spells_spaced spells_number t).bind fun value u hv => .pure ?_
  simp [hs, hv]

theorem spells_signedNumber : SpellsNode signedNumber := by
  intro s
  refine (spells_realNumber s).bind fun real t hr => ?_
  refine .test (keeps_nextIn _) fun b => .ite (fun _ => ?_) fun _ => .pure hr
  refine (spells_nextOf _ t).bind fun op u ho => ?_
  refine (spells_spaced spells_number u).bind fun value v hv => .pure ?_
  simp [hr, ho, hv]

theorem keeps_startsNumber : Keeps startsNumber := fun _ =>
  .test keeps_peek fun next => by cases next <;> exact .pure rfl

theorem keeps_startsLiteral : Keeps startsLiteral := fun _ =>
  .test keeps_startsNumber fun _ => .test keeps_startsString fun _ =>
    .test (keeps_nextIn constants) fun _ => .pure rfl

theorem spells_captureTarget : SpellsNode captureTarget := by
  intro s
  refine .test (keeps_nextIs "_") fun b => .ite (fun _ => ?_) fun _ => spells_name s
  exact (spells_first "_" s).bind fun mark t hm => .pure (by simp [hm])

section
variable (hr : r.Faithful)
include hr

theorem spells_literalPattern : SpellsNode r.literalPattern := by
  intro s
  refine .test keeps_startsNumber fun b => .ite (fun _ => spells_signedNumber s) fun _ => ?_
  refine .test keeps_startsString fun b => .ite (fun _ => spells_strings hr s) fun _ => ?_
  refine (yields_take s).bind fun token t ht => ?_
  exact .test (keeps_guarded _) fun _ => .pure (by simp [ht, bare_cons])

theorem spells_sequenceElement : SpellsNode r.sequenceElement := by
  intro s
  refine .test (keeps_nextIs "*") fun b => .ite (fun _ => ?_) fun _ => hr.pattern s
  refine (spells_first "*" s).bind fun star t hs => ?_
  refine (spells_spaced spells_captureTarget t).bind fun target u ht => .pure ?_
  simp [hs, ht]

theorem spells_patterns : SpellsNode r.patterns := by
  intro s
  refine .test (keeps_nextIs "*") fun starred => ?_
  refine (spells_sequenceElement hr s).bind fun head t hh => ?_
  refine (yields_moreElements (spells_sequenceElement hr) (x := bare s) (by simp [hh])).bind
    fun a u ha => .test (keeps_guarded _) fun _ => .pure ?_
  obtain ⟨parts, comma⟩ := a
  cases comma with
  | true => simpa using ha.1
  | false =>
    obtain rfl : parts = [head] := ha.2 rfl
    simpa using ha.1

theorem spells_parenthesizedPattern : SpellsNode r.parenthesizedPattern := by
  intro s
  refine (spells_first "(" s).bind fun opening t ho => ?_
  refine (yields_gap t).bind fun g t' hg => ?_
  obtain ⟨rfl, hg⟩ := hg
  refine .test (keeps_nextIs ")") fun b => .ite (fun _ => ?_) fun _ => ?_
  · refine (spells_first ")" t').bind fun closing u hc => .pure ?_
    simp [Tree.pieces, ho, hg, hc]
  refine (spells_patterns hr t').bind fun pattern u hp => ?_
  exact (spells_next ")" u).bind fun closing v hc => .pure (by simp [ho, hg, hp, hc])

theorem spells_bracketedPattern : SpellsNode r.bracketedPattern := by
  intro s
  refine (spells_first "[" s).bind fun opening t ho => ?_
  refine (yields_gap t).bind fun g t' hg => ?_
  obtain ⟨rfl, hg⟩ := hg
  refine .test (keeps_nextIs "]") fun b => .ite (fun _ => ?_) fun _ => ?_
  · exact (spells_first "]" t').bind fun closing u hc => .pure (by simp [ho, hg, hc])
  refine (spells_elements (spells_sequenceElement hr) t').bind fun parts u hu => ?_
  exact (spells_next "]" u).bind fun closing v hc => .pure (by simp [ho, hg, hu, hc])

theorem spells_mappingKey : SpellsNode r.mappingKey := by
  intro s
  refine .test keeps_startsLiteral fun b => .ite (fun _ => spells_literalPattern hr s) fun _ => ?_
  refine .test (keeps_secondIs ".") fun b => .test (keeps_guarded b) fun _ => ?_
  exact spells_dottedName s

theorem spells_mappingElement : SpellsNode r.mappingElement := by
  intro s
  refine .test (keeps_nextIs "**") fun b => .ite (fun _ => ?_) fun _ => ?_
  · refine (spells_first "**" s).bind fun stars t hs => ?_
    refine (spells_spaced spells_name t).bind fun id u hi => .pure ?_
    simp [hs, hi]
  · refine (spells_mappingKey hr s).bind fun key t hk => ?_
    refine (spells_next ":" t).bind fun colon u hc => ?_
    refine (spells_spaced hr.pattern u).bind fun value v hv => .pure ?_
    simp [hk, hc, hv]

theorem spells_mappingPattern : SpellsNode r.mappingPattern := by
  intro s
  refine (spells_first "\x7b" s).bind fun opening t ho => ?_
  refine (yields_gap t).bind fun g t' hg => ?_
  obtain ⟨rfl, hg⟩ := hg
  refine .test (keeps_nextIs "\x7d") fun b => .ite (fun _ => ?_) fun _ => ?_
  · exact (spells_first "\x7d" t').bind fun ending u he => .pure (by simp [ho, hg, he])
  · refine (spells_elements (spells_mappingElement hr) t').bind fun parts u hu => ?_
    exact (spells_next "\x7d" u).bind fun ending v he => .pure (by simp [ho, hg, hu, he])

theorem spells_classElement : SpellsNode r.classElement := by
  intro s
  refine .test (keeps_secondIs "=") fun b => .ite (fun _ => ?_) fun _ => hr.pattern s
  refine (spells_name s).bind fun key t hk => ?_
  refine (spells_next "=" t).bind fun equal u he => ?_
  refine (spells_spaced hr.pattern u).bind fun value v hv => .pure ?_
  simp [hk, he, hv]

theorem spells_namePattern : SpellsNode r.namePattern := by
  intro s
  refine (spells_dottedName s).bind fun dotted t hd => ?_
  refine .test (keeps_nextIs "(") fun b => .ite (fun _ => ?_) fun _ => .pure ?_
  rotate_left
  · split <;> simp [hd]
  refine (spells_next "(" t).bind fun opening u ho => ?_
  refine (yields_gap u).bind fun g u' hg => ?_
  obtain ⟨rfl, hg⟩ := hg
  refine .test (keeps_nextIs ")") fun b => .ite (fun _ => ?_) fun _ => ?_
  · exact (spells_first ")" u').bind fun ending v he => .pure (by simp [hd, ho, hg, he])
  · refine (spells_elements (spells_classElement hr) u').bind fun parts v hv => ?_
    exact (spells_next ")" v).bind fun ending w he => .pure (by simp [hd, ho, hg, hv, he])

theorem spells_closedPattern : SpellsNode r.closedPattern := by
  intro s
  refine .test keeps_startsLiteral fun b => .ite (fun _ => spells_literalPattern hr s) fun _ => ?_
  refine .test (keeps_nextIs "(") fun b =>
    .ite (fun _ => spells_parenthesizedPattern hr s) fun _ => ?_
  refine .test (keeps_nextIs "[") fun b =>
    .ite (fun _ => spells_bracketedPattern hr s) fun _ => ?_
  refine .test (keeps_nextIs "\x7b") fun b => .ite (fun _ => spells_mappingPattern hr s) fun _ => ?_
  refine .test (keeps_nextIs "_") fun b => .test (keeps_secondIs ".") fun c =>
    .test (keeps_secondIs "(") fun d => ?_
  exact .ite (fun _ => spells_captureTarget s) fun _ => spells_namePattern hr s

theorem spells_patternRule : SpellsNode r.patternRule := by
  intro s
  refine (spells_closedPattern hr s).bind fun head t hh => ?_
  refine (yields_iterate (I := fun more u => spelled t = Tree.piecesAll more ++ spelled u) rfl
    fun more u hu => ?_).bind fun more u hu => ?_
  · refine .test (keeps_nextIs "|") fun b => .ite (fun _ => .pure hu) fun _ => ?_
    refine (spells_next "|" u).bind fun bar v hb => ?_
    refine (spells_spaced (spells_closedPattern hr) v).bind fun part w hw => .pure ?_
    simp [hu, hb, hw]
  have hpattern : bare s = (if more.isEmpty then head else other (head :: more)).pieces ++
      spelled u := by
    rw [other, pieces_headOrAll, hh, hu, List.append_assoc]
  refine .test (keeps_nextIs "as") fun b => .ite (fun _ => ?_) fun _ => .pure hpattern
  refine (spells_next "as" u).bind fun keyword v hk => ?_
  refine .test (keeps_nextIs "_") fun b => .test (keeps_guarded _) fun _ => ?_
  refine (spells_spaced spells_name v).bind fun id w hi => .pure ?_
  rw [hpattern, hk, hi]
  simp

end

end Rules

/-- The rules tied together spell what they read, however deep they nest. -/
theorem faithful_rules (depth : Nat) : (rules depth).Faithful := by
  induction depth with
  | zero => constructor <;> exact fun _ => .failure
  | succ depth ih =>
    constructor
    · exact Rules.spells_primaryRule ih
    · exact Rules.spells_factorRule ih
    · exact Rules.spells_bitwiseOrRule ih
    · exact Rules.spells_inversionRule ih
    · exact Rules.spells_disjunctionRule ih
    · exact Rules.spells_expressionRule ih
    · exact Rules.spells_templateField ih
    · exact Rules.spells_patternRule ih

/-- What is read from all the tokens of a list is spelled by them. -/
theorem onTokens_spells {α : Type} {view : List Token → Pieces} {shown : α → Pieces}
    {p : Rules → Parser α} (hp : ∀ r, Rules.Faithful r → Spells view shown (p r))
    {tokens : List Token} {a : α} (h : onTokens p tokens = some a) : view tokens = shown a := by
  rw [onTokens] at h
  split at h
  · next b hb =>
    cases h
    simpa [spelled] using hp _ (faithful_rules _) tokens _ [] hb
  · cases h

namespace Rules

variable {r : Rules}

/-! ### Imports -/

theorem spells_boundName {origin : Parser Tree} (h : SpellsNode origin) :
    Spells bare Tree.piecesAll (boundName origin) := by
  intro s
  refine (h s).bind fun id t hi => ?_
  refine .test (keeps_nextIs "as") fun b => .ite (fun _ => ?_) fun _ => .pure (by simp [hi])
  refine (spells_next "as" t).bind fun keyword u hk => ?_
  refine (spells_spaced spells_name u).bind fun bound v hb => .pure ?_
  simp [hi, hk, hb]

/-- The names of an import. The pieces after a comma at the end belong to it. -/
theorem yields_importNames {origin : Parser Tree} (h : SpellsNode origin) (trailing : Bool)
    (s : List Token) :
    Yields (importNames origin trailing) s fun a t =>
      bare s = Tree.piecesAll a.1 ++ unowned a.2 t ∧ (trailing = false → a.2 = false) := by
  refine (yields_iterate (I := fun a t => bare s = Tree.piecesAll a.1 ++
    unowned (a.2.2 || !a.2.1) t ∧ (a.2.1 = false → a.2.2 = false) ∧
      (trailing = false → a.2.2 = false)) ⟨rfl, fun _ => rfl, fun _ => rfl⟩ ?_).bind
    fun a t ha => ?_
  · rintro ⟨names, ended, comma⟩ t ⟨ht, hcomma, htrailing⟩
    refine .ite (fun _ => .pure ⟨ht, hcomma, htrailing⟩) fun hended => ?_
    replace hended : ended = false := by simpa using hended
    replace hcomma : comma = false := hcomma hended
    replace ht : bare s = Tree.piecesAll names ++ bare t := by
      simpa [hended, unowned] using ht
    refine (spells_boundName h t).bind fun parts u hu => ?_
    refine .test (keeps_nextIs ",") fun b => .ite (fun _ => ?_) fun _ => ?_
    · refine (spells_next "," u).bind fun comma v hv => ?_
      refine (yields_gap v).bind fun g v' hg => ?_
      obtain ⟨rfl, hg⟩ := hg
      refine .test (keeps_nextIs ")") fun ended => .pure ⟨?_, by simp, by simp_all⟩
      simp only [Option.getD_some, Bool.or_not_self]
      simp [ht, hu, hv, hg, unowned]
    · exact .pure ⟨by simp [ht, hu, hcomma, unowned], by simp, htrailing⟩
  · obtain ⟨names, ended, comma⟩ := a
    refine (yields_guarded ended t).bind fun _ u hu => ?_
    obtain ⟨rfl, rfl⟩ := hu
    exact .pure ⟨by simpa using ha.1, ha.2.2⟩

/-- Without a comma at the end the names spell all that was read. -/
theorem spells_importNames {origin : Parser Tree} (h : SpellsNode origin) :
    Spells bare (fun a => Tree.piecesAll a.1) (importNames origin false) := fun s =>
  (yields_importNames h false s).mono fun a t ha => by
    simpa [ha.2 rfl, unowned] using ha.1

theorem spells_importModules : SpellsNode importModules := by
  intro s
  refine (spells_first "import" s).bind fun keyword t hk => ?_
  refine (yields_gap t).bind fun g t' hg => ?_
  obtain ⟨rfl, hg⟩ := hg
  exact (spells_importNames spells_dottedName t').bind fun names u hn =>
    .pure (by simp [hk, hg, hn])

theorem spells_relativeDots : Spells spelled id relativeDots := by
  intro s
  refine yields_iterate rfl fun dots t ht => ?_
  refine .test (keeps_nextIn _) fun b => .ite (fun _ => .pure ht) fun _ => ?_
  exact (spells_nextOf _ t).bind fun dot u hd => .pure (by simp [ht, hd])

theorem spells_importTargets : SpellsTrees importTargets := by
  intro s
  refine .test (keeps_nextIs "*") fun b => .ite (fun _ => ?_) fun _ => ?_
  · exact (spells_next "*" s).bind fun star t hs => .pure (by simp [hs])
  refine .test (keeps_nextIs "(") fun b => .ite (fun _ => ?_) fun _ => ?_
  · refine (spells_next "(" s).bind fun opening t ho => ?_
    refine (yields_gap t).bind fun g t' hg => ?_
    obtain ⟨rfl, hg⟩ := hg
    refine (yields_importNames spells_name true t').bind fun a u ha => ?_
    obtain ⟨names, comma⟩ := a
    exact (yields_closing comma u).bind fun closing v hc => .pure (by simp [ho, hg, ha.1, hc])
  · refine (yields_gap s).bind fun g s' hg => ?_
    obtain ⟨rfl, hg⟩ := hg
    exact (spells_importNames spells_name s').bind fun names t hn => .pure (by simp [hg, hn])

theorem spells_importOrigin (dots : Pieces) : SpellsTrees (importOrigin dots) := fun s =>
  .test (keeps_nextIs "import") fun _ =>
    .ite (fun _ => .test (keeps_guarded _) fun _ => .pure rfl) fun _ =>
      spells_spaced spells_dottedName s

theorem spells_importFrom : SpellsNode importFrom := by
  intro s
  refine (spells_first "from" s).bind fun keyword t hk => ?_
  refine (spells_relativeDots t).bind fun dots u hd => ?_
  refine (spells_importOrigin dots u).bind fun origin v ho => ?_
  refine (spells_next "import" v).bind fun importKeyword w hi => ?_
  exact (spells_importTargets w).bind fun targets x ht => .pure (by simp [hk, hd, ho, hi, ht])

/-! ### Small statements -/

section
variable (hr : r.Faithful)
include hr

theorem yields_assignments {x : Pieces} {target : Tree} {s : List Token}
    (h : x = target.pieces ++ spelled s) :
    Yields (r.assignments target) s fun a t => x = a.pieces ++ spelled t := by
  refine .test (keeps_guarded _) fun _ => ?_
  refine (yields_iterate (I := fun a t => x = Tree.piecesAll a.1 ++ spelled t) (by simp [h]) ?_).bind
    fun a t ha => .pure (by simpa using ha)
  rintro ⟨parts, last⟩ t ht
  refine .test (keeps_nextIs "=") fun b => .ite (fun _ => .pure ht) fun _ => ?_
  refine .test (keeps_guarded _) fun _ => ?_
  refine (spells_next "=" t).bind fun equal u he => ?_
  refine (yields_gap u).bind fun g u' hg => ?_
  obtain ⟨rfl, hg⟩ := hg
  exact (spells_assigned hr u').bind fun value v hv => .pure (by simp [ht, he, hg, hv])

theorem yields_annotated {x : Pieces} {target : Tree} {s : List Token}
    (h : x = target.pieces ++ spelled s) :
    Yields (r.annotated target) s fun a t => x = a.pieces ++ spelled t := by
  refine .test (keeps_guarded _) fun _ => ?_
  refine (spells_next ":" s).bind fun colon t hc => ?_
  refine (spells_spaced hr.expression t).bind fun hint u hh => ?_
  exact (spells_optionally "=" (spells_assigned hr) u).bind fun value v hv =>
    .pure (by simp [h, hc, hh, hv])

theorem yields_augmented {x : Pieces} {target : Tree} {s : List Token}
    (h : x = target.pieces ++ spelled s) :
    Yields (r.augmented target) s fun a t => x = a.pieces ++ spelled t := by
  refine .test (keeps_guarded _) fun _ => ?_
  refine (spells_nextOf _ s).bind fun op t ho => ?_
  exact (spells_spaced (spells_assigned hr) t).bind fun value u hv => .pure (by simp [h, ho, hv])

theorem spells_expressionStatement : SpellsNode r.expressionStatement := by
  intro s
  refine .test (keeps_nextIs "yield") fun b => .ite (fun _ => ?_) fun _ => ?_
  · exact (spells_yieldExpression hr s).bind fun value t hv => .pure (by simp [hv])
  refine (spells_starExpressions hr s).bind fun value t hv => ?_
  refine .test (keeps_nextIs "=") fun b => .ite (fun _ => yields_assignments hr hv) fun _ => ?_
  refine .test (keeps_nextIs ":") fun b => .ite (fun _ => yields_annotated hr hv) fun _ => ?_
  refine .test (keeps_nextIn _) fun b => .ite (fun _ => yields_augmented hr hv) fun _ => ?_
  exact .pure (by simp [hv])

omit hr in
theorem spells_keywordOnly (keyword : String) : SpellsNode (keywordOnly keyword) := fun s =>
  (spells_first keyword s).bind fun word t hw => .pure (by simp [hw])

theorem spells_returnStatement : SpellsNode r.returnStatement := by
  intro s
  refine (spells_first "return" s).bind fun keyword t hk => ?_
  refine (Yields.attempt (Q := fun o u => spelled t = Tree.piecesAll (o.getD []) ++ spelled u)
    (spells_spaced (spells_starExpressions hr) t) rfl).bind fun o u hu => ?_
  cases o with
  | none => exact .pure (by simpa [hk] using hu)
  | some value => exact .pure (by simp [hk, hu])

theorem spells_raiseStatement : SpellsNode r.raiseStatement := by
  intro s
  refine (spells_first "raise" s).bind fun keyword t hk => ?_
  refine (Yields.attempt (Q := fun o u => spelled t = Tree.piecesAll (o.getD []) ++ spelled u)
    (spells_spaced hr.expression t) rfl).bind fun o u hu => ?_
  cases o with
  | none => exact .pure (by simpa [hk] using hu)
  | some value =>
    exact (spells_optionally "from" hr.expression u).bind fun cause v hc =>
      .pure (by simp [hk, hu, hc])

omit hr in
theorem spells_scopeStatement (keyword : String) : SpellsNode (scopeStatement keyword) := by
  intro s
  refine (spells_first keyword s).bind fun word t hw => ?_
  refine (yields_gap t).bind fun g t' hg => ?_
  obtain ⟨rfl, hg⟩ := hg
  exact (spells_separated spells_name t').bind fun names u hn => .pure (by simp [hw, hg, hn])

theorem spells_deletable : SpellsNode r.deletable := fun s =>
  (hr.primary s).bind fun _ _ ht => .test (keeps_guarded _) fun _ => .pure ht

theorem spells_deleteStatement : SpellsNode r.deleteStatement := by
  intro s
  refine (spells_first "del" s).bind fun keyword t hk => ?_
  exact (spells_spaced (spells_oneOrTuple (spells_deletable hr)) t).bind fun targets u ht =>
    .pure (by simp [hk, ht])

theorem spells_assertStatement : SpellsNode r.assertStatement := by
  intro s
  refine (spells_first "assert" s).bind fun keyword t hk => ?_
  refine (spells_spaced hr.expression t).bind fun condition u hc => ?_
  exact (spells_optionally "," hr.expression u).bind fun message v hm =>
    .pure (by simp [hk, hc, hm])

theorem spells_typeAlias : SpellsNode r.typeAlias := by
  intro s
  refine (spells_first "type" s).bind fun keyword t hk => ?_
  refine (spells_spaced spells_name t).bind fun id u hi => ?_
  refine (spells_typeParameters hr u).bind fun params v hp => ?_
  refine (spells_next "=" v).bind fun equal w he => ?_
  exact (spells_spaced hr.expression w).bind fun value x hv =>
    .pure (by simp [hk, hi, hp, he, hv])

omit hr in
theorem keeps_startsTypeAlias : Keeps startsTypeAlias := by
  intro s a t e
  match s with
  | [] | [_] | _ :: _ :: _ => cases e; rfl

theorem spells_small : SpellsNode r.small := by
  intro s
  refine .test keeps_peek fun next => ?_
  cases next with
  | none => exact .failure
  | some token =>
    refine .ite (fun _ => ?_) fun _ => spells_expressionStatement hr s
    refine .ite (fun _ => spells_importModules s) fun _ => ?_
    refine .ite (fun _ => spells_importFrom s) fun _ => ?_
    refine .ite (fun _ => spells_keywordOnly _ s) fun _ => ?_
    refine .ite (fun _ => spells_returnStatement hr s) fun _ => ?_
    refine .ite (fun _ => spells_raiseStatement hr s) fun _ => ?_
    refine .ite (fun _ => spells_scopeStatement _ s) fun _ => ?_
    refine .ite (fun _ => spells_deleteStatement hr s) fun _ => ?_
    refine .ite (fun _ => spells_assertStatement hr s) fun _ => ?_
    refine .test keeps_startsTypeAlias fun b => .ite (fun _ => spells_typeAlias hr s) fun _ => ?_
    exact spells_expressionStatement hr s

end

end Rules

/-! ### Headers -/

/-- What stands before the keyword of a header. An alternative shows the keyword of a conditional. -/
def Header.lead (h : Header) : String := if h.role = .alternative then "el" else ""

def Header.pieces (h : Header) : Pieces :=
  .text (h.lead ++ h.keyword) :: Tree.piecesAll h.parts

namespace Rules

variable {r : Rules}

theorem spells_bareHeader {role : Role} (keyword : String) (hrole : role ≠ .alternative) :
    Spells bare Header.pieces (bareHeader role keyword) := by
  intro s
  refine (yields_first keyword s).bind fun _ t hk => ?_
  refine (spells_next ":" t).bind fun colon u hc => .pure ?_
  simp [hk, hc, Header.pieces, Header.lead, hrole]

section
variable (hr : r.Faithful)
include hr

theorem spells_conditionHeader {role : Role} {keyword shown : String}
    (hshown : keyword = (if role = .alternative then "el" else "") ++ shown) :
    Spells bare Header.pieces (r.conditionHeader role keyword shown) := by
  intro s
  refine (yields_first keyword s).bind fun _ t hk => ?_
  refine (spells_spaced (spells_named hr) t).bind fun condition u hu => ?_
  refine (spells_next ":" u).bind fun colon v hc => .pure ?_
  simp [hk, hu, hc, Header.pieces, Header.lead, hshown]

theorem spells_forRest : SpellsTrees r.forRest := by
  intro s
  refine (spells_spaced (spells_starTargets hr) s).bind fun target t ht => ?_
  refine (spells_next "in" t).bind fun within u hw => ?_
  refine (spells_spaced (spells_starExpressions hr) u).bind fun values v hv => ?_
  exact (spells_next ":" v).bind fun colon w hc => .pure (by simp [ht, hw, hv, hc])

theorem spells_contextItem : SpellsNode r.contextItem := by
  intro s
  refine (hr.expression s).bind fun value t hv => ?_
  refine .test (keeps_nextIs "as") fun b => .ite (fun _ => ?_) fun _ => .pure hv
  refine (spells_next "as" t).bind fun keyword u hk => ?_
  exact (spells_spaced (spells_starTarget hr) u).bind fun target v ht =>
    .pure (by simp [hv, hk, ht])

theorem spells_contextGroup : SpellsTrees r.contextGroup := by
  intro s
  refine (spells_next "(" s).bind fun opening t ho => ?_
  refine (yields_gap t).bind fun g t' hg => ?_
  obtain ⟨rfl, hg⟩ := hg
  refine (spells_elements (spells_contextItem hr) t').bind fun parts u hp => ?_
  refine (spells_next ")" u).bind fun closing v hc => ?_
  exact (spells_next ":" v).bind fun colon w hw => .pure (by simp [ho, hg, hp, hc, hw])

theorem spells_withRest : SpellsTrees r.withRest := by
  intro s
  refine (spells_contextGroup hr s).orElse ?_
  refine (yields_gap s).bind fun g s' hg => ?_
  obtain ⟨rfl, hg⟩ := hg
  refine (spells_separated (spells_contextItem hr) s').bind fun parts t hp => ?_
  exact (spells_next ":" t).bind fun colon u hc => .pure (by simp [hg, hp, hc])

theorem spells_functionRest : SpellsTrees r.functionRest := by
  intro s
  refine (spells_spaced spells_name s).bind fun id t hi => ?_
  refine (spells_typeParameters hr t).bind fun params u hp => ?_
  refine (spells_next "(" u).bind fun opening v ho => ?_
  refine (spells_parameters hr true ")" v).bind fun parameters w hw => ?_
  refine (spells_next ")" w).bind fun closing x hc => ?_
  refine (spells_optionally "->" hr.expression x).bind fun result y hres => ?_
  exact (spells_next ":" y).bind fun colon z hz =>
    .pure (by simp [hi, hp, ho, hw, hc, hres, hz])

theorem spells_classBases : SpellsTrees r.classBases := fun s =>
  .test (keeps_nextIs "(") fun _ =>
    .ite (fun _ => spells_argumentList hr false s) fun _ => .pure rfl

theorem spells_classHeader : Spells bare Header.pieces r.classHeader := by
  intro s
  refine (yields_first "class" s).bind fun _ t hk => ?_
  refine (spells_spaced spells_name t).bind fun id u hi => ?_
  refine (spells_typeParameters hr u).bind fun params v hp => ?_
  refine (spells_classBases hr v).bind fun bases w hb => ?_
  refine (spells_next ":" w).bind fun colon x hc => .pure ?_
  simp [hk, hi, hp, hb, hc, Header.pieces, Header.lead]

theorem spells_handlerHeader : Spells bare Header.pieces r.handlerHeader := by
  intro s
  refine (yields_first "except" s).bind fun _ t hk => ?_
  refine (spells_optionalNext "*" t).bind fun star u hs => ?_
  refine .test (keeps_nextIs ":") fun b => .ite (fun h => ?_) fun _ => ?_
  · have hstar : star = [] := by simp_all
    refine (spells_next ":" u).bind fun colon v hc => .pure ?_
    simp [hk, hs, hstar, hc, Header.pieces, Header.lead]
  · refine (spells_spaced hr.expression u).bind fun type v ht => ?_
    refine (spells_optionally "as" spells_name v).bind fun binding w hb => ?_
    refine (spells_next ":" w).bind fun colon x hc => .pure ?_
    simp [hk, hs, ht, hb, hc, Header.pieces, Header.lead]

theorem spells_asyncHeader : Spells bare Header.pieces r.asyncHeader := by
  intro s
  refine (yields_first "async" s).bind fun _ t hk => ?_
  refine .test (keeps_nextIs "def") fun b => .ite (fun _ => ?_) fun _ => ?_
  · refine (spells_next "def" t).bind fun keyword u hd => ?_
    refine (spells_functionRest hr u).bind fun parts v hp => .pure ?_
    simp [hk, hd, hp, Header.pieces, Header.lead]
  refine .test (keeps_nextIs "for") fun b => .ite (fun _ => ?_) fun _ => ?_
  · refine (spells_next "for" t).bind fun keyword u hd => ?_
    refine (spells_forRest hr u).bind fun parts v hp => .pure ?_
    simp [hk, hd, hp, Header.pieces, Header.lead]
  · refine (spells_next "with" t).bind fun keyword u hd => ?_
    refine (spells_withRest hr u).bind fun parts v hp => .pure ?_
    simp [hk, hd, hp, Header.pieces, Header.lead]

theorem spells_selectionHeader : Spells bare Header.pieces r.selectionHeader := by
  intro s
  refine (yields_first "match" s).bind fun _ t hk => ?_
  refine (spells_spaced (spells_oneOrTuple (spells_starNamed hr)) t).bind fun subject u hs => ?_
  refine .test (keeps_guarded _) fun _ => ?_
  refine (spells_next ":" u).bind fun colon v hc => .pure ?_
  simp [hk, hs, hc, Header.pieces, Header.lead]

theorem spells_choiceHeader : Spells bare Header.pieces r.choiceHeader := by
  intro s
  refine (yields_first "case" s).bind fun _ t hk => ?_
  refine (spells_spaced (spells_patterns hr) t).bind fun pattern u hp => ?_
  refine (spells_optionally "if" (spells_named hr) u).bind fun condition v hv => ?_
  refine (spells_next ":" v).bind fun colon w hc => .pure ?_
  simp [hk, hp, hv, hc, Header.pieces, Header.lead]

theorem spells_header (choices headsBlock : Bool) :
    Spells bare Header.pieces (r.header choices headsBlock) := by
  intro s
  refine .ite (fun _ => spells_choiceHeader hr s) fun _ => ?_
  refine .test keeps_peek fun next => ?_
  cases next with
  | none => exact .failure
  | some token =>
    refine .ite (fun _ => spells_conditionHeader hr (by decide) s) fun _ => ?_
    refine .ite (fun _ => spells_conditionHeader hr (by decide) s) fun _ => ?_
    refine .ite (fun _ => spells_bareHeader _ (by decide) s) fun _ => ?_
    refine .ite (fun _ => spells_conditionHeader hr (by decide) s) fun _ => ?_
    refine .ite (fun _ => ?_) fun _ => ?_
    · refine (yields_first "for" s).bind fun _ t hk => ?_
      refine (spells_forRest hr t).bind fun parts u hp => .pure ?_
      simp [hk, hp, Header.pieces, Header.lead]
    refine .ite (fun _ => spells_bareHeader _ (by decide) s) fun _ => ?_
    refine .ite (fun _ => spells_handlerHeader hr s) fun _ => ?_
    refine .ite (fun _ => spells_bareHeader _ (by decide) s) fun _ => ?_
    refine .ite (fun _ => ?_) fun _ => ?_
    · refine (yields_first "with" s).bind fun _ t hk => ?_
      refine (spells_withRest hr t).bind fun parts u hp => .pure ?_
      simp [hk, hp, Header.pieces, Header.lead]
    refine .ite (fun _ => ?_) fun _ => ?_
    · refine (yields_first "def" s).bind fun _ t hk => ?_
      refine (spells_functionRest hr t).bind fun parts u hp => .pure ?_
      simp [hk, hp, Header.pieces, Header.lead]
    refine .ite (fun _ => spells_classHeader hr s) fun _ => ?_
    refine .ite (fun _ => spells_asyncHeader hr s) fun _ => ?_
    exact .ite (fun _ => spells_selectionHeader hr s) fun _ => .failure

theorem spells_decorator : Spells bare Tree.piecesAll r.decorator := by
  intro s
  refine (spells_first "@" s).bind fun sign t hs => ?_
  exact (spells_spaced (spells_named hr) t).bind fun value u hv => .pure (by simp [hs, hv])

end

end Rules

end LocaleRegistrar.Python.Grammar
