import LocaleRegistrar.Proofs.Spelling.Parser

/-!
Which texts the grammar accepts. A name that is no reserved word is read as an expression, dotted
names are read if none of them is reserved, and a call of a name is read as a statement.
-/

namespace LocaleRegistrar.Python.Grammar

open Lexeme (symbols)

/-- Is the first token the word or the symbol `w`? -/
def startsWith (s : List Token) (w : String) : Bool := (s.head?.map (·.is w)).getD false

theorem nextIs_eq (w : String) (s : List Token) : nextIs w s = some (startsWith s w, s) := rfl

theorem nextIn_eq (ws : List String) (s : List Token) :
    nextIn ws s = some (ws.any (startsWith s), s) := by
  cases s with
  | nil =>
    have hnone : ws.any (startsWith []) = false := by simp [startsWith]
    rw [hnone]
    rfl
  | cons t rest => rfl

theorem bind_eq {α β : Type} {p : Parser α} {f : α → Parser β} {a : α} {s t : List Token}
    (h : p s = some (a, t)) : (p >>= f) s = f a t := by
  show (p s).bind (fun x => f x.1 x.2) = f a t
  rw [h]
  rfl

theorem bind_eq_none {α β : Type} {p : Parser α} {f : α → Parser β} {s : List Token}
    (h : p s = none) : (p >>= f) s = none := by
  show (p s).bind (fun x => f x.1 x.2) = none
  rw [h]
  rfl

theorem map_eq {α β : Type} {p : Parser α} {f : α → β} {a : α} {s t : List Token}
    (h : p s = some (a, t)) : (f <$> p) s = some (f a, t) := by
  show (p s).bind _ = some (f a, t)
  rw [h]
  rfl

theorem attempt_eq_none {α : Type} {p : Parser α} {s : List Token} (h : p s = none) :
    attempt p s = some (none, s) := by
  have hmap : (some <$> p) s = none := by
    show (p s).bind _ = none
    rw [h]
    rfl
  show ((some <$> p) s <|> some (none, s)) = some (none, s)
  rw [hmap]
  rfl

/-- The parser reads `s` up to `rest`. -/
def Accepts {α : Type} (p : Parser α) (s rest : List Token) : Prop := ∃ a, p s = some (a, rest)

namespace Accepts

variable {α β : Type} {s t u : List Token}

theorem pure (a : α) : Accepts (Pure.pure a : Parser α) s s := ⟨a, rfl⟩

theorem bind {p : Parser α} {f : α → Parser β} (hp : Accepts p s t) (hf : ∀ a, Accepts (f a) t u) :
    Accepts (p >>= f) s u := by
  obtain ⟨a, ha⟩ := hp
  obtain ⟨b, hb⟩ := hf a
  exact ⟨b, (bind_eq ha).trans hb⟩

/-- A parser that only looks at the tokens. -/
theorem test {p : Parser α} {f : α → Parser β} {a : α} (hp : p s = some (a, s))
    (hf : Accepts (f a) s u) : Accepts (p >>= f) s u := by
  obtain ⟨b, hb⟩ := hf
  exact ⟨b, (bind_eq hp).trans hb⟩

end Accepts

theorem iterateUpTo_eq_self {α : Type} {step : α → Parser (Option α)} {a : α} {s : List Token}
    (h : step a s = some (none, s)) (n : Nat) : iterateUpTo step n a s = some (a, s) := by
  cases n with
  | zero => rfl
  | succ n => exact bind_eq h

theorem iterate_eq_self {α : Type} {step : α → Parser (Option α)} {a : α} {s : List Token}
    (h : step a s = some (none, s)) : iterate step a s = some (a, s) :=
  iterateUpTo_eq_self h s.length

/-- One step, and then no more. -/
theorem iterate_eq_one {α : Type} {step : α → Parser (Option α)} {a b : α} {t : Token}
    {s s' : List Token} (h : step a (t :: s) = some (some b, s')) (hdone : step b s' = some (none, s')) :
    iterate step a (t :: s) = some (b, s') := by
  show iterateUpTo step (s.length + 1) a (t :: s) = some (b, s')
  rw [iterateUpTo, bind_eq h]
  exact iterateUpTo_eq_self hdone s.length

theorem first_eq {w : String} {t : Token} (h : t.is w = true) (rest : List Token) :
    first w (t :: rest) = some ([.text w], rest) := by
  show (guarded (t.is w) >>= fun _ => pure [Piece.text w]) rest = _
  rw [h]
  rfl

theorem first_eq_none {w : String} {s : List Token} (h : startsWith s w = false) :
    first w s = none := by
  cases s with
  | nil => rfl
  | cons t rest =>
    have ht : t.is w = false := h
    show (guarded (t.is w) >>= fun _ => pure [Piece.text w]) rest = _
    rw [ht]
    rfl

theorem next_eq {w : String} {t : Token} (h : t.is w = true) (rest : List Token) :
    next w (t :: rest) = some (t.gap ++ [.text w], rest) := by
  show (first w >>= fun ps => pure (t.gap ++ ps)) (t :: rest) = _
  rw [bind_eq (first_eq h rest)]
  rfl

theorem next_eq_none {w : String} {s : List Token} (h : startsWith s w = false) :
    next w s = none := by
  have hgap : gap s = some (headGap s, s) := by cases s <;> rfl
  rw [next, bind_eq hgap]
  exact bind_eq_none (first_eq_none h)

/-! ### From a primary to an expression -/

/-- Words and symbols that an expression may start with where no primary does. -/
def openers : List String := ["lambda", "not", "await", "+", "-", "~", "*", "**"]

/-- Words and symbols that an expression goes on with. -/
def connectives : List String :=
  ["**", "*", "/", "//", "%", "@", "+", "-", "<<", ">>", "&", "^", "|", "==", "!=", "<=", "<", ">=",
   ">", "in", "is", "not", "and", "or", "if", "."]

/-- The tokens start with none of these words and symbols. -/
def Avoids (s : List Token) (ws : List String) : Prop := ∀ w ∈ ws, startsWith s w = false

theorem Avoids.any {s : List Token} {ws vs : List String} (h : Avoids s ws) (hvs : vs ⊆ ws) :
    vs.any (startsWith s) = false :=
  List.any_eq_false.mpr fun v hv => by simp [h v (hvs hv)]

variable {r r' r'' : Rules} {s s' : List Token}

theorem accepts_leftAssociative {ops : List String} {operand : Parser Tree}
    (h : Accepts operand s s') (hops : ops.any (startsWith s') = false) :
    Accepts (Rules.leftAssociative ops operand) s s' := by
  refine h.bind fun value => ⟨value, iterate_eq_self ?_⟩
  rw [bind_eq (nextIn_eq ops s'), hops]
  rfl

theorem accepts_factorRule (h : Accepts r.primaryRule s s') (hs : Avoids s openers)
    (hstop : Avoids s' connectives) : Accepts r.factorRule s s' := by
  refine .test (nextIn_eq _ s) ?_
  rw [hs.any (by decide), if_neg Bool.false_ne_true]
  refine Accepts.bind ?_ fun base => .test (nextIs_eq _ s') ?_
  · refine .test (nextIs_eq _ s) ?_
    rwa [hs "await" (by decide), if_neg Bool.false_ne_true]
  · rw [hstop "**" (by decide), if_neg Bool.false_ne_true]
    exact .pure base

theorem accepts_bitwiseOrRule (h : Accepts r.primaryRule s s') (hs : Avoids s openers)
    (hstop : Avoids s' connectives) : Accepts r.bitwiseOrRule s s' := by
  have hlevel {ops : List String} {operand : Parser Tree} (hops : ops ⊆ connectives)
      (h : Accepts operand s s') : Accepts (Rules.leftAssociative ops operand) s s' :=
    accepts_leftAssociative h (hstop.any hops)
  have hfactor := accepts_factorRule h hs hstop
  exact hlevel (by decide) <| hlevel (by decide) <| hlevel (by decide) <| hlevel (by decide) <|
    hlevel (by decide) <| hlevel (by decide) hfactor

theorem comparisonOperator_eq_none (hstop : Avoids s' connectives) :
    Rules.comparisonOperator s' = some (none, s') := by
  unfold Rules.comparisonOperator
  rw [bind_eq (nextIn_eq _ s'), hstop.any (by decide), if_neg Bool.false_ne_true,
    bind_eq (nextIs_eq _ s'), hstop "is" (by decide), if_neg Bool.false_ne_true,
    bind_eq (nextIs_eq _ s'), hstop "not" (by decide)]
  cases s' with
  | nil => rfl
  | cons t rest => cases rest <;> rfl

theorem accepts_disjunctionRule (h : Accepts r.primaryRule s s') (hs : Avoids s openers)
    (hstop : Avoids s' connectives) : Accepts r.disjunctionRule s s' := by
  refine accepts_leftAssociative (accepts_leftAssociative ?_ (hstop.any (by decide)))
    (hstop.any (by decide))
  refine .test (nextIs_eq _ s) ?_
  rw [hs "not" (by decide), if_neg Bool.false_ne_true]
  refine (accepts_bitwiseOrRule h hs hstop).bind fun left => .test (iterate_eq_self ?_) (.pure _)
  exact bind_eq (comparisonOperator_eq_none hstop)

theorem accepts_expressionRule (h : Accepts r.primaryRule s s') (hs : Avoids s openers)
    (hstop : Avoids s' connectives) : Accepts r.expressionRule s s' := by
  refine .test (nextIs_eq _ s) ?_
  rw [hs "lambda" (by decide), if_neg Bool.false_ne_true]
  refine (accepts_disjunctionRule h hs hstop).bind fun value => .test (a := none) ?_ (.pure _)
  exact attempt_eq_none (bind_eq_none (next_eq_none (hstop "if" (by decide))))

/-! ### Names -/

/-- A word of the text. -/
def word (w : String) (gap : Pieces) : Token := ⟨.word, w, gap⟩

def symbol (w : String) (gap : Pieces) : Token := ⟨.symbol, w, gap⟩

theorem name_eq {w : String} (h : w ∉ reserved) (gap : Pieces) (rest : List Token) :
    name (word w gap :: rest) = some (.ofName w, rest) := by
  have hword : ((word w gap).kind == .word && !reserved.contains (word w gap).text) = true := by
    simp [word, h]
  show (guarded _ >>= fun _ => pure (Tree.ofName w)) rest = _
  rw [hword]
  rfl

theorem name_eq_none {w : String} (h : w ∈ reserved) (gap : Pieces) (rest : List Token) :
    name (word w gap :: rest) = none := by
  have hword : ((word w gap).kind == .word && !reserved.contains (word w gap).text) = false := by
    simp [word, h]
  show (guarded _ >>= fun _ => pure (Tree.ofName w)) rest = _
  rw [hword]
  rfl

theorem startsWith_word (w x : String) (gap : Pieces) (rest : List Token) :
    startsWith (word w gap :: rest) x = (w == x) := rfl

theorem avoids_symbol {w : String} {ws : List String} (h : w ∉ ws) (gap : Pieces)
    (rest : List Token) : Avoids (symbol w gap :: rest) ws := by
  intro x hx
  show (w == x) = false
  rw [beq_eq_false_iff_ne]
  rintro rfl
  exact h hx

theorem isIdentifier_of_mem_symbols : ∀ x ∈ symbols, Text.isIdentifier x = false := by
  decide +kernel

theorem startsWith_identifier {w x : String} (hw : Text.isIdentifier w = true) (hx : x ∈ symbols)
    (gap : Pieces) (rest : List Token) : startsWith (word w gap :: rest) x = false := by
  rw [startsWith_word, beq_eq_false_iff_ne]
  rintro rfl
  rw [isIdentifier_of_mem_symbols w hx] at hw
  cases hw

/-- A name is none of the reserved words and none of the symbols. -/
theorem avoids_name {w : String} {ws : List String} (hw : Text.isIdentifier w = true)
    (hfree : w ∉ reserved) (hws : ∀ x ∈ ws, x ∈ reserved ∨ x ∈ symbols) (gap : Pieces)
    (rest : List Token) : Avoids (word w gap :: rest) ws := by
  intro x hx
  rcases hws x hx with h | h
  · rw [startsWith_word, beq_eq_false_iff_ne]
    rintro rfl
    exact hfree h
  · exact startsWith_identifier hw h gap rest

theorem atom_eq {w : String} (h : w ∉ reserved) (gap : Pieces) (rest : List Token) :
    r.atom (word w gap :: rest) = some (.ofName w, rest) := by
  have hconstants : constants.contains w = false := by
    have hsub : constants ⊆ reserved := by decide
    simpa using fun hw => h (hsub hw)
  rw [← name_eq h gap rest]
  show (if constants.contains w then _ else name) _ = _
  rw [hconstants]
  rfl

theorem primaryRule_name {w : String} (h : w ∉ reserved) (gap : Pieces) {rest : List Token}
    (hrest : Avoids rest [".", "(", "["]) : Accepts r.primaryRule (word w gap :: rest) rest := by
  refine ⟨.ofName w, (bind_eq (atom_eq h gap rest)).trans (iterate_eq_self ?_)⟩
  rw [bind_eq (nextIs_eq _ rest), hrest "." (by decide), if_neg Bool.false_ne_true,
    bind_eq (nextIs_eq _ rest), hrest "(" (by decide), if_neg Bool.false_ne_true,
    bind_eq (nextIs_eq _ rest), hrest "[" (by decide), if_neg Bool.false_ne_true]
  rfl

/-! ### A call of a name with a name -/

theorem named_name {w : String} (hw : Text.isIdentifier w = true) (h : w ∉ reserved)
    (gap after : Pieces) (hexpression : r.expression = r'.expressionRule) :
    Accepts r.named [word w gap, symbol ")" after] [symbol ")" after] := by
  refine .test (a := false) rfl ?_
  rw [if_neg Bool.false_ne_true, hexpression]
  refine accepts_expressionRule (primaryRule_name h gap ?_) (avoids_name hw h ?_ _ _) ?_
  · exact avoids_symbol (by decide) after []
  · decide
  · exact avoids_symbol (by decide) after []

theorem argument_name {w : String} (hw : Text.isIdentifier w = true) (h : w ∉ reserved)
    (gap after : Pieces) (hexpression : r.expression = r'.expressionRule) :
    ∃ value, r.argument .positional [word w gap, symbol ")" after] =
      some ((false, [value], .positional), [symbol ")" after]) := by
  obtain ⟨value, hvalue⟩ := named_name hw h gap after hexpression
  have hstart := @avoids_name _ ["*", "**"] hw h (by decide) gap [symbol ")" after]
  refine ⟨value, ?_⟩
  rw [Rules.argument, bind_eq (nextIs_eq _ _), hstart "*" (by decide), if_neg Bool.false_ne_true,
    bind_eq (nextIs_eq _ _), hstart "**" (by decide), if_neg Bool.false_ne_true]
  have hsecond : secondIs "=" [word w gap, symbol ")" after] =
      some (false, [word w gap, symbol ")" after]) := rfl
  rw [bind_eq hsecond, if_neg Bool.false_ne_true]
  exact (bind_eq rfl).trans (bind_eq hvalue)

theorem arguments_name {w : String} (hw : Text.isIdentifier w = true) (h : w ∉ reserved)
    (gap after : Pieces) (hexpression : r.expression = r'.expressionRule) :
    Accepts (r.arguments true) [word w gap, symbol ")" after] [symbol ")" after] := by
  obtain ⟨value, hvalue⟩ := argument_name hw h gap after hexpression
  have hstart := @avoids_name _ [")"] hw h (by decide) gap [symbol ")" after]
  refine .test (nextIs_eq _ _) ?_
  rw [hstart ")" (by decide)]
  -- The first argument is the last one, so a second step takes none.
  refine ⟨_, bind_eq (@iterate_eq_one _ _ _ ([Tree.bare (.arg false) ([value] ++ after.trees)],
    Rules.ArgumentPhase.positional, true, true) _ _ [symbol ")" after] ?_ rfl)⟩
  exact (bind_eq hvalue).trans rfl

theorem callTail_name {w : String} (hw : Text.isIdentifier w = true) (h : w ∉ reserved)
    (before gap after : Pieces) (hexpression : r.expression = r'.expressionRule) (callee : Tree) :
    Accepts (r.callTail callee) [symbol "(" before, word w gap, symbol ")" after] [] := by
  have hclosing (owned : Bool) : Accepts (Rules.closing owned) [symbol ")" after] [] := by
    cases owned with
    | true => exact ⟨_, first_eq rfl []⟩
    | false => exact ⟨_, next_eq rfl []⟩
  refine Accepts.bind ?_ fun args => .pure _
  refine Accepts.bind ⟨_, next_eq rfl _⟩ fun opening => .test rfl ?_
  refine (arguments_name hw h gap after hexpression).bind fun (args, owned) => ?_
  exact (hclosing owned).bind fun closing => .pure _

theorem primaryRule_call {f x : String} (hf : f ∉ reserved) (hx : Text.isIdentifier x = true)
    (hx' : x ∉ reserved) (a b c d : Pieces) (hexpression : r.expression = r'.expressionRule) :
    Accepts r.primaryRule [word f a, symbol "(" b, word x c, symbol ")" d] [] := by
  obtain ⟨value, hvalue⟩ := callTail_name hx hx' b c d hexpression (.ofName f)
  refine ⟨value, (bind_eq (atom_eq hf a _)).trans (iterate_eq_one ?_ rfl)⟩
  exact (bind_eq (nextIs_eq _ _)).trans ((bind_eq (nextIs_eq _ _)).trans (map_eq hvalue))

theorem small_call {f x : String} (hf : Text.isIdentifier f = true) (hf' : f ∉ reserved)
    (hx : Text.isIdentifier x = true) (hx' : x ∉ reserved) (a b c d : Pieces)
    (hexpression : r.expression = r'.expressionRule)
    (hinner : r'.expression = r''.expressionRule) :
    Accepts r.small [word f a, symbol "(" b, word x c, symbol ")" d] [] := by
  have hne (k : String) (hk : k ∈ reserved) : (f == k) = false :=
    beq_eq_false_iff_ne.mpr fun h => hf' (h ▸ hk)
  have halias : Rules.startsTypeAlias [word f a, symbol "(" b, word x c, symbol ")" d] =
      some (false, [word f a, symbol "(" b, word x c, symbol ")" d]) := by
    have hkind : ((word f a).is "type" && (symbol "(" b).kind == .word &&
        !reserved.contains (symbol "(" b).text) = false := by simp [symbol]
    show some ((word f a).is "type" && (symbol "(" b).kind == .word &&
      !reserved.contains (symbol "(" b).text, _) = _
    rw [hkind]
  have hvalue : Accepts r.starExpressions [word f a, symbol "(" b, word x c, symbol ")" d] [] := by
    refine Accepts.bind (t := []) ?_ fun head => Accepts.bind ?_ fun (parts, comma) => .pure _
    · refine .test (nextIs_eq _ _) ?_
      rw [@avoids_name _ ["*"] hf hf' (by decide) a _ "*" (by decide),
        if_neg Bool.false_ne_true, hexpression]
      exact accepts_expressionRule (primaryRule_call hf' hx hx' a b c d hinner)
        (avoids_name hf hf' (by decide) a _) fun _ _ => rfl
    · exact Accepts.bind ⟨_, iterate_eq_self rfl⟩ fun (parts, comma, _) => .pure _
  have hstatement : Accepts r.expressionStatement
      [word f a, symbol "(" b, word x c, symbol ")" d] [] := by
    refine .test (nextIs_eq _ _) ?_
    rw [startsWith_word, hne "yield" (by decide), if_neg Bool.false_ne_true]
    exact hvalue.bind fun value => .test rfl (.test rfl (.test (nextIn_eq _ _) (.pure _)))
  have hkind : ((word f a).kind == .word) = true := rfl
  have htext : (word f a).text = f := rfl
  refine .test (a := some (word f a)) rfl ?_
  simp only [hkind, htext, if_true, Bool.or_false, Bool.false_eq_true, if_false,
    hne "import" (by decide), hne "from" (by decide), hne "pass" (by decide),
    hne "break" (by decide), hne "continue" (by decide), hne "return" (by decide),
    hne "raise" (by decide), hne "global" (by decide), hne "nonlocal" (by decide),
    hne "del" (by decide), hne "assert" (by decide)]
  exact .test halias hstatement

end LocaleRegistrar.Python.Grammar
