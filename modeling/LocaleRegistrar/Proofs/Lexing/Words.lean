import LocaleRegistrar.Proofs.Lexing.Line

/-!
Words and symbols with single blanks or none between them are read as they were put together.
-/

namespace LocaleRegistrar.Python.Lexeme

theorem isWordPart_of_isIdentifierPart {c : Char} (h : Text.isIdentifierPart c = true) :
    isWordPart c = true := by
  unfold Text.isIdentifierPart at h
  split at h
  · rcases Bool.or_eq_true_iff.mp h with h | h
    · simp [isWordPart, h]
    · simp [isWordPart, beq_iff_eq.mp h]
  · next hbeyond => simp [isWordPart, Nat.le_of_not_lt hbeyond]

theorem isDigit_eq_false {c : Char} (h : c.isAlpha = true ∨ 128 ≤ c.toNat) : c.isDigit = false := by
  have h9 : '9'.val.toNat = 57 := rfl
  have hA : 'A'.val.toNat = 65 := rfl
  have ha : 'a'.val.toNat = 97 := rfl
  have hletter : c.isAlpha = true → ('A'.val ≤ c.val ∧ c.val ≤ 'Z'.val) ∨
      ('a'.val ≤ c.val ∧ c.val ≤ 'z'.val) := by
    intro halpha
    rcases Bool.or_eq_true_iff.mp halpha with hupper | hlower
    · exact .inl (of_decide_eq_true hupper)
    · exact .inr (by simpa using Bool.and_eq_true_iff.mp hlower)
  have h := h.imp_left hletter
  simp only [Char.isDigit, Bool.and_eq_false_iff, decide_eq_false_iff_not, ge_iff_le,
    UInt32.le_iff_toNat_le, Char.toNat] at h ⊢
  omega

theorem isIdentifierStart_spec {c : Char} (h : Text.isIdentifierStart c = true) :
    c.isDigit = false ∧ c ≠ '.' ∧
      (c.isAlpha || c = '_' || c = '\'' || c = '"' || 128 ≤ c.toNat) = true := by
  unfold Text.isIdentifierStart Text.classify at h
  split at h
  · rcases Bool.or_eq_true_iff.mp h with h | h
    · refine ⟨isDigit_eq_false (.inl h), ?_, by simp [h]⟩
      rintro rfl
      exact absurd h (by decide)
    · obtain rfl := beq_iff_eq.mp h
      decide
  · next hbeyond =>
    refine ⟨isDigit_eq_false (.inr (Nat.le_of_not_lt hbeyond)), ?_, ?_⟩
    · rintro rfl
      exact hbeyond (by decide)
    · simp [Nat.le_of_not_lt hbeyond]

/-- The characters of an identifier. -/
theorem exists_cons_of_isIdentifier {w : String} (h : Text.isIdentifier w = true) :
    ∃ c t, w.toList = c :: t ∧ Text.isIdentifierStart c = true ∧
      ∀ c ∈ w.toList, isWordPart c = true := by
  unfold Text.isIdentifier at h
  cases hw : w.toList with
  | nil => simp [hw, Text.isIdentifierList] at h
  | cons c t =>
    rw [hw, Text.isIdentifierList, Bool.and_eq_true, List.all_eq_true] at h
    refine ⟨c, t, rfl, h.1, List.forall_mem_cons.mpr ⟨?_, fun x hx => ?_⟩⟩
    · exact isWordPart_of_isIdentifierPart (Text.isIdentifierPart_of_start h.1)
    · exact isWordPart_of_isIdentifierPart (h.2 x hx)

theorem takeGap_spaces {nested : Bool} {gap : List Char} {c : Char}
    (hgap : ∀ x ∈ gap, isSpace x = true) (hc : startsLexeme c = true) (r : List Char) :
    takeGap nested false (gap ++ c :: r) = some (gap, c :: r) := by
  obtain ⟨hbackslash, hcomment, hline, hspace⟩ := startsLexeme_spec hc
  induction gap with
  | nil => simp [takeGap_cons hbackslash, hline, hspace, hcomment]
  | cons x gap ih =>
    obtain ⟨hx, hgap⟩ := List.forall_mem_cons.mp hgap
    obtain ⟨hxb, hxl, -⟩ := isSpace_spec hx
    rw [List.cons_append, takeGap_cons hxb, ih hgap]
    simp [hxl, hx, keep]

/-- The symbols that are put between names. -/
def joints : List Char := ['.', '(', ')']

/-- What may follow a word of a line that is put together. -/
def EndsWord (r : List Char) : Prop := ∀ c ∈ r.head?, c = ' ' ∨ c ∈ joints

theorem wordStep_of_isIdentifier {stack : List Frame} {gap r : List Char} {w : String}
    (hw : Text.isIdentifier w = true) (hr : EndsWord r) :
    wordStep stack gap (w.toList ++ r) = some (.more [⟨.word, w, gap⟩] stack r) := by
  obtain ⟨-, -, -, -, hparts⟩ := exists_cons_of_isIdentifier hw
  have hplain : wordStep.plain stack gap w.toList r = some (.more [⟨.word, w, gap⟩] stack r) := by
    unfold wordStep.plain
    rw [if_pos (show Text.isIdentifierList w.toList = true from hw), String.ofList_toList]
  cases r with
  | nil =>
    rw [wordStep_eq hparts rfl]
    exact hplain
  | cons c r =>
    have hc : c = ' ' ∨ c ∈ joints := hr c rfl
    have hnone (raw : Bool) : isWordPart c = false ∧ takeQuote raw (c :: r) = none := by
      rcases hc with rfl | hc
      · exact ⟨by decide, rfl⟩
      · simp only [joints, List.mem_cons, List.not_mem_nil, or_false] at hc
        rcases hc with rfl | rfl | rfl <;> exact ⟨by decide, rfl⟩
    rw [wordStep_eq hparts (by simpa using (hnone true).1)]
    simp only [(hnone _).2]
    exact hplain

theorem Lexed.word {stack : List Frame} {ls : List Lexeme} {w : String} {gap : List Char}
    (hstack : ∀ cs, Lexeme.step stack cs = plainStep stack cs) (hw : Text.isIdentifier w = true)
    (hgap : ∀ c ∈ gap, isSpace c = true) (hnext : EndsWord (spellAll ls)) (hls : Lexed stack ls) :
    Lexed stack (⟨.word, w, gap⟩ :: ls) := by
  obtain ⟨c, t, hchars, hc, -⟩ := exists_cons_of_isIdentifier hw
  obtain ⟨hdigit, hpoint, hstart⟩ := isIdentifierStart_spec hc
  have hlexeme : startsLexeme c = true := startsLexeme_of_isAlphanum (.inr (.inr hstart))
  have hread : Lexeme.step stack (gap ++ w.toList ++ spellAll ls) =
      some (.more [⟨.word, w, gap⟩] stack (spellAll ls)) := by
    rw [hstack]
    refine plainStep_eq_more_iff.mpr ⟨gap, w.toList ++ spellAll ls, ?_, ?_⟩
    · rw [hchars, List.append_assoc]
      exact takeGap_spaces hgap hlexeme _
    · rw [← wordStep_of_isIdentifier hw hnext, hchars, List.cons_append, lexemeStep_cons,
        if_neg (by simp [startsNumber, hdigit, hpoint]), if_pos hstart]
  obtain ⟨-, hne, hlocal⟩ := step_local hread
  rw [← List.singleton_append]
  exact .step hlocal hne hls

theorem takeSymbol_joint {c : Char} (hc : c ∈ joints) {r : List Char} (hr : r.head? ≠ some '.') :
    takeSymbol (c :: r) = some (String.singleton c, r) := by
  have hdots : after? ['.', '.', '.'] ('.' :: r) = none := by
    cases r with
    | nil => rfl
    | cons x r =>
      have hx : '.' ≠ x := by simpa [eq_comm] using hr
      simp [after?, hx]
  simp only [joints, List.mem_cons, List.not_mem_nil, or_false] at hc
  rcases hc with rfl | rfl | rfl
  · simp [takeSymbol, symbols, after?, hdots]
  · rfl
  · rfl

theorem Lexed.symbol {stack stack' : List Frame} {ls : List Lexeme} {c : Char}
    (hstack : ∀ cs, Lexeme.step stack cs = plainStep stack cs) (hc : c ∈ joints)
    (henter : enter (String.singleton c) stack = some stack')
    (hnext : ∀ x ∈ (spellAll ls).head?, x ≠ '.' ∧ x.isDigit = false) (hls : Lexed stack' ls) :
    Lexed stack (⟨.symbol, String.singleton c, []⟩ :: ls) := by
  have hread : Lexeme.step stack (c :: spellAll ls) =
      some (.more [⟨.symbol, String.singleton c, []⟩] stack' (spellAll ls)) := by
    rw [hstack]
    have hspec : startsLexeme c = true ∧ c.isDigit = false ∧
        (c.isAlpha || c = '_' || c = '\'' || c = '"' || 128 ≤ c.toNat) = false := by
      simp only [joints, List.mem_cons, List.not_mem_nil, or_false] at hc
      rcases hc with rfl | rfl | rfl <;> decide
    have hnumber : startsNumber c (spellAll ls) = false := by
      have hhead : ((spellAll ls).head?.map Char.isDigit).getD false = false := by
        cases hl : (spellAll ls).head? with
        | none => rfl
        | some x => exact (hnext x hl).2
      simp [startsNumber, hspec.2.1, hhead]
    have htake : takeSymbolIn stack (c :: spellAll ls) =
        some (String.singleton c, spellAll ls) := by
      rw [← takeSymbol_joint hc fun hdot => (hnext '.' hdot).1 rfl]
      simp only [joints, List.mem_cons, List.not_mem_nil, or_false] at hc
      unfold takeSymbolIn
      split <;> simp_all
    refine plainStep_eq_more_iff.mpr ⟨[], c :: spellAll ls, ?_, ?_⟩
    · exact @takeGap_spaces _ [] _ (by simp) hspec.1 _
    · rw [lexemeStep_cons, if_neg (by simp [hnumber]), if_neg (by simp [hspec.2.2]), htake]
      simp [henter]
  obtain ⟨-, hne, hlocal⟩ := step_local hread
  rw [← List.singleton_append]
  exact .step hlocal hne hls

/-! ### Dotted names -/

/-- Each of these names after a dot. -/
def dots (names : List String) : List Lexeme :=
  names.flatMap fun name => [⟨.symbol, ".", []⟩, ⟨.word, name, []⟩]

theorem head_identifier {w : String} (h : Text.isIdentifier w = true) (r : List Char) :
    ∀ x ∈ (w.toList ++ r).head?, x ≠ '.' ∧ x.isDigit = false := by
  obtain ⟨c, t, hchars, hc, -⟩ := exists_cons_of_isIdentifier h
  obtain ⟨hdigit, hpoint, -⟩ := isIdentifierStart_spec hc
  intro x hx
  obtain rfl : c = x := by simpa [hchars] using hx
  exact ⟨hpoint, hdigit⟩

theorem Lexed.dotted {name : String} {names : List String} {rest : List Lexeme} {gap : List Char}
    (h : ∀ w ∈ name :: names, Text.isIdentifier w = true) (hgap : ∀ c ∈ gap, isSpace c = true)
    (hnext : EndsWord (spellAll rest)) (hrest : Lexed [] rest) :
    Lexed [] (⟨.word, name, gap⟩ :: (dots names ++ rest)) := by
  induction names generalizing name gap with
  | nil => exact .word (fun _ => rfl) (h name (by simp)) hgap hnext hrest
  | cons next names ih =>
    obtain ⟨hname, h⟩ := List.forall_mem_cons.mp h
    have hafter := @ih next [] h (by simp)
    refine .word (fun _ => rfl) hname hgap ?_ ?_
    · simp [EndsWord, dots, joints]
    · refine .symbol (c := '.') (fun _ => rfl) (by decide) rfl ?_ hafter
      exact head_identifier (h next (by simp)) _

end LocaleRegistrar.Python.Lexeme
