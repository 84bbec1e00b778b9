import LocaleRegistrar.Proofs.Lexing.Strings

/-!
A step of the lexer depends only on the text it takes and on what follows up to the next delimiter.
-/

namespace LocaleRegistrar.Python.Lexeme

/-! ### Gaps -/

theorem takeGap_cons {nested comment : Bool} {c : Char} (hc : c ≠ '\\') (rest : List Char) :
    takeGap nested comment (c :: rest) =
      if isLineEnd c then
        if nested then keep c (takeGap nested false rest) else some ([], c :: rest)
      else if comment || isSpace c then keep c (takeGap nested comment rest)
      else if nested && c = '#' then keep c (takeGap nested true rest)
      else some ([], c :: rest) :=
  takeGap.eq_4 nested comment c rest (fun _ h => absurd h hc) (fun _ _ h => absurd h hc)

/-- Inside a comment a backslash joins no lines. -/
theorem takeGap_comment_backslash (nested : Bool) (c : Char) (rest : List Char) :
    takeGap nested true ('\\' :: c :: rest) = keep '\\' (takeGap nested true (c :: rest)) := by
  by_cases hpair : c = '\r' ∧ ∃ s, rest = '\n' :: s
  · obtain ⟨rfl, s, rfl⟩ := hpair
    rw [takeGap.eq_2, if_pos rfl]
  · rw [takeGap.eq_3 nested true c rest fun s hc hs => hpair ⟨hc, s, hs⟩, if_pos rfl]

/-- A text that goes on with a known character starts as any other that goes on with it. -/
theorem exists_append_cons_eq {g r r' s : List Char} {x y : Char} (h : g ++ x :: r' = y :: s) :
    ∃ s', g ++ x :: r = y :: s' := by
  cases g with
  | nil =>
    obtain ⟨rfl, -⟩ := List.cons.inj h
    exact ⟨r, rfl⟩
  | cons a g =>
    obtain ⟨rfl, -⟩ := List.cons.inj h
    exact ⟨g ++ x :: r, rfl⟩

theorem ne_backslash {c x : Char} {g r : List Char}
    (hend : ∀ y s, c = '\\' → g ++ x :: r = y :: s → False) : c ≠ '\\' := by
  rintro rfl
  cases hg : g ++ x :: r with
  | nil => simp at hg
  | cons y s => exact hend y s rfl hg

/-- The blanks before a lexeme do not depend on what follows its first character. -/
theorem takes_takeGap {nested comment : Bool} {cs g r : List Char} {x : Char}
    (h : takeGap nested comment cs = some (g, x :: r)) (hbackslash : x ≠ '\\')
    (hline : isLineEnd x = false) :
    Takes (fun s => ∃ r', s = x :: r') (takeGap nested comment) cs g (x :: r) := by
  fun_induction takeGap nested comment cs generalizing g with
  | case1 | case3 | case6 => cases h
  | case2 | case5 =>
    rename_i ih
    refine .keep ['\\'] ih h ?_
    rintro g _ - hrest ⟨r', rfl⟩
    obtain ⟨s, hs⟩ := exists_append_cons_eq (r := r') hrest.symm
    rw [hs]
    exact takeGap_comment_backslash nested _ s
  | case4 comment rest hcomment hempty ih =>
    refine .keep ['\\', '\r', '\n'] ih h ?_
    rintro g _ - - ⟨r', rfl⟩
    exact (takeGap.eq_2 nested comment _).trans ((if_neg hcomment).trans (if_neg (by simp)))
  | case7 comment c rest hpair hcomment hc hempty ih =>
    refine .keep ['\\', c] ih h ?_
    rintro g _ - hrest ⟨r', rfl⟩
    refine (takeGap.eq_3 nested comment c _ fun s hc hs => ?_).trans
      ((if_neg hcomment).trans ((if_pos hc).trans (if_neg (by simp))))
    obtain ⟨s', hs'⟩ := exists_append_cons_eq (r := r) hs
    exact hpair s' hc (hrest.trans hs')
  | case8 =>
    cases h
    exact absurd rfl hbackslash
  | case9 comment c rest _ hend hc hnested ih =>
    refine .keep [c] ih h ?_
    rintro g _ - rfl ⟨r', rfl⟩
    rw [List.singleton_append, takeGap_cons (ne_backslash hend), if_pos hc, if_pos hnested]
    rfl
  | case10 comment c rest _ _ hc =>
    cases h
    rw [hc] at hline
    cases hline
  | case11 comment c rest _ hend hc hspace ih =>
    refine .keep [c] ih h ?_
    rintro g _ - rfl ⟨r', rfl⟩
    rw [List.singleton_append, takeGap_cons (ne_backslash hend), if_neg hc, if_pos hspace]
    rfl
  | case12 comment c rest _ hend hc hspace hmark ih =>
    refine .keep [c] ih h ?_
    rintro g _ - rfl ⟨r', rfl⟩
    rw [List.singleton_append, takeGap_cons (ne_backslash hend), if_neg hc, if_neg hspace,
      if_pos hmark]
    rfl
  | case13 comment c rest _ _ hc hspace hmark =>
    cases h
    refine ⟨rfl, ?_⟩
    rintro _ ⟨r', rfl⟩
    rw [List.nil_append, takeGap_cons hbackslash, if_neg hc, if_neg hspace, if_neg hmark]

/-! ### One lexeme -/

/-- A test of the next character that no delimiter passes. -/
theorem head_test_eq {p : Char → Bool} (hp : ∀ c, isDelimiter c = true → p c = false)
    {r r' : List Char} (h : ahead r' = ahead r) :
    (r'.head?.map p).getD false = (r.head?.map p).getD false := by
  have hone (r r' : List Char) (h : ahead r' = ahead r) (hr : (r.head?.map p).getD false = true) :
      (r'.head?.map p).getD false = true := by
    cases r with
    | nil => simp at hr
    | cons c r =>
      have hc : isDelimiter c = false := by
        by_contra hc
        simp [hp c (by simpa using hc)] at hr
      obtain ⟨s, rfl, -⟩ := exists_cons_of_ahead_eq h hc
      exact hr
  rw [Bool.eq_iff_iff]
  exact ⟨hone r' r h.symm, hone r r' h⟩

/-- Texts that agree up to the next delimiter share what comes before it. -/
theorem exists_append_of_ahead_eq {w s r' : List Char} (hw : ∀ c ∈ w, isDelimiter c = false)
    (h : ahead r' = ahead (w ++ s)) : ∃ s', r' = w ++ s' ∧ ahead s' = ahead s := by
  induction w generalizing r' with
  | nil => exact ⟨r', rfl, h⟩
  | cons c w ih =>
    obtain ⟨x, rfl, hx⟩ := exists_cons_of_ahead_eq h (hw c (by simp))
    obtain ⟨s', rfl, hs⟩ := ih (fun c hc => hw c (by simp [hc])) hx
    exact ⟨s', rfl, hs⟩

/-- May a lexeme start with this character? -/
def startsLexeme (c : Char) : Bool := !isDelimiter c || c = ';'

theorem takeNumber_ne_nil {c : Char} {rest t r : List Char}
    (hc : c.isDigit = true ∨ c = '.') (h : takeNumber (c :: rest) = some (t, r)) : t ≠ [] := by
  have hdecimal (h : takeDecimalNumber (c :: rest) = some (t, r)) : t ≠ [] := by
    simp only [takeDecimalNumber] at h
    split at h
    · cases h
    · cases h
      rcases hc with hc | rfl
      · have hunderscore : c ≠ '_' := by
          rintro rfl
          revert hc
          decide
        simp [takeDecimal, takeDigits, hunderscore, hc]
      · have hpoint : takeDecimal ('.' :: rest) = ([], '.' :: rest) := by
          simp [takeDecimal, takeDigits]
        simp [hpoint, takeFraction, takePoint]
  unfold takeNumber at h
  split at h
  · split at h
    · unfold takeBased at h
      split at h <;> cases h
      simp
    · exact hdecimal h
  · exact hdecimal h

/-- One lexeme is read by `f` from `cs`, and it would be read with any other blanks before it and
before any other text that agrees with `r` up to the next delimiter. -/
def ReadsOne (f : (gap cs : List Char) → Option Step) (gap cs : List Char) (lexemes : List Lexeme)
    (stack : List Frame) (r : List Char) : Prop :=
  ∃ kind text, lexemes = [⟨kind, text, gap⟩] ∧ cs = text.toList ++ r ∧ text.toList ≠ [] ∧
    ∀ gap' r', ahead r' = ahead r →
      f gap' (text.toList ++ r') = some (.more [⟨kind, text, gap'⟩] stack r')

theorem takeWhile_append_stop {p : Char → Bool} {w x : List Char} (hw : ∀ c ∈ w, p c = true)
    (hx : (x.head?.map p).getD false = false) :
    (w ++ x).takeWhile p = w ∧ (w ++ x).dropWhile p = x := by
  induction w with
  | nil => cases x <;> simp_all
  | cons c w ih =>
    obtain ⟨htake, hdrop⟩ := ih fun c hc => hw c (by simp [hc])
    simp [hw c (by simp), htake, hdrop]

theorem head_dropWhile_test (p : Char → Bool) (cs : List Char) :
    ((cs.dropWhile p).head?.map p).getD false = false := by
  induction cs with
  | nil => rfl
  | cons c cs ih => by_cases h : p c <;> simp [h, ih]

theorem isWordPart_of_isDelimiter (c : Char) (h : isDelimiter c = true) : isWordPart c = false :=
  forall_isDelimiter (p := fun c => isWordPart c = false) (by decide) c h

theorem takeQuote_eq_none_local {raw : Bool} {r r' : List Char} (h : takeQuote raw r = none)
    (hr : ahead r' = ahead r) : takeQuote raw r' = none := by
  cases hq : takeQuote raw r' with
  | none => rfl
  | some x =>
    obtain ⟨q, inside⟩ := x
    rw [takeQuote_eq hq] at hr
    obtain ⟨s, rfl, hs⟩ := exists_append_of_ahead_eq q.not_isDelimiter_of_mem_text hr.symm
    rw [takeQuote_local hq hs] at h
    cases h

/-- The word before a quote or before what cannot be part of it. -/
theorem wordStep_eq {stack : List Frame} {gap word x : List Char}
    (hword : ∀ c ∈ word, isWordPart c = true)
    (hx : (x.head?.map isWordPart).getD false = false) :
    wordStep stack gap (word ++ x) =
      match takeQuote (word.any fun c => c = 'r' || c = 'R') x with
      | some (q, inside) =>
        if stringMarks.contains (String.ofList (word.map Char.toLower)) then do
          let (body, rest) ← takeString q inside
          return .more [⟨.string, String.ofList (word ++ q.text ++ body), gap⟩] stack rest
        else if templateMarks.contains (String.ofList (word.map Char.toLower)) then
          some (.more [⟨.templateStart, String.ofList (word ++ q.text), gap⟩]
            (.template q :: stack) inside)
        else wordStep.plain stack gap word x
      | none => wordStep.plain stack gap word x := by
  obtain ⟨htake, hdrop⟩ := takeWhile_append_stop hword hx
  have hstep := wordStep.eq_1 stack gap (word ++ x)
  simp only [htake, hdrop] at hstep
  exact hstep

theorem quote_not_isWordPart (q : Quote) (x : List Char) :
    ((q.text ++ x).head?.map isWordPart).getD false = false := by
  obtain ⟨double, triple, raw⟩ := q
  cases double <;> cases triple <;> rfl

theorem plain_local {stack stack' : List Frame} {gap word rest r : List Char}
    {lexemes : List Lexeme}
    (h : wordStep.plain stack gap word rest = some (.more lexemes stack' r)) :
    lexemes = [⟨.word, String.ofList word, gap⟩] ∧ r = rest ∧ stack' = stack ∧ word ≠ [] ∧
      ∀ gap' r', wordStep.plain stack gap' word r' =
        some (.more [⟨.word, String.ofList word, gap'⟩] stack r') := by
  unfold wordStep.plain at h
  split at h
  · next hid =>
    cases h
    refine ⟨rfl, rfl, rfl, ?_, fun gap' r' => by simp [wordStep.plain, hid]⟩
    rintro rfl
    simp [Text.isIdentifierList] at hid
  · cases h

theorem wordStep_local {stack stack' : List Frame} {gap cs r : List Char} {lexemes : List Lexeme}
    (h : wordStep stack gap cs = some (.more lexemes stack' r)) :
    ReadsOne (wordStep stack) gap cs lexemes stack' r := by
  obtain ⟨word, rest, rfl, hword, hstop⟩ : ∃ word rest, cs = word ++ rest ∧
      (∀ c ∈ word, isWordPart c = true) ∧ (rest.head?.map isWordPart).getD false = false :=
    ⟨_, _, List.takeWhile_append_dropWhile.symm, fun _ hc => List.mem_takeWhile_imp hc,
      head_dropWhile_test isWordPart cs⟩
  -- The word alone goes on with what follows as the text does that was read.
  have hplain (hp : wordStep.plain stack gap word rest = some (.more lexemes stack' r))
      (hsame : ∀ gap' r', ahead r' = ahead rest →
        wordStep stack gap' (word ++ r') = wordStep.plain stack gap' word r') :
      ReadsOne (wordStep stack) gap (word ++ rest) lexemes stack' r := by
    obtain ⟨rfl, rfl, rfl, hne, hall⟩ := plain_local hp
    refine ⟨_, _, rfl, by simp, by simpa using hne, fun gap' r' hr => ?_⟩
    rw [String.toList_ofList, hsame gap' r' hr, hall]
  have hhead (r' : List Char) (hr : ahead r' = ahead rest) :
      (r'.head?.map isWordPart).getD false = false := by
    rw [head_test_eq isWordPart_of_isDelimiter hr, hstop]
  rw [wordStep_eq hword hstop] at h
  split at h
  · next q inside hq =>
    obtain rfl := takeQuote_eq hq
    split at h
    · next hmark =>
      obtain ⟨⟨body, after⟩, hbody, h⟩ := Option.bind_eq_some_iff.mp h
      cases h
      obtain ⟨rfl, hagain⟩ := takes_takeString hbody
      refine ⟨_, _, rfl, by simp, by simp [q.text_ne_nil], fun gap' r' hr => ?_⟩
      have hquote := takeQuote_local hq (ahead_append hr body)
      rw [String.toList_ofList, List.append_assoc, List.append_assoc,
        wordStep_eq hword (quote_not_isWordPart q _), hquote]
      simp only [hmark, hagain r' trivial]
      rfl
    split at h
    · next hmark htemplate =>
      cases h
      refine ⟨_, _, rfl, by simp, by simp [q.text_ne_nil], fun gap' r' hr => ?_⟩
      rw [String.toList_ofList, List.append_assoc,
        wordStep_eq hword (quote_not_isWordPart q _), takeQuote_local hq hr]
      simp only [if_neg hmark, if_pos htemplate]
    · next hmark htemplate =>
      refine hplain h fun gap' r' hr => ?_
      obtain ⟨s, rfl, hs⟩ := exists_append_of_ahead_eq q.not_isDelimiter_of_mem_text hr
      rw [wordStep_eq hword (hhead _ hr), takeQuote_local hq hs]
      simp only [if_neg hmark, if_neg htemplate]
  · next hq =>
    refine hplain h fun gap' r' hr => ?_
    rw [wordStep_eq hword (hhead _ hr), takeQuote_eq_none_local hq hr]

/-! ### Symbols in their place -/

theorem symbols_start {s : String} (hs : s ∈ symbols) :
    ∃ c t, s.toList = c :: t ∧ startsLexeme c = true ∧ (c = '!' → s = "!=") := by
  have hall : ∀ s ∈ symbols, (s.toList.head?.any fun c => startsLexeme c && (c ≠ '!' || s = "!=")) =
      true := by decide
  have h := hall s hs
  cases hl : s.toList with
  | nil => simp [hl] at h
  | cons c t =>
    simp only [hl, List.head?_cons, Option.any_some, Bool.and_eq_true, Bool.or_eq_true,
      decide_eq_true_eq] at h
    exact ⟨c, t, rfl, h.1, fun hc => by simpa [hc] using h.2⟩

theorem takeSymbolIn_local {stack : List Frame} {cs r : List Char} {s : String}
    (h : takeSymbolIn stack cs = some (s, r)) :
    (∃ c t, s.toList = c :: t ∧ startsLexeme c = true) ∧ cs = s.toList ++ r ∧
      ∀ r', ahead r' = ahead r → takeSymbolIn stack (s.toList ++ r') = some (s, r') := by
  unfold takeSymbolIn at h
  split at h
  · cases h
    exact ⟨⟨':', [], rfl, by decide⟩, rfl, fun r' _ => rfl⟩
  · next rest =>
    split at h
    · next hequal =>
      obtain ⟨hs, heq⟩ := takeSymbol_eq h
      obtain ⟨c, t, hst, hstart, hbang⟩ := symbols_start hs
      obtain ⟨rfl, -⟩ : '!' = c ∧ _ := List.cons.inj (heq.trans (by rw [hst]; rfl))
      refine ⟨⟨_, t, hst, hstart⟩, heq, fun r' hr => ?_⟩
      have hlocal := takeSymbol_local h hr
      obtain rfl := hbang rfl
      exact hlocal
    · next hequal =>
      cases h
      refine ⟨⟨'!', [], rfl, by decide⟩, rfl, fun r' hr => ?_⟩
      have htest := head_test_eq (p := (· = '=')) (fun c hc => by
        simpa using ne_of_isDelimiter hc (by decide)) hr
      have hequal' : ¬ r'.head? = some '=' := by
        intro h'
        cases r with
        | nil => simp [h'] at htest
        | cons c rest => simp_all
      change (if r'.head? = some '=' then _ else _) = _
      rw [if_neg hequal']
      rfl
  · next hcolon hbang =>
    obtain ⟨hs, heq⟩ := takeSymbol_eq h
    obtain ⟨c, t, hst, hstart, -⟩ := symbols_start hs
    refine ⟨⟨c, t, hst, hstart⟩, heq, fun r' hr => ?_⟩
    have hlocal := takeSymbol_local h hr
    rw [hst] at heq hlocal ⊢
    unfold takeSymbolIn
    split
    · next x =>
      obtain ⟨rfl, -⟩ := List.cons.inj x
      exact absurd heq (hcolon _ _ rfl)
    · next x =>
      obtain ⟨rfl, -⟩ := List.cons.inj x
      exact absurd heq (hbang _ _ rfl)
    · exact hlocal

/-! ### Lexemes -/

theorem startsLexeme_of_isAlphanum {c : Char}
    (h : c.isDigit = true ∨ c = '.' ∨
      (c.isAlpha || c = '_' || c = '\'' || c = '"' || 128 ≤ c.toNat) = true) :
    startsLexeme c = true := by
  have hd := forall_isDelimiter (c := c) (p := fun c => ¬ (c.isDigit = true ∨ c = '.' ∨
      (c.isAlpha || c = '_' || c = '\'' || c = '"' || 128 ≤ c.toNat) = true)) (by decide)
  cases hc : isDelimiter c with
  | false => simp [startsLexeme, hc]
  | true => exact absurd h (hd hc)

/-- Does a number start with this character before this text? -/
def startsNumber (c : Char) (rest : List Char) : Bool :=
  c.isDigit || (c = '.' && (rest.head?.map Char.isDigit).getD false)

theorem startsNumber_local (c : Char) {r r' : List Char} (hr : ahead r' = ahead r) (t : List Char) :
    startsNumber c (t ++ r') = startsNumber c (t ++ r) := by
  rw [startsNumber, head_test_eq isDigit_of_isDelimiter (ahead_append hr t), startsNumber]

theorem lexemeStep_cons (stack : List Frame) (gap : List Char) (c : Char) (rest : List Char) :
    lexemeStep stack gap (c :: rest) =
      if startsNumber c rest then
        (takeNumber (c :: rest)).bind fun x =>
          some (.more [⟨.number, String.ofList x.1, gap⟩] stack x.2)
      else if c.isAlpha || c = '_' || c = '\'' || c = '"' || 128 ≤ c.toNat then
        wordStep stack gap (c :: rest)
      else (takeSymbolIn stack (c :: rest)).bind fun x => (enter x.1 stack).bind fun stack =>
          some (.more [⟨.symbol, x.1, gap⟩] stack x.2) :=
  rfl

/-- What holds of one way to read a lexeme holds of the choice that leads to it. -/
theorem ReadsOne.of_choice {f g : List Char → List Char → Option Step} {gap rest r : List Char}
    {c : Char} {lexemes : List Lexeme} {stack : List Frame}
    (h : ReadsOne g gap (c :: rest) lexemes stack r)
    (hchoice : ∀ t, rest = t ++ r → ∀ gap' r', ahead r' = ahead r →
      f gap' (c :: (t ++ r')) = g gap' (c :: (t ++ r'))) :
    ReadsOne f gap (c :: rest) lexemes stack r := by
  obtain ⟨kind, text, hl, heq, hne, hlocal⟩ := h
  refine ⟨kind, text, hl, heq, hne, fun gap' r' hr => ?_⟩
  obtain ⟨a, t, ht⟩ := List.exists_cons_of_ne_nil hne
  rw [← hlocal gap' r' hr, ht]
  rw [ht, List.cons_append, List.cons.injEq] at heq
  obtain ⟨rfl, heq⟩ := heq
  exact hchoice t heq gap' r' hr

theorem lexemeStep_local {stack stack' : List Frame} {gap cs r : List Char}
    {lexemes : List Lexeme} (h : lexemeStep stack gap cs = some (.more lexemes stack' r)) :
    ReadsOne (lexemeStep stack) gap cs lexemes stack' r ∧
      ∃ c rest, cs = c :: rest ∧ startsLexeme c = true := by
  cases cs with
  | nil => cases h
  | cons c rest =>
    rw [lexemeStep_cons] at h
    by_cases hnumber : startsNumber c rest = true
    · rw [if_pos hnumber] at h
      have hc : c.isDigit = true ∨ c = '.' := by
        simp only [startsNumber, Bool.or_eq_true, Bool.and_eq_true, decide_eq_true_eq] at hnumber
        exact hnumber.imp_right And.left
      refine ⟨.of_choice (g := fun gap cs => (takeNumber cs).bind fun x =>
          some (.more [⟨.number, String.ofList x.1, gap⟩] stack x.2)) ?_ ?_,
        c, rest, rfl, startsLexeme_of_isAlphanum (hc.imp_right .inl)⟩
      · obtain ⟨⟨t, r'⟩, ht, h⟩ := Option.bind_eq_some_iff.mp h
        cases h
        refine ⟨_, _, rfl, by simpa using takeNumber_eq ht, by simpa using takeNumber_ne_nil hc ht,
          fun gap' r' hr => ?_⟩
        simp [takeNumber_local ht hr]
      · rintro t rfl gap' r' hr
        rw [lexemeStep_cons, startsNumber_local c hr, if_pos hnumber]
    rw [if_neg hnumber] at h
    by_cases hword : (c.isAlpha || c = '_' || c = '\'' || c = '"' || 128 ≤ c.toNat) = true
    · rw [if_pos hword] at h
      refine ⟨(wordStep_local h).of_choice ?_,
        c, rest, rfl, startsLexeme_of_isAlphanum (.inr (.inr hword))⟩
      rintro t rfl gap' r' hr
      rw [lexemeStep_cons, startsNumber_local c hr, if_neg hnumber, if_pos hword]
    · rw [if_neg hword] at h
      obtain ⟨⟨s, r'⟩, hs, h⟩ := Option.bind_eq_some_iff.mp h
      obtain ⟨inner, henter, h⟩ := Option.bind_eq_some_iff.mp h
      cases h
      obtain ⟨⟨a, t, hst, ha⟩, heq, hlocal⟩ := takeSymbolIn_local hs
      have hac : c = a := (List.cons.inj (heq.trans (by rw [hst]; rfl))).1
      refine ⟨.of_choice (g := fun gap cs => (takeSymbolIn stack cs).bind fun x =>
          (enter x.1 stack).bind fun stack => some (.more [⟨.symbol, x.1, gap⟩] stack x.2)) ?_ ?_,
        c, rest, rfl, hac ▸ ha⟩
      · refine ⟨_, _, rfl, heq, by simp [hst], fun gap' r' hr => ?_⟩
        simp [hlocal r' hr, henter]
      · rintro t rfl gap' r' hr
        rw [lexemeStep_cons, startsNumber_local c hr, if_neg hnumber, if_neg hword]

/-! ### Steps -/

/-- The text of a lexeme with the blanks before it. -/
def spell (l : Lexeme) : List Char := l.gap ++ l.text.toList

def spellAll (ls : List Lexeme) : List Char := ls.flatMap spell

@[simp] theorem spellAll_nil : spellAll [] = [] := rfl

@[simp] theorem spellAll_cons (l : Lexeme) (ls : List Lexeme) :
    spellAll (l :: ls) = l.gap ++ l.text.toList ++ spellAll ls := rfl

@[simp] theorem spellAll_append (ls ms : List Lexeme) :
    spellAll (ls ++ ms) = spellAll ls ++ spellAll ms := List.flatMap_append

theorem startsLexeme_spec {c : Char} (h : startsLexeme c = true) :
    c ≠ '\\' ∧ c ≠ '#' ∧ isLineEnd c = false ∧ isSpace c = false := by
  refine ⟨?_, ?_, ?_, ?_⟩
  · rintro rfl
    exact absurd h (by decide)
  · rintro rfl
    exact absurd h (by decide)
  · cases hl : isLineEnd c with
    | false => rfl
    | true =>
      have hc : c = '\n' ∨ c = '\r' := by simpa [isLineEnd] using hl
      rcases hc with rfl | rfl <;> exact absurd h (by decide)
  · cases hl : isSpace c with
    | false => rfl
    | true =>
      have hc : (c = ' ' ∨ c = '\t') ∨ c = '\x0c' := by simpa [isSpace] using hl
      rcases hc with (rfl | rfl) | rfl <;> exact absurd h (by decide)

theorem takeComment_cons {c : Char} (hc : c ≠ '#') (rest : List Char) :
    takeComment (c :: rest) = ([], c :: rest) := by
  unfold takeComment
  split
  · next h => exact absurd (List.cons.inj h).1 hc
  · rfl

theorem takeLineEnd_cons {c : Char} (hc : isLineEnd c = false) (rest : List Char) :
    takeLineEnd (c :: rest) = none := by
  unfold takeLineEnd
  split
  · next h => obtain ⟨rfl, -⟩ := List.cons.inj h; cases hc
  · next h => obtain ⟨rfl, -⟩ := List.cons.inj h; cases hc
  · next h => obtain ⟨rfl, -⟩ := List.cons.inj h; cases hc
  · rfl

theorem plainStep_eq_more_iff {stack stack' : List Frame} {cs r : List Char}
    {lexemes : List Lexeme} :
    plainStep stack cs = some (.more lexemes stack' r) ↔
      ∃ gap rest, takeGap (!stack.isEmpty) false cs = some (gap, rest) ∧
        lexemeStep stack gap rest = some (.more lexemes stack' r) := by
  constructor
  · intro h
    obtain ⟨⟨gap, rest⟩, hgap, h⟩ := Option.bind_eq_some_iff.mp h
    refine ⟨gap, rest, hgap, ?_⟩
    simp only at h
    split at h
    · split at h
      · cases h
      · split at h
        · cases h
        · exact h
    · exact h
  · rintro ⟨gap, rest, hgap, h⟩
    obtain ⟨-, c, rest, rfl, hc⟩ := lexemeStep_local h
    obtain ⟨-, hhash, hline, -⟩ := startsLexeme_spec hc
    simp only [plainStep, hgap, takeComment_cons hhash, takeLineEnd_cons hline, Option.bind_eq_bind,
      Option.bind_some, h, ite_self]

/-- A step outside the text of a template reads one lexeme, with whatever blanks are before it. -/
theorem plainStep_local {stack stack' : List Frame} {cs r : List Char} {lexemes : List Lexeme}
    (h : plainStep stack cs = some (.more lexemes stack' r)) :
    ∃ kind text gap c t, lexemes = [⟨kind, text, gap⟩] ∧ text.toList = c :: t ∧
      startsLexeme c = true ∧ takeGap (!stack.isEmpty) false cs = some (gap, text.toList ++ r) ∧
      ∀ gap' r', ahead r' = ahead r →
        takeGap (!stack.isEmpty) false (gap' ++ text.toList ++ r') =
          some (gap', text.toList ++ r') →
        plainStep stack (gap' ++ text.toList ++ r') =
          some (.more [⟨kind, text, gap'⟩] stack' r') := by
  obtain ⟨gap, rest, hgap, h⟩ := plainStep_eq_more_iff.mp h
  obtain ⟨⟨kind, text, rfl, rfl, hne, hlocal⟩, c, s, hcs, hc⟩ := lexemeStep_local h
  obtain ⟨a, t, ht⟩ := List.exists_cons_of_ne_nil hne
  have hac : a = c := (List.cons.inj ((by rw [ht]; rfl : _ = text.toList ++ r).trans hcs)).1
  refine ⟨kind, text, gap, a, t, rfl, ht, hac ▸ hc, hgap, fun gap' r' hr hgap' => ?_⟩
  exact plainStep_eq_more_iff.mpr ⟨gap', _, hgap', hlocal gap' r' hr⟩

/-- The lexeme of a text in a template, if there is any text. -/
def templateText (text : List Char) : List Lexeme :=
  if text.isEmpty then [] else [⟨.templateText, String.ofList text, []⟩]

theorem spellAll_templateText (text : List Char) : spellAll (templateText text) = text := by
  cases text <;> simp [templateText]

theorem templateStep_local {q : Quote} {spec : Bool} {stack stack' : List Frame} {cs r : List Char}
    {lexemes : List Lexeme} (h : templateStep q spec stack cs = some (.more lexemes stack' r)) :
    ∃ text last, lexemes = templateText text ++ [last] ∧ last.gap = [] ∧ last.text.toList ≠ [] ∧
      (∀ c ∈ last.text.toList, isDelimiter c = false) ∧ cs = text ++ (last.text.toList ++ r) ∧
      ∀ r', ahead r' = ahead r → templateStep q spec stack (text ++ (last.text.toList ++ r')) =
        some (.more lexemes stack' r') := by
  obtain ⟨⟨text, rest⟩, htext, hmore⟩ := Option.bind_eq_some_iff.mp h
  clear h
  obtain ⟨rfl, hagain⟩ := takes_takeTemplateText htext
  dsimp only at hmore
  split at hmore
  · cases hmore
    refine ⟨text, ⟨.symbol, "\x7b", []⟩, rfl, rfl, by decide, by decide, rfl, fun r' hr => ?_⟩
    have ht := hagain ('\x7b' :: r') (ahead_append hr ['\x7b'])
    exact Option.bind_eq_some_iff.mpr ⟨_, ht, rfl⟩
  · split at hmore
    · cases hmore
      refine ⟨text, ⟨.symbol, "\x7d", []⟩, rfl, rfl, by decide, by decide, rfl, fun r' hr => ?_⟩
      have ht := hagain ('\x7d' :: r') (ahead_append hr ['\x7d'])
      exact Option.bind_eq_some_iff.mpr ⟨_, ht, rfl⟩
    · cases hmore
  · split at hmore
    · next _ outer hclose =>
      cases hmore
      obtain rfl := Quote.close_eq_some_iff.mp hclose
      obtain ⟨s, hq, -, hopen, hend⟩ := q.exists_text_eq
      refine ⟨text, ⟨.templateEnd, String.ofList q.text, []⟩, rfl, rfl, by simp [hq], ?_,
        by simp, fun r' hr => ?_⟩
      · simpa using q.not_isDelimiter_of_mem_text
      · have ht := hagain (q.text ++ r') (ahead_append hr q.text)
        have hc : q.close? (q.text ++ r') = some r' := Quote.close_eq_some_iff.mpr rfl
        have hstart : q.text ++ r' = q.char :: (s ++ r') := by rw [hq, List.cons_append]
        rw [String.toList_ofList]
        refine Option.bind_eq_some_iff.mpr ⟨_, ht, ?_⟩
        simp only
        split
        · next h => exact absurd (List.cons.inj (hstart.symm.trans h)).1 hopen
        · next h => exact absurd (List.cons.inj (hstart.symm.trans h)).1 hend
        · rw [hc]
          rfl
    · cases hmore

/-- A step depends on what follows it only up to the next delimiter. -/
theorem step_local {stack stack' : List Frame} {cs r : List Char} {lexemes : List Lexeme}
    (h : step stack cs = some (.more lexemes stack' r)) :
    cs = spellAll lexemes ++ r ∧ spellAll lexemes ≠ [] ∧
      ∀ r', ahead r' = ahead r →
        step stack (spellAll lexemes ++ r') = some (.more lexemes stack' r') := by
  have htemplate {q : Quote} {spec : Bool}
      (h : templateStep q spec stack cs = some (.more lexemes stack' r)) :
      cs = spellAll lexemes ++ r ∧ spellAll lexemes ≠ [] ∧ ∀ r', ahead r' = ahead r →
        templateStep q spec stack (spellAll lexemes ++ r') = some (.more lexemes stack' r') := by
    obtain ⟨text, last, hl, hgap, hne, -, rfl, hlocal⟩ := templateStep_local h
    have hspell : spellAll lexemes = text ++ last.text.toList := by
      simp [hl, spellAll_templateText, hgap]
    refine ⟨by simp [hspell], by simp [hspell, hne], fun r' hr => ?_⟩
    rw [hspell, List.append_assoc, hlocal r' hr]
  have hplain (h : plainStep stack cs = some (.more lexemes stack' r)) :
      cs = spellAll lexemes ++ r ∧ spellAll lexemes ≠ [] ∧ ∀ r', ahead r' = ahead r →
        plainStep stack (spellAll lexemes ++ r') = some (.more lexemes stack' r') := by
    obtain ⟨kind, text, gap, c, t, rfl, ht, hc, hgap, hlocal⟩ := plainStep_local h
    obtain ⟨hbackslash, -, hline, -⟩ := startsLexeme_spec hc
    rw [ht] at hgap
    obtain ⟨rfl, hagain⟩ := takes_takeGap hgap hbackslash hline
    refine ⟨by simp [ht], by simp [ht], fun r' hr => ?_⟩
    have hg := hagain (c :: (t ++ r')) ⟨_, rfl⟩
    simpa using hlocal gap r' hr (by simpa [ht] using hg)
  unfold step at h ⊢
  split at h
  · exact htemplate h
  · exact htemplate h
  · exact hplain h

/-! ### Semicolons -/

/-- Is the lexeme the word or the symbol `s`? -/
def is (l : Lexeme) (s : String) : Bool :=
  (l.kind == .word || l.kind == .symbol) && l.text == s

theorem enter_semicolon {stack stack' : List Frame} (h : enter ";" stack = some stack') :
    stack = [] ∧ stack' = [] := by
  cases stack with
  | nil => exact ⟨rfl, by simpa [enter, eq_comm] using h⟩
  | cons frame outer => simp [enter] at h

/-- A semicolon stands in nothing. -/
theorem step_semicolon {stack stack' : List Frame} {cs r : List Char} {lexemes : List Lexeme}
    {l : Lexeme} (h : step stack cs = some (.more lexemes stack' r)) (hl : l ∈ lexemes)
    (his : l.is ";" = true) :
    stack = [] ∧ stack' = [] ∧ lexemes = [l] := by
  simp only [is, Bool.and_eq_true, Bool.or_eq_true, beq_iff_eq] at his
  obtain ⟨hkind, htext⟩ := his
  have htemplate {q : Quote} {spec : Bool}
      (h : templateStep q spec stack cs = some (.more lexemes stack' r)) : False := by
    obtain ⟨text, last, rfl, -, -, hlast, -⟩ := templateStep_local h
    rcases List.mem_append.mp hl with hl | hl
    · unfold templateText at hl
      split at hl
      · simp at hl
      · obtain rfl := List.mem_singleton.mp hl
        simp at hkind
    · obtain rfl := List.mem_singleton.mp hl
      exact absurd (hlast ';' (by simp [htext])) (by decide)
  have hplain (h : plainStep stack cs = some (.more lexemes stack' r)) :
      stack = [] ∧ stack' = [] ∧ lexemes = [l] := by
    obtain ⟨gap, rest, -, h⟩ := plainStep_eq_more_iff.mp h
    obtain ⟨⟨kind, text, rfl, rfl, -, -⟩, -⟩ := lexemeStep_local h
    obtain rfl := List.mem_singleton.mp hl
    obtain rfl : text = ";" := htext
    change lexemeStep stack gap (';' :: r) = _ at h
    rw [lexemeStep_cons, if_neg (by simp [startsNumber]), if_neg (by decide)] at h
    obtain ⟨⟨s, r'⟩, -, h⟩ := Option.bind_eq_some_iff.mp h
    obtain ⟨inner, henter, h⟩ := Option.bind_eq_some_iff.mp h
    cases h
    obtain ⟨rfl, rfl⟩ := enter_semicolon henter
    exact ⟨rfl, rfl, rfl⟩
  unfold step at h
  split at h
  · exact (htemplate h).elim
  · exact (htemplate h).elim
  · exact hplain h

end LocaleRegistrar.Python.Lexeme
