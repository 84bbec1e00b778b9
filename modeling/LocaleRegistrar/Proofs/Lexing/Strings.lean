import LocaleRegistrar.Proofs.Lexing.Ahead

/-!
Strings and the text of templates are read in the same way whatever follows them. A string ends with
its own quote; the text of a template ends before a quote or a brace, and whether it ends there is
seen before the next delimiter.
-/

namespace LocaleRegistrar.Python.Lexeme

theorem keep_eq_some_iff {c : Char} {o : Option (List Char × List Char)} {t r : List Char} :
    keep c o = some (t, r) ↔ ∃ t', t = c :: t' ∧ o = some (t', r) := by
  cases o with
  | none => simp [keep]
  | some x =>
    obtain ⟨taken, rest⟩ := x
    simp only [keep, Option.some.injEq, Prod.mk.injEq]
    constructor
    · rintro ⟨rfl, rfl⟩
      exact ⟨taken, rfl, rfl, rfl⟩
    · rintro ⟨t', rfl, rfl, rfl⟩
      exact ⟨rfl, rfl⟩

/-! ### Readers that keep what they take -/

theorem foldr_keep_eq_some_iff (start : List Char) {o : Option (List Char × List Char)}
    {t r : List Char} :
    start.foldr keep o = some (t, r) ↔ ∃ t', t = start ++ t' ∧ o = some (t', r) := by
  induction start generalizing t with
  | nil => simp
  | cons c start ih =>
    simp only [List.foldr_cons, keep_eq_some_iff, ih]
    constructor
    · rintro ⟨_, rfl, t', rfl, h⟩
      exact ⟨t', rfl, h⟩
    · rintro ⟨t', rfl, h⟩
      exact ⟨start ++ t', rfl, t', rfl, h⟩

/-- From `cs` the reader takes `t` and leaves `r`. It takes `t` as well where something that is the
same to it follows in place of `r`. -/
structure Takes (same : List Char → Prop) (read : List Char → Option (List Char × List Char))
    (cs t r : List Char) : Prop where
  taken : cs = t ++ r
  again : ∀ r', same r' → read (t ++ r') = some (t, r')

/-- The step of a reader that keeps `start` and goes on as another one does. It has to keep `start`
whatever follows of what is the same. -/
theorem Takes.keep {same : List Char → Prop}
    {read next : List Char → Option (List Char × List Char)} {cs t r : List Char}
    (start : List Char) (hnext : ∀ {t}, next cs = some (t, r) → Takes same next cs t r)
    (h : start.foldr Lexeme.keep (next cs) = some (t, r))
    (hstep : ∀ t r', next cs = some (t, r) → cs = t ++ r → same r' →
      read (start ++ (t ++ r')) = start.foldr Lexeme.keep (next (t ++ r'))) :
    Takes same read (start ++ cs) t r := by
  obtain ⟨t, rfl, ht⟩ := (foldr_keep_eq_some_iff start).mp h
  obtain ⟨htaken, hagain⟩ := hnext ht
  refine ⟨by rw [htaken, List.append_assoc], fun r' hr => ?_⟩
  rw [List.append_assoc, hstep t r' ht htaken hr, hagain r' hr, foldr_keep_eq_some_iff]
  exact ⟨t, rfl, rfl⟩

/-! ### Quotes -/

namespace Quote

theorem text_ne_nil (q : Quote) : q.text ≠ [] := by
  unfold text
  split <;> simp

theorem not_isDelimiter_char (q : Quote) : isDelimiter q.char = false := by
  unfold char
  split <;> decide

theorem not_isDelimiter_of_mem_text (q : Quote) : ∀ c ∈ q.text, isDelimiter c = false := by
  intro c hc
  have heq : c = q.char := by
    unfold text at hc
    split at hc <;> simpa using hc
  rw [heq, not_isDelimiter_char]

theorem close_eq_some_iff {q : Quote} {cs r : List Char} :
    q.close? cs = some r ↔ cs = q.text ++ r := by
  cases cs with
  | nil => simp [close?, q.text_ne_nil]
  | cons a rest =>
    by_cases ha : a = q.char
    · cases htriple : q.triple with
      | false => simp [close?, text, ha, htriple]
      | true =>
        match rest with
        | [] => simp [close?, text, ha, htriple]
        | [b] => simp [close?, text, ha, htriple]
        | b :: c :: rest =>
          by_cases hb : b = q.char ∧ c = q.char
          · simp [close?, text, ha, htriple, hb]
          · have hne : ¬ (b :: c :: rest = q.char :: q.char :: r) := by
              rintro ⟨⟩
              exact hb ⟨rfl, rfl⟩
            simpa [close?, text, ha, htriple, hb] using hne
    · cases htriple : q.triple <;> simp [close?, text, ha, htriple]

theorem close_isSome_iff {q : Quote} {cs : List Char} : (q.close? cs).isSome ↔ q.text <+: cs := by
  rw [Option.isSome_iff_exists]
  simp only [close_eq_some_iff]
  exact ⟨fun ⟨r, h⟩ => ⟨r, h.symm⟩, fun ⟨r, h⟩ => ⟨r, h.symm⟩⟩

end Quote

theorem takeQuote_eq {raw : Bool} {cs r : List Char} {q : Quote}
    (h : takeQuote raw cs = some (q, r)) : cs = q.text ++ r := by
  unfold takeQuote at h
  split at h <;> cases h <;> rfl

theorem takeQuote_local {raw : Bool} {cs r r' : List Char} {q : Quote}
    (h : takeQuote raw cs = some (q, r)) (hr : ahead r' = ahead r) :
    takeQuote raw (q.text ++ r') = some (q, r') := by
  unfold takeQuote at h
  split at h
  · cases h
    rfl
  · cases h
    rfl
  · next rest hnot =>
    cases h
    have hpair : ¬ ['\'', '\''] <+: r' := by
      rw [prefix_iff_of_ahead_eq (by decide) hr]
      rintro ⟨s, rfl⟩
      exact hnot s rfl
    exact takeQuote.eq_3 raw r' fun s hs => hpair ⟨s, hs.symm⟩
  · next rest hnot =>
    cases h
    have hpair : ¬ ['"', '"'] <+: r' := by
      rw [prefix_iff_of_ahead_eq (by decide) hr]
      rintro ⟨s, rfl⟩
      exact hnot s rfl
    exact takeQuote.eq_4 raw r' fun s hs => hpair ⟨s, hs.symm⟩
  · cases h

/-! ### Strings -/

theorem Quote.exists_text_eq (q : Quote) :
    ∃ rest, q.text = q.char :: rest ∧ q.char ≠ '\\' ∧ q.char ≠ '\x7b' ∧ q.char ≠ '\x7d' := by
  obtain ⟨double, triple, raw⟩ := q
  cases double <;> cases triple <;>
    exact ⟨_, rfl, by simp [char], by simp [char], by simp [char]⟩

theorem takeString_cons {q : Quote} {c : Char} (hc : c ≠ '\\') (rest : List Char) :
    takeString q (c :: rest) =
      match q.close? (c :: rest) with
      | some rest => some (q.text, rest)
      | none => if isLineEnd c && !q.triple then none else keep c (takeString q rest) :=
  takeString.eq_4 q c rest (fun _ h => absurd h hc) (fun _ _ h => absurd h hc)

theorem length_le_of_takeString {q : Quote} {cs t r : List Char}
    (h : takeString q cs = some (t, r)) : q.text.length ≤ t.length := by
  fun_induction takeString q cs generalizing t with
  | case1 => cases h
  | case2 rest ih =>
    obtain ⟨t, rfl, ht⟩ := (foldr_keep_eq_some_iff ['\\', '\r', '\n']).mp h
    exact (ih ht).trans (List.suffix_append _ t).length_le
  | case3 c rest hnot ih =>
    obtain ⟨t, rfl, ht⟩ := (foldr_keep_eq_some_iff ['\\', c]).mp h
    exact (ih ht).trans (List.suffix_append _ t).length_le
  | case4 =>
    cases h
    exact le_rfl
  | case5 => cases h
  | case6 c rest _ hnot hclose hline ih =>
    obtain ⟨t, rfl, ht⟩ := keep_eq_some_iff.mp h
    exact (ih ht).trans (List.suffix_cons c t).length_le

theorem exists_cons_of_takeString {q : Quote} {cs t r : List Char}
    (h : takeString q cs = some (t, r)) : ∃ x s, t = x :: s :=
  List.exists_cons_of_length_pos
    ((List.length_pos_iff.mpr q.text_ne_nil).trans_le (length_le_of_takeString h))

/-- A string is read in the same way whatever follows it. -/
theorem takes_takeString {q : Quote} {cs t r : List Char} (h : takeString q cs = some (t, r)) :
    Takes (fun _ => True) (takeString q) cs t r := by
  fun_induction takeString q cs generalizing t with
  | case1 => cases h
  | case2 rest ih =>
    exact .keep ['\\', '\r', '\n'] ih h fun t r' _ _ _ => takeString.eq_2 q (t ++ r')
  | case3 c rest hnot ih =>
    refine .keep ['\\', c] ih h fun t r' ht hrest _ => takeString.eq_3 q c (t ++ r') ?_
    intro s hc hs
    obtain ⟨x, t, rfl⟩ := exists_cons_of_takeString ht
    obtain ⟨rfl, -⟩ := List.cons.inj hs
    exact hnot (t ++ r) hc hrest
  | case4 c rest _ _ after hclose =>
    cases h
    refine ⟨Quote.close_eq_some_iff.mp hclose, fun r' _ => ?_⟩
    obtain ⟨others, htext, hne, -, -⟩ := q.exists_text_eq
    have hclose' : q.close? (q.char :: (others ++ r')) = some r' := by
      rw [Quote.close_eq_some_iff, htext, List.cons_append]
    rw [htext, List.cons_append, takeString_cons hne, hclose', htext]
  | case5 => cases h
  | case6 c rest _ hnot hclose hline ih =>
    refine .keep [c] ih h fun t r' ht hrest _ => ?_
    have hc : c ≠ '\\' := by
      obtain ⟨x, s, rfl⟩ := exists_cons_of_takeString ht
      exact fun hc => hnot x (s ++ r) hc hrest
    have hclose' : q.close? (c :: (t ++ r')) = none := by
      rw [← Option.not_isSome_iff_eq_none, Quote.close_isSome_iff] at hclose ⊢
      -- The quote fits into `c :: t`, so what follows does not matter.
      intro hp
      apply hclose
      have hlength := length_le_of_takeString ht
      have hshort := List.prefix_of_prefix_length_le hp (List.prefix_append (c :: t) r')
        (by simp; omega)
      rw [hrest]
      exact hshort.trans (List.prefix_append (c :: t) r)
    rw [List.singleton_append, takeString_cons hc, hclose', if_neg hline]
    rfl

/-! ### The text of templates -/

theorem ahead_cons_ne_nil {c : Char} {cs : List Char} (hc : isDelimiter c = false) :
    ahead (c :: cs) ≠ [] := by
  simp [ahead_cons, hc]

/-- A text that goes on with `r` starts as one that goes on with `r'`. -/
theorem exists_append_eq_cons {t r r' x : List Char} {c : Char} (hne : ahead r ≠ [])
    (hr : ahead r' = ahead r) (h : t ++ r = c :: x) : ∃ y, t ++ r' = c :: y := by
  cases t with
  | cons a t =>
    simp only [List.cons_append, List.cons.injEq] at h
    exact ⟨t ++ r', by rw [h.1]; rfl⟩
  | nil =>
    obtain rfl : r = c :: x := h
    have hc : isDelimiter c = false := by
      by_contra hc
      simp [ahead_cons, hc] at hne
    obtain ⟨y, rfl, -⟩ := exists_cons_of_ahead_eq hr hc
    exact ⟨y, rfl⟩

/-- Whether a quote comes next is seen before the next delimiter. -/
theorem Quote.close_isSome_of_ahead_eq {q : Quote} {c : Char} {t r r' : List Char}
    (hr : ahead r' = ahead r) (h : (q.close? (c :: (t ++ r'))).isSome = true) :
    (q.close? (c :: (t ++ r))).isSome = true := by
  rw [Quote.close_isSome_iff] at h ⊢
  exact (prefix_iff_of_ahead_eq q.not_isDelimiter_of_mem_text (ahead_append hr (c :: t))).mp h

theorem takeTemplateText_cons {q : Quote} {spec named : Bool} {c : Char} {rest : List Char}
    (hc : c ≠ '\\') (hopen : ∀ s, c = '\x7b' → rest = '\x7b' :: s → False)
    (hclose : ∀ s, c = '\x7d' → rest = '\x7d' :: s → False) :
    takeTemplateText q spec named (c :: rest) =
      if (q.close? (c :: rest)).isSome then some ([], c :: rest)
      else if c = '\x7b' then some ([], c :: rest)
      else if c = '\x7d' then
        if named then keep c (takeTemplateText q spec false rest)
        else if spec then some ([], c :: rest)
        else none
      else if isLineEnd c && !q.triple then none
      else keep c (takeTemplateText q spec named rest) :=
  takeTemplateText.eq_7 q spec named c rest (fun _ h => absurd h hc) (fun _ h => absurd h hc)
    (fun _ _ h => absurd h hc) hopen hclose

theorem Quote.eq_char_of_close {q : Quote} {c : Char} {rest : List Char}
    (h : (q.close? (c :: rest)).isSome = true) : c = q.char := by
  obtain ⟨others, htext, -⟩ := q.exists_text_eq
  obtain ⟨s, hs⟩ := Quote.close_isSome_iff.mp h
  rw [htext] at hs
  exact (List.cons.inj hs).1.symm

/-- What follows the text of a template starts with a quote or a brace, which are no delimiters. -/
theorem ahead_ne_nil_of_takeTemplateText {q : Quote} {spec named : Bool} {cs t r : List Char}
    (h : takeTemplateText q spec named cs = some (t, r)) : ahead r ≠ [] := by
  fun_induction takeTemplateText q spec named cs generalizing t with
  | case1 | case16 | case17 => cases h
  | case2 _ _ _ ih | case3 _ _ _ ih | case4 _ _ ih | case5 _ _ _ _ _ _ ih | case6 _ _ _ _ _ _ ih
  | case8 _ _ _ ih | case9 _ ih | case11 _ _ _ _ ih | case14 _ _ _ _ _ _ _ _ ih
  | case18 _ _ _ _ _ _ _ _ _ _ _ _ ih =>
    simp only [keep_eq_some_iff] at h
    grind
  | case7 | case10 | case13 | case15 =>
    cases h
    exact ahead_cons_ne_nil (by decide)
  | case12 named c rest _ _ _ _ _ hclose =>
    cases h
    rw [Quote.eq_char_of_close hclose]
    exact ahead_cons_ne_nil q.not_isDelimiter_char

/-- A reader that stops before `c` does so as long as the text before the next delimiter is the
same. -/
theorem Takes.stop {read : List Char → Option (List Char × List Char)} {c : Char} {rest : List Char}
    (hc : isDelimiter c = false)
    (h : ∀ s, ahead s = ahead rest → read (c :: s) = some ([], c :: s)) :
    Takes (ahead · = ahead (c :: rest)) read (c :: rest) [] (c :: rest) := by
  refine ⟨rfl, fun r' hr => ?_⟩
  obtain ⟨s, rfl, hs⟩ := exists_cons_of_ahead_eq hr hc
  exact h s hs

/-- The text of a template is read in the same way as long as what follows it is the same up to the
next delimiter. -/
theorem takes_takeTemplateText {q : Quote} {spec named : Bool} {cs t r : List Char}
    (h : takeTemplateText q spec named cs = some (t, r)) :
    Takes (ahead · = ahead r) (takeTemplateText q spec named) cs t r := by
  have hne := ahead_ne_nil_of_takeTemplateText h
  fun_induction takeTemplateText q spec named cs generalizing t with
  | case1 | case16 | case17 => cases h
  | case2 named rest hmark ih =>
    exact .keep ['\\', 'N', '\x7b'] ih h fun t r' _ _ _ => by simp [takeTemplateText, hmark]
  | case3 named rest hmark ih =>
    refine .keep ['\\', 'N'] ih h fun t r' _ hrest hr => ?_
    obtain ⟨y, hy⟩ := exists_append_eq_cons hne hr hrest.symm
    simp [takeTemplateText, hmark, hy]
  | case4 named rest ih =>
    exact .keep ['\\', '\r', '\n'] ih h fun t r' _ _ _ => by simp [takeTemplateText]
  | case5 named c rest hname hline hbrace ih =>
    refine .keep ['\\'] ih h fun t r' _ hrest hr => ?_
    obtain ⟨y, hy⟩ := exists_append_eq_cons hne hr hrest.symm
    rw [hy, List.singleton_append, takeTemplateText.eq_4, if_pos hbrace]
    · rfl
    · rintro s rfl
      simp at hbrace
    · rintro s rfl
      simp at hbrace
  | case6 named c rest hname hline hbrace ih =>
    refine .keep ['\\', c] ih h fun t r' _ hrest hr => ?_
    have hback {x : Char} {s : List Char} (hs : t ++ r' = x :: s) : ∃ y, rest = x :: y := by
      rw [hrest]
      exact exists_append_eq_cons (hr ▸ hne) hr.symm hs
    refine (takeTemplateText.eq_4 q spec named c (t ++ r') ?_ ?_).trans (if_neg hbrace)
    · intro s hc hs
      obtain ⟨y, hy⟩ := hback hs
      exact hname y hc hy
    · intro s hc hs
      obtain ⟨y, hy⟩ := hback hs
      exact hline y hc hy
  | case7 named rest hspec =>
    cases h
    refine .stop (by decide) fun s hs => ?_
    obtain ⟨s, rfl, -⟩ := exists_cons_of_ahead_eq hs (by decide)
    simp [takeTemplateText, hspec]
  | case8 named rest hspec ih =>
    exact .keep ['\x7b', '\x7b'] ih h fun t r' _ _ _ =>
      (takeTemplateText.eq_5 q spec named (t ++ r')).trans (if_neg hspec)
  | case9 rest ih =>
    refine .keep ['\x7d'] ih h fun t r' _ hrest hr => ?_
    obtain ⟨y, hy⟩ := exists_append_eq_cons hne hr hrest.symm
    simp [takeTemplateText, hy]
  | case10 named rest hnamed hspec =>
    cases h
    refine .stop (by decide) fun s hs => ?_
    obtain ⟨s, rfl, -⟩ := exists_cons_of_ahead_eq hs (by decide)
    simp [takeTemplateText, hnamed, hspec]
  | case11 named rest hnamed hspec ih =>
    exact .keep ['\x7d', '\x7d'] ih h fun t r' _ _ _ =>
      (takeTemplateText.eq_6 q spec named (t ++ r')).trans ((if_neg hnamed).trans (if_neg hspec))
  | case12 named c rest _ _ _ _ _ hclose =>
    cases h
    obtain ⟨-, -, hbackslash, hopen, hclosing⟩ := q.exists_text_eq
    obtain rfl := Quote.eq_char_of_close hclose
    refine .stop q.not_isDelimiter_char fun s hs => ?_
    have hclose' : (q.close? (q.char :: s)).isSome = true :=
      @Quote.close_isSome_of_ahead_eq q q.char [] s rest hs.symm hclose
    rw [takeTemplateText_cons hbackslash (fun _ h => absurd h hopen)
      (fun _ h => absurd h hclosing), if_pos hclose']
  | case13 named rest _ _ _ hopen _ hclose =>
    cases h
    refine .stop (by decide) fun s hs => ?_
    rw [takeTemplateText_cons (by decide) ?_ (by simp)]
    · simp
    · rintro y - rfl
      obtain ⟨z, rfl, -⟩ := exists_cons_of_ahead_eq hs.symm (by decide)
      exact hopen z rfl rfl
  | case14 rest _ _ _ _ hpair hclose _ ih =>
    refine .keep ['\x7d'] ih h fun t r' _ hrest hr => ?_
    subst hrest
    rw [List.singleton_append, takeTemplateText_cons (by decide) (by simp) ?_,
      if_neg (mt (Quote.close_isSome_of_ahead_eq hr) hclose)]
    · simp
    · rintro y - hy
      obtain ⟨z, hz⟩ := exists_append_eq_cons (hr ▸ hne) hr.symm hy
      exact hpair z rfl hz
  | case15 named rest hnamed hspec _ _ _ _ hpair _ _ =>
    cases h
    refine .stop (by decide) fun s hs => ?_
    rw [takeTemplateText_cons (by decide) (by simp) ?_]
    · simp [hnamed, hspec]
    · rintro y - rfl
      obtain ⟨z, rfl, -⟩ := exists_cons_of_ahead_eq hs.symm (by decide)
      exact hpair z rfl rfl
  | case18 named c rest _ _ hbackslash _ _ hclose hopen hclosing hline ih =>
    refine .keep [c] ih h fun t r' _ hrest hr => ?_
    subst hrest
    have hc : c ≠ '\\' := by
      rintro rfl
      cases hrest : t ++ r with
      | nil => simp_all
      | cons x rest => exact hbackslash x rest rfl hrest
    rw [List.singleton_append, takeTemplateText_cons hc (fun _ h => absurd h hopen)
      (fun _ h => absurd h hclosing), if_neg (mt (Quote.close_isSome_of_ahead_eq hr) hclose),
      if_neg hopen, if_neg hclosing, if_neg hline]
    rfl

end LocaleRegistrar.Python.Lexeme
