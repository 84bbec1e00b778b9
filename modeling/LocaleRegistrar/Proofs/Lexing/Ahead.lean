import LocaleRegistrar.Python.Lexeme
import Mathlib.Data.List.TakeWhile

/-!
How far reading a lexeme looks ahead. A lexeme is read in the same way whatever follows it, as long
as the text up to the next delimiter is the same: no word, number or symbol goes on after a
delimiter, and what a string or the text of a template holds is taken with it.
-/

namespace LocaleRegistrar.Python.Lexeme

/-- The blanks, line ends, backslashes and comment marks that may stand between lexemes, and the
semicolon. -/
def delimiters : List Char := [' ', '\t', '\x0c', '\n', '\r', '\\', '#', ';']

def isDelimiter (c : Char) : Bool := delimiters.contains c

theorem forall_isDelimiter {p : Char → Prop} (h : ∀ c ∈ delimiters, p c) (c : Char)
    (hc : isDelimiter c = true) : p c :=
  h c (by simpa [isDelimiter] using hc)

theorem ne_of_isDelimiter {c x : Char} (hc : isDelimiter c = true) (hx : isDelimiter x = false) :
    c ≠ x := by
  rintro rfl
  rw [hc] at hx
  cases hx

/-- The text up to the first delimiter. -/
def ahead (cs : List Char) : List Char := cs.takeWhile (!isDelimiter ·)

@[simp] theorem ahead_nil : ahead [] = [] := rfl

theorem ahead_cons (c : Char) (cs : List Char) :
    ahead (c :: cs) = if isDelimiter c then [] else c :: ahead cs := by
  by_cases h : isDelimiter c <;> simp [ahead, h]

theorem ahead_append {r r' : List Char} (h : ahead r' = ahead r) (t : List Char) :
    ahead (t ++ r') = ahead (t ++ r) := by
  induction t with
  | nil => exact h
  | cons c t ih => simp [ahead_cons, ih]

theorem ahead_append_of_nil {d : List Char} (h : ahead d = []) (t : List Char) :
    ahead (t ++ d) = ahead t := by
  simpa using ahead_append (r := []) h t

/-- A text without delimiters before one that starts with a delimiter. -/
theorem ahead_append_eq {a d : List Char} (ha : ∀ c ∈ a, isDelimiter c = false)
    (hd : ahead d = []) : ahead (a ++ d) = a := by
  rw [ahead_append_of_nil hd, ahead, List.takeWhile_eq_self_iff]
  simpa using ha

theorem not_isDelimiter_of_mem_ahead {c : Char} {cs : List Char} (h : c ∈ ahead cs) :
    isDelimiter c = false := by
  simpa using List.mem_takeWhile_imp h

/-- Every text is cut at its first delimiter. -/
theorem exists_ahead_append (cs : List Char) : ∃ d, cs = ahead cs ++ d ∧ ahead d = [] := by
  refine ⟨cs.dropWhile (!isDelimiter ·), (List.takeWhile_append_dropWhile).symm, ?_⟩
  induction cs with
  | nil => rfl
  | cons c cs ih =>
    by_cases h : isDelimiter c
    · simp [h, ahead_cons]
    · simpa [h] using ih

theorem ahead_eq_nil_cases {d : List Char} (h : ahead d = []) :
    d = [] ∨ ∃ c rest, d = c :: rest ∧ isDelimiter c = true := by
  cases d with
  | nil => exact .inl rfl
  | cons c rest =>
    refine .inr ⟨c, rest, rfl, ?_⟩
    by_contra hc
    simp [ahead_cons, hc] at h

/-- Two texts that agree up to the first delimiter start with the same character, if it is none. -/
theorem exists_cons_of_ahead_eq {c : Char} {r r' : List Char} (h : ahead r' = ahead (c :: r))
    (hc : isDelimiter c = false) : ∃ s, r' = c :: s ∧ ahead s = ahead r := by
  rw [ahead_cons, hc] at h
  cases r' with
  | nil => simp at h
  | cons x s =>
    by_cases hx : isDelimiter x
    · simp [ahead_cons, hx] at h
    · simp only [ahead_cons, hx, Bool.false_eq_true, if_false, List.cons.injEq] at h
      exact ⟨s, by rw [h.1], h.2⟩

/-! ### Numbers -/

section
variable {isDigit : Char → Bool} (hdelimiter : ∀ c, isDelimiter c = true → isDigit c = false)
  (hunderscore : isDigit '_' = false)

theorem takeDigits_eq (cs : List Char) :
    cs = (takeDigits isDigit cs).1 ++ (takeDigits isDigit cs).2 := by
  fun_induction takeDigits isDigit cs with
  | case1 c rest hc digits rest' h ih => simpa [h] using ih
  | case2 => rfl
  | case3 c rest _ hc digits rest' h ih => simpa [h] using ih
  | case4 => rfl
  | case5 => rfl

include hdelimiter hunderscore

theorem takeDigits_append (a : List Char) {d : List Char} (hd : ahead d = []) :
    takeDigits isDigit (a ++ d) =
      ((takeDigits isDigit a).1, (takeDigits isDigit a).2 ++ d) := by
  fun_induction takeDigits isDigit a with
  | case1 c rest hc digits rest' h ih => simp_all [takeDigits]
  | case2 c rest hc => simp_all [takeDigits]
  | case3 c rest hne hc digits rest' h ih =>
    have hc' : c ≠ '_' := by
      rintro rfl
      simp [hunderscore] at hc
    simp_all [takeDigits]
  | case4 c rest hne hc =>
    by_cases hc' : c = '_'
    · subst hc'
      obtain rfl : rest = [] := by
        cases rest with
        | nil => rfl
        | cons x rest => exact (hne x rest rfl rfl).elim
      rcases ahead_eq_nil_cases hd with rfl | ⟨x, rest, rfl, hx⟩
      · simp [takeDigits, hunderscore]
      · simp [takeDigits, hdelimiter x hx]
    · simp_all [takeDigits]
  | case5 =>
    rcases ahead_eq_nil_cases hd with rfl | ⟨x, rest, rfl, hx⟩
    · rfl
    · have hx' : x ≠ '_' := ne_of_isDelimiter hx (by decide)
      simp [takeDigits, hx', hdelimiter x hx]

end

theorem takeDecimal_eq (cs : List Char) : cs = (takeDecimal cs).1 ++ (takeDecimal cs).2 := by
  unfold takeDecimal
  split
  · rfl
  · exact takeDigits_eq cs

theorem isDigit_of_isDelimiter (c : Char) (h : isDelimiter c = true) : c.isDigit = false :=
  forall_isDelimiter (p := fun c => c.isDigit = false) (by decide) c h

theorem takeDecimal_append (a : List Char) {d : List Char} (hd : ahead d = []) :
    takeDecimal (a ++ d) = ((takeDecimal a).1, (takeDecimal a).2 ++ d) := by
  have hdigits (a : List Char) := takeDigits_append isDigit_of_isDelimiter (by decide) a hd
  cases a with
  | nil =>
    have hnone := hdigits []
    rcases ahead_eq_nil_cases hd with rfl | ⟨x, rest, rfl, hx⟩
    · rfl
    · have hx' : x ≠ '_' := ne_of_isDelimiter hx (by decide)
      simpa [takeDecimal, hx'] using hnone
  | cons c rest =>
    by_cases hc : c = '_'
    · simp [takeDecimal, hc]
    · simpa [takeDecimal, hc] using hdigits (c :: rest)

theorem takeExponent_eq (cs : List Char) : cs = (takeExponent cs).1 ++ (takeExponent cs).2 := by
  unfold takeExponent
  split
  · next e sign rest =>
    split
    · split
      · split
        · rfl
        · next digits after h => simpa [h] using takeDecimal_eq rest
      · split
        · rfl
        · next digits after h => simpa [h] using takeDecimal_eq (sign :: rest)
    · rfl
  · rfl

theorem takeExponent_append (a : List Char) {d : List Char} (hd : ahead d = []) :
    takeExponent (a ++ d) = ((takeExponent a).1, (takeExponent a).2 ++ d) := by
  match a with
  | [] =>
    rcases ahead_eq_nil_cases hd with rfl | ⟨x, rest, rfl, hx⟩
    · rfl
    · have he : x ≠ 'e' := ne_of_isDelimiter hx (by decide)
      have hE : x ≠ 'E' := ne_of_isDelimiter hx (by decide)
      cases rest <;> simp [takeExponent, he, hE]
  | [e] =>
    rcases ahead_eq_nil_cases hd with rfl | ⟨x, rest, rfl, hx⟩
    · rfl
    · have hplus : x ≠ '+' := ne_of_isDelimiter hx (by decide)
      have hminus : x ≠ '-' := ne_of_isDelimiter hx (by decide)
      have hnone : takeDecimal (x :: rest) = ([], x :: rest) := takeDecimal_append [] hd
      simp [takeExponent, hplus, hminus, hnone]
  | e :: sign :: rest =>
    have h := takeDecimal_append rest hd
    have h' := takeDecimal_append (sign :: rest) hd
    simp only [List.cons_append] at h'
    simp only [List.cons_append, takeExponent, h, h']
    split
    · split
      · cases hdigits : takeDecimal rest with
        | mk digits after => cases digits <;> simp
      · cases hdigits : takeDecimal (sign :: rest) with
        | mk digits after => cases digits <;> simp
    · rfl

theorem takeImaginary_eq (cs : List Char) : cs = (takeImaginary cs).1 ++ (takeImaginary cs).2 := by
  unfold takeImaginary
  split <;> rfl

theorem takeImaginary_append (a : List Char) {d : List Char} (hd : ahead d = []) :
    takeImaginary (a ++ d) = ((takeImaginary a).1, (takeImaginary a).2 ++ d) := by
  cases a with
  | nil =>
    rcases ahead_eq_nil_cases hd with rfl | ⟨x, rest, rfl, hx⟩
    · rfl
    · have hj : x ≠ 'j' := ne_of_isDelimiter hx (by decide)
      have hJ : x ≠ 'J' := ne_of_isDelimiter hx (by decide)
      simp [takeImaginary, hj, hJ]
  | cons c rest =>
    by_cases hj : c = 'j'
    · simp [takeImaginary, hj]
    · by_cases hJ : c = 'J'
      · simp [takeImaginary, hJ]
      · simp [takeImaginary, hj, hJ]

/-- A point with the digits after it. -/
theorem takePoint_append (a : List Char) {d : List Char} (hd : ahead d = []) :
    takePoint (a ++ d) = ((takePoint a).1, (takePoint a).2 ++ d) := by
  cases a with
  | nil =>
    rcases ahead_eq_nil_cases hd with rfl | ⟨x, rest, rfl, hx⟩
    · rfl
    · have hpoint : x ≠ '.' := ne_of_isDelimiter hx (by decide)
      simp [takePoint, hpoint]
  | cons c rest =>
    by_cases hc : c = '.'
    · simp [takePoint, hc, takeDecimal_append rest hd]
    · simp [takePoint, hc]

theorem takePoint_eq (cs : List Char) : cs = (takePoint cs).1 ++ (takePoint cs).2 := by
  unfold takePoint
  split
  · next rest => simpa using takeDecimal_eq rest
  · rfl

theorem takeFraction_eq (cs : List Char) : cs = (takeFraction cs).1 ++ (takeFraction cs).2 := by
  simp only [takeFraction, List.append_assoc]
  rw [← takeImaginary_eq, ← takeExponent_eq, ← takePoint_eq]

theorem takeFraction_append (a : List Char) {d : List Char} (hd : ahead d = []) :
    takeFraction (a ++ d) = ((takeFraction a).1, (takeFraction a).2 ++ d) := by
  simp [takeFraction, takePoint_append a hd, takeExponent_append _ hd, takeImaginary_append _ hd]

theorem takeBased_eq {mark : Char} {isDigit : Char → Bool} {cs t r : List Char}
    (h : takeBased mark isDigit cs = some (t, r)) : '0' :: mark :: cs = t ++ r := by
  unfold takeBased at h
  split at h
  · cases h
  · next digits rest _ hdigits =>
    cases h
    simpa [hdigits] using @takeDigits_eq isDigit cs

theorem takeBased_append {mark : Char} {isDigit : Char → Bool}
    (hdelimiter : ∀ c, isDelimiter c = true → isDigit c = false) (hunderscore : isDigit '_' = false)
    (a : List Char) {d : List Char} (hd : ahead d = []) :
    takeBased mark isDigit (a ++ d) =
      (takeBased mark isDigit a).map fun x => (x.1, x.2 ++ d) := by
  rw [takeBased, takeBased, takeDigits_append hdelimiter hunderscore a hd]
  cases hdigits : takeDigits isDigit a with
  | mk digits rest => cases digits <;> simp

theorem baseDigits_spec {mark : Char} {isDigit : Char → Bool} (h : baseDigits? mark = some isDigit) :
    (∀ c, isDelimiter c = true → isDigit c = false) ∧ isDigit '_' = false := by
  unfold baseDigits? at h
  split at h
  case h_7 => cases h
  all_goals
    cases h
    exact ⟨forall_isDelimiter (by decide), by decide⟩

theorem takeDecimalNumber_eq {cs t r : List Char} (h : takeDecimalNumber cs = some (t, r)) :
    cs = t ++ r := by
  simp only [takeDecimalNumber] at h
  split at h
  · cases h
  · cases h
    rw [List.append_assoc, ← takeFraction_eq, ← takeDecimal_eq]

theorem takeDecimalNumber_append (a : List Char) {d : List Char} (hd : ahead d = []) :
    takeDecimalNumber (a ++ d) = (takeDecimalNumber a).map fun x => (x.1, x.2 ++ d) := by
  simp only [takeDecimalNumber, takeDecimal_append a hd, takeFraction_append _ hd]
  split <;> rfl

theorem takeNumber_eq {cs t r : List Char} (h : takeNumber cs = some (t, r)) : cs = t ++ r := by
  unfold takeNumber at h
  split at h
  · split at h
    · exact takeBased_eq h
    · exact takeDecimalNumber_eq h
  · exact takeDecimalNumber_eq h

theorem takeNumber_append (a : List Char) {d : List Char} (hd : ahead d = []) :
    takeNumber (a ++ d) = (takeNumber a).map fun x => (x.1, x.2 ++ d) := by
  have hdecimal (a : List Char) := takeDecimalNumber_append a hd
  match a with
  | [] =>
    rcases ahead_eq_nil_cases hd with rfl | ⟨x, rest, rfl, hx⟩
    · rfl
    · have hzero : x ≠ '0' := ne_of_isDelimiter hx (by decide)
      simpa [takeNumber, hzero] using hdecimal []
  | [c] =>
    rcases ahead_eq_nil_cases hd with rfl | ⟨x, rest, rfl, hx⟩
    · simp
    · have hbase : baseDigits? x = none := by
        simpa using forall_isDelimiter (p := fun c => (baseDigits? c).isNone) (by decide) x hx
      by_cases hc : c = '0'
      · simpa [takeNumber, hc, hbase] using hdecimal [c]
      · simpa [takeNumber, hc] using hdecimal [c]
  | c :: mark :: rest =>
    by_cases hc : c = '0'
    · cases hbase : baseDigits? mark with
      | none => simpa [takeNumber, hc, hbase] using hdecimal (c :: mark :: rest)
      | some isDigit =>
        obtain ⟨hdelimiter, hunderscore⟩ := baseDigits_spec hbase
        simpa [takeNumber, hc, hbase] using takeBased_append hdelimiter hunderscore rest hd
    · simpa [takeNumber, hc] using hdecimal (c :: mark :: rest)

/-- A number is read in the same way before any text that agrees up to the next delimiter. -/
theorem takeNumber_local {cs t r r' : List Char} (h : takeNumber cs = some (t, r))
    (hr : ahead r' = ahead r) : takeNumber (t ++ r') = some (t, r') := by
  obtain ⟨d, hcs, hd⟩ := exists_ahead_append cs
  obtain ⟨d', hr', hd'⟩ := exists_ahead_append r'
  rw [hcs, takeNumber_append _ hd] at h
  obtain ⟨⟨t₀, r₀⟩, h₀, heq⟩ := Option.map_eq_some_iff.mp h
  obtain ⟨rfl, rfl⟩ : t₀ = t ∧ r₀ ++ d = r := by simpa using heq
  have ha : ahead cs = t₀ ++ r₀ := takeNumber_eq h₀
  have hr₀ : ahead (r₀ ++ d) = r₀ := by
    refine ahead_append_eq (fun c hc => ?_) hd
    exact @not_isDelimiter_of_mem_ahead c cs (by simp [ha, hc])
  rw [hr', hr, hr₀, ← List.append_assoc, ← ha, takeNumber_append _ hd', h₀]
  rfl

/-! ### Symbols -/

theorem after_eq_some_iff {start cs rest : List Char} :
    after? start cs = some rest ↔ cs = start ++ rest := by
  induction start generalizing cs with
  | nil => simp [after?, eq_comm]
  | cons a start ih =>
    cases cs with
    | nil => simp [after?]
    | cons c cs =>
      by_cases h : a = c
      · simp [after?, h, ih]
      · simp [after?, h, Ne.symm h]

theorem after_isSome_iff {start cs : List Char} : (after? start cs).isSome ↔ start <+: cs := by
  rw [Option.isSome_iff_exists]
  simp only [after_eq_some_iff]
  exact ⟨fun ⟨rest, h⟩ => ⟨rest, h.symm⟩, fun ⟨rest, h⟩ => ⟨rest, h.symm⟩⟩

/-- Whether a text without delimiters comes next can be seen before the next delimiter. -/
theorem prefix_iff_of_ahead_eq {w r r' : List Char} (hw : ∀ c ∈ w, isDelimiter c = false)
    (h : ahead r' = ahead r) : w <+: r' ↔ w <+: r := by
  induction w generalizing r r' with
  | nil => simp
  | cons c w ih =>
    have hc : isDelimiter c = false := hw c (by simp)
    have hcons (r r' : List Char) (h : ahead r' = ahead r) (hp : c :: w <+: r) : c :: w <+: r' := by
      obtain ⟨s, rfl⟩ := hp
      obtain ⟨s', rfl, hs⟩ := exists_cons_of_ahead_eq h hc
      rw [List.cons_prefix_cons]
      exact ⟨rfl, (ih (fun x hx => hw x (by simp [hx])) hs).mpr (List.prefix_append w s)⟩
    exact ⟨hcons r' r h.symm, hcons r r' h⟩

theorem takeSymbol_eq {cs r : List Char} {s : String} (h : takeSymbol cs = some (s, r)) :
    s ∈ symbols ∧ cs = s.toList ++ r := by
  obtain ⟨w, hw, hs⟩ := List.exists_of_findSome?_eq_some h
  obtain ⟨rest, hrest, heq⟩ := Option.map_eq_some_iff.mp hs
  obtain ⟨rfl, rfl⟩ : w = s ∧ rest = r := by simpa using heq
  exact ⟨hw, after_eq_some_iff.mp hrest⟩

theorem takeSymbol_local {cs r r' : List Char} {s : String} (h : takeSymbol cs = some (s, r))
    (hr : ahead r' = ahead r) : takeSymbol (s.toList ++ r') = some (s, r') := by
  obtain ⟨hs, rfl⟩ := takeSymbol_eq h
  -- Only the semicolon holds a delimiter, and for it the first character decides.
  have hsame : ∀ w ∈ symbols, w.toList <+: s.toList ++ r' ↔ w.toList <+: s.toList ++ r := by
    intro w hw
    by_cases hsemicolon : w = ";"
    · subst hsemicolon
      have hne : ∀ s ∈ symbols, s.toList ≠ [] := by decide
      obtain ⟨c, cs, hc⟩ := List.exists_cons_of_ne_nil (hne s hs)
      simp [hc]
    · have hw' : ∀ w ∈ symbols, w ≠ ";" → ∀ c ∈ w.toList, isDelimiter c = false := by decide
      exact prefix_iff_of_ahead_eq (hw' w hw hsemicolon) (ahead_append hr _)
  obtain ⟨before, w, others, hsymbols, hw, hbefore⟩ := List.findSome?_eq_some_iff.mp h
  obtain ⟨rest, hrest, heq⟩ := Option.map_eq_some_iff.mp hw
  obtain ⟨rfl, rfl⟩ : w = s ∧ rest = r := by simpa using heq
  refine List.findSome?_eq_some_iff.mpr ⟨before, w, others, hsymbols, ?_, ?_⟩
  · simp [after_eq_some_iff.mpr (rfl : w.toList ++ r' = w.toList ++ r')]
  · intro x hx
    have hnone := hbefore x hx
    rw [Option.map_eq_none_iff, ← Option.not_isSome_iff_eq_none, after_isSome_iff] at hnone ⊢
    rwa [hsame x (by simp [hsymbols, hx])]

end LocaleRegistrar.Python.Lexeme
