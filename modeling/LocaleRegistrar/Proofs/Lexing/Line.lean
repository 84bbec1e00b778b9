import LocaleRegistrar.Proofs.Lexing.Step

/-!
The lexemes of a logical line and its end. A line that was read once is read again from its lexemes,
whatever line end it has then.
-/

namespace LocaleRegistrar.Python.Lexeme

/-! ### Blanks outside brackets -/

/-- The blanks `g` before the text `r`, outside brackets: spaces, and line ends after a backslash.
A text must follow such a line end, and no line feed may follow a carriage return there. -/
inductive Gapped : List Char → List Char → Prop
  | nil {r : List Char} : Gapped [] r
  | space {c : Char} {g r : List Char} (hc : isSpace c = true) (hg : Gapped g r) : Gapped (c :: g) r
  | joinedPair {g r : List Char} (hnext : g ++ r ≠ []) (hg : Gapped g r) :
      Gapped ('\\' :: '\r' :: '\n' :: g) r
  | joined {c : Char} {g r : List Char} (hc : isLineEnd c = true) (hnext : g ++ r ≠ [])
      (hpair : c = '\r' → (g ++ r).head? ≠ some '\n') (hg : Gapped g r) : Gapped ('\\' :: c :: g) r

/-- Only the first character of the text after the blanks matters. -/
theorem Gapped.change {g r r' : List Char} (h : Gapped g r) (hne : r ≠ [] → r' ≠ [])
    (hhead : r'.head? = some '\n' → r.head? = some '\n') : Gapped g r' := by
  induction h with
  | nil => exact .nil
  | space hc _ ih => exact .space hc (ih hne hhead)
  | @joinedPair g r hnext _ ih =>
    refine .joinedPair ?_ (ih hne hhead)
    cases g <;> simp_all
  | @joined c g r hc hnext hpair _ ih =>
    refine .joined hc ?_ (fun h => ?_) (ih hne hhead)
    · cases g <;> simp_all
    · have := hpair h
      cases g <;> simp_all

theorem takeGap_gapped {nested comment : Bool} {cs g r : List Char} (hnested : nested = false)
    (hcomment : comment = false) (h : takeGap nested comment cs = some (g, r)) :
    cs = g ++ r ∧ Gapped g r := by
  fun_induction takeGap nested comment cs generalizing g with
  | case1 =>
    cases h
    exact ⟨rfl, .nil⟩
  | case2 => cases hcomment
  | case3 => cases h
  | case4 comment rest _ hne ih =>
    simp only [keep_eq_some_iff] at h
    obtain ⟨_, rfl, _, rfl, g, rfl, h⟩ := h
    obtain ⟨rfl, hg⟩ := ih hcomment h
    exact ⟨rfl, .joinedPair (by simpa using hne) hg⟩
  | case5 => cases hcomment
  | case6 => cases h
  | case7 comment c rest hpair _ hc hne ih =>
    simp only [keep_eq_some_iff] at h
    obtain ⟨_, rfl, g, rfl, h⟩ := h
    obtain ⟨rfl, hg⟩ := ih hcomment h
    refine ⟨rfl, .joined hc (by simpa using hne) ?_ hg⟩
    rintro rfl hhead
    obtain ⟨s, hs⟩ := List.head?_eq_some_iff.mp hhead
    exact hpair s rfl hs
  | case8 =>
    cases h
    exact ⟨rfl, .nil⟩
  | case9 _ _ _ _ _ _ htrue => simp [hnested] at htrue
  | case10 =>
    cases h
    exact ⟨rfl, .nil⟩
  | case11 comment c rest _ _ _ hc ih =>
    obtain ⟨g, rfl, hrest⟩ := keep_eq_some_iff.mp h
    obtain ⟨rfl, hg⟩ := ih hcomment hrest
    exact ⟨rfl, .space (by simpa [hcomment] using hc) hg⟩
  | case12 _ _ _ _ _ _ _ htrue => simp [hnested] at htrue
  | case13 =>
    cases h
    exact ⟨rfl, .nil⟩

/-- A text where blanks outside brackets end. -/
def EndsGap (r : List Char) : Prop :=
  r = [] ∨ ∃ c s, r = c :: s ∧ c ≠ '\\' ∧ isSpace c = false

theorem takeGap_of_endsGap {r : List Char} (h : EndsGap r) :
    takeGap false false r = some ([], r) := by
  rcases h with rfl | ⟨c, s, rfl, hbackslash, hspace⟩
  · rfl
  · rw [takeGap_cons hbackslash]
    simp [hspace]

theorem isSpace_spec {c : Char} (h : isSpace c = true) :
    c ≠ '\\' ∧ isLineEnd c = false ∧ isDelimiter c = true := by
  have hc : (c = ' ' ∨ c = '\t') ∨ c = '\x0c' := by simpa [isSpace] using h
  rcases hc with (rfl | rfl) | rfl <;> decide

theorem takeGap_append {g r : List Char} (h : Gapped g r) (hr : EndsGap r) :
    takeGap false false (g ++ r) = some (g, r) := by
  induction h with
  | nil => exact takeGap_of_endsGap hr
  | @space c g r hc _ ih =>
    obtain ⟨hbackslash, hline, -⟩ := isSpace_spec hc
    rw [List.cons_append, takeGap_cons hbackslash, ih hr]
    simp [hline, hc, keep]
  | @joinedPair g r hnext _ ih =>
    have hempty : (g ++ r).isEmpty = false := by simpa using hnext
    simp only [List.cons_append, takeGap.eq_2, ih hr, hempty, keep]
    rfl
  | @joined c g r hc hnext hpair _ ih =>
    have hempty : (g ++ r).isEmpty = false := by simpa using hnext
    rw [List.cons_append, List.cons_append, takeGap.eq_3 _ _ _ _ ?_, ih hr, hempty, hc]
    · rfl
    · intro s hcr hs
      exact hpair hcr (by rw [hs]; rfl)

theorem ahead_gapped {g r : List Char} (h : Gapped g r) : ahead (g ++ r) = [] ∨ g = [] := by
  cases h with
  | nil => exact .inr rfl
  | space hc _ =>
    refine .inl ?_
    rw [List.cons_append, ahead_cons, (isSpace_spec hc).2.2, if_pos rfl]
  | joinedPair => exact .inl rfl
  | joined => exact .inl rfl

/-! ### The end of a line -/

def IsLineEnd (e : List Char) : Prop := e = ['\n'] ∨ e = ['\r'] ∨ e = ['\r', '\n']

/-- The text `rest` follows a line with the end `e`: the text ends there, or the line end is not part
of a longer one. -/
def Parted (e rest : List Char) : Prop :=
  e = [] ∧ rest = [] ∨ IsLineEnd e ∧ (e = ['\r'] → rest.head? ≠ some '\n')

def IsComment (t : List Char) : Prop :=
  t = [] ∨ ∃ body, t = '#' :: body ∧ ∀ c ∈ body, isLineEnd c = false

/-- Blanks and a comment that may stand before the line end `e`. -/
def Closes (t e : List Char) : Prop :=
  ∃ g comment, t = g ++ comment ∧ IsComment comment ∧ Gapped g (comment ++ e)

theorem takeLineEnd_eq {cs rest : List Char} {s : String} (h : takeLineEnd cs = some (s, rest)) :
    cs = s.toList ++ rest ∧ IsLineEnd s.toList ∧ Parted s.toList rest := by
  unfold takeLineEnd at h
  split at h
  · cases h
    exact ⟨rfl, .inr (.inr rfl), .inr ⟨.inr (.inr rfl), fun h => absurd h (by decide)⟩⟩
  · next rest' hpair =>
    cases h
    refine ⟨rfl, .inr (.inl rfl), .inr ⟨.inr (.inl rfl), fun _ hhead => ?_⟩⟩
    obtain ⟨s, rfl⟩ := List.head?_eq_some_iff.mp hhead
    exact hpair s rfl
  · cases h
    exact ⟨rfl, .inl rfl, .inr ⟨.inl rfl, fun h => absurd h (by decide)⟩⟩
  · cases h

theorem takeLineEnd_append {e rest : List Char} (he : IsLineEnd e)
    (hpair : e = ['\r'] → rest.head? ≠ some '\n') :
    takeLineEnd (e ++ rest) = some (String.ofList e, rest) := by
  rcases he with rfl | rfl | rfl
  · rfl
  · cases rest with
    | nil => rfl
    | cons c s =>
      have hc : c ≠ '\n' := by simpa using hpair rfl
      exact takeLineEnd.eq_2 _ fun _ h => hc (List.cons.inj h).1
  · rfl

theorem takeComment_eq {cs comment after : List Char} (h : takeComment cs = (comment, after)) :
    cs = comment ++ after ∧ IsComment comment := by
  unfold takeComment at h
  split at h
  · next s =>
    obtain ⟨rfl, rfl⟩ := Prod.mk.inj h
    refine ⟨List.takeWhile_append_dropWhile.symm, .inr ⟨s.takeWhile (!isLineEnd ·), rfl, ?_⟩⟩
    intro c hc
    simpa using List.mem_takeWhile_imp hc
  · cases h
    exact ⟨rfl, .inl rfl⟩

theorem takeComment_append {comment after : List Char} (h : IsComment comment)
    (hafter : ∀ c s, after = c :: s → isLineEnd c = true) :
    takeComment (comment ++ after) = (comment, after) := by
  rcases h with rfl | ⟨body, rfl, hbody⟩
  · cases after with
    | nil => rfl
    | cons c s =>
      refine takeComment_cons ?_ s
      rintro rfl
      exact absurd (hafter _ _ rfl) (by decide)
  · have hstop : (after.head?.map (!isLineEnd ·)).getD false = false := by
      cases after with
      | nil => rfl
      | cons c s => simpa using hafter c s rfl
    obtain ⟨htake, hdrop⟩ := takeWhile_append_stop (p := (!isLineEnd ·))
      (w := '#' :: body) (x := after) (by simpa [isLineEnd] using hbody) hstop
    change (List.takeWhile _ ('#' :: body ++ after), List.dropWhile _ ('#' :: body ++ after)) = _
    rw [htake, hdrop]

theorem Gapped.extend {g r : List Char} (h : Gapped g r) (u : List Char) : Gapped g (r ++ u) := by
  induction h with
  | nil => exact .nil
  | space hc _ ih => exact .space hc ih
  | @joinedPair g r hnext _ ih =>
    refine .joinedPair ?_ ih
    rw [← List.append_assoc]
    exact List.append_ne_nil_of_left_ne_nil hnext u
  | @joined c g r hc hnext hpair _ ih =>
    obtain ⟨a, s, hs⟩ := List.exists_cons_of_ne_nil hnext
    rw [hs] at hpair
    refine .joined hc ?_ (fun h => ?_) ih <;> rw [← List.append_assoc, hs]
    · exact List.cons_ne_nil _ _
    · exact hpair h

theorem Closes.extend {t e : List Char} (h : Closes t e) (u : List Char) : Closes t (e ++ u) := by
  obtain ⟨g, comment, ht, hcomment, hgap⟩ := h
  exact ⟨g, comment, ht, hcomment, by simpa using hgap.extend u⟩

theorem Parted.starts {e rest : List Char} (h : Parted e rest) :
    ∀ c s, e ++ rest = c :: s → isLineEnd c = true := by
  rintro c s hcs
  rcases h with ⟨rfl, rfl⟩ | ⟨rfl | rfl | rfl, -⟩
  · cases hcs
  all_goals
    obtain ⟨rfl, -⟩ := List.cons.inj hcs
    rfl

theorem endsGap_comment {comment e rest : List Char} (hcomment : IsComment comment)
    (h : Parted e rest) : EndsGap (comment ++ (e ++ rest)) := by
  rcases hcomment with rfl | ⟨body, rfl, -⟩
  · cases hcs : e ++ rest with
    | nil => exact .inl rfl
    | cons c s =>
      have hc : c = '\n' ∨ c = '\r' := by simpa [isLineEnd] using h.starts c s hcs
      rcases hc with rfl | rfl <;> exact .inr ⟨_, s, rfl, by decide, by decide⟩
  · exact .inr ⟨'#', _, rfl, by decide, by decide⟩

/-- A text that closes a line is read as its blanks and its comment. -/
theorem Closes.takeGap {t e rest : List Char} (h : Closes t e) (hrest : Parted e rest) :
    ∃ g comment, t = g ++ comment ∧
      takeGap false false (t ++ (e ++ rest)) = some (g, comment ++ (e ++ rest)) ∧
      takeComment (comment ++ (e ++ rest)) = (comment, e ++ rest) := by
  obtain ⟨g, comment, rfl, hcomment, hgap⟩ := h
  refine ⟨g, comment, rfl, ?_, takeComment_append hcomment hrest.starts⟩
  rw [List.append_assoc]
  exact takeGap_append (by simpa using hgap.extend rest) (endsGap_comment hcomment hrest)

/-- Conversely, blanks and a comment that were read before a line end close the line. -/
theorem Closes.of_takeGap {cs g r comment e rest : List Char}
    (hgap : Lexeme.takeGap false false cs = some (g, r))
    (hcomment : takeComment r = (comment, e ++ rest)) (hrest : Parted e rest) :
    cs = g ++ comment ++ (e ++ rest) ∧ Closes (g ++ comment) e := by
  obtain ⟨rfl, hg⟩ := takeGap_gapped rfl rfl hgap
  obtain ⟨rfl, hc⟩ := takeComment_eq hcomment
  refine ⟨by simp, g, comment, rfl, hc, ?_⟩
  rcases hrest with ⟨rfl, rfl⟩ | ⟨he, -⟩
  · exact hg
  · refine hg.change (fun _ => ?_) ?_
    · rcases he with rfl | rfl | rfl <;> simp
    · rcases he with rfl | rfl | rfl <;> cases comment <;> simp

/-- The characters of a line end that may be missing. -/
def ending (lineEnd : Option String) : List Char := (lineEnd.getD "").toList

/-- Blanks and a comment before a line end or before the end of the text. -/
structure Ended (t : List Char) (lineEnd : Option String) : Prop where
  closes : Closes t (ending lineEnd)
  isLineEnd : ∀ s ∈ lineEnd, IsLineEnd s.toList

theorem Ended.of_none {t : List Char} (h : Closes t []) : Ended t none := ⟨h, by simp⟩

theorem Ended.of_some {t : List Char} {s : String} (h : Closes t s.toList)
    (hs : IsLineEnd s.toList) : Ended t (some s) := ⟨h, by simpa using hs⟩

theorem wordStep_ne_stop (stack : List Frame) (gap cs : List Char) (tail : RawTail)
    (rest : List Char) : wordStep stack gap cs ≠ some (.stop tail rest) := by
  have hplain (word r : List Char) : wordStep.plain stack gap word r ≠ some (.stop tail rest) := by
    unfold wordStep.plain
    split <;> simp
  unfold wordStep
  simp only
  split
  · split
    · simp [Option.bind_eq_some_iff]
    · split
      · simp
      · exact hplain _ _
  · exact hplain _ _

theorem lexemeStep_ne_stop (stack : List Frame) (gap cs : List Char) (tail : RawTail)
    (rest : List Char) : lexemeStep stack gap cs ≠ some (.stop tail rest) := by
  cases cs with
  | nil => simp [lexemeStep]
  | cons c cs =>
    rw [lexemeStep_cons]
    split
    · simp [Option.bind_eq_some_iff]
    · split
      · exact wordStep_ne_stop _ _ _ _ _
      · simp [Option.bind_eq_some_iff]

theorem step_eq_stop {cs rest : List Char} {tail : RawTail}
    (h : step [] cs = some (.stop tail rest)) :
    cs = tail.blank ++ tail.comment ++ (ending tail.lineEnd ++ rest) ∧
      Ended (tail.blank ++ tail.comment) tail.lineEnd ∧
      Parted (ending tail.lineEnd) rest ∧ IsComment tail.comment ∧ ∃ r, Gapped tail.blank r := by
  obtain ⟨⟨gap, r⟩, hgap, h⟩ := Option.bind_eq_some_iff.mp h
  have hblank := (takeGap_gapped rfl rfl hgap).2
  cases hc : takeComment r with
  | mk comment after =>
    simp only [hc, List.isEmpty_nil, if_true] at h
    split at h
    · cases h
      have hparted : Parted [] [] := .inl ⟨rfl, rfl⟩
      obtain ⟨heq, hcloses⟩ := Closes.of_takeGap hgap hc hparted
      exact ⟨heq, .of_none hcloses, hparted, (takeComment_eq hc).2, r, hblank⟩
    · split at h
      · next hend =>
        cases h
        obtain ⟨rfl, he, hparted⟩ := takeLineEnd_eq hend
        obtain ⟨heq, hcloses⟩ := Closes.of_takeGap hgap hc hparted
        exact ⟨heq, .of_some hcloses he, hparted, (takeComment_eq hc).2, r, hblank⟩
      · exact absurd h (lexemeStep_ne_stop _ _ _ _ _)

theorem step_of_closes {t e rest : List Char} (h : Closes t e) (hrest : Parted e rest) :
    ∃ tail, step [] (t ++ (e ++ rest)) = some (.stop tail rest) := by
  obtain ⟨g, comment, -, hgap, hcomment⟩ := h.takeGap hrest
  rcases hrest with ⟨rfl, rfl⟩ | ⟨he, hpair⟩
  · refine ⟨⟨g, comment, none⟩, Option.bind_eq_some_iff.mpr ⟨_, hgap, ?_⟩⟩
    simp only [hcomment]
    rfl
  · refine ⟨⟨g, comment, some (String.ofList e)⟩, Option.bind_eq_some_iff.mpr ⟨_, hgap, ?_⟩⟩
    have hend := takeLineEnd_append he hpair
    simp only [hcomment, hend]
    rcases he with rfl | rfl | rfl <;> rfl

theorem takeBlank_eq {cs rest : List Char} {b : RawBlank} (h : takeBlank cs = some (some (b, rest))) :
    cs = b.text ++ (ending b.lineEnd ++ rest) ∧ Ended b.text b.lineEnd ∧
      Parted (ending b.lineEnd) rest ∧ rest.length < cs.length := by
  obtain ⟨⟨gap, r⟩, hgap, h⟩ := Option.bind_eq_some_iff.mp h
  cases hc : takeComment r with
  | mk comment after =>
    simp only [hc] at h
    split at h
    · next hend =>
      cases h
      obtain ⟨rfl, he, hparted⟩ := takeLineEnd_eq hend
      obtain ⟨heq, hcloses⟩ := Closes.of_takeGap hgap hc hparted
      refine ⟨heq, .of_some hcloses he, hparted, ?_⟩
      rcases he with he | he | he <;> simp [heq, he] <;> omega
    · split at h
      · next hempty =>
        cases h
        obtain ⟨rfl, hne⟩ : after = [] ∧ cs ≠ [] := by simpa using hempty
        have hparted : Parted [] [] := .inl ⟨rfl, rfl⟩
        obtain ⟨heq, hcloses⟩ := Closes.of_takeGap hgap hc hparted
        exact ⟨heq, .of_none hcloses, hparted, List.length_pos_iff.mpr hne⟩
      · cases h

theorem takeBlank_of_closes {t e rest : List Char} (h : Closes t e) (hrest : Parted e rest)
    (hne : t ++ e ≠ []) : ∃ b, takeBlank (t ++ (e ++ rest)) = some (some (b, rest)) := by
  obtain ⟨g, comment, rfl, hgap, hcomment⟩ := h.takeGap hrest
  rcases hrest with ⟨rfl, rfl⟩ | ⟨he, hpair⟩
  · refine ⟨⟨g ++ comment, none⟩, Option.bind_eq_some_iff.mpr ⟨_, hgap, ?_⟩⟩
    simp only [hcomment]
    simp_all [takeLineEnd]
  · refine ⟨⟨g ++ comment, some (String.ofList e)⟩, Option.bind_eq_some_iff.mpr ⟨_, hgap, ?_⟩⟩
    simp only [hcomment, takeLineEnd_append he hpair]
    rfl

theorem ahead_closes {t e rest : List Char} (h : Closes t e) (hrest : Parted e rest) :
    ahead (t ++ (e ++ rest)) = [] := by
  obtain ⟨g, comment, rfl, hcomment, hgap⟩ := h
  rcases ahead_gapped (hgap.extend rest) with hahead | rfl
  · simpa using hahead
  · rcases hcomment with rfl | ⟨body, rfl, -⟩
    · rcases hrest with ⟨rfl, rfl⟩ | ⟨rfl | rfl | rfl, -⟩ <;> rfl
    · rfl

/-! ### The lexemes of a line -/

/-- The lexemes of the rest of a line whose open brackets are `stack`. Each step reads its lexemes
before any text that starts like the lexemes after them. -/
inductive Lexed : List Frame → List Lexeme → Prop
  | nil : Lexed [] []
  | step {stack stack' : List Frame} {ls rest : List Lexeme}
      (hstep : ∀ r, ahead r = ahead (spellAll rest) →
        step stack (spellAll ls ++ r) = some (.more ls stack' r))
      (hne : spellAll ls ≠ []) (hrest : Lexed stack' rest) : Lexed stack (ls ++ rest)

theorem stack_eq_nil_of_stop {stack : List Frame} {cs rest : List Char} {tail : RawTail}
    (h : Lexeme.step stack cs = some (.stop tail rest)) : stack = [] := by
  have htemplate {q : Quote} {spec : Bool} : templateStep q spec stack cs ≠ some (.stop tail rest) := by
    intro h
    obtain ⟨⟨text, r⟩, -, h⟩ := Option.bind_eq_some_iff.mp h
    simp only at h
    split at h
    · cases h
    · split at h <;> cases h
    · split at h <;> cases h
  unfold Lexeme.step at h
  split at h
  · exact absurd h htemplate
  · exact absurd h htemplate
  · cases stack with
    | nil => rfl
    | cons frame outer =>
      obtain ⟨⟨gap, r⟩, -, h⟩ := Option.bind_eq_some_iff.mp h
      exact absurd h (lexemeStep_ne_stop _ _ _ _ _)

theorem readLine_lexed {fuel : Nat} {stack : List Frame} {cs rest : List Char}
    {lexemes : List Lexeme} {tail : RawTail}
    (h : readLine fuel stack cs = some (lexemes, tail, rest)) :
    cs = spellAll lexemes ++ (tail.blank ++ tail.comment ++ (ending tail.lineEnd ++ rest)) ∧
      Lexed stack lexemes ∧ Ended (tail.blank ++ tail.comment) tail.lineEnd ∧
      Parted (ending tail.lineEnd) rest ∧ IsComment tail.comment ∧ ∃ r, Gapped tail.blank r := by
  induction fuel generalizing stack cs lexemes with
  | zero => cases h
  | succ fuel ih =>
    obtain ⟨next, hnext, h⟩ := Option.bind_eq_some_iff.mp h
    cases next with
    | stop tail' rest' =>
      cases h
      obtain rfl := stack_eq_nil_of_stop hnext
      obtain ⟨heq, hended, hparted⟩ := step_eq_stop hnext
      exact ⟨heq, .nil, hended, hparted⟩
    | more ls stack' r =>
      obtain ⟨⟨others, tail', rest'⟩, hread, h⟩ := Option.bind_eq_some_iff.mp h
      cases h
      obtain ⟨rfl, hlexed, hended, hparted, hcomment⟩ := ih hread
      obtain ⟨rfl, hne, hlocal⟩ := step_local hnext
      refine ⟨by simp, .step (fun r hr => hlocal r ?_) hne hlexed, hended, hparted, hcomment⟩
      rw [hr, ahead_append_of_nil (ahead_closes hended.closes hparted)]

theorem Lexed.readLine {stack : List Frame} {lexemes : List Lexeme} (h : Lexed stack lexemes)
    {t e rest : List Char} (hcloses : Closes t e) (hparted : Parted e rest) {fuel : Nat}
    (hfuel : (spellAll lexemes).length < fuel) :
    ∃ tail, readLine fuel stack (spellAll lexemes ++ (t ++ (e ++ rest))) =
      some (lexemes, tail, rest) := by
  induction h generalizing fuel with
  | nil =>
    obtain ⟨tail, htail⟩ := step_of_closes hcloses hparted
    obtain ⟨n, rfl⟩ := Nat.exists_eq_succ_of_ne_zero (Nat.ne_of_gt hfuel)
    exact ⟨tail, by simp [Lexeme.readLine, htail]⟩
  | @step stack stack' ls others hstep hne _ ih =>
    have hlength := List.length_pos_iff.mpr hne
    rw [spellAll_append, List.length_append] at hfuel
    obtain ⟨n, rfl⟩ := Nat.exists_eq_succ_of_ne_zero (n := fuel) (by omega)
    obtain ⟨tail, htail⟩ := @ih n (by omega)
    have hnext := hstep _ (ahead_append_of_nil (ahead_closes hcloses hparted) (spellAll others))
    exact ⟨tail, by simp [Lexeme.readLine, hnext, htail]⟩

/-! ### Changes to the lexemes of a line -/

theorem Gapped.of_spaces {g : List Char} (h : ∀ c ∈ g, isSpace c = true) (r : List Char) :
    Gapped g r := by
  induction g with
  | nil => exact .nil
  | cons c g ih => exact .space (h c (by simp)) (ih fun c hc => h c (by simp [hc]))

theorem EndsGap.of_startsLexeme {c : Char} (h : startsLexeme c = true) (r : List Char) :
    EndsGap (c :: r) := by
  obtain ⟨hbackslash, -, -, hspace⟩ := startsLexeme_spec h
  exact .inr ⟨c, r, rfl, hbackslash, hspace⟩

/-- The first step of a line reads one lexeme, with whatever spaces are before it. -/
theorem Lexed.first {l : Lexeme} {ls : List Lexeme} (h : Lexed [] (l :: ls)) :
    (∃ c t, l.text.toList = c :: t ∧ startsLexeme c = true) ∧
      (∃ r, Gapped l.gap (l.text.toList ++ r)) ∧
      ∃ stack, Lexed stack ls ∧ ∀ gap r, ahead r = ahead (spellAll ls) →
        Gapped gap (l.text.toList ++ r) → Lexeme.step [] (gap ++ l.text.toList ++ r) =
          some (.more [{ l with gap }] stack r) := by
  generalize hall : l :: ls = all at h
  cases h with
  | nil => cases hall
  | @step _ stack ls' rest hstep hne hrest =>
    obtain ⟨kind, text, gap, c, t, rfl, ht, hc, hgap, hlocal⟩ :=
      plainStep_local (hstep (spellAll rest) rfl)
    obtain ⟨rfl, rfl⟩ := List.cons.inj hall
    refine ⟨⟨c, t, ht, hc⟩, ⟨_, (takeGap_gapped rfl rfl hgap).2⟩, stack, hrest,
      fun gap' r hr hgap' => hlocal gap' r hr ?_⟩
    rw [List.append_assoc]
    refine takeGap_append hgap' ?_
    simp only [ht, List.cons_append]
    exact .of_startsLexeme hc _

theorem Lexed.regap {l : Lexeme} {ls : List Lexeme} (h : Lexed [] (l :: ls)) {gap : List Char}
    (hgap : ∀ c ∈ gap, isSpace c = true) : Lexed [] ({ l with gap } :: ls) := by
  obtain ⟨⟨c, t, ht, -⟩, -, stack, hrest, hlocal⟩ := h.first
  rw [← List.singleton_append]
  refine .step (fun r hr => ?_) (by simp [ht]) hrest
  simpa using hlocal gap r hr (.of_spaces hgap _)

theorem ahead_semicolon {g r : List Char} (h : Gapped g (';' :: r)) (r' : List Char) :
    ahead (g ++ ';' :: r') = [] := by
  have h' : Gapped g (';' :: r') := h.change (fun _ => List.cons_ne_nil _ _) (by simp)
  rcases ahead_gapped h' with hahead | rfl
  · exact hahead
  · rfl

/-- A line ends before a semicolon, and another one starts after it. Before the semicolon there are
only blanks. -/
theorem Lexed.split {stack : List Frame} {before after : List Lexeme} {s : Lexeme}
    (h : Lexed stack (before ++ s :: after)) (hs : s.is ";" = true) :
    Lexed stack before ∧ Lexed [] after ∧ ahead (spellAll (s :: after)) = [] ∧
      ∃ r, Gapped s.gap r := by
  generalize hall : before ++ s :: after = all at h
  induction h generalizing before with
  | nil => simp at hall
  | @step stack stack' ls rest hstep hne hrest ih =>
    -- The semicolon is read by a later step or by this one.
    rcases List.append_eq_append_iff.mp hall.symm with ⟨more, rfl, rfl⟩ | ⟨more, rfl, hmore⟩
    · obtain ⟨hbefore, hafter, hahead⟩ := ih rfl
      refine ⟨.step (fun r hr => hstep r ?_) hne hbefore, hafter, hahead⟩
      rw [hr, spellAll_append, ahead_append_of_nil hahead.1]
    · cases more with
      | nil =>
        obtain rfl : s :: after = rest := hmore
        rw [List.append_nil] at hstep hne
        obtain ⟨hbefore, hafter, hahead⟩ := @ih [] rfl
        refine ⟨?_, hafter, hahead⟩
        have hall : Lexed stack (before ++ []) :=
          .step (fun r hr => hstep r (by rw [hr, hahead.1]; rfl)) hne hbefore
        rwa [List.append_nil] at hall
      | cons l more =>
        obtain ⟨rfl, rfl⟩ := List.cons.inj hmore
        obtain ⟨rfl, rfl, hone⟩ := step_semicolon (hstep _ rfl) (l := s) (by simp) hs
        obtain ⟨rfl, rfl⟩ : before = [] ∧ more = [] := by
          cases before <;> simp_all
        obtain ⟨-, ⟨r, hgap⟩, -⟩ := (Lexed.step hstep hne hrest).first
        obtain ⟨-, htext⟩ : _ ∧ s.text = ";" := by simpa [is] using hs
        refine ⟨.nil, hrest, ?_, _, hgap⟩
        rw [htext] at hgap
        simpa [htext] using ahead_semicolon hgap (spellAll rest)

theorem step_of_semicolon {gap : List Char} (hgap : ∀ c ∈ gap, isSpace c = true) (r : List Char) :
    Lexeme.step [] (gap ++ ';' :: r) = some (.more [⟨.symbol, ";", gap⟩] [] r) := by
  refine plainStep_eq_more_iff.mpr ⟨gap, ';' :: r, takeGap_append (.of_spaces hgap _)
    (.of_startsLexeme (by decide) r), ?_⟩
  rw [lexemeStep_cons, if_neg (by simp [startsNumber]), if_neg (by decide)]
  rfl

theorem Lexed.join {stack : List Frame} {before after : List Lexeme} (hbefore : Lexed stack before)
    (hafter : Lexed [] after) {gap : List Char} (hgap : ∀ c ∈ gap, isSpace c = true) :
    Lexed stack (before ++ ⟨.symbol, ";", gap⟩ :: after) := by
  induction hbefore with
  | nil =>
    rw [List.nil_append, ← List.singleton_append]
    refine .step (fun r _ => ?_) (by simp) hafter
    simpa using step_of_semicolon hgap r
  | @step stack stack' ls rest hstep hne _ ih =>
    rw [List.append_assoc]
    refine .step (fun r hr => hstep r ?_) hne ih
    have hahead := ahead_semicolon (.of_spaces hgap (';' :: r)) (spellAll after)
    rw [hr, spellAll_append, ahead_append_of_nil]
    simpa using hahead

/-! ### The last character of a line -/

/-- The text does not end with a line end. -/
def EndsInLine (t : List Char) : Prop := ∀ c, t.getLast? = some c → isLineEnd c = false

theorem EndsInLine.append {t : List Char} (h : EndsInLine t) (hne : t ≠ []) (s : List Char) :
    EndsInLine (s ++ t) := by
  intro c hc
  rw [List.getLast?_append, List.getLast?_eq_some_getLast hne, Option.some_or] at hc
  exact h c (by rw [List.getLast?_eq_some_getLast hne, hc])

theorem EndsInLine.of_forall {t : List Char} (h : ∀ c ∈ t, isLineEnd c = false) : EndsInLine t :=
  fun c hc => h c (List.mem_of_getLast? hc)

theorem isLineEnd_of_not_isDelimiter {c : Char} (h : isDelimiter c = false) :
    isLineEnd c = false := by
  cases hc : isLineEnd c with
  | false => rfl
  | true =>
    have hc : c = '\n' ∨ c = '\r' := by simpa [isLineEnd] using hc
    rcases hc with rfl | rfl <;> exact absurd h (by decide)

theorem Quote.text_endsInLine (q : Quote) : EndsInLine q.text :=
  .of_forall fun c hc => isLineEnd_of_not_isDelimiter (q.not_isDelimiter_of_mem_text c hc)

theorem takeNumber_endsInLine {cs t r : List Char} (h : takeNumber cs = some (t, r)) :
    EndsInLine t := by
  obtain ⟨d, hcs, hd⟩ := exists_ahead_append cs
  rw [hcs, takeNumber_append _ hd] at h
  obtain ⟨⟨t', x⟩, ht, heq⟩ := Option.map_eq_some_iff.mp h
  obtain ⟨rfl, -⟩ := Prod.mk.inj heq
  refine .of_forall fun c hc => isLineEnd_of_not_isDelimiter ?_
  have hmem : c ∈ ahead cs := by
    rw [takeNumber_eq ht]
    exact List.mem_append_left _ hc
  exact not_isDelimiter_of_mem_ahead hmem

theorem takeString_endsInLine {q : Quote} {cs t r : List Char}
    (h : takeString q cs = some (t, r)) : t ≠ [] ∧ EndsInLine t := by
  have hcons {c : Char} {t : List Char} (ht : t ≠ [] ∧ EndsInLine t) :
      c :: t ≠ [] ∧ EndsInLine (c :: t) :=
    ⟨List.cons_ne_nil _ _, ht.2.append ht.1 [c]⟩
  fun_induction takeString q cs generalizing t with
  | case1 => cases h
  | case2 rest ih =>
    simp only [keep_eq_some_iff] at h
    obtain ⟨_, rfl, _, rfl, t, rfl, ht⟩ := h
    exact hcons (hcons (hcons (ih ht)))
  | case3 c rest _ ih =>
    simp only [keep_eq_some_iff] at h
    obtain ⟨_, rfl, t, rfl, ht⟩ := h
    exact hcons (hcons (ih ht))
  | case4 =>
    cases h
    exact ⟨q.text_ne_nil, q.text_endsInLine⟩
  | case5 => cases h
  | case6 c rest _ _ _ _ ih =>
    obtain ⟨t, rfl, ht⟩ := keep_eq_some_iff.mp h
    exact hcons (ih ht)

theorem wordStep_endsInLine {stack stack' : List Frame} {gap cs r : List Char}
    {lexemes : List Lexeme} (h : wordStep stack gap cs = some (.more lexemes stack' r)) :
    ∀ l ∈ lexemes, EndsInLine l.text.toList := by
  have hplain {rest : List Char}
      (h : wordStep.plain stack gap (cs.takeWhile isWordPart) rest =
        some (.more lexemes stack' r)) : ∀ l ∈ lexemes, EndsInLine l.text.toList := by
    obtain ⟨rfl, -⟩ := plain_local h
    intro l hl
    obtain rfl := List.mem_singleton.mp hl
    rw [String.toList_ofList]
    refine .of_forall fun c hc => isLineEnd_of_not_isDelimiter ?_
    cases hd : isDelimiter c with
    | false => rfl
    | true => simpa [isWordPart_of_isDelimiter c hd] using List.mem_takeWhile_imp hc
  unfold wordStep at h
  simp only at h
  split at h
  · next q inside hq =>
    split at h
    · obtain ⟨⟨body, after⟩, hbody, h⟩ := Option.bind_eq_some_iff.mp h
      cases h
      obtain ⟨hne, hends⟩ := takeString_endsInLine hbody
      intro l hl
      obtain rfl := List.mem_singleton.mp hl
      rw [String.toList_ofList]
      exact hends.append hne _
    · split at h
      · cases h
        intro l hl
        obtain rfl := List.mem_singleton.mp hl
        rw [String.toList_ofList]
        exact q.text_endsInLine.append q.text_ne_nil _
      · exact hplain h
  · exact hplain h

theorem takeSymbolIn_endsInLine {stack : List Frame} {cs r : List Char} {s : String}
    (h : takeSymbolIn stack cs = some (s, r)) : EndsInLine s.toList := by
  have hsymbols : ∀ s ∈ symbols, ∀ c ∈ s.toList, isLineEnd c = false := by decide
  unfold takeSymbolIn at h
  split at h
  · cases h
    exact .of_forall (by decide)
  · split at h
    · exact .of_forall (hsymbols s (takeSymbol_eq h).1)
    · cases h
      exact .of_forall (by decide)
  · exact .of_forall (hsymbols s (takeSymbol_eq h).1)

theorem lexemeStep_endsInLine {stack stack' : List Frame} {gap cs r : List Char}
    {lexemes : List Lexeme} (h : lexemeStep stack gap cs = some (.more lexemes stack' r)) :
    ∀ l ∈ lexemes, EndsInLine l.text.toList := by
  cases cs with
  | nil => cases h
  | cons c cs =>
    rw [lexemeStep_cons] at h
    split at h
    · obtain ⟨⟨t, r'⟩, ht, h⟩ := Option.bind_eq_some_iff.mp h
      cases h
      intro l hl
      obtain rfl := List.mem_singleton.mp hl
      simpa using takeNumber_endsInLine ht
    · split at h
      · exact wordStep_endsInLine h
      · obtain ⟨⟨s, r'⟩, hs, h⟩ := Option.bind_eq_some_iff.mp h
        obtain ⟨inner, -, h⟩ := Option.bind_eq_some_iff.mp h
        cases h
        intro l hl
        obtain rfl := List.mem_singleton.mp hl
        exact takeSymbolIn_endsInLine hs

theorem step_endsInLine {stack stack' : List Frame} {cs r : List Char} {lexemes : List Lexeme}
    (h : step stack cs = some (.more lexemes stack' r)) : EndsInLine (spellAll lexemes) := by
  have htemplate {q : Quote} {spec : Bool}
      (h : templateStep q spec stack cs = some (.more lexemes stack' r)) :
      EndsInLine (spellAll lexemes) := by
    obtain ⟨text, last, rfl, hgap, hne, hlast, -⟩ := templateStep_local h
    have hends : EndsInLine last.text.toList :=
      .of_forall fun c hc => isLineEnd_of_not_isDelimiter (hlast c hc)
    simpa [hgap] using hends.append hne (spellAll (templateText text))
  unfold step at h
  split at h
  · exact htemplate h
  · exact htemplate h
  · obtain ⟨gap, rest, -, h⟩ := plainStep_eq_more_iff.mp h
    obtain ⟨⟨kind, text, rfl, -, hne, -⟩, -⟩ := lexemeStep_local h
    simpa using (lexemeStep_endsInLine h _ (List.mem_singleton_self _)).append hne gap

theorem Lexed.spellAll_ne_nil {stack : List Frame} {lexemes : List Lexeme}
    (h : Lexed stack lexemes) (hne : lexemes ≠ []) : spellAll lexemes ≠ [] := by
  cases h with
  | nil => exact absurd rfl hne
  | step _ hspell _ => simp [hspell]

theorem Lexed.endsInLine {stack : List Frame} {lexemes : List Lexeme} (h : Lexed stack lexemes) :
    EndsInLine (spellAll lexemes) := by
  induction h with
  | nil => exact .of_forall (by simp)
  | @step stack stack' ls rest hstep _ hrest ih =>
    cases rest with
    | nil => simpa using step_endsInLine (hstep _ rfl)
    | cons l rest =>
      rw [spellAll_append]
      exact ih.append (hrest.spellAll_ne_nil (List.cons_ne_nil _ _)) _

end LocaleRegistrar.Python.Lexeme
