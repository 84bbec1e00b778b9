import LocaleRegistrar.Console.Screen

/-! Which messages can be printed. Only the tags that take effect matter: a message can be printed
if each closing tag among them closes a tag that is open and all of them name harmless styles. A text
that was escaped has no such tag of its own, whatever comes after it, so the messages that are put
together from fixed parts and escaped texts can always be printed. -/

namespace LocaleRegistrar.Console

/-! ### Tags that take effect -/

/-- The tags that take effect: those with an even number of backslashes before them. -/
def activeTags : List Token → List (List Char)
  | [] => []
  | .text _ :: rest => activeTags rest
  | .tag count content :: rest =>
    if count % 2 = 1 then activeTags rest else content :: activeTags rest

/-- The tag is that of a style that can be printed, over whatever text. -/
def OpenTag.Harmless (tag : OpenTag) : Prop :=
  tag.isAction = false ∧ (tag.span 0).isFaulty = false

namespace OpenTag.Harmless

variable {tag : OpenTag} (h : tag.Harmless)

include h

theorem close (position : Nat) : tag.close position = .ok [tag.span position] := by
  simp [OpenTag.close, h.1]

theorem isFaulty_span (position : Nat) : (tag.span position).isFaulty = false := h.2

end OpenTag.Harmless

/-- Tags take effect one after the other wherever they stand, and all the styles that they leave can
be printed. -/
inductive Prints : List OpenTag → List (List Char) → Prop
  | nil {opened : List OpenTag} (harmless : ∀ tag ∈ opened, tag.Harmless) : Prints opened []
  | cons {opened : List OpenTag} {content : List Char} {tags : List (List Char)}
      (opened' : Nat → List OpenTag) (closed : Nat → List Span)
      (applied : ∀ position, applyTag content position opened =
        .ok (opened' position, closed position))
      (harmless : ∀ position, ∀ span ∈ closed position, span.isFaulty = false)
      (rest : ∀ position, Prints (opened' position) tags) : Prints opened (content :: tags)

theorem renderTokens_of_prints {opened : List OpenTag} {tokens : List Token}
    (h : Prints opened (activeTags tokens)) (position : Nat) :
    ∃ rendered, renderTokens opened position tokens = .ok rendered ∧
      ∀ span ∈ rendered.spans, span.isFaulty = false := by
  induction tokens generalizing opened position with
  | nil =>
    obtain ⟨hopened⟩ := h
    refine ⟨_, rfl, fun span hspan => ?_⟩
    obtain ⟨tag, htag, rfl⟩ := List.mem_map.mp hspan
    exact (hopened tag htag).isFaulty_span position
  | cons token rest ih =>
    cases token with
    | text cs =>
      obtain ⟨after, hafter, hspans⟩ := ih h (position + (plainText cs).length)
      exact ⟨⟨plainText cs ++ after.text, after.spans⟩, by rw [renderTokens, hafter]; rfl, hspans⟩
    | tag count content =>
      rw [renderTokens]
      by_cases hodd : count % 2 = 1
      · rw [activeTags, if_pos hodd] at h
        obtain ⟨after, hafter, hspans⟩ := ih h
          (position + (List.replicate (count / 2) '\\' ++ '[' :: content ++ [']']).length)
        refine ⟨⟨List.replicate (count / 2) '\\' ++ '[' :: content ++ [']'] ++ after.text,
          after.spans⟩, ?_, hspans⟩
        rw [if_pos hodd]
        simp only [hafter]
        rfl
      · rw [activeTags, if_neg hodd] at h
        obtain _ | ⟨opened', closed, happly, hclosed, hrest⟩ := h
        let before := List.replicate (count / 2) '\\'
        let place := position + before.length
        obtain ⟨after, hafter, hspans⟩ := ih (hrest place) place
        refine ⟨⟨before ++ after.text, closed place ++ after.spans⟩, ?_, fun span hspan =>
          (List.mem_append.mp hspan).elim (hclosed place span) (hspans span)⟩
        rw [if_neg hodd]
        simp only [happly, bind, Except.bind]
        rw [hafter]
        rfl

@[simp] theorem activeTags_prependText (cs : List Char) (tokens : List Token) :
    activeTags (prependText cs tokens) = activeTags tokens := by
  unfold prependText
  split
  · rfl
  · rfl
  · rfl

theorem scan_nil (pending : Pending) : scan pending [] = prependText pending.chars [] := rfl

theorem scan_backslashes (n : Nat) (c : Char) (rest : List Char) :
    scan (.backslashes n) (c :: rest) =
      if c = '\\' then scan (.backslashes (n + 1)) rest
      else if c = '[' then scan (.bracket n []) rest
      else prependText ((Pending.backslashes n).chars ++ [c]) (scan (.backslashes 0) rest) := rfl

theorem scan_bracket (n : Nat) (reversed : List Char) (c : Char) (rest : List Char) :
    scan (.bracket n reversed) (c :: rest) =
      if c = '[' then
        let trailing := (reversed.takeWhile (· = '\\')).length
        let kept := Pending.bracket n (reversed.drop trailing)
        prependText kept.chars (scan (.bracket trailing []) rest)
      else if reversed.isEmpty && !startsTag c then
        if c = '\\' then prependText (Pending.bracket n reversed).chars (scan (.backslashes 1) rest)
        else prependText ((Pending.bracket n reversed).chars ++ [c]) (scan (.backslashes 0) rest)
      else if c = ']' then .tag n reversed.reverse :: scan (.backslashes 0) rest
      else scan (.bracket n (c :: reversed)) rest := rfl

/-- The tags in a text that take effect, given what is open. -/
def tagsFrom (pending : Pending) (cs : List Char) : List (List Char) :=
  activeTags (scan pending cs)

section

variable (n : Nat) (rest : List Char)

theorem tagsFrom_nil (pending : Pending) : tagsFrom pending [] = [] := by
  simp [tagsFrom, scan_nil, activeTags]

theorem tagsFrom_backslash :
    tagsFrom (.backslashes n) ('\\' :: rest) = tagsFrom (.backslashes (n + 1)) rest := by
  simp [tagsFrom, scan_backslashes]

theorem tagsFrom_open :
    tagsFrom (.backslashes n) ('[' :: rest) = tagsFrom (.bracket n []) rest := by
  simp [tagsFrom, scan_backslashes]

theorem tagsFrom_plain {c : Char} (hslash : c ≠ '\\') (hopen : c ≠ '[') :
    tagsFrom (.backslashes n) (c :: rest) = tagsFrom (.backslashes 0) rest := by
  simp [tagsFrom, scan_backslashes, hslash, hopen]

theorem tagsFrom_reopen (reversed : List Char) :
    tagsFrom (.bracket n reversed) ('[' :: rest) =
      tagsFrom (.bracket (reversed.takeWhile (· = '\\')).length []) rest := by
  simp [tagsFrom, scan_bracket]

theorem tagsFrom_noTag_backslash :
    tagsFrom (.bracket n []) ('\\' :: rest) = tagsFrom (.backslashes 1) rest := by
  have hstart : startsTag '\\' = false := by decide
  simp [tagsFrom, scan_bracket, hstart]

theorem tagsFrom_noTag {c : Char} (hslash : c ≠ '\\') (hopen : c ≠ '[')
    (hstart : startsTag c = false) :
    tagsFrom (.bracket n []) (c :: rest) = tagsFrom (.backslashes 0) rest := by
  simp [tagsFrom, scan_bracket, hslash, hopen, hstart]

theorem tagsFrom_close {reversed : List Char} (hne : reversed ≠ []) :
    tagsFrom (.bracket n reversed) (']' :: rest) =
      (if n % 2 = 1 then [] else [reversed.reverse]) ++ tagsFrom (.backslashes 0) rest := by
  rw [tagsFrom, scan_bracket, if_neg (by decide), if_neg (by simp [hne]), if_pos rfl, activeTags]
  split <;> rfl

theorem tagsFrom_more {c : Char} {reversed : List Char} (hopen : c ≠ '[') (hclose : c ≠ ']')
    (hstart : reversed = [] → startsTag c = true) :
    tagsFrom (.bracket n reversed) (c :: rest) = tagsFrom (.bracket n (c :: reversed)) rest := by
  have htag : ¬(reversed.isEmpty && !startsTag c) = true := by
    cases reversed with
    | nil => simp [hstart rfl]
    | cons => simp
  rw [tagsFrom, scan_bracket, if_neg hopen, if_neg htag, if_neg hclose, tagsFrom]

end

/-! ### Fixed parts of messages -/

/-- A text without brackets and backslashes. -/
def IsPlain (cs : List Char) : Prop := ∀ c ∈ cs, c ≠ '\\' ∧ c ≠ '['

instance (cs : List Char) : Decidable (IsPlain cs) :=
  inferInstanceAs (Decidable (∀ c ∈ cs, c ≠ '\\' ∧ c ≠ '['))

/-- The inside of a tag. -/
structure IsTag (content : List Char) : Prop where
  starts : ∃ c rest, content = c :: rest ∧ startsTag c = true
  noOpen : '[' ∉ content
  noClose : ']' ∉ content

theorem IsPlain.tagsFrom {cs : List Char} (h : IsPlain cs) (rest : List Char) :
    tagsFrom (.backslashes 0) (cs ++ rest) = tagsFrom (.backslashes 0) rest := by
  induction cs with
  | nil => rfl
  | cons c cs ih =>
    obtain ⟨⟨hslash, hopen⟩, hcs⟩ := List.forall_mem_cons.mp h
    rw [List.cons_append, tagsFrom_plain 0 _ hslash hopen, ih hcs]

theorem isPlain_toString (n : Nat) : IsPlain (toString n).toList := by
  intro c hc
  have hdigit : c.isDigit = true :=
    Nat.isDigit_of_mem_toDigits (by omega) (by omega) (Nat.toList_repr ▸ hc)
  constructor <;> rintro rfl <;> exact absurd hdigit (by decide)

/-- A part of a tag is scanned up to the end of that part. -/
theorem tagsFrom_partTag (n : Nat) {reversed part : List Char} (rest : List Char)
    (h : part = [] ∨ IsTag (reversed.reverse ++ part)) :
    tagsFrom (.bracket n reversed) (part ++ rest) =
      tagsFrom (.bracket n (part.reverse ++ reversed)) rest := by
  induction part generalizing reversed with
  | nil => rfl
  | cons c part ih =>
    have htag : IsTag (reversed.reverse ++ c :: part) := h.resolve_left (List.cons_ne_nil _ _)
    have hc : c ∈ reversed.reverse ++ c :: part := by simp
    rw [List.cons_append, tagsFrom_more n _ (fun he => htag.noOpen (he ▸ hc))
      (fun he => htag.noClose (he ▸ hc)), ih]
    · simp
    · exact .inr (by simpa using htag)
    · rintro rfl
      obtain ⟨d, more, hd, hstart⟩ := htag.starts
      obtain ⟨rfl, -⟩ := List.cons.inj hd
      exact hstart

/-- A tag takes effect after an even number of backslashes. -/
theorem tagsFrom_tag (n : Nat) {content : List Char} (h : IsTag content) (rest : List Char) :
    tagsFrom (.bracket n []) (content ++ ']' :: rest) =
      (if n % 2 = 1 then [] else [content]) ++ tagsFrom (.backslashes 0) rest := by
  obtain ⟨c, more, hcontent, -⟩ := h.starts
  rw [tagsFrom_partTag n (']' :: rest) (.inr (by simpa using h)), List.append_nil,
    tagsFrom_close n rest (by simp [hcontent]), List.reverse_reverse]

/-- A bracket ends whatever was open before it. -/
theorem tagsFrom_bracket (pending : Pending) :
    ∃ n, ∀ rest, tagsFrom pending ('[' :: rest) = tagsFrom (.bracket n []) rest := by
  cases pending with
  | backslashes n => exact ⟨n, tagsFrom_open n⟩
  | bracket n reversed => exact ⟨_, fun rest => tagsFrom_reopen n rest reversed⟩

/-! ### Escaped texts -/

/-- The text of tokens with their tags escaped. -/
def escapedFrom (pending : Pending) (cs : List Char) : List Char :=
  (scan pending cs).flatMap escapeToken

@[simp] theorem flatMap_escapeToken_prependText (cs : List Char) (tokens : List Token) :
    (prependText cs tokens).flatMap escapeToken = cs ++ tokens.flatMap escapeToken := by
  unfold prependText
  split <;> simp [escapeToken]

/-- What is open while a message is scanned is the start of a tag. -/
def Pending.Fits : Pending → Prop
  | .backslashes _ => True
  | .bracket _ reversed => reversed = [] ∨ IsTag reversed.reverse

theorem tagsFrom_replicate (k n : Nat) (rest : List Char) :
    tagsFrom (.backslashes n) (List.replicate k '\\' ++ rest) =
      tagsFrom (.backslashes (n + k)) rest := by
  induction k generalizing n with
  | zero => rfl
  | succ k ih =>
    rw [List.replicate_succ, List.cons_append, tagsFrom_backslash, ih, Nat.add_right_comm]
    rfl

/-- What is open is scanned again as it was. -/
theorem tagsFrom_chars {pending : Pending} (h : pending.Fits) (rest : List Char) :
    tagsFrom (.backslashes 0) (pending.chars ++ rest) = tagsFrom pending rest := by
  cases pending with
  | backslashes n => rw [Pending.chars, tagsFrom_replicate, Nat.zero_add]
  | bracket n reversed =>
    have hpart : reversed.reverse = [] ∨ IsTag ([].reverse ++ reversed.reverse) := by
      simpa [Pending.Fits] using h
    rw [Pending.chars, List.append_assoc, tagsFrom_replicate, Nat.zero_add, List.cons_append,
      tagsFrom_open, tagsFrom_partTag n rest hpart]
    simp

/-- Backslashes and a bracket after them are scanned as they are at the start of a text, if what is
open does not end in a backslash. -/
theorem tagsFrom_bracket_backslashes {n : Nat} {reversed : List Char}
    (hfits : (Pending.bracket n reversed).Fits) (hhead : reversed.head? ≠ some '\\') (j : Nat)
    (rest : List Char) :
    tagsFrom (.bracket n reversed) (List.replicate j '\\' ++ '[' :: rest) =
      tagsFrom (.backslashes 0) (List.replicate j '\\' ++ '[' :: rest) := by
  rw [tagsFrom_replicate, Nat.zero_add, tagsFrom_open]
  rcases hfits with rfl | htag
  · cases j with
    | zero => exact tagsFrom_reopen n rest []
    | succ j =>
      rw [List.replicate_succ, List.cons_append, tagsFrom_noTag_backslash, tagsFrom_replicate,
        tagsFrom_open, Nat.add_comm]
  · obtain ⟨c, more, hc, hstart⟩ := htag.starts
    have hpart : IsTag (reversed.reverse ++ List.replicate j '\\') := by
      refine ⟨⟨c, more ++ List.replicate j '\\', by simp [hc], hstart⟩, ?_, ?_⟩
      · simpa using htag.noOpen
      · simpa using htag.noClose
    have hstop : reversed.takeWhile (· = '\\') = [] := by
      cases reversed with
      | nil => rfl
      | cons d ds =>
        have hd : d ≠ '\\' := fun he => hhead (by rw [he]; rfl)
        simp [hd]
    rw [tagsFrom_partTag n _ (.inr hpart), tagsFrom_reopen, List.reverse_replicate,
      List.takeWhile_append_of_pos (by simp), hstop]
    simp

/-- What is escaped after an open bracket starts with that bracket, and with at least the
backslashes before it. -/
theorem escapedFrom_bracket (n : Nat) (reversed cs : List Char) :
    ∃ j rest, n ≤ j ∧
      escapedFrom (.bracket n reversed) cs = List.replicate j '\\' ++ '[' :: rest := by
  induction cs generalizing reversed with
  | nil =>
    exact ⟨n, reversed.reverse, Nat.le_refl n, by simp [escapedFrom, scan_nil, Pending.chars]⟩
  | cons c cs ih =>
    rw [escapedFrom, scan_bracket]
    dsimp only
    split
    · exact ⟨n, _, Nat.le_refl n, by simp [Pending.chars]; rfl⟩
    · split
      · split
        · exact ⟨n, _, Nat.le_refl n, by simp [Pending.chars]; rfl⟩
        · exact ⟨n, _, Nat.le_refl n, by simp [Pending.chars]; rfl⟩
      · split
        · exact ⟨2 * n + 1, _, by omega, by simp [escapeToken]; rfl⟩
        · exact ih _

theorem escapedFrom_backslashes (n : Nat) (cs : List Char) :
    ∃ rest, escapedFrom (.backslashes (n + 1)) cs = '\\' :: rest := by
  induction cs generalizing n with
  | nil => exact ⟨_, by simp [escapedFrom, scan_nil, Pending.chars, List.replicate_succ]; rfl⟩
  | cons c cs ih =>
    rw [escapedFrom, scan_backslashes]
    split
    · exact ih (n + 1)
    · split
      · obtain ⟨j, rest, hj, heq⟩ := escapedFrom_bracket (n + 1) [] cs
        obtain ⟨k, rfl⟩ := Nat.exists_eq_succ_of_ne_zero (n := j) (by omega)
        exact ⟨_, heq⟩
      · exact ⟨_, by simp [Pending.chars, List.replicate_succ]; rfl⟩

theorem IsTag.of_start {start content : List Char} (h : IsTag content) (hne : start ≠ [])
    (hstart : start <+: content) : IsTag start := by
  obtain ⟨rest, rfl⟩ := hstart
  obtain ⟨c, more, hc, hstart⟩ := h.starts
  refine ⟨?_, fun hmem => h.noOpen (List.mem_append_left _ hmem),
    fun hmem => h.noClose (List.mem_append_left _ hmem)⟩
  obtain ⟨d, ds, rfl⟩ := List.exists_cons_of_ne_nil hne
  obtain ⟨rfl, -⟩ := List.cons.inj hc
  exact ⟨d, ds, rfl, hstart⟩

/-- Without the backslashes at its end, what is open is still the start of a tag. -/
theorem Pending.Fits.drop {n : Nat} {reversed : List Char} (h : (Pending.bracket n reversed).Fits)
    (k : Nat) : (Pending.bracket n (reversed.drop k)).Fits := by
  by_cases hne : reversed.drop k = []
  · exact .inl hne
  · rcases h with rfl | htag
    · simp at hne
    · refine .inr (htag.of_start (by simpa using hne) ?_)
      exact List.reverse_prefix.mpr (List.drop_suffix k reversed)

/-- What is open goes on with a character that is no bracket. -/
theorem Pending.Fits.cons {n : Nat} {reversed : List Char} {c : Char}
    (h : (Pending.bracket n reversed).Fits) (hopen : c ≠ '[') (hclose : c ≠ ']')
    (hstart : reversed = [] → startsTag c = true) :
    (Pending.bracket n (c :: reversed)).Fits := by
  refine .inr ?_
  rw [List.reverse_cons]
  rcases h with rfl | htag
  · exact ⟨⟨c, [], rfl, hstart rfl⟩, by simpa using hopen.symm, by simpa using hclose.symm⟩
  · obtain ⟨d, more, hd, hd'⟩ := htag.starts
    refine ⟨⟨d, more ++ [c], by simp [hd], hd'⟩, ?_, ?_⟩
    · simpa [hopen.symm] using htag.noOpen
    · simpa [hclose.symm] using htag.noClose

theorem head?_drop_backslashes (reversed : List Char) :
    (reversed.drop (reversed.takeWhile (· = '\\')).length).head? ≠ some '\\' := by
  induction reversed with
  | nil => simp
  | cons c reversed ih =>
    by_cases hc : c = '\\'
    · simpa [hc] using ih
    · simp [hc]

/-- A tag that was escaped has an odd number of backslashes and takes no effect. -/
theorem tagsFrom_escapeToken_tag (n : Nat) {content : List Char} (h : IsTag content)
    (rest : List Char) :
    tagsFrom (.backslashes 0) (escapeToken (.tag n content) ++ rest) =
      tagsFrom (.backslashes 0) rest := by
  have hodd : (2 * n + 1) % 2 = 1 := by omega
  simp only [escapeToken, List.cons_append, List.append_assoc, List.nil_append]
  rw [tagsFrom_replicate, Nat.zero_add, tagsFrom_open, tagsFrom_tag _ h, if_pos hodd,
    List.nil_append]

/-- An escaped text is scanned without a tag that takes effect. Only what is open after it matters
to what follows. -/
theorem tagsFrom_escapedFrom {pending : Pending} (h : pending.Fits) (cs : List Char) :
    ∃ after : Pending, after.Fits ∧ ∀ rest,
      tagsFrom (.backslashes 0) (escapedFrom pending cs ++ rest) = tagsFrom after rest := by
  -- what is scanned first follows the scan of the text itself, with the same pieces open
  induction cs generalizing pending with
  | nil => exact ⟨pending, h, fun rest => by simp [escapedFrom, scan_nil, tagsFrom_chars h]⟩
  | cons c cs ih =>
    cases pending with
    | backslashes n =>
      rw [escapedFrom, scan_backslashes]
      split
      · exact @ih (.backslashes (n + 1)) trivial
      · split
        · exact @ih (.bracket n []) (.inl rfl)
        · next hslash hopen =>
          obtain ⟨after, hafter, hrest⟩ := @ih (.backslashes 0) trivial
          refine ⟨after, hafter, fun rest => ?_⟩
          rw [flatMap_escapeToken_prependText, List.append_assoc, List.append_assoc,
            tagsFrom_chars h, List.singleton_append, tagsFrom_plain n _ hslash hopen]
          exact hrest rest
    | bracket n reversed =>
      rw [escapedFrom, scan_bracket]
      dsimp only
      split
      · -- the bracket opens anew, with the backslashes at the end of what was open
        let k := (reversed.takeWhile (· = '\\')).length
        obtain ⟨after, hafter, hrest⟩ := @ih (.bracket k []) (.inl rfl)
        refine ⟨after, hafter, fun rest => ?_⟩
        obtain ⟨j, more, -, heq⟩ := escapedFrom_bracket k [] cs
        rw [flatMap_escapeToken_prependText, List.append_assoc, tagsFrom_chars (h.drop k),
          ← hrest rest]
        change tagsFrom _ (escapedFrom (.bracket k []) cs ++ rest) = _
        rw [heq, List.append_assoc, List.cons_append,
          tagsFrom_bracket_backslashes (h.drop k) (head?_drop_backslashes reversed)]
      · next hopen =>
        split
        · next hempty =>
          obtain ⟨rfl, hstart⟩ : reversed = [] ∧ startsTag c = false := by simpa using hempty
          split
          · next hslash =>
            obtain ⟨after, hafter, hrest⟩ := @ih (.backslashes 1) trivial
            refine ⟨after, hafter, fun rest => ?_⟩
            obtain ⟨more, heq⟩ := escapedFrom_backslashes 0 cs
            rw [flatMap_escapeToken_prependText, List.append_assoc, tagsFrom_chars h, ← hrest rest]
            change tagsFrom _ (escapedFrom (.backslashes 1) cs ++ rest) = _
            rw [heq, List.cons_append, tagsFrom_noTag_backslash, tagsFrom_backslash]
          · next hslash =>
            obtain ⟨after, hafter, hrest⟩ := @ih (.backslashes 0) trivial
            refine ⟨after, hafter, fun rest => ?_⟩
            rw [flatMap_escapeToken_prependText, List.append_assoc, List.append_assoc,
              tagsFrom_chars h, List.singleton_append, tagsFrom_noTag n _ hslash hopen hstart]
            exact hrest rest
        · next hstart =>
          split
          · -- the tag is complete, and gets an odd number of backslashes
            next hclose =>
            have htag : IsTag reversed.reverse := by
              refine h.resolve_left fun hnil => hstart ?_
              rw [hnil, hclose]
              decide
            obtain ⟨after, hafter, hrest⟩ := @ih (.backslashes 0) trivial
            refine ⟨after, hafter, fun rest => ?_⟩
            rw [← hrest rest, List.flatMap_cons, List.append_assoc, tagsFrom_escapeToken_tag n htag]
            rfl
          · next hclose =>
            exact @ih (.bracket n (c :: reversed)) (h.cons hopen hclose (by simpa using hstart))

/-- One more backslash after what is open. -/
theorem tagsFrom_one_backslash {pending : Pending} (h : pending.Fits) :
    ∃ after : Pending, after.Fits ∧ ∀ rest,
      tagsFrom pending ('\\' :: rest) = tagsFrom after rest := by
  cases pending with
  | backslashes n => exact ⟨.backslashes (n + 1), trivial, tagsFrom_backslash n⟩
  | bracket n reversed =>
    rcases h with rfl | htag
    · exact ⟨.backslashes 1, trivial, tagsFrom_noTag_backslash n⟩
    · obtain ⟨c, more, hc, hstart⟩ := htag.starts
      refine ⟨.bracket n ('\\' :: reversed), .inr ?_, fun rest => ?_⟩
      · rw [List.reverse_cons]
        refine ⟨⟨c, more ++ ['\\'], by simp [hc], hstart⟩, ?_, ?_⟩
        · simpa using htag.noOpen
        · simpa using htag.noClose
      · exact tagsFrom_more n rest (by decide) (by decide) fun hnil => by simp [hnil] at hc

theorem tagsFrom_escape (text : String) :
    ∃ after : Pending, after.Fits ∧ ∀ rest,
      tagsFrom (.backslashes 0) ((escape text).toList ++ rest) = tagsFrom after rest := by
  obtain ⟨after, hafter, hrest⟩ := @tagsFrom_escapedFrom (.backslashes 0) trivial text.toList
  rw [escape, String.toList_ofList]
  split
  · obtain ⟨last, hlast, hmore⟩ := tagsFrom_one_backslash hafter
    refine ⟨last, hlast, fun rest => ?_⟩
    rw [List.append_assoc, List.singleton_append, ← hmore]
    exact hrest ('\\' :: rest)
  · exact ⟨after, hafter, hrest⟩

/-! ### Messages -/

/-- The text can be printed, whatever tags are open before it. -/
def Settled (cs : List Char) : Prop :=
  ∀ opened : List OpenTag, (∀ tag ∈ opened, tag.Harmless) →
    Prints opened (tagsFrom (.backslashes 0) cs)

/-- The message can be printed. -/
def Marked (message : String) : Prop := Settled message.toList

theorem settled_of_tagsFrom_eq_nil {cs : List Char} (h : tagsFrom (.backslashes 0) cs = []) :
    Settled cs := by
  intro opened hopened
  rw [h]
  exact .nil hopened

theorem settled_nil : Settled [] := settled_of_tagsFrom_eq_nil (tagsFrom_nil _)

theorem IsPlain.settled_append {cs rest : List Char} (h : IsPlain cs) (hrest : Settled rest) :
    Settled (cs ++ rest) := by
  intro opened hopened
  rw [h.tagsFrom]
  exact hrest opened hopened

theorem IsPlain.settled {cs : List Char} (h : IsPlain cs) : Settled cs := by
  simpa using h.settled_append settled_nil

/-- The name of a style that a tag opens and another one closes. -/
structure IsStyle (name : List Char) : Prop where
  starts : ∃ c rest, name = c :: rest ∧ startsTag c = true ∧ c ≠ '/' ∧ Text.isBlank c = false
  noOpen : '[' ∉ name
  noClose : ']' ∉ name
  whole : name.takeWhile (· ≠ '=') = name
  known : ∃ style, styleName? name = some style ∧ OpenTag.Harmless ⟨style, none, 0⟩

theorem IsStyle.isTag {name : List Char} (h : IsStyle name) : IsTag name := by
  obtain ⟨c, rest, hname, hstart, -⟩ := h.starts
  exact ⟨⟨c, rest, hname, hstart⟩, h.noOpen, h.noClose⟩

theorem IsStyle.isTag_close {name : List Char} (h : IsStyle name) : IsTag ('/' :: name) :=
  ⟨⟨'/', name, rfl, by decide⟩, by simpa using h.noOpen, by simpa using h.noClose⟩

theorem IsStyle.applyTag_open {name : List Char} (h : IsStyle name) {style : String}
    (hstyle : styleName? name = some style) (position : Nat) (opened : List OpenTag) :
    applyTag name position opened = .ok (⟨style, none, position⟩ :: opened, []) := by
  obtain ⟨c, rest, rfl, -, hslash, -⟩ := h.starts
  have hnone : (c :: rest).dropWhile (· ≠ '=') = [] := by
    have hparts := List.takeWhile_append_dropWhile (p := (· ≠ '=')) (l := c :: rest)
    rw [h.whole] at hparts
    simpa using hparts
  unfold applyTag
  rw [h.whole, hnone]
  dsimp only
  split
  · next heq => exact absurd (List.cons.inj heq).1 hslash
  · rw [hstyle]
    rfl

theorem IsStyle.applyTag_close {name : List Char} (h : IsStyle name) {tag : OpenTag}
    (hstyle : styleName? name = some tag.name) (htag : tag.Harmless) (position : Nat)
    (opened : List OpenTag) :
    applyTag ('/' :: name) position (tag :: opened) = .ok (opened, [tag.span position]) := by
  obtain ⟨c, rest, hname, -, -, hblank⟩ := h.starts
  have hword : name.all Text.isBlank = false := by simp [hname, hblank]
  have hwhole : ('/' :: name).takeWhile (· ≠ '=') = '/' :: name := by
    rw [List.takeWhile_cons_of_pos (by decide), h.whole]
  have hclosed : closedTag name (tag :: opened) = .ok (tag, opened) := by
    simp [closedTag, hword, hstyle, takeTag]
  unfold applyTag
  rw [hwhole]
  simp only [hclosed, Except.bind, htag.close, Except.map]

/-- An escaped text in a style can be printed. The tag that closes the style does not take effect if
the text ends in an odd number of backslashes. -/
theorem IsStyle.settled_append {name : List Char} (h : IsStyle name) (text : String)
    {rest : List Char} (hrest : Settled rest) :
    Settled ('[' :: name ++ ']' :: (escape text).toList ++ '[' :: '/' :: name ++ ']' :: rest) := by
  intro opened hopened
  obtain ⟨style, hstyle, hharmless⟩ := h.known
  obtain ⟨after, -, hafter⟩ := tagsFrom_escape text
  obtain ⟨n, hn⟩ := tagsFrom_bracket after
  simp only [List.cons_append, List.append_assoc]
  rw [tagsFrom_open, tagsFrom_tag 0 h.isTag, hafter, hn, ← List.cons_append,
    tagsFrom_tag n h.isTag_close, if_neg (by decide), List.singleton_append]
  refine .cons _ _ (fun position => h.applyTag_open hstyle position opened) (by simp)
    fun position => ?_
  have htag : OpenTag.Harmless ⟨style, none, position⟩ := hharmless
  split
  · exact hrest _ (List.forall_mem_cons.mpr ⟨htag, hopened⟩)
  · refine .cons _ _ (fun later => h.applyTag_close hstyle htag later opened) (fun later => ?_)
      fun _ => hrest opened hopened
    simpa using htag.isFaulty_span later

theorem marked_escape (text : String) : Marked (escape text) := by
  obtain ⟨after, -, hafter⟩ := tagsFrom_escape text
  have hnone := hafter []
  rw [List.append_nil, tagsFrom_nil] at hnone
  exact settled_of_tagsFrom_eq_nil hnone

theorem marked_plain {text : String} (h : IsPlain text.toList) : Marked text := h.settled

theorem marked_append {text rest : String} (h : IsPlain text.toList) (hrest : Marked rest) :
    Marked (text ++ rest) := by
  rw [Marked, String.toList_append]
  exact h.settled_append hrest

theorem marked_styled {name opening closing : String} (h : IsStyle name.toList)
    (hopen : opening = "[" ++ name ++ "]") (hclose : closing = "[/" ++ name ++ "]") (text : String)
    {rest : String} (hrest : Marked rest) :
    Marked (opening ++ escape text ++ closing ++ rest) := by
  have hsettled := h.settled_append text hrest
  rw [Marked, hopen, hclose]
  simpa [String.toList_append] using hsettled

theorem escape_bracket {text : String} (h : text.toList.head? = some '[') :
    ∃ j rest, (escape text).toList = List.replicate j '\\' ++ '[' :: rest := by
  obtain ⟨cs, hcs⟩ : ∃ cs, text.toList = '[' :: cs := by
    cases htext : text.toList with
    | nil => simp [htext] at h
    | cons c cs =>
      rw [htext, List.head?_cons, Option.some.injEq] at h
      exact ⟨cs, by rw [h]⟩
  obtain ⟨j, rest, -, heq⟩ := escapedFrom_bracket 0 [] cs
  have hfirst : (tokens text).flatMap escapeToken = List.replicate j '\\' ++ '[' :: rest := by
    rw [tokens, hcs, ← heq]
    rfl
  rw [escape, String.toList_ofList, hfirst]
  split
  · exact ⟨j, rest ++ ['\\'], by simp⟩
  · exact ⟨j, rest, rfl⟩

/-- A colon and a blank part two escaped texts if the second one starts with a bracket: a bracket
that the first one leaves open ends there. -/
theorem marked_escape_colon (first : String) {second : String}
    (h : second.toList.head? = some '[') : Marked (escape first ++ ": " ++ escape second) := by
  obtain ⟨after, hfits, hafter⟩ := tagsFrom_escape first
  obtain ⟨j, rest, hrest⟩ := escape_bracket h
  have hparted : tagsFrom after (':' :: ' ' :: (escape second).toList) =
      tagsFrom (.backslashes 0) (escape second).toList := by
    cases after with
    | backslashes n =>
      rw [tagsFrom_plain n _ (by decide) (by decide), tagsFrom_plain 0 _ (by decide) (by decide)]
    | bracket n reversed =>
      rcases hfits with rfl | htag
      · rw [tagsFrom_noTag n _ (by decide) (by decide) (by decide),
          tagsFrom_plain 0 _ (by decide) (by decide)]
      · obtain ⟨c, more, hc, hstart⟩ := htag.starts
        have hpart : IsTag (reversed.reverse ++ [':', ' ']) := by
          refine ⟨⟨c, more ++ [':', ' '], by simp [hc], hstart⟩, ?_, ?_⟩
          · simpa using htag.noOpen
          · simpa using htag.noClose
        have hscan := tagsFrom_partTag n (escape second).toList (.inr hpart)
        rw [List.cons_append, List.singleton_append] at hscan
        rw [hscan, hrest]
        exact tagsFrom_bracket_backslashes (.inr (by simpa using hpart)) (by simp) j rest
  intro opened hopened
  rw [String.toList_append, String.toList_append, List.append_assoc, hafter]
  have hcolon : (": " : String).toList = [':', ' '] := by decide
  rw [hcolon, List.cons_append, List.singleton_append, hparted]
  exact marked_escape second opened hopened

/-- What has no faulty style is shown as it is. -/
theorem Rendered.shown_of_spans {rendered : Rendered}
    (h : ∀ span ∈ rendered.spans, span.isFaulty = false) : rendered.shown = .ok rendered.text := by
  have hnone : (rendered.spans.any fun span => rendered.shows span && span.isFaulty) = false :=
    List.any_eq_false.mpr fun span hspan => by simp [h span hspan]
  rw [shown, hnone]
  rfl

theorem render_of_marked {message : String} (h : Marked message) :
    ∃ rendered, render message = .ok rendered ∧ rendered.shown = .ok rendered.text := by
  obtain ⟨rendered, hrendered, hspans⟩ := renderTokens_of_prints (h [] (by simp)) 0
  exact ⟨rendered, hrendered, Rendered.shown_of_spans hspans⟩

theorem isPlain_icon (level : Level) : IsPlain level.icon.toList := by
  cases level <;> decide

theorem logged_of_marked (level : Level) {message : String} (h : Marked message) :
    ∃ items, logged level message = .ok items := by
  obtain ⟨rendered, hrendered, hshown⟩ := render_of_marked (marked_append (isPlain_icon level) h)
  unfold logged
  rw [hrendered]
  simp only [bind, Except.bind, hshown]
  split
  · exact ⟨_, rfl⟩
  · exact ⟨_, rfl⟩

theorem printed_of_marked {message : String} (h : Marked message) :
    ∃ items, printed message = .ok items := by
  obtain ⟨rendered, hrendered, hshown⟩ := render_of_marked h
  exact ⟨_, by simp only [printed, hrendered, bind, Except.bind, hshown]; rfl⟩

theorem cellLines_of_marked {message : String} (h : Marked message) :
    ∃ lines, cellLines message = .ok lines := by
  obtain ⟨rendered, hrendered, hshown⟩ := render_of_marked h
  exact ⟨_, by simp only [cellLines, hrendered, bind, Except.bind, hshown]; rfl⟩

theorem mapM_isOk {α β ε : Type} {f : α → Except ε β} {xs : List α}
    (h : ∀ x ∈ xs, ∃ y, f x = .ok y) : ∃ ys, xs.mapM f = .ok ys := by
  induction xs with
  | nil => exact ⟨[], rfl⟩
  | cons x xs ih =>
    obtain ⟨⟨y, hy⟩, hxs⟩ := List.forall_mem_cons.mp h
    obtain ⟨ys, hys⟩ := ih hxs
    exact ⟨y :: ys, by rw [List.mapM_cons, hy, hys]; rfl⟩

theorem tabled_of_marked {title : String} {rows : List (List String)} (htitle : Marked title)
    (hrows : ∀ row ∈ rows, ∀ cell ∈ row, Marked cell) :
    ∃ items, tabled title rows = .ok items := by
  obtain ⟨lines, hlines⟩ := cellLines_of_marked htitle
  obtain ⟨cells, hcells⟩ := mapM_isOk fun row hrow =>
    mapM_isOk fun cell hcell => cellLines_of_marked (hrows row hrow cell hcell)
  exact ⟨_, by rw [tabled, hlines]; simp only [bind, Except.bind]; rw [hcells]; rfl⟩

end LocaleRegistrar.Console
