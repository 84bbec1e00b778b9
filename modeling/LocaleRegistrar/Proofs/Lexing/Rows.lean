import LocaleRegistrar.Proofs.Lexing.Line
import LocaleRegistrar.Proofs.Spelling.Reading

/-!
Rows and the logical lines in them. A text that consists of rows is read as the lines of the rows,
even where the end of one row and the end of an empty one after it are read as one line end.
-/

namespace LocaleRegistrar.Python.Lexeme

/-- The text of rows one after the other. -/
def rowsText (rows : List Row) : List Char := rows.flatMap fun row => row.1 ++ row.2

@[simp] theorem rowsText_nil : rowsText [] = [] := rfl

@[simp] theorem rowsText_cons (row : Row) (rows : List Row) :
    rowsText (row :: rows) = row.1 ++ (row.2 ++ rowsText rows) := by
  simp [rowsText]

@[simp] theorem rowsText_append (rows more : List Row) :
    rowsText (rows ++ more) = rowsText rows ++ rowsText more := List.flatMap_append

/-- The rows hold these logical lines, each given by its indentation and its lexemes. -/
inductive Reads : List Row → List (List Char × List Lexeme) → Prop
  | nil : Reads [] []
  | blank {t e : List Char} {rows : List Row} {lines : List (List Char × List Lexeme)}
      (hcloses : Closes t e) (hend : IsLineEnd e) (hrows : Reads rows lines) :
      Reads ((t, e) :: rows) lines
  | line {margin t e : List Char} {l : Lexeme} {ls : List Lexeme} {rows : List Row}
      {lines : List (List Char × List Lexeme)} (hmargin : ∀ c ∈ margin, isSpace c = true)
      (hgap : l.gap = []) (hlexed : Lexed [] (l :: ls)) (hcloses : Closes t e)
      (hend : IsLineEnd e) (hrows : Reads rows lines) :
      Reads ((margin ++ spellAll (l :: ls) ++ t, e) :: rows) ((margin, l :: ls) :: lines)

/-- The indentation and the lexemes of the lines that were read. -/
def lineKeys (x : List RawLine × List RawBlank) : List (Option (List Char) × List Lexeme) :=
  x.1.map fun l => (l.indent, l.lexemes)

/-- What is read from the text: these logical lines, or nothing. -/
def Gives (cs : List Char) (lines : Option (List (List Char × List Lexeme))) : Prop :=
  ∀ fuel, cs.length < fuel →
    (readLines fuel cs).map lineKeys = lines.map fun ls => ls.map fun l => (some l.1, l.2)

theorem takeBlanks_eq {n k : Nat} {cs : List Char} (hn : cs.length ≤ n) (hk : cs.length ≤ k) :
    takeBlanks n cs = takeBlanks k cs := by
  induction n generalizing k cs with
  | zero =>
    obtain rfl : cs = [] := List.length_eq_zero_iff.mp (by omega)
    cases k <;> rfl
  | succ n ih =>
    cases k with
    | zero =>
      obtain rfl : cs = [] := List.length_eq_zero_iff.mp (by omega)
      rfl
    | succ k =>
      simp only [takeBlanks]
      cases hb : takeBlank cs with
      | none => rfl
      | some next =>
        cases next with
        | none => rfl
        | some x =>
          obtain ⟨b, rest⟩ := x
          obtain ⟨-, -, -, hlength⟩ := takeBlank_eq hb
          simp [@ih k rest (by omega) (by omega)]

/-- Reads on after the blank lines before a logical line. -/
def readAfter (fuel : Nat) (blanks : List RawBlank) (cs : List Char) :
    Option (List RawLine × List RawBlank) := do
  if cs.isEmpty then return ([], blanks)
  let (indent, _) ← takeGap false false cs
  let (lexemes, tail, rest) ← readLine (cs.length + 1) [] cs
  let (lines, last) ← readLines fuel rest
  let lexemes := match lexemes with
    | first :: others => { first with gap := [] } :: others
    | [] => []
  return (⟨blanks, if indent.contains '\\' then none else some indent, lexemes, tail⟩ :: lines,
    last)

theorem readLines_succ (fuel : Nat) (cs : List Char) :
    readLines (fuel + 1) cs =
      (takeBlanks cs.length cs).bind fun x => readAfter fuel x.1 x.2 := rfl

theorem gives_nil : Gives [] (some []) := by
  intro fuel hfuel
  obtain ⟨n, rfl⟩ := Nat.exists_eq_succ_of_ne_zero (Nat.ne_of_gt hfuel)
  rfl

theorem readAfter_cons (fuel : Nat) (b : RawBlank) (blanks : List RawBlank) (cs : List Char) :
    (readAfter fuel (b :: blanks) cs).map lineKeys = (readAfter fuel blanks cs).map lineKeys := by
  unfold readAfter
  split
  · rfl
  · cases takeGap false false cs with
    | none => rfl
    | some x =>
      cases readLine (cs.length + 1) [] cs with
      | none => rfl
      | some y =>
        simp only [Option.bind_eq_bind, Option.bind_some]
        cases readLines fuel y.2.2 <;> rfl

theorem Gives.blank {cs rest : List Char} {b : RawBlank}
    {lines : Option (List (List Char × List Lexeme))} (h : Gives rest lines)
    (hblank : takeBlank cs = some (some (b, rest))) : Gives cs lines := by
  intro fuel hfuel
  obtain ⟨-, -, -, hlength⟩ := takeBlank_eq hblank
  rw [← h fuel (by omega)]
  obtain ⟨n, rfl⟩ := Nat.exists_eq_succ_of_ne_zero (n := fuel) (by omega)
  obtain ⟨k, hk⟩ := Nat.exists_eq_succ_of_ne_zero (n := cs.length) (by omega)
  rw [Nat.succ_eq_add_one, readLines_succ, readLines_succ, hk, takeBlanks, hblank,
    ← takeBlanks_eq (n := k) (by omega) le_rfl]
  simp only [Option.bind_eq_bind, Option.bind_some]
  cases takeBlanks k rest with
  | none => rfl
  | some x => exact readAfter_cons n b x.1 x.2

/-- The start of a line is no blank line. -/
theorem takeBlanks_line {margin : List Char} {c : Char} (hmargin : ∀ c ∈ margin, isSpace c = true)
    (hc : startsLexeme c = true) (r : List Char) :
    takeGap false false (margin ++ c :: r) = some (margin, c :: r) ∧
      takeBlanks (margin ++ c :: r).length (margin ++ c :: r) = some ([], margin ++ c :: r) := by
  obtain ⟨-, hhash, hline, -⟩ := startsLexeme_spec hc
  have htake : takeGap false false (margin ++ c :: r) = some (margin, c :: r) :=
    takeGap_append (.of_spaces hmargin _) (.of_startsLexeme hc _)
  have hblank : takeBlank (margin ++ c :: r) = some none := by
    simp [takeBlank, htake, takeComment_cons hhash, takeLineEnd_cons hline]
  obtain ⟨k, hk⟩ := Nat.exists_eq_succ_of_ne_zero (n := (margin ++ c :: r).length) (by simp)
  exact ⟨htake, by simp [hk, takeBlanks, hblank]⟩

theorem readLines_line {margin r : List Char} {l : Lexeme} {ls : List Lexeme}
    (hmargin : ∀ c ∈ margin, isSpace c = true) (hgap : l.gap = []) (hlexed : Lexed [] (l :: ls))
    (fuel : Nat) {cs : List Char} (hcs : cs = margin ++ spellAll (l :: ls) ++ r) :
    cs ≠ [] ∧ (∃ rest, takeGap false false cs = some (margin, rest)) ∧
      readLines (fuel + 1) cs = readAfter fuel [] cs := by
  obtain ⟨⟨c, s, hs, hc⟩, -, -⟩ := hlexed.first
  obtain ⟨more, rfl⟩ : ∃ more, cs = margin ++ (c :: more) :=
    ⟨s ++ spellAll ls ++ r, by simp [hcs, hgap, hs]⟩
  obtain ⟨htake, hblanks⟩ := takeBlanks_line hmargin hc more
  refine ⟨by simp, ⟨_, htake⟩, ?_⟩
  rw [readLines_succ, hblanks, Option.bind_some]

theorem Gives.line {margin t e rest : List Char} {l : Lexeme} {ls : List Lexeme}
    {lines : Option (List (List Char × List Lexeme))} (h : Gives rest lines)
    (hmargin : ∀ c ∈ margin, isSpace c = true) (hgap : l.gap = []) (hlexed : Lexed [] (l :: ls))
    (hcloses : Closes t e) (hparted : Parted e rest) :
    Gives (margin ++ spellAll (l :: ls) ++ (t ++ (e ++ rest)))
      (lines.map ((margin, l :: ls) :: ·)) := by
  intro fuel hfuel
  obtain ⟨n, rfl⟩ := Nat.exists_eq_succ_of_ne_zero (Nat.ne_of_gt (Nat.zero_lt_of_lt hfuel))
  generalize hcs : margin ++ spellAll (l :: ls) ++ (t ++ (e ++ rest)) = cs at hfuel
  obtain ⟨hne, ⟨after, htake⟩, hread⟩ := readLines_line hmargin hgap hlexed n hcs.symm
  obtain ⟨tail, htail⟩ : ∃ tail, readLine (cs.length + 1) [] cs =
      some ({ l with gap := margin } :: ls, tail, rest) := by
    have hspell : margin ++ spellAll (l :: ls) = spellAll ({ l with gap := margin } :: ls) := by
      simp [hgap]
    rw [← hcs, hspell]
    refine (hlexed.regap hmargin).readLine hcloses hparted ?_
    simp only [List.length_append]
    omega
  have hrest := h n (by
    have hlength := congrArg List.length hcs
    simp only [List.length_append] at hlength
    have hpos := List.length_pos_iff.mpr (hlexed.spellAll_ne_nil (List.cons_ne_nil _ _))
    omega)
  have hplain : '\\' ∉ margin := fun hc => absurd (hmargin _ hc) (by decide)
  have hl : { l with gap := [] } = l := by rw [← hgap]
  rw [Nat.succ_eq_add_one, hread]
  cases hmore : readLines n rest with
  | none =>
    rw [hmore] at hrest
    obtain rfl := Option.map_eq_none_iff.mp hrest.symm
    simp [readAfter, hne, htake, htail, hmore]
  | some x =>
    rw [hmore] at hrest
    obtain ⟨found, rfl, hfound⟩ := Option.map_eq_some_iff.mp hrest.symm
    simp [readAfter, hne, htake, htail, hmore, hplain, hl, lineKeys, hfound]

/-- What closes a line does not start with a line end. -/
theorem Closes.ne_lineFeed {t e s : List Char} (h : Closes t e) : t ≠ '\n' :: s := by
  rintro rfl
  obtain ⟨g, comment, ht, hcomment, hgap⟩ := h
  cases hgap with
  | nil => rcases hcomment with rfl | ⟨body, rfl, -⟩ <;> cases ht
  | space hc _ =>
    obtain ⟨rfl, -⟩ := List.cons.inj ht
    exact absurd hc (by decide)
  | joinedPair | joined => cases ht

theorem line_ne_lineFeed {margin s r : List Char} {l : Lexeme} {ls : List Lexeme}
    (hmargin : ∀ c ∈ margin, isSpace c = true) (hgap : l.gap = []) (hlexed : Lexed [] (l :: ls)) :
    margin ++ spellAll (l :: ls) ++ r ≠ '\n' :: s := by
  intro h
  cases margin with
  | nil =>
    obtain ⟨⟨c, t, ht, hc⟩, -⟩ := hlexed.first
    simp only [spellAll_cons, hgap, ht, List.nil_append, List.cons_append] at h
    obtain ⟨rfl, -⟩ := List.cons.inj h
    exact absurd hc (by decide)
  | cons c margin =>
    obtain ⟨rfl, -⟩ := List.cons.inj h
    exact absurd (hmargin _ (List.mem_cons_self ..)) (by decide)

/-- A row that starts with a line feed holds nothing else. -/
theorem Reads.of_lineFeed {rows : List Row} {lines : List (List Char × List Lexeme)}
    {x : List Char} (h : Reads rows lines) (hx : x.head? ≠ some '\n')
    (hhead : (rowsText rows ++ x).head? = some '\n') : ∃ more, rows = ([], ['\n']) :: more := by
  obtain ⟨rest, hrest⟩ := List.head?_eq_some_iff.mp hhead
  cases h with
  | nil => exact absurd hhead hx
  | @blank t e rows lines hcloses hend hrows =>
    cases t with
    | nil =>
      refine ⟨rows, ?_⟩
      rcases hend with rfl | rfl | rfl
      · rfl
      all_goals simp at hrest
    | cons c t =>
      obtain ⟨rfl, -⟩ := List.cons.inj hrest
      exact absurd rfl hcloses.ne_lineFeed
  | @line margin t e l ls rows lines hmargin hgap hlexed hcloses hend hrows =>
    rw [rowsText_cons, List.append_assoc (margin ++ _), List.append_assoc (margin ++ _)] at hrest
    exact absurd hrest (line_ne_lineFeed hmargin hgap hlexed)

/-- The line end that is read after a row: its own, or one with the line feed of the next row. -/
theorem Reads.parted {t e x : List Char} {rows : List Row}
    {lines : List (List Char × List Lexeme)} {all : Option (List (List Char × List Lexeme))}
    (h : Reads rows lines) (hx : x.head? ≠ some '\n') (hcloses : Closes t e) (hend : IsLineEnd e)
    (hgives : Gives (rowsText rows ++ x) all)
    (hmore : ∀ more, rows = ([], ['\n']) :: more → Gives (rowsText more ++ x) all) :
    ∃ e' rest, e ++ (rowsText rows ++ x) = e' ++ rest ∧ e' ≠ [] ∧ Closes t e' ∧ Parted e' rest ∧
      Gives rest all := by
  by_cases hpair : e = ['\r'] ∧ ∃ more, rows = ([], ['\n']) :: more
  · obtain ⟨rfl, more, rfl⟩ := hpair
    exact ⟨['\r', '\n'], rowsText more ++ x, rfl, by simp, hcloses.extend ['\n'],
      .inr ⟨.inr (.inr rfl), fun h => absurd h (by decide)⟩, hmore more rfl⟩
  · have hne : e ≠ [] := by rcases hend with rfl | rfl | rfl <;> simp
    refine ⟨e, _, rfl, hne, hcloses, .inr ⟨hend, fun he hhead => hpair ⟨he, ?_⟩⟩, hgives⟩
    exact h.of_lineFeed hx hhead

/-- Rows are read before any text that does not start with a line feed. -/
theorem Reads.gives {rows : List Row} {lines : List (List Char × List Lexeme)}
    {more : Option (List (List Char × List Lexeme))} {x : List Char} (h : Reads rows lines)
    (hx : Gives x more) (hhead : x.head? ≠ some '\n') :
    Gives (rowsText rows ++ x) (more.map (lines ++ ·)) := by
  -- A line feed that ends an empty row may be read with the row before it.
  have hboth : Gives (rowsText rows ++ x) (more.map (lines ++ ·)) ∧
      ∀ others, rows = ([], ['\n']) :: others →
        Gives (rowsText others ++ x) (more.map (lines ++ ·)) := by
    induction h with
    | nil => exact ⟨by simpa using hx, by simp⟩
    | @blank t e rows lines hcloses hend hrows ih =>
      refine ⟨?_, by rintro _ ⟨⟩; exact ih.1⟩
      obtain ⟨e', rest, heq, hne, hcloses, hparted, hgives⟩ :=
        hrows.parted hhead hcloses hend ih.1 ih.2
      obtain ⟨b, hb⟩ := takeBlank_of_closes hcloses hparted (by simp [hne])
      rw [rowsText_cons, List.append_assoc, List.append_assoc, heq]
      exact hgives.blank hb
    | @line margin t e l ls rows lines hmargin hgap hlexed hcloses hend hrows ih =>
      constructor
      · obtain ⟨e', rest, heq, -, hcloses, hparted, hgives⟩ :=
          hrows.parted hhead hcloses hend ih.1 ih.2
        have htext : rowsText ((margin ++ spellAll (l :: ls) ++ t, e) :: rows) ++ x =
            margin ++ spellAll (l :: ls) ++ (t ++ (e' ++ rest)) := by
          rw [← heq]
          simp
        rw [htext]
        simpa [Function.comp_def] using hgives.line hmargin hgap hlexed hcloses hparted
      · intro others hothers
        obtain ⟨hrow, -⟩ := List.cons.inj hothers
        have htext : margin ++ spellAll (l :: ls) ++ t = [] := (Prod.mk.inj hrow).1
        simp only [List.append_eq_nil_iff] at htext
        exact absurd htext.1.2 (hlexed.spellAll_ne_nil (List.cons_ne_nil _ _))
  exact hboth.1

theorem Reads.append {rows rows' : List Row} {lines lines' : List (List Char × List Lexeme)}
    (h : Reads rows lines) (h' : Reads rows' lines') : Reads (rows ++ rows') (lines ++ lines') := by
  induction h with
  | nil => exact h'
  | blank hcloses hend _ ih => exact .blank hcloses hend ih
  | line hmargin hgap hlexed hcloses hend _ ih => exact .line hmargin hgap hlexed hcloses hend ih

theorem Reads.split {rows rows' : List Row} {all : List (List Char × List Lexeme)}
    (h : Reads (rows ++ rows') all) :
    ∃ lines lines', all = lines ++ lines' ∧ Reads rows lines ∧ Reads rows' lines' := by
  induction rows generalizing all with
  | nil => exact ⟨[], all, rfl, .nil, h⟩
  | cons row rows ih =>
    cases h with
    | blank hcloses hend hrows =>
      obtain ⟨lines, lines', rfl, hone, htwo⟩ := ih hrows
      exact ⟨lines, lines', rfl, .blank hcloses hend hone, htwo⟩
    | line hmargin hgap hlexed hcloses hend hrows =>
      obtain ⟨lines, lines', rfl, hone, htwo⟩ := ih hrows
      exact ⟨_ :: lines, lines', rfl, .line hmargin hgap hlexed hcloses hend hone, htwo⟩

/-! ### A text without a line end at its end -/

theorem not_endsInLine_cons {c : Char} {t : List Char} (ht : t ≠ [])
    (h : ¬ EndsInLine (c :: t)) : ¬ EndsInLine t :=
  fun hends => h (hends.append ht [c])

theorem EndsInLine.of_append {s t : List Char} (h : EndsInLine (s ++ t)) : EndsInLine t := by
  intro c hc
  exact h c (by rw [List.getLast?_append, hc]; rfl)

theorem EndsInLine.tail {c : Char} {t : List Char} (h : EndsInLine (c :: t)) : EndsInLine t :=
  .of_append (s := [c]) h

theorem Gapped.to_nil {g r : List Char} (h : Gapped g r) (hends : EndsInLine g) : Gapped g [] := by
  induction h with
  | nil => exact .nil
  | space hc _ ih => exact .space hc (ih hends.tail)
  | @joinedPair g r _ _ ih =>
    have hg : g ≠ [] := by
      rintro rfl
      exact absurd (hends '\n' rfl) (by decide)
    exact .joinedPair (by simpa using hg) (ih hends.tail.tail.tail)
  | @joined c g r hc _ hpair _ ih =>
    have hg : g ≠ [] := by
      rintro rfl
      simpa [hc] using hends c rfl
    obtain ⟨a, s, rfl⟩ := List.exists_cons_of_ne_nil hg
    exact .joined hc (by simp) (by simpa using hpair) (ih hends.tail.tail)

theorem Gapped.takeGap_eq_none {g r : List Char} (h : Gapped g r) (hends : ¬ EndsInLine g) :
    Lexeme.takeGap false false g = none := by
  induction h with
  | nil => exact absurd (EndsInLine.of_forall (by simp)) hends
  | @space c g r hc _ ih =>
    obtain ⟨hbackslash, hline, -⟩ := isSpace_spec hc
    have hg : g ≠ [] := by
      rintro rfl
      exact hends (.of_forall (by simpa using hline))
    rw [takeGap_cons hbackslash, ih (not_endsInLine_cons hg hends)]
    simp [hline, hc, keep]
  | @joinedPair g r _ _ ih =>
    by_cases hg : g = []
    · subst hg
      rfl
    · have hg' := ih (not_endsInLine_cons hg (not_endsInLine_cons (by simp)
        (not_endsInLine_cons (by simp) hends)))
      simp [takeGap.eq_2, hg', keep]
  | @joined c g r hc _ hpair _ ih =>
    by_cases hg : g = []
    · subst hg
      simp [Lexeme.takeGap, hc]
    · have hg' := ih (not_endsInLine_cons hg (not_endsInLine_cons (by simp) hends))
      obtain ⟨a, s, rfl⟩ := List.exists_cons_of_ne_nil hg
      rw [takeGap.eq_3 _ _ _ _ ?_, hg']
      · simp [hc, keep]
      · rintro s' rfl hs
        obtain ⟨rfl, -⟩ := List.cons.inj hs
        exact hpair rfl rfl

/-- Before the end of the text a line may end unless a backslash joins it to a next one. -/
theorem Closes.of_end {t e : List Char} (h : Closes t e) :
    EndsInLine t ∧ Closes t [] ∨ ¬ EndsInLine t ∧ Lexeme.takeGap false false t = none := by
  obtain ⟨g, comment, rfl, hcomment, hgap⟩ := h
  rcases hcomment with rfl | ⟨body, rfl, hbody⟩
  · rw [List.append_nil]
    by_cases hends : EndsInLine g
    · exact .inl ⟨hends, g, [], by simp, .inl rfl, hgap.to_nil hends⟩
    · exact .inr ⟨hends, hgap.takeGap_eq_none hends⟩
  · have hends : EndsInLine ('#' :: body) := .of_forall (by simpa [isLineEnd] using hbody)
    refine .inl ⟨hends.append (by simp) g, g, '#' :: body, rfl, .inr ⟨body, rfl, hbody⟩, ?_⟩
    exact hgap.change (fun _ => by simp) (by simp)

theorem ahead_eq_nil_of_closes {t e : List Char} (h : Closes t e) (he : IsLineEnd e) :
    ahead t = [] := by
  have hahead := ahead_closes h (.inr ⟨he, fun _ => by simp⟩ : Parted e [])
  cases t with
  | nil => rfl
  | cons c t =>
    rw [List.cons_append, ahead_cons] at hahead
    rw [ahead_cons]
    split at hahead
    · next hc => rw [if_pos hc]
    · cases hahead

theorem Lexed.readLine_eq_none {stack : List Frame} {lexemes : List Lexeme} {t : List Char}
    (h : Lexed stack lexemes) (ht : Lexeme.step [] t = none) (hahead : ahead t = []) (fuel : Nat) :
    Lexeme.readLine fuel stack (spellAll lexemes ++ t) = none := by
  induction h generalizing fuel with
  | nil => cases fuel <;> simp [Lexeme.readLine, ht]
  | @step stack stack' ls others hstep hne _ ih =>
    have hnext := hstep _ (ahead_append_of_nil hahead (spellAll others))
    cases fuel <;> simp [Lexeme.readLine, hnext, ih]

theorem gives_none_of_blank {t : List Char} (hne : t ≠ []) (ht : takeGap false false t = none) :
    Gives t none := by
  intro fuel hfuel
  obtain ⟨n, rfl⟩ := Nat.exists_eq_succ_of_ne_zero (n := fuel) (by omega)
  obtain ⟨k, hk⟩ := Nat.exists_eq_succ_of_ne_zero (mt List.length_eq_zero_iff.mp hne)
  simp [readLines_succ, hk, takeBlanks, takeBlank, ht]

theorem gives_none_of_line {margin t : List Char} {l : Lexeme} {ls : List Lexeme}
    (hmargin : ∀ c ∈ margin, isSpace c = true) (hgap : l.gap = []) (hlexed : Lexed [] (l :: ls))
    (ht : takeGap false false t = none) (hahead : ahead t = []) :
    Gives (margin ++ spellAll (l :: ls) ++ t) none := by
  intro fuel hfuel
  obtain ⟨n, rfl⟩ := Nat.exists_eq_succ_of_ne_zero (n := fuel) (by omega)
  obtain ⟨hne, ⟨rest, htake⟩, hread⟩ := readLines_line hmargin hgap hlexed n rfl
  have hspell : margin ++ spellAll (l :: ls) = spellAll ({ l with gap := margin } :: ls) := by
    simp [hgap]
  rw [Nat.succ_eq_add_one, hread, readAfter, htake, hspell,
    (hlexed.regap hmargin).readLine_eq_none (by simp [step, plainStep, ht]) hahead]
  rw [hspell] at hne
  simp only [List.isEmpty_eq_false_iff.mpr hne]
  rfl

theorem Reads.gives_open {rows : List Row} {t e : List Char}
    {lines : List (List Char × List Lexeme)} (h : Reads (rows ++ [(t, e)]) lines) :
    EndsInLine t ∧ Gives (rowsText rows ++ t) (some lines) ∨
      ¬ EndsInLine t ∧ Gives (rowsText rows ++ t) none := by
  obtain ⟨before, last, rfl, hbefore, hlast⟩ := h.split
  generalize hone : [(t, e)] = one at hlast
  cases hlast with
  | nil => cases hone
  | @blank t e rest lines hcloses hend hrest =>
    cases hone
    cases hrest
    have hhead : t.head? ≠ some '\n' := fun hhead => by
      obtain ⟨s, hs⟩ := List.head?_eq_some_iff.mp hhead
      exact hcloses.ne_lineFeed hs
    rcases hcloses.of_end with ⟨hends, hnil⟩ | ⟨hends, hnone⟩
    · refine .inl ⟨hends, ?_⟩
      have hlast : Gives t (some []) := by
        by_cases ht : t = []
        · rw [ht]
          exact gives_nil
        · obtain ⟨b, hb⟩ := takeBlank_of_closes hnil (.inl ⟨rfl, rfl⟩) (by simpa using ht)
          exact gives_nil.blank (by simpa using hb)
      exact hbefore.gives hlast hhead
    · refine .inr ⟨hends, ?_⟩
      have hne : t ≠ [] := by
        rintro rfl
        exact hends (.of_forall (by simp))
      exact hbefore.gives (gives_none_of_blank hne hnone) hhead
  | @line margin s e l ls rest lines hmargin hgap hlexed hcloses hend hrest =>
    obtain ⟨hrow, rfl⟩ := List.cons.inj hone
    obtain ⟨rfl, rfl⟩ := Prod.mk.inj hrow
    cases hrest
    have hhead : (margin ++ spellAll (l :: ls) ++ s).head? ≠ some '\n' := fun hhead => by
      obtain ⟨r, hr⟩ := List.head?_eq_some_iff.mp hhead
      exact line_ne_lineFeed hmargin hgap hlexed hr
    have hne := hlexed.spellAll_ne_nil (List.cons_ne_nil _ _)
    rcases hcloses.of_end with ⟨hends, hnil⟩ | ⟨hends, hnone⟩
    · refine .inl ⟨?_, ?_⟩
      · by_cases hs : s = []
        · subst hs
          simpa using hlexed.endsInLine.append hne margin
        · exact hends.append hs _
      · have hlast := gives_nil.line hmargin hgap hlexed hnil (.inl ⟨rfl, rfl⟩)
        exact hbefore.gives (by simpa using hlast) hhead
    · refine .inr ⟨?_, ?_⟩
      · exact fun h => hends h.of_append
      · have hahead := ahead_eq_nil_of_closes hcloses hend
        exact hbefore.gives (gives_none_of_line hmargin hgap hlexed hnone hahead) hhead

/-! ### The lines of a text -/

/-- A logical line as the lexer reads it, with the blank lines before it. -/
structure Raw (line : RawLine) : Prop where
  blanks : ∀ b ∈ line.blanks, Ended b.text b.lineEnd
  indent : ∀ indent ∈ line.indent, ∀ c ∈ indent, isSpace c = true
  lexemes : ∃ l ls, line.lexemes = l :: ls ∧ l.gap = [] ∧ Lexed [] (l :: ls)
  tail : Ended (line.tail.blank ++ line.tail.comment) line.tail.lineEnd
  comment : IsComment line.tail.comment
  blank : ∃ r, Gapped line.tail.blank r

theorem takeBlanks_spec {n : Nat} {cs rest : List Char} {blanks : List RawBlank}
    (h : takeBlanks n cs = some (blanks, rest)) (hn : cs.length ≤ n) :
    (∀ b ∈ blanks, Ended b.text b.lineEnd) ∧ (rest = [] ∨ takeBlank rest = some none) := by
  induction n generalizing cs blanks with
  | zero =>
    cases h
    exact ⟨by simp, .inl (List.length_eq_zero_iff.mp (by omega))⟩
  | succ n ih =>
    obtain ⟨next, hnext, h⟩ := Option.bind_eq_some_iff.mp h
    cases next with
    | none =>
      cases h
      exact ⟨by simp, .inr hnext⟩
    | some x =>
      obtain ⟨b, cs'⟩ := x
      obtain ⟨⟨more, rest'⟩, hmore, h⟩ := Option.bind_eq_some_iff.mp h
      cases h
      obtain ⟨-, hb, -, hlength⟩ := takeBlank_eq hnext
      obtain ⟨hall, hrest⟩ := ih hmore (by omega)
      exact ⟨List.forall_mem_cons.mpr ⟨hb, hall⟩, hrest⟩

theorem Gapped.isSpace {g r : List Char} (h : Gapped g r) (hg : '\\' ∉ g) :
    ∀ c ∈ g, isSpace c = true := by
  induction h with
  | nil => simp
  | space hc _ ih =>
    exact List.forall_mem_cons.mpr ⟨hc, ih fun hmem => hg (List.mem_cons_of_mem _ hmem)⟩
  | joinedPair | joined => exact absurd (List.mem_cons_self ..) hg

/-- Where no blank line starts, a lexeme does. -/
theorem readLine_ne_nil {fuel : Nat} {cs rest : List Char} {lexemes : List Lexeme}
    {tail : RawTail} (h : readLine fuel [] cs = some (lexemes, tail, rest)) (hcs : cs ≠ [])
    (hblank : takeBlank cs = some none) : lexemes ≠ [] := by
  rintro rfl
  obtain ⟨rfl, -, hended, hparted, -⟩ := readLine_lexed h
  rw [spellAll_nil, List.nil_append] at hblank hcs
  by_cases hne : tail.blank ++ tail.comment ++ ending tail.lineEnd = []
  · obtain ⟨ht, he⟩ := List.append_eq_nil_iff.mp hne
    rcases hparted with ⟨-, rfl⟩ | ⟨hend, -⟩
    · exact hcs (by rw [ht, he]; rfl)
    · rcases hend with hend | hend | hend <;> simp [he] at hend
  · obtain ⟨b, hb⟩ := takeBlank_of_closes hended.closes hparted hne
    rw [hb] at hblank
    cases hblank

theorem readLines_raw {fuel : Nat} {cs : List Char} {lines : List RawLine} {last : List RawBlank}
    (h : readLines fuel cs = some (lines, last)) :
    (∀ line ∈ lines, Raw line) ∧ ∀ b ∈ last, Ended b.text b.lineEnd := by
  induction fuel generalizing cs lines with
  | zero => cases h
  | succ fuel ih =>
    rw [readLines_succ] at h
    obtain ⟨⟨blanks, cs'⟩, hblanks, h⟩ := Option.bind_eq_some_iff.mp h
    obtain ⟨hall, hnext⟩ := takeBlanks_spec hblanks le_rfl
    unfold readAfter at h
    split at h
    · cases h
      exact ⟨by simp, hall⟩
    · next hcs =>
      replace hcs : cs' ≠ [] := by simpa using hcs
      obtain ⟨⟨indent, after⟩, hindent, h⟩ := Option.bind_eq_some_iff.mp h
      obtain ⟨⟨lexemes, tail, rest⟩, hread, h⟩ := Option.bind_eq_some_iff.mp h
      obtain ⟨⟨more, last'⟩, hmore, h⟩ := Option.bind_eq_some_iff.mp h
      obtain ⟨-, hlexed, hended, -, hcomment, hblank⟩ := readLine_lexed hread
      obtain ⟨l, ls, rfl⟩ := List.exists_cons_of_ne_nil
        (readLine_ne_nil hread hcs (hnext.resolve_left hcs))
      cases h
      obtain ⟨hlines, hlast⟩ := ih hmore
      refine ⟨List.forall_mem_cons.mpr ⟨⟨hall, ?_, ?_, hended, hcomment, hblank⟩, hlines⟩, hlast⟩
      · intro i hi
        obtain ⟨hplain, rfl⟩ : '\\' ∉ indent ∧ indent = i := by simpa using hi
        exact (takeGap_gapped rfl rfl hindent).2.isSpace hplain
      · exact ⟨_, _, rfl, rfl, hlexed.regap (by simp)⟩

end LocaleRegistrar.Python.Lexeme
