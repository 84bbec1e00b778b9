import LocaleRegistrar.Proofs.Spelling.Statement

/-!
Lines are written as they were read: what is read from a logical line is written as the line's
tokens, between the same blank lines and with the same end.
-/

namespace LocaleRegistrar.Python

/-- The characters of what is written. -/
def chars (written : List String) : List Char := written.flatMap String.toList

@[simp] theorem chars_nil : chars [] = [] := rfl

@[simp] theorem chars_cons (s : String) (rest : List String) :
    chars (s :: rest) = s.toList ++ chars rest := rfl

@[simp] theorem chars_append (a b : List String) : chars (a ++ b) = chars a ++ chars b :=
  List.flatMap_append

/-- The text of pieces in a context. -/
def piecesText (c : Context) (ps : Pieces) : List Char := chars (ps.map (·.write c))

@[simp] theorem piecesText_nil (c : Context) : piecesText c [] = [] := rfl

@[simp] theorem piecesText_cons (c : Context) (p : Piece) (ps : Pieces) :
    piecesText c (p :: ps) = (p.write c).toList ++ piecesText c ps := rfl

@[simp] theorem piecesText_append (c : Context) (ps qs : Pieces) :
    piecesText c (ps ++ qs) = piecesText c ps ++ piecesText c qs := by
  simp [piecesText]

@[simp] theorem Piece.write_text (c : Context) (s : String) : (Piece.text s).write c = s := rfl

@[simp] theorem chars_tree_write (c : Context) (t : Tree) :
    chars (t.write c) = piecesText c t.pieces := by
  rw [Tree.write_eq, piecesText]

@[simp] theorem chars_tree_writeAll (c : Context) (ts : List Tree) :
    chars (Tree.writeAll c ts) = piecesText c (Tree.piecesAll ts) := by
  rw [Tree.writeAll_eq, piecesText]

/-! ### Line ends relative to the usual one -/

theorem LineEnd.write_relativeTo (c : Context) (e : LineEnd) :
    (e.relativeTo c.usual.lineEnd).write c = e.write c := by
  cases e with
  | usual => rfl
  | literal text => by_cases h : text = c.usual.lineEnd <;> simp [LineEnd.relativeTo, h, LineEnd.write]

theorem Piece.write_relativeTo (c : Context) (p : Piece) :
    (p.relativeTo c.usual.lineEnd).write c = p.write c := by
  cases p with
  | lineEnd e => exact LineEnd.write_relativeTo c e
  | text s => rfl
  | margin => rfl

theorem piecesText_relativeTo (c : Context) (ps : Pieces) :
    piecesText c (ps.map (·.relativeTo c.usual.lineEnd)) = piecesText c ps := by
  simp [piecesText, Function.comp_def, Piece.write_relativeTo]

mutual

theorem Tree.pieces_relativeTo (usual : String) :
    (t : Tree) → (t.relativeTo usual).pieces = t.pieces.map (·.relativeTo usual)
  | .piece p => by simp [Tree.relativeTo, Tree.pieces]
  | .node _ opening parts closing => by
    simp [Tree.relativeTo, Tree.pieces, Tree.piecesAll_relativeToAll usual parts]

theorem Tree.piecesAll_relativeToAll (usual : String) :
    (ts : List Tree) →
      Tree.piecesAll (Tree.relativeToAll usual ts) = (Tree.piecesAll ts).map (·.relativeTo usual)
  | [] => by simp [Tree.relativeToAll]
  | t :: rest => by
    simp [Tree.relativeToAll, Tree.pieces_relativeTo usual t,
      Tree.piecesAll_relativeToAll usual rest]

end

theorem Small.writeAll_cons (c : Context) (s : Small) {rest : List Small} (h : rest ≠ []) :
    Small.writeAll c (s :: rest) = s.write c false ++ Small.writeAll c rest := by
  obtain ⟨u, others, rfl⟩ := List.exists_cons_of_ne_nil h
  rfl

/-- The characters of a line and of its line end. -/
abbrev Row := List Char × List Char

def WrittenLine.row (l : WrittenLine) : Row := (chars l.text, l.lineEnd.toList)

@[simp] theorem Tail.row_write (c : Context) (start : List String) (t : Tail) :
    (t.write c start).row =
      (chars start ++ (t.blank.toList ++ t.comment.toList), (t.lineEnd.write c).toList) := by
  simp [Tail.write, WrittenLine.row]

/-- The blank lines as rows. -/
def blankRows (c : Context) (blanks : List BlankLine) : List Row :=
  blanks.map fun b => (b.write c).row

open Grammar in
/-- The rows of a logical line and of the blank lines before it, in the context of its block. -/
def LogicalLine.rows (c : Context) (l : LogicalLine) : List Row :=
  blankRows c l.leading ++
    [(c.margin.toList ++ piecesText c (bare l.tokens) ++ l.tail.blank.toList ++
      l.tail.comment.toList, (l.tail.lineEnd.write c).toList)]

mutual

/-- The rows of a logical line and of the block that it heads. -/
def Item.rows (c : Context) : Item → List Row
  | .plain line => line.rows c
  | .headed line indent items footer =>
    let inner := { c with margin := c.margin ++ indent }
    line.rows c ++ Item.rowsAll inner items ++ blankRows inner footer

def Item.rowsAll (c : Context) : List Item → List Row
  | [] => []
  | item :: rest => item.rows c ++ Item.rowsAll c rest

end

namespace Grammar

/-! ### Small statements -/

theorem bare_ungapped (s : List Token) : bare (ungapped s) = bare s := by
  cases s <;> rfl

theorem readSmall_pieces {tokens : List Token} {t : Tree} (h : readSmall tokens = some t) :
    t.pieces = bare tokens := by
  rw [← bare_ungapped]
  exact (onTokens_spells (fun r hr => Rules.spells_small hr) h).symm

/-- Tokens that follow semicolons, with the semicolons. -/
def afterSemicolons (more : List (Token × List Token)) : Pieces :=
  more.flatMap fun (semicolon, next) => semicolon.gap ++ [.text ";"] ++ spelled next

theorem spelled_separate (tokens : List Token) :
    spelled tokens = spelled (separate tokens).1 ++ afterSemicolons (separate tokens).2 := by
  induction tokens with
  | nil => rfl
  | cons t rest ih =>
    have hcons : spelled (t :: rest) = t.gap ++ [.text t.text] ++ spelled rest := by
      simp [spelled, Token.pieces]
    rw [hcons, ih, separate]
    by_cases h : t.is ";" = true
    · simp [h, spelled, afterSemicolons, text_of_is h]
    · simp [h, spelled, Token.pieces]

theorem bare_separate {tokens : List Token} (h : (separate tokens).1 ≠ []) :
    bare tokens = bare (separate tokens).1 ++ afterSemicolons (separate tokens).2 := by
  cases tokens with
  | nil => exact absurd rfl h
  | cons t rest =>
    rw [separate] at h ⊢
    by_cases ht : t.is ";" = true
    · simp [ht] at h
    · simp [ht, bare_cons, spelled_separate rest]

theorem readSmall_ne_nil {tokens : List Token} {t : Tree} (h : readSmall tokens = some t) :
    tokens ≠ [] := by
  rintro rfl
  cases h

/-- The first statement of a line is read from the tokens before the first semicolon. -/
theorem smallsFrom_head {own : List Token} {more : List (Token × List Token)} {body : List Small}
    (h : smallsFrom own more = some body) :
    ∃ t semicolon rest, readSmall own = some t ∧ body = ⟨t, semicolon⟩ :: rest := by
  unfold smallsFrom at h
  split at h
  · obtain ⟨t, ht, hb⟩ := Option.bind_eq_some_iff.mp h
    exact ⟨t, _, _, ht, (Option.some.inj hb).symm⟩
  · obtain ⟨t, ht, hb⟩ := Option.bind_eq_some_iff.mp h
    exact ⟨t, _, _, ht, (Option.some.inj hb).symm⟩
  · obtain ⟨t, ht, hb⟩ := Option.bind_eq_some_iff.mp h
    obtain ⟨rest, hrest, hb⟩ := Option.bind_eq_some_iff.mp hb
    exact ⟨t, _, _, ht, (Option.some.inj hb).symm⟩

theorem smallsFrom_text {own : List Token} {more : List (Token × List Token)} {body : List Small}
    (c : Context) (h : smallsFrom own more = some body) :
    chars (Small.writeAll c body) = piecesText c (bare own ++ afterSemicolons more) := by
  fun_induction smallsFrom own more generalizing body with
  | case1 own =>
    obtain ⟨t, ht, rfl⟩ : ∃ t, readSmall own = some t ∧ [⟨t, none⟩] = body := by
      simpa [Option.bind_eq_some_iff] using h
    simp [Small.writeAll, Small.write, readSmall_pieces ht, afterSemicolons]
  | case2 own semicolon =>
    obtain ⟨t, ht, rfl⟩ : ∃ t, readSmall own = some t ∧
        [⟨t, some (semicolon.gap ++ [.text ";"])⟩] = body := by
      simpa [Option.bind_eq_some_iff] using h
    simp [Small.writeAll, Small.write, readSmall_pieces ht, afterSemicolons, spelled, piecesText]
  | case3 own semicolon next more hmore ih =>
    obtain ⟨t, ht, rest, hrest, rfl⟩ : ∃ t, readSmall own = some t ∧ ∃ rest,
        smallsFrom next more = some rest ∧
        ⟨t, some (semicolon.gap ++ [.text ";"] ++ headGap next)⟩ :: rest = body := by
      simpa [Option.bind_eq_some_iff] using h
    have hwrite := ih hrest
    obtain ⟨u, separator, others, -, rfl⟩ := smallsFrom_head hrest
    rw [Small.writeAll, chars_append, hwrite]
    · simp [Small.write, readSmall_pieces ht, afterSemicolons, spelled_eq next, piecesText]
    · simp

theorem readSmalls_text {tokens : List Token} {body : List Small} (c : Context)
    (h : readSmalls tokens = some body) :
    chars (Small.writeAll c body) = piecesText c (bare tokens) := by
  obtain ⟨t, semicolon, rest, ht, -⟩ := smallsFrom_head h
  rw [bare_separate (readSmall_ne_nil ht)]
  exact smallsFrom_text c h

theorem length_endLine (tail : Tail) (body : List Small) :
    (endLine tail body).1.length = body.length := by
  fun_induction endLine tail body with
  | case1 | case2 | case3 => rfl
  | case4 s rest hrest others tail' he ih => simpa [he] using ih

/-- Handing the blanks at the end of a line to its last semicolon keeps the text. -/
theorem endLine_row (c : Context) (start : List String) (tail : Tail) (body : List Small) :
    ((endLine tail body).2.write c (start ++ Small.writeAll c (endLine tail body).1)).row =
      (tail.write c (start ++ Small.writeAll c body)).row := by
  fun_induction endLine tail body generalizing start with
  | case1 => rfl
  | case2 s pieces h =>
    simp [Small.writeAll, Small.write, h]
  | case3 s h => rfl
  | case4 s rest hrest others tail' he ih =>
    have hlength := length_endLine tail rest
    rw [he] at ih hlength
    have hne : rest ≠ [] := by
      rintro rfl
      simp at hrest
    have hothers : others ≠ [] := by
      rintro rfl
      exact hne (List.length_eq_zero_iff.mp hlength.symm)
    rw [Small.writeAll_cons c s hne, Small.writeAll_cons c s hothers, ← List.append_assoc,
      ← List.append_assoc]
    exact ih _

theorem smallsRelativeTo_text (c : Context) (body : List Small) :
    chars (Small.writeAll c (smallsRelativeTo c.usual.lineEnd body)) =
      chars (Small.writeAll c body) := by
  have hsmall (last : Bool) (s : Small) :
      chars (Small.write c last { s with content := s.content.relativeTo c.usual.lineEnd }) =
        chars (s.write c last) := by
    simp [Small.write, Tree.pieces_relativeTo, piecesText_relativeTo]
  induction body with
  | nil => rfl
  | cons s rest ih =>
    cases rest with
    | nil => exact hsmall true s
    | cons u others =>
      simp only [smallsRelativeTo, List.map_cons, Small.writeAll, chars_append, hsmall] at ih ⊢
      rw [ih]

/-! ### Logical lines -/

/-- Writes a reading as the statement does that it becomes part of. -/
def Reading.write (c : Context) : Reading → List WrittenLine
  | .simple line => line.write c
  | .decorator d => d.write c
  | .clause leading header suite =>
    leading.map (·.write c) ++
      suite.write c ([c.margin, header.lead, header.keyword] ++ Tree.writeAll c header.parts)

@[simp] theorem Header.lead_relativeTo (usual : String) (h : Header) :
    (h.relativeTo usual).lead = h.lead := rfl

@[simp] theorem Header.keyword_relativeTo (usual : String) (h : Header) :
    (h.relativeTo usual).keyword = h.keyword := rfl

theorem Header.partsText_relativeTo (c : Context) (h : Header) :
    piecesText c (Tree.piecesAll (h.relativeTo c.usual.lineEnd).parts) =
      piecesText c (Tree.piecesAll h.parts) := by
  rw [Header.relativeTo, Tree.piecesAll_relativeToAll, piecesText_relativeTo]

/-- A line of small statements is written as its tokens, after `start`. -/
theorem endLine_smalls_row {tokens : List Token} {body : List Small} (c : Context)
    (h : readSmalls tokens = some body) (start : List String) (tail : Tail) :
    (let ended := endLine tail (smallsRelativeTo c.usual.lineEnd body)
     (ended.2.write c (start ++ Small.writeAll c ended.1)).row) =
      (chars start ++ piecesText c (bare tokens) ++ tail.blank.toList ++ tail.comment.toList,
        (tail.lineEnd.write c).toList) := by
  rw [endLine_row]
  simp [smallsRelativeTo_text, readSmalls_text c h]

theorem readClause_rows {choices : Bool} {tokens : List Token} {content : Content} (c : Context)
    (leading : List BlankLine) (tail : Tail) (h : readClause choices tokens = some content) :
    ((content.reading c.usual.lineEnd leading tail).write c).map (·.row) =
      LogicalLine.rows c ⟨leading, tokens, tail⟩ := by
  obtain ⟨⟨header, rest⟩, hheader, h⟩ := Option.bind_eq_some_iff.mp h
  obtain ⟨body, hbody, h⟩ := Option.bind_eq_some_iff.mp h
  cases h
  have hspell := Rules.spells_header (faithful_rules _) choices false tokens _ _ hheader
  have hgap := piecesText_relativeTo c (headGap rest)
  rw [piecesText, List.map_map] at hgap
  simp only [Content.reading, Reading.write, Suite.write, List.map_append, List.map_cons,
    List.map_nil, endLine_smalls_row c hbody]
  simp [LogicalLine.rows, blankRows, hspell, Header.pieces, Header.partsText_relativeTo, spelled_eq,
    hgap]

theorem readContent_rows {choices : Bool} {tokens : List Token} {content : Content} (c : Context)
    (leading : List BlankLine) (tail : Tail) (h : readContent choices tokens = some content) :
    ((content.reading c.usual.lineEnd leading tail).write c).map (·.row) =
      LogicalLine.rows c ⟨leading, tokens, tail⟩ := by
  unfold readContent at h
  split at h
  · exact readClause_rows c leading tail h
  split at h
  · next body hbody =>
    cases h
    have hrow := endLine_smalls_row c hbody [c.margin] tail
    simp only [List.singleton_append] at hrow
    simp [Content.reading, Reading.write, Line.write, LogicalLine.rows, blankRows, hrow]
  · next parts hparts =>
    cases h
    have hspell := onTokens_spells (fun r hr => Rules.spells_decorator hr) hparts
    simp [Content.reading, Reading.write, Decorator.write, LogicalLine.rows, blankRows, hspell,
      Tree.piecesAll_relativeToAll, piecesText_relativeTo]
  · exact readClause_rows c leading tail h

end Grammar

end LocaleRegistrar.Python
