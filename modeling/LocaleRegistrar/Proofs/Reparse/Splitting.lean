import LocaleRegistrar.Bootstrap.Prologue
import LocaleRegistrar.Proofs.Reparse.Chunks

/-!
Splitting a line that starts with future imports. Each half stands on a line of its own, where it is
read as before, and so the lines of a split module are still joined to its statements.
-/

namespace LocaleRegistrar.Python.Grammar

open Layout (context)

/-! ### Items that stand for readings -/

/-- A sound item that is written as the reading is. -/
structure Written (u : Usual) (item : Item) (r : Reading) : Prop where
  sound : item.Sound (context u [])
  rows : item.rows (context u []) = (r.write (context u [])).map (·.row)

/-- A sound item that is written as the reading is, and that is read as one of its kind. -/
structure Stands (u : Usual) (item : Item) (r : Reading) : Prop extends Written u item r where
  read : ∃ r', readItem u false item = some r' ∧ r'.kind = r.kind

theorem rowsAll_of_written {u : Usual} {items : List Item} {readings : List Reading}
    (h : List.Forall₂ (Written u) items readings) : Item.rowsAll (context u []) items =
      (readings.flatMap (·.write (context u []))).map (·.row) := by
  induction h with
  | nil => rfl
  | cons hitem _ ih => simp [Item.rowsAll, hitem.rows, ih]

theorem sound_of_written {u : Usual} {items : List Item} {readings : List Reading}
    (h : List.Forall₂ (Written u) items readings) : ∀ item ∈ items, item.Sound (context u []) := by
  induction h with
  | nil => simp
  | cons hitem _ ih => exact List.forall_mem_cons.mpr ⟨hitem.sound, ih⟩

theorem readItems_of_stands {u : Usual} {items : List Item} {readings : List Reading}
    (h : List.Forall₂ (Stands u) items readings) : ∃ readings',
      readItems u false items = some readings' ∧
        readings'.map (·.kind) = readings.map (·.kind) := by
  induction h with
  | nil => exact ⟨[], rfl, rfl⟩
  | cons hitem _ ih =>
    obtain ⟨r, hr, hkind⟩ := hitem.read
    obtain ⟨rs, hrs, hkinds⟩ := ih
    exact ⟨r :: rs, by simp [readItems, hr, hrs], by simp [hkind, hkinds]⟩

theorem stands_of_readItem {u : Usual} {item : Item} {r : Reading}
    (hsound : item.Sound (context u [])) (h : readItem u false item = some r) : Stands u item r :=
  ⟨⟨hsound, (readItem_rows (context u []) false item r h).symm⟩, r, h, rfl⟩

/-- Small statements on a line of their own. -/
theorem stands_joinChunks {u : Usual} {cs : List (List Token)} {body : List Small}
    {leading : List BlankLine} {tail : Tail} (hne : cs ≠ [])
    (hchunks : ∀ chunk ∈ cs, Chunk [] chunk)
    (hbody : List.Forall₂ (fun chunk s => ∃ t, readSmall chunk = some t ∧
      s.content = t.relativeTo u.lineEnd) cs body)
    (hleading : ∀ b ∈ leading, b.Sound (context u [])) (htail : tail.Sound (context u [])) :
    Stands u (.plain ⟨leading, joinChunks cs, tail⟩)
      (.simple ⟨leading, Bootstrap.unseparated body, tail⟩) := by
  have hread : ∀ chunk ∈ cs, ∃ t, readSmall chunk = some t := by
    clear hne hchunks
    induction hbody with
    | nil => simp
    | cons hs _ ih =>
      obtain ⟨t, ht, -⟩ := hs
      exact List.forall_mem_cons.mpr ⟨⟨t, ht⟩, ih⟩
  have hall : ∀ chunk ∈ cs, chunk ≠ [] := fun chunk hchunk =>
    readSmall_ne_nil (hread chunk hchunk).choose_spec
  have hlined : Lined (context u []) (joinChunks cs) := by
    refine lined_joinChunks hne fun chunk hchunk => ⟨?_, hall chunk hchunk⟩
    simpa using hchunks chunk hchunk
  have htext : chars (Small.writeAll (context u []) (Bootstrap.unseparated body)) =
      piecesText (context u []) (bare (joinChunks cs)) := by
    refine writeAll_joinChunks hall ?_
    rw [Bootstrap.unseparated, List.forall₂_map_right_iff]
    refine hbody.imp fun chunk s ⟨t, ht, hs⟩ => ⟨rfl, ?_⟩
    have hrelative := piecesText_relativeTo (context u []) t.pieces
    rw [hs, Tree.pieces_relativeTo, ← readSmall_pieces ht]
    exact hrelative
  obtain ⟨smalls, hsmalls⟩ := readSmalls_joinChunks hne fun chunk hchunk =>
    ⟨(hchunks chunk hchunk).plain, hread chunk hchunk⟩
  refine ⟨⟨.plain ⟨hleading, hlined, htail⟩, ?_⟩,
    (Content.smalls smalls).reading u.lineEnd leading tail, ?_, ?_⟩
  · simp [Item.rows, LogicalLine.rows, blankRows, Reading.write, Line.write, htext]
  · simp [readItem, readContent, hsmalls]
  · rw [Content.kind_reading]
    rfl

/-! ### The end of a split line -/

theorem endLine_content (tail : Tail) (body : List Small) :
    (endLine tail body).1.map (·.content) = body.map (·.content) := by
  fun_induction endLine tail body with
  | case1 | case2 | case3 => rfl
  | case4 s rest hrest others tail' he ih => simpa [he] using ih

theorem sound_endLine {c : Context} {tail : Tail} (h : tail.Sound c) (body : List Small) :
    (endLine tail body).2.Sound c := by
  fun_induction endLine tail body with
  | case1 | case3 => exact h
  | case2 s pieces hpieces =>
    exact ⟨⟨[], _, rfl, h.comment, .nil⟩, h.lineEnd, h.comment, [], .nil⟩
  | case4 s rest hrest others tail' he ih => simpa [he] using ih

theorem sound_usualTail {u : Usual} (hu : Lexeme.IsLineEnd u.lineEnd.toList) (margin : List Char) :
    Tail.Sound (context u margin) {} :=
  ⟨⟨[], [], rfl, .inl rfl, .nil⟩, hu, .inl rfl, [], .nil⟩

/-! ### Splitting a line and joining the lines -/

/-- A reading as one or two, as `splitStatement` has it. -/
def splitReading : Reading → List Reading
  | .simple line =>
    if Bootstrap.isMixed (.simple line) then
      [.simple { leading := line.leading
                 body := Bootstrap.unseparated (line.body.takeWhile Bootstrap.isFutureSmall) },
       .simple { body := Bootstrap.unseparated (line.body.dropWhile Bootstrap.isFutureSmall)
                 tail := line.tail }]
    else [.simple line]
  | r => [r]

theorem splitStatement_of_decorate {d : Decorator} {s t : Statement} (h : decorate d s = some t) :
    Bootstrap.splitStatement s = [s] ∧ Bootstrap.splitStatement t = [t] := by
  have hs := decorable_of_decorate h
  cases s with
  | simple line => cases h
  | compound =>
    cases t with
    | simple line => cases hs
    | compound => exact ⟨rfl, rfl⟩

theorem joinLines_split {readings : List Reading} {j : Joined} (h : joinLines readings = some j) :
    joinLines (readings.flatMap splitReading) =
      some ⟨j.pending, j.done.flatMap Bootstrap.splitStatement⟩ := by
  induction readings generalizing j with
  | nil =>
    cases h
    rfl
  | cons r rest ih =>
    obtain ⟨k, hk, hadd⟩ := Option.bind_eq_some_iff.mp h
    have ih := ih hk
    rw [List.flatMap_cons]
    cases Joined.add_eq_some_iff.mp hadd with
    | simple line hpending =>
      rw [hpending] at ih
      by_cases hmixed : Bootstrap.isMixed (.simple line) = true
      · simp [splitReading, Bootstrap.splitStatement, hmixed, joinLines, ih, Joined.add]
      · simp [splitReading, Bootstrap.splitStatement, hmixed, joinLines, ih, Joined.add]
    | decorator d s t rest hpending hdone ht =>
      obtain ⟨hs, ht'⟩ := splitStatement_of_decorate ht
      rw [hpending, hdone, List.flatMap_cons, hs] at ih
      simp [splitReading, ht', joinLines, ih, Joined.add, ht]
    | continued leading header suite hrole =>
      refine Option.bind_eq_some_iff.mpr ⟨_, ih, Joined.add_eq_some_iff.mpr ?_⟩
      exact .continued leading header suite hrole
    | alternative leading header suite hrole hcompletes =>
      refine Option.bind_eq_some_iff.mpr ⟨_, ih, Joined.add_eq_some_iff.mpr ?_⟩
      exact .alternative leading header suite hrole hcompletes
    | compound leading header suite hcontinues hrole hcompletes =>
      refine Option.bind_eq_some_iff.mpr ⟨_, ih, Joined.add_eq_some_iff.mpr ?_⟩
      exact .compound leading header suite hcontinues hrole hcompletes

theorem statements_split {readings : List Reading} {body : List Statement}
    (h : statements readings = some body) :
    statements (readings.flatMap splitReading) = some (body.flatMap Bootstrap.splitStatement) :=
  statements_eq_some_iff.mpr (joinLines_split (statements_eq_some_iff.mp h))

/-! ### The items of a split line -/

/-- A line of small statements is read from a line without a block. -/
theorem readItem_eq_simple {u : Usual} {item : Item} {line : Line}
    (h : readItem u false item = some (.simple line)) :
    ∃ l body, item = .plain l ∧ readSmalls l.tokens = some body ∧
      line = ⟨l.leading, (endLine l.tail (smallsRelativeTo u.lineEnd body)).1,
        (endLine l.tail (smallsRelativeTo u.lineEnd body)).2⟩ := by
  cases item with
  | headed =>
    obtain ⟨_, -, h⟩ := Option.bind_eq_some_iff.mp h
    obtain ⟨_, -, h⟩ := Option.bind_eq_some_iff.mp h
    obtain ⟨_, -, h⟩ := Option.bind_eq_some_iff.mp h
    cases h
  | plain l =>
    obtain ⟨content, hcontent, h⟩ := Option.bind_eq_some_iff.mp h
    cases content with
    | decorator | clause => cases h
    | smalls body =>
      refine ⟨l, body, rfl, ?_, (Reading.simple.inj (Option.some.inj h)).symm⟩
      simp only [readContent, Bool.false_eq_true, if_false] at hcontent
      split at hcontent
      · rename_i hread
        cases hcontent
        exact hread
      · cases hcontent
      · obtain ⟨_, -, hcontent⟩ := Option.bind_eq_some_iff.mp hcontent
        obtain ⟨_, -, hcontent⟩ := Option.bind_eq_some_iff.mp hcontent
        cases hcontent

/-- The tokens of each small statement of a line that was read. -/
theorem chunks_of_reading {u : Usual} {item : Item} {line : Line}
    (hsound : item.Sound (context u [])) (h : readItem u false item = some (.simple line)) :
    (∃ cs, (∀ chunk ∈ cs, Chunk [] chunk) ∧
      List.Forall₂ (fun chunk s => ∃ t, readSmall chunk = some t ∧
        s.content = t.relativeTo u.lineEnd) cs line.body) ∧
      (∀ b ∈ line.leading, b.Sound (context u [])) ∧ line.tail.Sound (context u []) := by
  obtain ⟨l, body, rfl, hbody, rfl⟩ := readItem_eq_simple h
  cases hsound with
  | plain hl =>
    obtain ⟨first, ls, -, hlexed, htokens⟩ := hl.tokens
    refine ⟨⟨_, chunk_of_mem ⟨_, hlexed, by simpa using htokens⟩, ?_⟩, hl.leading,
      sound_endLine hl.tail _⟩
    rw [← List.forall₂_map_right_iff (R := fun chunk s => ∃ t, readSmall chunk = some t ∧
      s = t.relativeTo u.lineEnd), endLine_content, smallsRelativeTo, List.map_map,
      List.forall₂_map_right_iff]
    exact (smallsFrom_chunks hbody).imp fun chunk s hs => ⟨s.content, hs, rfl⟩

/-- A line stands for itself, or two lines stand for the halves it is split into. -/
theorem stands_split {u : Usual} (hu : Lexeme.IsLineEnd u.lineEnd.toList) {item : Item}
    {r : Reading} (hsound : item.Sound (context u [])) (h : readItem u false item = some r) :
    ∃ items, List.Forall₂ (Stands u) items (splitReading r) := by
  have hself := stands_of_readItem hsound h
  cases r with
  | decorator | clause => exact ⟨[item], .cons hself .nil⟩
  | simple line =>
    by_cases hmixed : Bootstrap.isMixed (.simple line) = true
    · obtain ⟨⟨cs, hchunks, hcs⟩, hleading, htail⟩ := chunks_of_reading hsound h
      have hhalves : line.body.takeWhile Bootstrap.isFutureSmall ≠ [] ∧
          line.body.dropWhile Bootstrap.isFutureSmall ≠ [] := by
        simpa [Bootstrap.isMixed] using hmixed
      rw [← List.takeWhile_append_dropWhile (p := Bootstrap.isFutureSmall) (l := line.body)] at hcs
      have hfuture := List.forall₂_take_append _ _ _ hcs
      have hother := List.forall₂_drop_append _ _ _ hcs
      have hbefore := stands_joinChunks
        (by rintro he; rw [he] at hfuture; exact hhalves.1 (List.forall₂_nil_left_iff.mp hfuture))
        (fun chunk hmem => hchunks chunk (List.mem_of_mem_take hmem)) hfuture hleading
        (sound_usualTail hu [])
      have hafter := stands_joinChunks
        (by rintro he; rw [he] at hother; exact hhalves.2 (List.forall₂_nil_left_iff.mp hother))
        (fun chunk hmem => hchunks chunk (List.mem_of_mem_drop hmem)) hother
        (List.forall_mem_nil _) htail
      simp only [splitReading, if_pos hmixed]
      exact ⟨_, .cons hbefore (.cons hafter .nil)⟩
    · simp only [splitReading, if_neg hmixed]
      exact ⟨[item], .cons hself .nil⟩

theorem stands_splitAll {u : Usual} (hu : Lexeme.IsLineEnd u.lineEnd.toList) {items : List Item}
    {readings : List Reading} (hsound : ∀ item ∈ items, item.Sound (context u []))
    (h : readItems u false items = some readings) :
    ∃ parts, List.Forall₂ (Stands u) parts (readings.flatMap splitReading) := by
  induction items generalizing readings with
  | nil =>
    cases h
    exact ⟨[], .nil⟩
  | cons item items ih =>
    obtain ⟨r, hr, h⟩ := Option.bind_eq_some_iff.mp h
    obtain ⟨rest, hrest, h⟩ := Option.bind_eq_some_iff.mp h
    cases h
    obtain ⟨hitem, hitems⟩ := List.forall_mem_cons.mp hsound
    obtain ⟨first, hfirst⟩ := stands_split hu hitem hr
    obtain ⟨others, hothers⟩ := ih hitems hrest
    exact ⟨first ++ others, List.rel_append hfirst hothers⟩

end LocaleRegistrar.Python.Grammar
