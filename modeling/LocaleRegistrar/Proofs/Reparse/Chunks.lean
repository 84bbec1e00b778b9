import Mathlib.Data.List.Forall2
import LocaleRegistrar.Proofs.Reparse.Text

/-!
Splitting a line of small statements. The tokens between its semicolons can be put on lines of their
own, set off from each other in the usual way, and are read there as they were.
-/

namespace LocaleRegistrar.Python.Grammar

open Lexeme (Gapped Lexed)
open Layout (token context)

/-! ### The tokens between semicolons -/

/-- The tokens of each small statement of a line. -/
def chunks (own : List Token) : List (Token × List Token) → List (List Token)
  | [] => [own]
  | [(_, [])] => [own]
  | (_, next) :: more => own :: chunks next more

theorem smallsFrom_chunks {own : List Token} {more : List (Token × List Token)} {body : List Small}
    (h : smallsFrom own more = some body) :
    List.Forall₂ (fun chunk s => readSmall chunk = some s.content) (chunks own more) body := by
  fun_induction smallsFrom own more generalizing body with
  | case1 own =>
    obtain ⟨t, ht, h⟩ := Option.bind_eq_some_iff.mp h
    cases h
    exact .cons ht .nil
  | case2 own semicolon =>
    obtain ⟨t, ht, h⟩ := Option.bind_eq_some_iff.mp h
    cases h
    exact .cons ht .nil
  | case3 own semicolon next more hmore ih =>
    obtain ⟨t, ht, h⟩ := Option.bind_eq_some_iff.mp h
    obtain ⟨rest, hrest, h⟩ := Option.bind_eq_some_iff.mp h
    cases h
    rw [chunks]
    · exact .cons ht (ih hrest)
    · exact hmore

theorem mem_chunks {own chunk : List Token} {more : List (Token × List Token)}
    (h : chunk ∈ chunks own more) : chunk = own ∨ ∃ s, (s, chunk) ∈ more := by
  fun_induction chunks own more with
  | case1 own => exact .inl (by simpa using h)
  | case2 own => exact .inl (by simpa using h)
  | case3 own semicolon next more _ ih =>
    rcases List.mem_cons.mp h with rfl | h
    · exact .inl rfl
    · rcases ih h with rfl | ⟨s, hs⟩
      · exact .inr ⟨semicolon, by simp⟩
      · exact .inr ⟨s, by simp [hs]⟩

theorem separate_spec (tokens : List Token) :
    tokens = (separate tokens).1 ++ (separate tokens).2.flatMap (fun x => x.1 :: x.2) ∧
      (∀ t ∈ (separate tokens).1, t.is ";" = false) ∧
      ∀ x ∈ (separate tokens).2, x.1.is ";" = true ∧ ∀ t ∈ x.2, t.is ";" = false := by
  induction tokens with
  | nil => simp [separate]
  | cons t rest ih =>
    obtain ⟨heq, hown, hmore⟩ := ih
    rw [separate]
    by_cases ht : t.is ";" = true
    · simp only [ht, if_true]
      refine ⟨?_, by simp, List.forall_mem_cons.mpr ⟨⟨ht, hown⟩, hmore⟩⟩
      rw [List.nil_append, List.flatMap_cons, List.cons_append, ← heq]
    · simp only [ht, Bool.false_eq_true, if_false]
      refine ⟨?_, List.forall_mem_cons.mpr ⟨by simpa using ht, hown⟩, hmore⟩
      rw [List.cons_append, ← heq]

/-- The tokens come from lexemes that are read as a line, with whatever blanks before it. -/
def Worded (margin : List Char) (tokens : List Token) : Prop :=
  ∃ ls, Lexed [] ls ∧ tokens = ls.map (token margin)

theorem is_token (margin : List Char) (l : Lexeme) (s : String) :
    (token margin l).is s = l.is s := rfl

/-- What stands between semicolons comes from lines, and before a semicolon there are only
blanks. -/
theorem worded_split {margin : List Char} (more : List (Token × List Token))
    (hmore : ∀ x ∈ more, x.1.is ";" = true) (own : List Token)
    (h : Worded margin (own ++ more.flatMap fun x => x.1 :: x.2)) :
    Worded margin own ∧ ∀ x ∈ more, Worded margin x.2 ∧
      ∃ l r, Gapped l.gap r ∧ x.1 = token margin l := by
  induction more generalizing own with
  | nil => exact ⟨by simpa using h, by simp⟩
  | cons x rest ih =>
    obtain ⟨hsemicolon, hrest⟩ := List.forall_mem_cons.mp hmore
    obtain ⟨ls, hlexed, hls⟩ := h
    rw [List.flatMap_cons, List.cons_append] at hls
    obtain ⟨before, after, rfl, hbefore, hafter⟩ := List.map_eq_append_iff.mp hls.symm
    obtain ⟨s, after, rfl, hs, hafter⟩ := List.map_eq_cons_iff.mp hafter
    rw [← hs, is_token] at hsemicolon
    obtain ⟨hown, hothers, -, r, hgap⟩ := hlexed.split hsemicolon
    obtain ⟨hnext, hall⟩ := ih hrest x.2 ⟨after, hothers, hafter.symm⟩
    exact ⟨⟨before, hown, hbefore.symm⟩,
      List.forall_mem_cons.mpr ⟨⟨hnext, s, r, hgap, hs.symm⟩, hall⟩⟩

/-- The tokens of a small statement of a line. -/
structure Chunk (margin : List Char) (chunk : List Token) : Prop where
  worded : Worded margin chunk
  plain : ∀ t ∈ chunk, t.is ";" = false

theorem chunk_of_mem {margin : List Char} {tokens : List Token} (h : Worded margin tokens) :
    ∀ chunk ∈ chunks (separate tokens).1 (separate tokens).2, Chunk margin chunk := by
  obtain ⟨heq, hown, hmore⟩ := separate_spec tokens
  rw [heq] at h
  obtain ⟨hfirst, hrest⟩ := worded_split _ (fun x hx => (hmore x hx).1) _ h
  intro chunk hchunk
  rcases mem_chunks hchunk with rfl | ⟨s, hs⟩
  · exact ⟨hfirst, hown⟩
  · exact ⟨(hrest _ hs).1, (hmore _ hs).2⟩

/-! ### Small statements on a line of their own -/

/-- The semicolon between two small statements. -/
def semicolon : Token := ⟨.symbol, ";", []⟩

/-- The tokens with one blank before them. -/
def spacedTokens : List Token → List Token
  | [] => []
  | t :: rest => { t with gap := [.text " "] } :: rest

/-- The tokens of small statements on one line, set off from each other in the usual way. -/
def joinChunks : List (List Token) → List Token
  | [] => []
  | [chunk] => ungapped chunk
  | chunk :: rest => ungapped chunk ++ semicolon :: spacedTokens (joinChunks rest)

theorem joinChunks_cons (chunk : List Token) {rest : List (List Token)} (h : rest ≠ []) :
    joinChunks (chunk :: rest) = ungapped chunk ++ semicolon :: spacedTokens (joinChunks rest) := by
  obtain ⟨next, others, rfl⟩ := List.exists_cons_of_ne_nil h
  rfl

@[simp] theorem ungapped_ungapped (tokens : List Token) :
    ungapped (ungapped tokens) = ungapped tokens := by
  cases tokens <;> rfl

@[simp] theorem ungapped_spacedTokens (tokens : List Token) :
    ungapped (spacedTokens tokens) = ungapped tokens := by
  cases tokens <;> rfl

/-- The gap before the first token of a line can be changed to any spaces. -/
theorem worded_regap {margin : List Char} {tokens : List Token} (h : Worded margin tokens) :
    Worded margin (ungapped tokens) ∧ Worded margin (spacedTokens tokens) := by
  obtain ⟨ls, hlexed, rfl⟩ := h
  cases ls with
  | nil => exact ⟨⟨[], .nil, rfl⟩, ⟨[], .nil, rfl⟩⟩
  | cons l ls =>
    exact ⟨⟨{ l with gap := [] } :: ls, hlexed.regap (by simp), rfl⟩,
      ⟨{ l with gap := [' '] } :: ls, hlexed.regap (by simp [Lexeme.isSpace]), rfl⟩⟩

theorem worded_joinChunks {margin : List Char} {cs : List (List Token)}
    (h : ∀ chunk ∈ cs, Worded margin chunk) : Worded margin (joinChunks cs) := by
  induction cs with
  | nil => exact ⟨[], .nil, rfl⟩
  | cons chunk rest ih =>
    obtain ⟨hchunk, hrest⟩ := List.forall_mem_cons.mp h
    by_cases hne : rest = []
    · subst hne
      exact (worded_regap hchunk).1
    · obtain ⟨ls, hls, hown⟩ := (worded_regap hchunk).1
      obtain ⟨ms, hms, hothers⟩ := (worded_regap (ih hrest)).2
      refine ⟨ls ++ ⟨.symbol, ";", []⟩ :: ms, hls.join hms (by simp), ?_⟩
      rw [joinChunks_cons chunk hne, hown, hothers, List.map_append, List.map_cons]
      rfl

theorem ungapped_ne_nil {tokens : List Token} (h : tokens ≠ []) : ungapped tokens ≠ [] := by
  obtain ⟨t, rest, rfl⟩ := List.exists_cons_of_ne_nil h
  exact List.cons_ne_nil _ _

theorem joinChunks_ungapped {cs : List (List Token)} (h : ∀ chunk ∈ cs, chunk ≠ []) :
    ungapped (joinChunks cs) = joinChunks cs := by
  cases cs with
  | nil => rfl
  | cons chunk rest =>
    obtain ⟨t, others, rfl⟩ := List.exists_cons_of_ne_nil (h chunk (by simp))
    by_cases hne : rest = []
    · subst hne
      rfl
    · rw [joinChunks_cons _ hne]
      rfl

theorem joinChunks_ne_nil {cs : List (List Token)} (hne : cs ≠ []) (h : ∀ chunk ∈ cs, chunk ≠ []) :
    joinChunks cs ≠ [] := by
  obtain ⟨chunk, rest, rfl⟩ := List.exists_cons_of_ne_nil hne
  by_cases hrest : rest = []
  · subst hrest
    exact ungapped_ne_nil (h chunk (by simp))
  · rw [joinChunks_cons _ hrest]
    simp

/-- A line of small statements that were read is a line of its own. -/
theorem lined_joinChunks {c : Context} {cs : List (List Token)} (hne : cs ≠ [])
    (h : ∀ chunk ∈ cs, Chunk c.margin.toList chunk ∧ chunk ≠ []) : Lined c (joinChunks cs) := by
  have hall := fun chunk hchunk => (h chunk hchunk).2
  obtain ⟨ls, hls, htokens⟩ := worded_joinChunks fun chunk hchunk => (h chunk hchunk).1.worded
  have hjoin := joinChunks_ungapped hall
  cases ls with
  | nil => exact absurd htokens (joinChunks_ne_nil hne hall)
  | cons l ls =>
    refine ⟨{ l with gap := [] }, ls, rfl, hls.regap (by simp), ?_⟩
    rw [← hjoin, htokens]
    rfl

/-! ### Reading and writing such a line -/

theorem separate_append {own rest : List Token} (h : ∀ t ∈ own, t.is ";" = false) :
    separate (own ++ rest) = (own ++ (separate rest).1, (separate rest).2) := by
  induction own with
  | nil => rfl
  | cons t own ih =>
    obtain ⟨ht, hown⟩ := List.forall_mem_cons.mp h
    simp [separate, ht, ih hown]

theorem readSmall_ungapped (tokens : List Token) : readSmall (ungapped tokens) = readSmall tokens := by
  simp [readSmall]

/-- The blanks before a line do not matter when it is read. -/
theorem readSmalls_ungapped (tokens : List Token) :
    readSmalls (ungapped tokens) = readSmalls tokens := by
  cases tokens with
  | nil => rfl
  | cons t rest =>
    have his : ({ t with gap := [] } : Token).is ";" = t.is ";" := rfl
    have hnone (more : List (Token × List Token)) : smallsFrom [] more = none := by
      cases h : smallsFrom [] more with
      | none => rfl
      | some body =>
        obtain ⟨u, -, -, hu, -⟩ := smallsFrom_head h
        exact absurd rfl (readSmall_ne_nil hu)
    simp only [readSmalls, ungapped, separate, his]
    by_cases ht : t.is ";" = true
    · simp only [ht, if_true, hnone]
    · simp only [ht, Bool.false_eq_true, if_false]
      have hsame : readSmall ({ t with gap := [] } :: (separate rest).1) =
          readSmall (t :: (separate rest).1) := rfl
      unfold smallsFrom
      split <;> simp only [hsame]

theorem readSmalls_spacedTokens (tokens : List Token) :
    readSmalls (spacedTokens tokens) = readSmalls tokens := by
  rw [← readSmalls_ungapped, ungapped_spacedTokens, readSmalls_ungapped]

/-- Small statements that can be read can be read on one line. -/
theorem readSmalls_joinChunks {cs : List (List Token)} (hne : cs ≠ [])
    (h : ∀ chunk ∈ cs, (∀ t ∈ chunk, t.is ";" = false) ∧ ∃ t, readSmall chunk = some t) :
    ∃ body, readSmalls (joinChunks cs) = some body := by
  induction cs with
  | nil => exact absurd rfl hne
  | cons chunk rest ih =>
    obtain ⟨⟨hplain, t, ht⟩, hrest⟩ := List.forall_mem_cons.mp h
    have hown : ∀ t ∈ ungapped chunk, t.is ";" = false := by
      cases chunk with
      | nil => simp [ungapped]
      | cons u others => simpa [ungapped, Token.is] using hplain
    rw [← readSmall_ungapped] at ht
    by_cases hnil : rest = []
    · subst hnil
      have hseparate := @separate_append _ [] hown
      rw [List.append_nil] at hseparate
      simp [joinChunks, readSmalls, hseparate, separate, smallsFrom, ht]
    · obtain ⟨body, hbody⟩ := ih hnil hrest
      rw [← readSmalls_spacedTokens] at hbody
      obtain ⟨u, -, -, hu, -⟩ := smallsFrom_head hbody
      have hnext := readSmall_ne_nil hu
      have hsemicolon : semicolon.is ";" = true := rfl
      rw [joinChunks_cons chunk hnil]
      simp only [readSmalls, separate_append hown, separate, hsemicolon, if_true, List.append_nil]
      cases hs : (separate (spacedTokens (joinChunks rest))).1 with
      | nil => exact absurd hs hnext
      | cons a others =>
        rw [readSmalls, hs] at hbody
        simp [smallsFrom, ht, hbody]

theorem bare_append {own rest : List Token} (h : own ≠ []) :
    bare (own ++ rest) = bare own ++ spelled rest := by
  obtain ⟨t, others, rfl⟩ := List.exists_cons_of_ne_nil h
  simp [bare_cons, spelled]

theorem spelled_spacedTokens {tokens : List Token} (h : tokens ≠ []) :
    spelled (spacedTokens tokens) = .text " " :: bare tokens := by
  obtain ⟨t, others, rfl⟩ := List.exists_cons_of_ne_nil h
  simp [spacedTokens, bare_cons, spelled, Token.pieces]

theorem spelled_semicolon (tokens : List Token) :
    spelled (semicolon :: tokens) = .text ";" :: spelled tokens := rfl

/-- Small statements without semicolons of their own are written as their tokens on one line. -/
theorem writeAll_joinChunks {c : Context} {cs : List (List Token)} {body : List Small}
    (hne : ∀ chunk ∈ cs, chunk ≠ [])
    (h : List.Forall₂ (fun chunk s => s.semicolon = none ∧
      piecesText c s.content.pieces = piecesText c (bare chunk)) cs body) :
    chars (Small.writeAll c body) = piecesText c (bare (joinChunks cs)) := by
  induction h with
  | nil => rfl
  | @cons chunk s cs body hs hrest ih =>
    obtain ⟨hchunk, hall⟩ := List.forall_mem_cons.mp hne
    obtain ⟨hnone, htext⟩ := hs
    cases hrest with
    | nil => simp [Small.writeAll, Small.write, hnone, htext, joinChunks, bare_ungapped]
    | @cons next u others more hu hmore =>
      have hjoin := joinChunks_ne_nil (List.cons_ne_nil _ _) hall
      rw [Small.writeAll_cons c s (List.cons_ne_nil _ _), joinChunks_cons _ (List.cons_ne_nil _ _),
        bare_append (ungapped_ne_nil hchunk), bare_ungapped, chars_append, ih hall,
        spelled_semicolon, spelled_spacedTokens hjoin]
      simp [Small.write, hnone, htext]

end LocaleRegistrar.Python.Grammar
