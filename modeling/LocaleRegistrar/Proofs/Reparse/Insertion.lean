import LocaleRegistrar.Proofs.Lexing.Words
import LocaleRegistrar.Proofs.Reparse.Imports
import LocaleRegistrar.Proofs.Reparse.Splitting
import LocaleRegistrar.Proofs.Wording

/-!
A line that is put into a module. Its text is read as the tokens that it was put together from, and
these are read as a statement if no name in them is reserved.
-/

namespace LocaleRegistrar.Python.Grammar

open Lexeme (Lexed IsLineEnd EndsWord isSpace dots)
open Layout (token context gapPieces)

/-! ### Lines of one statement -/

/-- The text of the statement is that of the tokens, which are read from it. -/
structure Spelt (tokens : List Token) (content : Tree) : Prop where
  lined : ∀ u, Lined (context u []) tokens
  text : ∀ c, piecesText c content.pieces = piecesText c (bare tokens)

/-- A logical line with these tokens and nothing around them. -/
def ownItem (tokens : List Token) : Item := .plain ⟨[], tokens, {}⟩

/-- A line that holds one small statement. -/
def ownLine (content : Tree) : Line := { body := [{ content }] }

theorem Spelt.written {tokens : List Token} {content : Tree} (h : Spelt tokens content) {u : Usual}
    (hu : IsLineEnd u.lineEnd.toList) :
    Written u (ownItem tokens) (.simple (ownLine content)) := by
  refine ⟨.plain ⟨by simp, h.lined u, sound_usualTail hu []⟩, ?_⟩
  simp [ownItem, ownLine, Item.rows, LogicalLine.rows, blankRows, Reading.write, Line.write,
    Small.writeAll, Small.write, h.text]

/-- Without semicolons a line is one small statement. -/
theorem readSmalls_eq {tokens : List Token} (h : ∀ t ∈ tokens, t.is ";" = false) :
    readSmalls tokens = (readSmall tokens).map fun t => [⟨t, none⟩] := by
  have hseparate : separate tokens = (tokens, []) := by
    simpa [separate] using @separate_append tokens [] h
  simp only [readSmalls, hseparate, smallsFrom]
  cases readSmall tokens <;> rfl

theorem readContent_of_readSmall {tokens : List Token} (hplain : ∀ t ∈ tokens, t.is ";" = false)
    {t : Tree} (h : readSmall tokens = some t) :
    readContent false tokens = some (.smalls [⟨t, none⟩]) := by
  simp [readContent, readSmalls_eq hplain, h]

/-- A line that starts with the keyword of an import is nothing else. -/
theorem readContent_eq_none {w : String} (hw : w = "import" ∨ w = "from") {rest : List Token}
    (hplain : ∀ t ∈ word w [] :: rest, t.is ";" = false)
    (h : readSmall (word w [] :: rest) = none) : readContent false (word w [] :: rest) = none := by
  have hdecorator (r : Rules) : r.decorator (word w [] :: rest) = none := by
    rcases hw with rfl | rfl <;> rfl
  have hheader (r : Rules) : r.header false false (word w [] :: rest) = none := by
    rcases hw with rfl | rfl <;> rfl
  have hclause : readClause false (word w [] :: rest) = none := by
    simp only [readClause, StateT.run, hheader]
    rfl
  have hnone : onTokens Rules.decorator (word w [] :: rest) = none := by
    simp only [onTokens, StateT.run, hdecorator]
  simp [readContent, readSmalls_eq hplain, h, hnone, hclause]

/-! ### The lines of a registration -/

/-- The blank between two words. -/
def blank : Pieces := [.text " "]

theorem token_word (margin : List Char) (w : String) :
    token margin ⟨.word, w, []⟩ = word w [] ∧ token margin ⟨.word, w, [' ']⟩ = word w blank :=
  ⟨rfl, rfl⟩

theorem map_token_dots (margin : List Char) (names : List String) :
    (dots names).map (token margin) = dotTokens names := by
  rw [dots, List.map_flatMap]
  rfl

@[simp] theorem spelled_nil : spelled [] = [] := rfl

theorem spelled_cons (t : Token) (rest : List Token) :
    spelled (t :: rest) = t.gap ++ .text t.text :: spelled rest := by
  simp [spelled, Token.pieces]

theorem spelled_append (tokens rest : List Token) :
    spelled (tokens ++ rest) = spelled tokens ++ spelled rest := List.flatMap_append

theorem spelled_dotTokens (names : List String) :
    spelled (dotTokens names) = names.flatMap fun name => [.text ".", .text name] := by
  rw [spelled, dotTokens, List.flatMap_assoc]
  rfl

theorem endsWord_blank (l : Lexeme) (h : l.gap = [' ']) (ls : List Lexeme) :
    EndsWord (Lexeme.spellAll (l :: ls)) := by
  simp [EndsWord, h]

theorem isSpace_blank : ∀ c ∈ [' '], isSpace c = true := by decide

section

variable {w : String} {names : List String}

theorem spelt_import {x : String} (hnames : ∀ v ∈ w :: names, Text.isIdentifier v = true)
    (hx : Text.isIdentifier x = true) {path : Tree} (hpath : path.pieces = dottedPieces w names) :
    Spelt (importTokens w names x blank) (.bare .importModules
      [.text "import", .text " ", .bare .importAlias [path, .text " as ", .ofName x]]) := by
  refine ⟨fun u => ?_, fun c => ?_⟩
  · have hlast : Lexed [] [⟨.word, "as", [' ']⟩, ⟨.word, x, [' ']⟩] :=
      .word (fun _ => rfl) (by decide +kernel) isSpace_blank (endsWord_blank _ rfl _)
        (.word (fun _ => rfl) hx isSpace_blank (by simp [EndsWord]) .nil)
    refine ⟨⟨.word, "import", []⟩, _, rfl, .word (fun _ => rfl) (by decide +kernel) (by simp)
      (endsWord_blank _ rfl _) (.dotted hnames isSpace_blank (endsWord_blank _ rfl _) hlast), ?_⟩
    simp only [List.map_cons, List.map_append, List.map_nil, map_token_dots, token_word]
    rfl
  · simp [hpath, dottedPieces, importTokens, bare_cons, spelled_cons, spelled_append,
      spelled_dotTokens, word, blank]

theorem spelt_importFrom {f : String} (hnames : ∀ v ∈ w :: names, Text.isIdentifier v = true)
    (hf : Text.isIdentifier f = true) {origin : Tree}
    (horigin : origin.pieces = dottedPieces w names) :
    Spelt (importFromTokens w names f blank) (.bare .importFrom
      [.text "from", .text " ", origin, .text " import ", .bare .importAlias [.ofName f]]) := by
  refine ⟨fun u => ?_, fun c => ?_⟩
  · have hlast : Lexed [] [⟨.word, "import", [' ']⟩, ⟨.word, f, [' ']⟩] :=
      .word (fun _ => rfl) (by decide +kernel) isSpace_blank (endsWord_blank _ rfl _)
        (.word (fun _ => rfl) hf isSpace_blank (by simp [EndsWord]) .nil)
    refine ⟨⟨.word, "from", []⟩, _, rfl, .word (fun _ => rfl) (by decide +kernel) (by simp)
      (endsWord_blank _ rfl _) (.dotted hnames isSpace_blank (endsWord_blank _ rfl _) hlast), ?_⟩
    simp only [List.map_cons, List.map_append, List.map_nil, map_token_dots, token_word]
    rfl
  · simp [horigin, dottedPieces, importFromTokens, bare_cons, spelled_cons, spelled_append,
      spelled_dotTokens, word, blank]

/-- The tokens of `f(x)`. -/
def callTokens (f x : String) : List Token := [word f [], symbol "(" [], word x [], symbol ")" []]

theorem spelt_call {f x : String} (hf : Text.isIdentifier f = true)
    (hx : Text.isIdentifier x = true) :
    Spelt (callTokens f x) (.bare .expression [.bare .call
      [.ofName f, .text "(", .bare (.arg false) [.ofName x], .text ")"]]) := by
  refine ⟨fun u => ⟨⟨.word, f, []⟩, [⟨.symbol, "(", []⟩, ⟨.word, x, []⟩, ⟨.symbol, ")", []⟩], rfl,
    ?_, rfl⟩, fun c => ?_⟩
  · refine .word (fun _ => rfl) hf (by simp) (by simp [EndsWord, Lexeme.joints]) ?_
    refine .symbol (c := '(') (fun _ => rfl) (by decide) rfl (Lexeme.head_identifier hx _) ?_
    refine .word (fun _ => rfl) hx (by simp) (by simp [EndsWord, Lexeme.joints]) ?_
    exact .symbol (c := ')') (fun _ => rfl) (by decide) rfl (by simp) .nil
  · simp [callTokens, bare_cons, spelled_cons, word, symbol]

/-! ### Reading the lines of a registration -/

theorem not_semicolon {v : String} (h : Text.isIdentifier v = true) (gap : Pieces) :
    (word v gap).is ";" = false :=
  startsWith_identifier h (by decide) gap []

theorem dotTokens_not_semicolon (h : ∀ v ∈ names, Text.isIdentifier v = true) :
    ∀ t ∈ dotTokens names, t.is ";" = false := by
  intro t ht
  obtain ⟨v, hv, ht⟩ := List.mem_flatMap.mp ht
  simp only [List.mem_cons, List.not_mem_nil, or_false] at ht
  rcases ht with rfl | rfl
  · rfl
  · exact not_semicolon (h v hv) []

/-- The line is a statement if none of the names is reserved, and cannot be read otherwise. -/
def ReadIfFree (names : List String) (tokens : List Token) : Prop :=
  (∀ v ∈ names, v ∉ reserved) ∧ (∃ body, readContent false tokens = some (.smalls body)) ∨
    (∃ v ∈ names, v ∈ reserved) ∧ readContent false tokens = none

theorem readSmall_of_accepts {t : Token} {rest : List Token} (hgap : t.gap = [])
    (h : ∀ n, Accepts (rules (n + 2)).small (t :: rest) []) :
    ∃ content, readSmall (t :: rest) = some content := by
  have hbare : ungapped (t :: rest) = t :: rest := by simp [ungapped, ← hgap]
  obtain ⟨content, hcontent⟩ := h (t :: rest).length
  exact ⟨content, by simp only [readSmall, hbare, onTokens, StateT.run, hcontent]⟩

theorem readIfFree_of_small {free : List String} {v : String} (hv : v = "import" ∨ v = "from")
    {rest : List Token} (hplain : ∀ t ∈ rest, t.is ";" = false)
    (h : ∀ r : Rules, AcceptsIfFree free r.small (word v [] :: rest) []) :
    ReadIfFree free (word v [] :: rest) := by
  have hkeyword : ∀ t ∈ word v [] :: rest, t.is ";" = false :=
    List.forall_mem_cons.mpr ⟨by rcases hv with rfl | rfl <;> rfl, hplain⟩
  by_cases hfree : ∀ w ∈ free, w ∉ reserved
  · refine .inl ⟨hfree, ?_⟩
    obtain ⟨content, hcontent⟩ := @readSmall_of_accepts (word v []) rest rfl fun n => by
      rcases h (rules (n + 2)) with ⟨-, haccepts⟩ | ⟨⟨w, hw, hreserved⟩, -⟩
      · exact haccepts
      · exact absurd hreserved (hfree w hw)
    exact ⟨_, readContent_of_readSmall hkeyword hcontent⟩
  · have hreserved : ∃ w ∈ free, w ∈ reserved := by simpa using hfree
    have hnone : readSmall (word v [] :: rest) = none := by
      rcases h (rules ((word v [] :: rest).length + 2)) with ⟨hall, -⟩ | ⟨-, hnone⟩
      · exact absurd hall hfree
      · have hbare : ungapped (word v [] :: rest) = word v [] :: rest := rfl
        simp only [readSmall, hbare, onTokens, StateT.run, hnone]
    exact .inr ⟨hreserved, readContent_eq_none hv hkeyword hnone⟩

theorem readIfFree_import {x : String} (hnames : ∀ v ∈ w :: names, Text.isIdentifier v = true)
    (hx : Text.isIdentifier x = true) (hfree : x ∉ reserved) :
    ReadIfFree (w :: names) (importTokens w names x blank) := by
  obtain ⟨hw, hrest⟩ := List.forall_mem_cons.mp hnames
  refine readIfFree_of_small (.inl rfl) ?_ fun r => acceptsIfFree_import r w names blank hfree
  simp only [List.forall_mem_cons, List.forall_mem_append]
  exact ⟨not_semicolon hw _, dotTokens_not_semicolon hrest, rfl, not_semicolon hx _, by simp⟩

theorem readIfFree_importFrom {f : String} (hnames : ∀ v ∈ w :: names, Text.isIdentifier v = true)
    (hf : Text.isIdentifier f = true) :
    ReadIfFree (f :: w :: names) (importFromTokens w names f blank) := by
  obtain ⟨hw, hrest⟩ := List.forall_mem_cons.mp hnames
  refine readIfFree_of_small (.inr rfl) ?_ fun r => acceptsIfFree_importFrom r hw names hf blank
  simp only [List.forall_mem_cons, List.forall_mem_append]
  exact ⟨not_semicolon hw _, dotTokens_not_semicolon hrest, rfl, not_semicolon hf _, by simp⟩

theorem readContent_call {f x : String} (hf : Text.isIdentifier f = true) (hfree : f ∉ reserved)
    (hx : Text.isIdentifier x = true) (hx' : x ∉ reserved) :
    ∃ body, readContent false (callTokens f x) = some (.smalls body) := by
  obtain ⟨content, hcontent⟩ := @readSmall_of_accepts (word f []) _ rfl fun n =>
    @small_call (rules (n + 2)) (rules (n + 1)) (rules n) f x hf hfree hx hx' [] [] [] [] rfl rfl
  refine ⟨_, readContent_of_readSmall ?_ hcontent⟩
  simp only [callTokens, List.forall_mem_cons]
  exact ⟨not_semicolon hf _, rfl, not_semicolon hx _, rfl, by simp⟩

end

end LocaleRegistrar.Python.Grammar
