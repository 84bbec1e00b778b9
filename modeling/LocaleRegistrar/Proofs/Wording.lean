import LocaleRegistrar.Proofs.Completion
import LocaleRegistrar.Proofs.Spelling.Reading
import LocaleRegistrar.Text.Blank
import Mathlib.Data.List.Forall2

/-! How a registration is worded. Each of its statements is one line, whose text is made from the
names in the settings and from the locale, and which has no blank at either end. -/

namespace LocaleRegistrar

/-! ### Fields and blanks -/

namespace Text

/-- The fields with the separator put between them are the text. -/
theorem intercalate_fieldsList (sep : Char) (cs : List Char) :
    [sep].intercalate (fieldsList sep cs) = cs := by
  induction cs with
  | nil => rfl
  | cons c rest ih =>
    rw [fieldsList]
    obtain ⟨field, fields, hrest⟩ := List.exists_cons_of_ne_nil (fieldsList_ne_nil sep rest)
    rw [hrest] at ih ⊢
    split
    · next hc => rw [List.intercalate_cons_cons, ih, hc]; rfl
    · cases fields with
      | nil => simpa using ih
      | cons next fields => simpa [List.intercalate_cons_cons] using ih

/-- The code points of a table, one by one. -/
def points (table : List Interval) : List Nat :=
  table.flatMap fun interval => List.range' interval.1 (interval.2 + 1 - interval.1)

theorem mem_points_of_covers {table : List Interval} {n : Nat} (h : covers table n = true) :
    n ∈ points table := by
  obtain ⟨interval, hmem, hlow, hhigh⟩ := covers_iff.mp h
  refine List.mem_flatMap.mpr ⟨interval, hmem, List.mem_range'_1.mpr ⟨hlow, ?_⟩⟩
  omega

theorem isIdentifier_iff {s : String} :
    isIdentifier s = true ↔ ∃ c rest, s.toList = c :: rest ∧ isIdentifierStart c = true ∧
      ∀ d ∈ rest, isIdentifierPart d = true := by
  unfold isIdentifier
  cases s.toList with
  | nil => simp [isIdentifierList]
  | cons c rest => simp [isIdentifierList]

theorem forall_isIdentifierPart {s : String} (h : isIdentifier s = true) :
    ∀ c ∈ s.toList, isIdentifierPart c = true := by
  obtain ⟨c, rest, hs, hc, hrest⟩ := isIdentifier_iff.mp h
  rw [hs]
  exact List.forall_mem_cons.mpr ⟨isIdentifierPart_of_start hc, hrest⟩

/-- No blank may stand in an identifier. -/
theorem isBlank_of_isIdentifierPart {c : Char} (h : isIdentifierPart c = true) :
    isBlank c = false := by
  have hpoints : ∀ n ∈ points blankIntervals, isIdentifierPart (Char.ofNat n) = false := by
    decide +kernel
  by_contra hblank
  have hpart := hpoints c.toNat (mem_points_of_covers (by simpa [isBlank] using hblank))
  rw [Char.ofNat_toNat, h] at hpart
  cases hpart

/-- The text is not empty and has no blank at either end. -/
structure Trimmed (cs : List Char) : Prop where
  ne_nil : cs ≠ []
  head : ∀ c ∈ cs.head?, isBlank c = false
  last : ∀ c ∈ cs.getLast?, isBlank c = false

theorem Trimmed.append {a b : List Char} (ha : Trimmed a) (middle : List Char) (hb : Trimmed b) :
    Trimmed (a ++ middle ++ b) := by
  refine ⟨by simp [ha.ne_nil], ?_, ?_⟩
  · rw [List.append_assoc, List.head?_append_of_ne_nil a ha.ne_nil]
    exact ha.head
  · rw [List.getLast?_append_of_ne_nil _ hb.ne_nil]
    exact hb.last

theorem trimmed_of_isIdentifier {s : String} (h : isIdentifier s = true) : Trimmed s.toList := by
  have hparts := forall_isIdentifierPart h
  refine ⟨by simpa using isIdentifier_ne_empty h, fun c hc => ?_, fun c hc => ?_⟩
  · exact isBlank_of_isIdentifierPart (hparts c (List.mem_of_head? hc))
  · exact isBlank_of_isIdentifierPart (hparts c (List.mem_of_getLast? hc))

theorem trimEndList_append {cs bs : List Char} (hlast : ∀ c ∈ cs.getLast?, isBlank c = false)
    (hbs : ∀ c ∈ bs, isBlank c = true) : trimEndList (cs ++ bs) = cs := by
  induction cs with
  | nil =>
    induction bs with
    | nil => rfl
    | cons b bs ih =>
      obtain ⟨hb, hbs⟩ := List.forall_mem_cons.mp hbs
      have hrest : trimEndList bs = [] := by simpa using ih hbs
      simp [trimEndList, hrest, hb]
  | cons c rest ih =>
    rw [List.cons_append, trimEndList]
    cases rest with
    | nil =>
      have hc : isBlank c = false := hlast c (by simp)
      have hrest : trimEndList ([] ++ bs) = [] := ih (by simp)
      rw [hrest]
      simp [hc]
    | cons d rest => rw [ih (by simpa using hlast)]

/-- Trimming takes away the line end after a trimmed text, and nothing else. -/
theorem trim_append_lineFeed {s : String} (h : Trimmed s.toList) : trim (s ++ "\n") = s := by
  obtain ⟨c, rest, hs⟩ := List.exists_cons_of_ne_nil h.ne_nil
  have hc : isBlank c = false := h.head c (by simp [hs])
  have hdrop : (s.toList ++ ['\n']).dropWhile isBlank = s.toList ++ ['\n'] := by simp [hs, hc]
  have htrim : trimList (s.toList ++ ['\n']) = s.toList := by
    rw [trimList, hdrop]
    exact trimEndList_append h.last (by decide)
  simp [trim, htrim]

end Text

/-! ### Dotted paths -/

namespace Python

/-- The pieces of dotted names. -/
def dottedPieces (first : String) (names : List String) : Pieces :=
  .text first :: names.flatMap fun name => [.text ".", .text name]

theorem pieces_foldlM {parts : List String} {value t : Python.Tree}
    (h : parts.foldlM (fun value part => do return memberNode value (← nameNode part)) value =
      Except.ok (ε := BadName) t) :
    t.pieces = value.pieces ++ parts.flatMap fun name => [.text ".", .text name] := by
  induction parts generalizing value with
  | nil =>
    cases h
    simp
  | cons part parts ih =>
    rw [List.foldlM_cons] at h
    cases hp : nameNode part with
    | error bad => simp [hp, bind, Except.bind] at h
    | ok attr =>
      simp only [hp, bind, Except.bind, pure, Except.pure] at h
      rw [ih h, Registration.nameNode_eq_ok hp]
      simp [memberNode]

/-- The node of a path is written as the fields of the path. -/
theorem dottedNode_pieces {path : String} {t : Python.Tree} (h : dottedNode path = .ok t) :
    ∃ first names, Text.fields '.' path = first :: names ∧ t.pieces = dottedPieces first names := by
  unfold dottedNode at h
  split at h
  · cases h
  · next first names hfields =>
    cases hfirst : nameNode first with
    | error bad => simp [hfirst, bind, Except.bind] at h
    | ok value =>
      simp only [hfirst, bind, Except.bind] at h
      refine ⟨first, names, hfields, ?_⟩
      rw [pieces_foldlM h, Registration.nameNode_eq_ok hfirst]
      simp [dottedPieces]

theorem piecesText_dottedPieces (c : Context) (first : String) (names : List String) :
    piecesText c (dottedPieces first names) =
      ['.'].intercalate ((first :: names).map String.toList) := by
  induction names generalizing first with
  | nil => simp [dottedPieces]
  | cons name names ih =>
    have hrest := ih name
    simp only [dottedPieces, piecesText_cons, Piece.write_text, List.map_cons] at hrest ⊢
    rw [List.intercalate_cons_cons, ← hrest]
    simp

/-- The node of a path is written as the path. -/
theorem dottedNode_text {path : String} {t : Python.Tree} (h : dottedNode path = .ok t)
    (c : Context) : piecesText c t.pieces = path.toList := by
  obtain ⟨first, names, hfields, hpieces⟩ := dottedNode_pieces h
  have hchars : (first :: names).map String.toList = Text.fieldsList '.' path.toList := by
    rw [← hfields, Text.fields, List.map_map]
    simp [Function.comp_def]
  rw [hpieces, piecesText_dottedPieces, hchars, Text.intercalate_fieldsList]

theorem WrittenLine.joinAll_append (a b : List WrittenLine) :
    WrittenLine.joinAll (a ++ b) = WrittenLine.joinAll a ++ WrittenLine.joinAll b := by
  simp [WrittenLine.joinAll, String.join_append]

theorem Statement.writeAll_append (c : Context) (ss ts : List Statement) :
    Statement.writeAll c (ss ++ ts) = Statement.writeAll c ss ++ Statement.writeAll c ts := by
  induction ss with
  | nil => simp [Statement.writeAll]
  | cons s ss ih => simp [Statement.writeAll, ih]

end Python

/-! ### The lines of a registration -/

namespace Registration

open LocaleRegistrar.Python

/-- The statement is a line of its own with this text, which has no blank at either end. -/
structure Worded (s : Statement) (text : String) : Prop where
  written : ∃ content, s = lineOf content ∧ ∀ c, piecesText c content.pieces = text.toList
  trimmed : Text.Trimmed text.toList

namespace Worded

variable {s : Statement} {text : String}

theorem joinAll_write (h : Worded s text) {c : Context} (hc : c.margin = "") :
    WrittenLine.joinAll (s.write c) = text ++ c.usual.lineEnd := by
  obtain ⟨content, rfl, hcontent⟩ := h.written
  have hchars : chars (content.write c) = text.toList := by rw [chars_tree_write, hcontent]
  refine String.toList_inj.mp ?_
  rw [chars] at hchars
  simp [lineOf, Statement.write, Line.write, Tail.write, Small.writeAll, Small.write, hc,
    WrittenLine.joinAll, String.toList_join, LineEnd.write, ← hchars, List.flatMap_def]

theorem alone_eq (h : Worded s text) : s.alone = text ++ "\n" :=
  h.joinAll_write rfl

theorem trim_alone (h : Worded s text) : Text.trim s.alone = text := by
  rw [h.alone_eq, Text.trim_append_lineFeed h.trimmed]

end Worded

/-- Worded statements are written one to a line. -/
theorem joinAll_writeAll {ss : List Statement} {texts : List String}
    (h : List.Forall₂ Worded ss texts) {c : Context} (hc : c.margin = "") :
    WrittenLine.joinAll (Statement.writeAll c ss) =
      String.join (texts.map (· ++ c.usual.lineEnd)) := by
  induction h with
  | nil => rfl
  | cons hs _ ih =>
    rw [Statement.writeAll, WrittenLine.joinAll_append, hs.joinAll_write hc, ih, List.map_cons,
      String.join_cons]

/-- What a registration says. -/
def wording (settings : Settings) (locale : String) : List String :=
  ["import " ++ settings.localesPackage ++ "." ++ Locale.moduleName locale ++ " as " ++
     Locale.symbol locale,
   "from " ++ settings.registryModule ++ " import " ++ settings.registerFunction,
   settings.registerFunction ++ "(" ++ Locale.symbol locale ++ ")"]

/-- The statements of a registration are worded as they should be. -/
theorem statements_worded {settings : Settings} {locale : String} {ss : List Statement}
    (h : statements settings locale = .ok ss) :
    List.Forall₂ Worded ss (wording settings locale) := by
  obtain ⟨path, origin, hpath, horigin, hsymbol, hfunction, rfl⟩ := statements_eq_ok h
  have hsymbol := Text.trimmed_of_isIdentifier (checkName_eq_ok_iff.mp hsymbol)
  have hfunction := Text.trimmed_of_isIdentifier (checkName_eq_ok_iff.mp hfunction)
  have himport : Text.Trimmed "import".toList := Text.trimmed_of_isIdentifier (by decide +kernel)
  have hfrom : Text.Trimmed "from".toList := Text.trimmed_of_isIdentifier (by decide +kernel)
  have hclosing : Text.Trimmed [')'] := ⟨by simp, by simp; decide, by simp; decide⟩
  refine .cons ⟨⟨_, rfl, fun c => ?_⟩, ?_⟩ (.cons ⟨⟨_, rfl, fun c => ?_⟩, ?_⟩
    (.cons ⟨⟨_, rfl, fun c => ?_⟩, ?_⟩ .nil))
  · simp [dottedNode_text hpath]
  · have hline := himport.append (" " ++ settings.localesPackage ++ "." ++
      Locale.moduleName locale ++ " as ").toList hsymbol
    simpa using hline
  · simp [dottedNode_text horigin]
  · have hline := hfrom.append (" " ++ settings.registryModule ++ " import ").toList hfunction
    simpa using hline
  · simp
  · have hline := hfunction.append ("(" ++ Locale.symbol locale).toList hclosing
    simpa using hline

/-- Each worded statement, written on its own, is its text on a line. -/
theorem map_alone {ss : List Statement} {texts : List String}
    (h : List.Forall₂ Worded ss texts) : ss.map Statement.alone = texts.map (· ++ "\n") := by
  induction h with
  | nil => rfl
  | cons hs _ ih => rw [List.map_cons, List.map_cons, hs.alone_eq, ih]

/-- Without the line ends, worded statements are their texts. -/
theorem map_trim_alone {ss : List Statement} {texts : List String}
    (h : List.Forall₂ Worded ss texts) : ss.map (fun s => Text.trim s.alone) = texts := by
  induction h with
  | nil => rfl
  | cons hs _ ih => rw [List.map_cons, hs.trim_alone, ih]

/-- What planned edits say: the registration, once for each site. -/
theorem Planned.worded {r : Request} {available : List String} {m : Python.Module}
    {edits : List Edit} {resolution : Locale.Resolution} {ss : List Statement}
    (h : Planned r available m edits resolution ss) :
    List.Forall₂ Worded (edits.map (·.statement))
      (List.replicate (r.sites m).length (wording r.settings resolution.id)).flatten := by
  have hone := statements_worded h.built
  rw [h.statements_eq]
  induction (r.sites m).length with
  | zero => exact .nil
  | succ n ih => exact List.rel_append hone ih

end Registration

end LocaleRegistrar
