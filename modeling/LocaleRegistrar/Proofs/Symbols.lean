import LocaleRegistrar.Proofs.Configuration.NormalForm
import LocaleRegistrar.Proofs.Enumeration

/-! Symbols as identifiers. A symbol keeps the word characters of its locale, and not every word
character may stand in an identifier: the two classes are tables of their own, and their difference
is a third one. Main statement: the symbol of a locale is an identifier exactly if the locale has no
character of that difference, and a locale that has one is refused for its path and not for its
symbol. -/

namespace LocaleRegistrar

/-! ### Differences of tables -/

namespace Text

/-- The intervals have a member each and follow each other, the first of them not before `start`. -/
def ascends (start : Nat) : List Interval → Bool
  | [] => true
  | (lo, hi) :: rest => decide (start ≤ lo) && decide (lo ≤ hi) && ascends (hi + 1) rest

/-- What an ascending table holds before `n`. -/
def below (n : Nat) : List Interval → List Interval
  | [] => []
  | (lo, hi) :: rest =>
    if hi < n then (lo, hi) :: below n rest else if lo < n then [(lo, n - 1)] else []

/-- What an ascending table holds after `n`. -/
def above (n : Nat) : List Interval → List Interval
  | [] => []
  | (lo, hi) :: rest => if hi ≤ n then above n rest else (max lo (n + 1), hi) :: rest

/-- What an ascending table holds and another one does not. -/
def minus (table : List Interval) : List Interval → List Interval
  | [] => table
  | (lo, hi) :: rest => below lo table ++ minus (above hi table) rest

theorem covers_nil (n : Nat) : covers [] n = false := rfl

theorem covers_cons {lo hi n : Nat} {rest : List Interval} :
    covers ((lo, hi) :: rest) n = true ↔ (lo ≤ n ∧ n ≤ hi) ∨ covers rest n = true := by
  simp [covers]

theorem covers_append {a b : List Interval} {n : Nat} :
    covers (a ++ b) n = true ↔ covers a n = true ∨ covers b n = true := by
  simp [covers, List.any_append]

theorem ascends_cons {start lo hi : Nat} {rest : List Interval} :
    ascends start ((lo, hi) :: rest) = true ↔
      start ≤ lo ∧ lo ≤ hi ∧ ascends (hi + 1) rest = true := by
  simp [ascends, and_assoc]

theorem ascends_of_le {start start' : Nat} {table : List Interval} (hle : start' ≤ start)
    (h : ascends start table = true) : ascends start' table = true := by
  cases table with
  | nil => rfl
  | cons interval rest =>
    obtain ⟨hlo, hrest⟩ := ascends_cons.mp h
    exact ascends_cons.mpr ⟨by omega, hrest⟩

theorem le_of_covers {start n : Nat} {table : List Interval} (h : ascends start table = true)
    (hn : covers table n = true) : start ≤ n := by
  induction table generalizing start with
  | nil => cases hn
  | cons interval rest ih =>
    obtain ⟨hlo, hhi, hrest⟩ := ascends_cons.mp h
    rcases covers_cons.mp hn with hmem | hmem
    · omega
    · have := ih hrest hmem
      omega

theorem covers_below {start m n : Nat} {table : List Interval} (h : ascends start table = true) :
    covers (below m table) n = true ↔ covers table n = true ∧ n < m := by
  induction table generalizing start with
  | nil => simp [below, covers_nil]
  | cons interval rest ih =>
    obtain ⟨lo, hi⟩ := interval
    obtain ⟨-, hhi, hrest⟩ := ascends_cons.mp h
    rw [below]
    split
    · rw [covers_cons, covers_cons, ih hrest]
      constructor
      · rintro (hmem | hmem)
        · exact ⟨.inl hmem, by omega⟩
        · exact ⟨.inr hmem.1, hmem.2⟩
      · rintro ⟨hmem | hmem, hlt⟩
        · exact .inl hmem
        · exact .inr ⟨hmem, hlt⟩
    · -- the cut is at or before the end of this interval, so all later ones are dropped
      have hdropped : ¬(covers rest n = true ∧ n < m) := by
        rintro ⟨hmem, hlt⟩
        have := le_of_covers hrest hmem
        omega
      rw [covers_cons]
      split
      · rw [covers_cons, covers_nil]
        grind
      · rw [covers_nil]
        grind

theorem covers_above {start m n : Nat} {table : List Interval} (h : ascends start table = true) :
    covers (above m table) n = true ↔ covers table n = true ∧ m < n := by
  induction table generalizing start with
  | nil => simp [above, covers_nil]
  | cons interval rest ih =>
    obtain ⟨lo, hi⟩ := interval
    obtain ⟨-, hhi, hrest⟩ := ascends_cons.mp h
    have hlater (hmem : covers rest n = true) : hi + 1 ≤ n := le_of_covers hrest hmem
    rw [above]
    split
    · rw [covers_cons, ih hrest]
      grind
    · rw [covers_cons, covers_cons, Nat.max_le]
      grind

theorem ascends_above {start m : Nat} {table : List Interval} (h : ascends start table = true) :
    ascends start (above m table) = true := by
  induction table generalizing start with
  | nil => rfl
  | cons interval rest ih =>
    obtain ⟨lo, hi⟩ := interval
    obtain ⟨hlo, hhi, hrest⟩ := ascends_cons.mp h
    rw [above]
    split
    · exact ascends_of_le (by omega) (ih hrest)
    · exact ascends_cons.mpr ⟨by omega, by omega, hrest⟩

/-- The difference of two ascending tables holds what the first holds and the second does not. -/
theorem covers_minus {start start' n : Nat} {table other : List Interval}
    (ht : ascends start table = true) (ho : ascends start' other = true) :
    covers (minus table other) n = true ↔ covers table n = true ∧ covers other n = false := by
  -- by the second table: what lies before its first interval is settled, the rest starts after it
  induction other generalizing table start start' with
  | nil => simp [minus, covers_nil]
  | cons interval rest ih =>
    obtain ⟨lo, hi⟩ := interval
    obtain ⟨-, hhi, hrest⟩ := ascends_cons.mp ho
    have hlater (hmem : covers rest n = true) : hi + 1 ≤ n := le_of_covers hrest hmem
    rw [minus, covers_append, covers_below ht, ih (ascends_above ht) hrest, covers_above ht,
      ← Bool.not_eq_true, ← Bool.not_eq_true, covers_cons]
    constructor
    · rintro (⟨hmem, hbefore⟩ | ⟨⟨hmem, hafter⟩, hnot⟩)
      · refine ⟨hmem, ?_⟩
        rintro (hin | hin)
        · omega
        · have := hlater hin
          omega
      · refine ⟨hmem, ?_⟩
        rintro (hin | hin)
        · omega
        · exact hnot hin
    · rintro ⟨hmem, hnot⟩
      obtain ⟨hout, hnot⟩ := not_or.mp hnot
      by_cases hbefore : n < lo
      · exact .inl ⟨hmem, hbefore⟩
      · exact .inr ⟨⟨hmem, by omega⟩, hnot⟩

/-! ### Word characters outside identifiers -/

/-- The word characters that may not stand in an identifier. Most are numbers, such as superscripts,
fractions and circled digits; the others are letters, nearly all of them compatible with a text that
has a blank in it. -/
def strayWords : List Interval :=
  [(0xB2, 0xB3), (0xB9, 0xB9), (0xBC, 0xBE), (0x37A, 0x37A), (0x9F4, 0x9F9), (0xB72, 0xB77),
   (0xBF0, 0xBF2), (0xC78, 0xC7E), (0xD58, 0xD5E), (0xD70, 0xD78), (0xF2A, 0xF33), (0x1372, 0x137C),
   (0x17F0, 0x17F9), (0x2070, 0x2070), (0x2074, 0x2079), (0x2080, 0x2089), (0x2150, 0x215F),
   (0x2189, 0x2189), (0x2460, 0x249B), (0x24EA, 0x24FF), (0x2776, 0x2793), (0x2CFD, 0x2CFD),
   (0x2E2F, 0x2E2F), (0x3192, 0x3195), (0x3220, 0x3229), (0x3248, 0x324F), (0x3251, 0x325F),
   (0x3280, 0x3289), (0x32B1, 0x32BF), (0xA830, 0xA835), (0xFC5E, 0xFC63), (0xFDFA, 0xFDFB),
   (0xFE70, 0xFE70), (0xFE72, 0xFE72), (0xFE74, 0xFE74), (0xFE76, 0xFE76), (0xFE78, 0xFE78),
   (0xFE7A, 0xFE7A), (0xFE7C, 0xFE7C), (0xFE7E, 0xFE7E), (0x10107, 0x10133), (0x10175, 0x10178),
   (0x1018A, 0x1018B), (0x102E1, 0x102FB), (0x10320, 0x10323), (0x10858, 0x1085F),
   (0x10879, 0x1087F), (0x108A7, 0x108AF), (0x108FB, 0x108FF), (0x10916, 0x1091B),
   (0x109BC, 0x109BD), (0x109C0, 0x109CF), (0x109D2, 0x109FF), (0x10A40, 0x10A48),
   (0x10A7D, 0x10A7E), (0x10A9D, 0x10A9F), (0x10AEB, 0x10AEF), (0x10B58, 0x10B5F),
   (0x10B78, 0x10B7F), (0x10BA9, 0x10BAF), (0x10CFA, 0x10CFF), (0x10E60, 0x10E7E),
   (0x10F1D, 0x10F26), (0x10F51, 0x10F54), (0x10FC5, 0x10FCB), (0x11052, 0x11065),
   (0x111E1, 0x111F4), (0x1173A, 0x1173B), (0x118EA, 0x118F2), (0x11C5A, 0x11C6C),
   (0x11FC0, 0x11FD4), (0x16B5B, 0x16B61), (0x16E80, 0x16E96), (0x1D2E0, 0x1D2F3),
   (0x1D360, 0x1D378), (0x1E8C7, 0x1E8CF), (0x1EC71, 0x1ECAB), (0x1ECAD, 0x1ECAF),
   (0x1ECB1, 0x1ECB4), (0x1ED01, 0x1ED2D), (0x1ED2F, 0x1ED3D), (0x1F100, 0x1F10C)]

/-- Is `c` a word character that may not stand in an identifier? -/
def isStray (c : Char) : Bool :=
  covers strayWords c.toNat

theorem tables_ascend :
    ascends 128 wordIntervals = true ∧ ascends 128 identifierStarts = true ∧
      ascends 128 identifierParts = true ∧
      ascends 128 (minus wordIntervals identifierStarts) = true ∧
      minus (minus wordIntervals identifierStarts) identifierParts = strayWords := by
  decide +kernel

theorem covers_strayWords {n : Nat} :
    covers strayWords n = true ↔ covers wordIntervals n = true ∧
      covers identifierStarts n = false ∧ covers identifierParts n = false := by
  obtain ⟨hword, hstarts, hparts, hrest, hstray⟩ := tables_ascend
  rw [← hstray, covers_minus hrest hparts, covers_minus hword hstarts, and_assoc]

/-- The stray characters are the word characters that are no characters of identifiers. -/
theorem isStray_iff {c : Char} :
    isStray c = true ↔ isWord c = true ∧ isIdentifierPart c = false := by
  rw [isStray, isWord, classify, isIdentifierPart]
  split
  · next hascii =>
    -- below 128 the two classes have the same rule
    have hbeyond : ¬covers strayWords c.toNat = true := fun hstray => by
      have := le_of_covers tables_ascend.1 (covers_strayWords.mp hstray).1
      omega
    rw [iff_false_left hbeyond]
    rintro ⟨hword, hpart⟩
    rw [hword] at hpart
    cases hpart
  · rw [covers_strayWords, Bool.or_eq_false_iff]

/-- A character that is no separator stands in one of the fields. -/
theorem exists_mem_fieldsList {sep c : Char} {cs : List Char} (hc : c ∈ cs) (hsep : c ≠ sep) :
    ∃ field ∈ fieldsList sep cs, c ∈ field := by
  induction cs with
  | nil => cases hc
  | cons d rest ih =>
    rw [fieldsList]
    rcases List.mem_cons.mp hc with rfl | hrest
    · rw [if_neg hsep]
      split <;> exact ⟨_, List.mem_cons_self, List.mem_cons_self⟩
    · obtain ⟨field, hfield, hmem⟩ := ih hrest
      split
      · exact ⟨field, List.mem_cons_of_mem _ hfield, hmem⟩
      · obtain ⟨first, others, hfields⟩ := List.exists_cons_of_ne_nil (fieldsList_ne_nil sep rest)
        rw [hfields] at hfield ⊢
        rcases List.mem_cons.mp hfield with rfl | hothers
        · exact ⟨_, List.mem_cons_self, List.mem_cons_of_mem _ hmem⟩
        · exact ⟨field, List.mem_cons_of_mem _ hothers, hmem⟩

/-- What is cut into identifiers has no other characters than these have, and separators. -/
theorem isIdentifierPart_of_fields {sep c : Char} {s : String}
    (h : ∀ field ∈ fields sep s, isIdentifier field = true) (hc : c ∈ s.toList) (hsep : c ≠ sep) :
    isIdentifierPart c = true := by
  obtain ⟨field, hfield, hmem⟩ := exists_mem_fieldsList hc hsep
  exact forall_isIdentifierPart (h _ (List.mem_map_of_mem hfield)) c (by simpa using hmem)

end Text

namespace Locale

/-! ### Symbols -/

theorem isIdentifier_symbol_iff {locale : String} :
    Text.isIdentifier (symbol locale) = true ↔ ∀ c ∈ locale.toList, Text.isStray c = false := by
  constructor
  · intro h c hc
    by_contra hstray
    obtain ⟨hword, hpart⟩ := Text.isStray_iff.mp (Bool.not_eq_false _ ▸ hstray)
    have hkept : c ∈ (symbol locale).toList := by simp [symbol, hc, hword]
    exact Text.not_mem_of_isIdentifier h hpart hkept
  · intro h
    refine isIdentifier_symbol fun c hc hword => ?_
    by_contra hpart
    have hstray := Text.isStray_iff.mpr ⟨hword, Bool.not_eq_true _ ▸ hpart⟩
    rw [h c hc] at hstray
    cases hstray

/-- A locale whose module name is made of identifiers has an identifier for its symbol: the parts of
the name have all characters of the locale but hyphens and dots, and no symbol keeps those. -/
theorem isIdentifier_symbol_of_moduleName {locale : String}
    (h : ∀ part ∈ Text.fields '.' (moduleName locale), Text.isIdentifier part = true) :
    Text.isIdentifier (symbol locale) = true := by
  refine isIdentifier_symbol fun c hc hword => ?_
  have hseparators : Text.isWord '-' = false ∧ Text.isWord '.' = false := by decide +kernel
  have hhyphen : c ≠ '-' := by
    rintro rfl
    rw [hseparators.1] at hword
    cases hword
  have hdot : c ≠ '.' := by
    rintro rfl
    rw [hseparators.2] at hword
    cases hword
  refine Text.isIdentifierPart_of_fields h ?_ hdot
  simp only [moduleName, substitute, String.toList_ofList]
  exact List.mem_map.mpr ⟨c, hc, if_neg hhyphen⟩

end Locale

namespace Registration

open LocaleRegistrar.Python

/-- A registration whose symbol is no identifier is refused, and so is the path of its data module,
for the same name: the path is checked first. -/
theorem build_refused_for_path {locale : String}
    (h : Text.isIdentifier (Locale.symbol locale) = false) (settings : Settings)
    (anchor : Option Nat) (start : Int) :
    ∃ refusal,
      dottedNode (settings.localesPackage ++ "." ++ Locale.moduleName locale) = .error refusal ∧
        build settings locale anchor start = .error refusal := by
  have hpath : firstBad? (Text.fields '.' (settings.localesPackage ++ "." ++
      Locale.moduleName locale)) ≠ none := by
    intro hnone
    have hparts := firstBad?_eq_none_iff.mp hnone
    rw [Text.fields_dot_append, List.forall_mem_append] at hparts
    rw [Locale.isIdentifier_symbol_of_moduleName hparts.2] at h
    cases h
  obtain ⟨bad, hbad⟩ := Option.ne_none_iff_exists'.mp hpath
  have hwritten : firstBad? (writtenNames settings locale) = some bad := by
    rw [writtenNames, Configuration.firstBad?_append, hbad, Option.some_or]
  exact ⟨.of bad, (ChecksNames.dottedNode _).refused bad hbad,
    (Configuration.build_checksNames settings locale anchor start).refused bad hwritten⟩

/-- The symbol of a locale is an identifier exactly if the locale has no stray character, and its
node is refused exactly otherwise. A registration is never refused for it: where the locale has a
stray character, the path of the data module has it too and is refused before. -/
theorem symbol_named_iff (locale : String) :
    (Text.isIdentifier (Locale.symbol locale) = true ↔
      ∀ c ∈ locale.toList, Text.isStray c = false) ∧
    nameNode (Locale.symbol locale) =
      (if ∀ c ∈ locale.toList, Text.isStray c = false then .ok (.ofName (Locale.symbol locale))
      else .error (.notIdentifier (Locale.symbol locale))) ∧
    ((∃ c ∈ locale.toList, Text.isStray c = true) → ∀ settings anchor start, ∃ refusal,
      dottedNode (settings.localesPackage ++ "." ++ Locale.moduleName locale) = .error refusal ∧
        build settings locale anchor start = .error refusal) := by
  refine ⟨Locale.isIdentifier_symbol_iff, ?_, ?_⟩
  · split
    · next hplain => exact nameNode_of_isIdentifier (Locale.isIdentifier_symbol_iff.mpr hplain)
    · next hstray =>
      have hsymbol : Text.isIdentifier (Locale.symbol locale) = false :=
        Bool.not_eq_true _ ▸ mt Locale.isIdentifier_symbol_iff.mp hstray
      have hframed : Locale.symbol locale ≠ "" := by simp [Locale.symbol]
      rw [nameNode, checkName_eq_error hsymbol, BadName.of, if_neg hframed]
      rfl
  · rintro ⟨c, hc, hstray⟩ settings anchor start
    refine build_refused_for_path ?_ settings anchor start
    by_contra hsymbol
    rw [Locale.isIdentifier_symbol_iff.mp (Bool.not_eq_false _ ▸ hsymbol) c hc] at hstray
    cases hstray

/-- The hyphen goes and the superscript stays, so that the symbol is no identifier; but it is the
part `de_²` of the path that the registration is refused for. -/
theorem symbol_named_iff_superscript :
    Text.isStray '²' = true ∧ Locale.symbol "de-²" = "__locale_de²__" ∧
      Text.isIdentifier (Locale.symbol "de-²") = false ∧
      nameNode (Locale.symbol "de-²") = .error (.notIdentifier (Locale.symbol "de-²")) ∧
      dottedNode "i18n_common.locales.de_²" = .error (.notIdentifier "de_²") ∧
      build {} "de-²" none 0 = .error (.notIdentifier "de_²") := by
  have hstray : Text.isStray '²' = true := by decide +kernel
  obtain ⟨hsymbol, hnode, hbuild⟩ := symbol_named_iff "de-²"
  have hall : ¬∀ c ∈ "de-²".toList, Text.isStray c = false := by decide +kernel
  have hpath : dottedNode "i18n_common.locales.de_²" = .error (.notIdentifier "de_²") :=
    (ChecksNames.dottedNode _).refused "de_²" (by decide +kernel)
  obtain ⟨refusal, hrefusal, hrefused⟩ := hbuild ⟨'²', by decide, hstray⟩ {} none 0
  obtain rfl : _ = refusal := Except.error.inj (hpath.symm.trans hrefusal)
  rw [if_neg hall] at hnode
  exact ⟨hstray, by decide +kernel, Bool.not_eq_true _ ▸ mt hsymbol.mp hall, hnode, hpath, hrefused⟩

end Registration

end LocaleRegistrar
