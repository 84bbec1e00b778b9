import LocaleRegistrar.Bootstrap.Entry
import LocaleRegistrar.Proofs.Wording

/-! References to a class and their text. The text is cut at its last `#`, and both halves are
trimmed afterwards, so that a path may hold a `#` and a class may not. Main statement: reading takes
back exactly the texts of references whose halves are trimmed and that name a class without a `#`,
and all that reading gives is such a reference. -/

namespace LocaleRegistrar

/-! ### Trimming -/

namespace Text

/-- There is no blank at either end. -/
structure Flush (cs : List Char) : Prop where
  head : ∀ c ∈ cs.head?, isBlank c = false
  last : ∀ c ∈ cs.getLast?, isBlank c = false

theorem trimList_eq_self {cs : List Char} (h : Flush cs) : trimList cs = cs := by
  have hdrop : cs.dropWhile isBlank = cs := by
    cases cs with
    | nil => rfl
    | cons c rest => simp [h.head c (by simp)]
  have htrim : trimEndList (cs ++ []) = cs := trimEndList_append h.last (by simp)
  rw [trimList, hdrop, ← List.append_nil cs, htrim, List.append_nil]

/-- What trimming the end takes away is blanks, and what it leaves does not end with one. -/
theorem trimEndList_spec (cs : List Char) :
    (∃ blanks, cs = trimEndList cs ++ blanks ∧ ∀ c ∈ blanks, isBlank c = true) ∧
      ∀ c ∈ (trimEndList cs).getLast?, isBlank c = false := by
  induction cs with
  | nil => exact ⟨⟨[], by simp [trimEndList]⟩, by simp [trimEndList]⟩
  | cons c rest ih =>
    obtain ⟨⟨blanks, hrest, hblanks⟩, hlast⟩ := ih
    rw [trimEndList]
    cases hkept : trimEndList rest with
    | nil =>
      rw [hkept, List.nil_append] at hrest
      cases hc : isBlank c with
      | true => exact ⟨⟨c :: rest, by simp, by simpa [hc, hrest] using hblanks⟩, by simp⟩
      | false => exact ⟨⟨blanks, by simp [hrest], hblanks⟩, by simpa using hc⟩
    | cons d kept =>
      rw [hkept] at hrest hlast
      exact ⟨⟨blanks, by simp [hrest], hblanks⟩, by simpa using hlast⟩

/-- Trimming takes blanks away from both ends, and leaves none there. -/
theorem trimList_spec (cs : List Char) :
    (∃ before after, cs = before ++ trimList cs ++ after ∧ (∀ c ∈ before, isBlank c = true) ∧
      ∀ c ∈ after, isBlank c = true) ∧ Flush (trimList cs) := by
  obtain ⟨⟨after, hdrop, hafter⟩, hlast⟩ := trimEndList_spec (cs.dropWhile isBlank)
  have hcut : cs = cs.takeWhile isBlank ++ trimList cs ++ after := by
    rw [List.append_assoc, trimList, ← hdrop, List.takeWhile_append_dropWhile]
  refine ⟨⟨_, after, hcut, fun c hc => List.mem_takeWhile_imp hc, hafter⟩, fun c hc => ?_, hlast⟩
  -- what is left of the text without the blanks before it starts where that text starts
  have hhead : (cs.dropWhile isBlank).head? = some c := by
    rw [hdrop, List.head?_append, show (trimEndList _).head? = some c from hc, Option.some_or]
  have hnot := List.head?_dropWhile_not isBlank cs
  rw [hhead] at hnot
  simpa using hnot

theorem flush_trimList (cs : List Char) : Flush (trimList cs) :=
  (trimList_spec cs).2

theorem mem_of_mem_trimList {c : Char} {cs : List Char} (h : c ∈ trimList cs) : c ∈ cs := by
  obtain ⟨⟨before, after, hcs, -⟩, -⟩ := trimList_spec cs
  rw [hcs]
  simp [h]

/-- Only blanks are trimmed to nothing. -/
theorem trimList_eq_nil_iff {cs : List Char} : trimList cs = [] ↔ ∀ c ∈ cs, isBlank c = true := by
  constructor
  · intro hnil
    obtain ⟨⟨before, after, hcs, hbefore, hafter⟩, -⟩ := trimList_spec cs
    rw [hcs, hnil, List.append_nil]
    exact fun c hc => (List.mem_append.mp hc).elim (hbefore c) (hafter c)
  · intro hblank
    have hdrop : cs.dropWhile isBlank = [] := by simpa using hblank
    rw [trimList, hdrop, trimEndList]

@[simp] theorem toList_trim (s : String) : (trim s).toList = trimList s.toList := by
  rw [trim, String.toList_ofList]

theorem trim_eq_self {s : String} (h : Flush s.toList) : trim s = s :=
  String.toList_inj.mp (by rw [toList_trim, trimList_eq_self h])

theorem flush_trim (s : String) : Flush (trim s).toList := by
  rw [toList_trim]
  exact flush_trimList s.toList

theorem trim_trim (s : String) : trim (trim s) = trim s :=
  trim_eq_self (flush_trim s)

theorem trim_eq_empty_iff {s : String} : trim s = "" ↔ ∀ c ∈ s.toList, isBlank c = true := by
  rw [← trimList_eq_nil_iff, ← toList_trim, String.toList_eq_nil_iff]

/-! ### Cutting at the last separator -/

theorem splitLastList_eq_some_iff {sep : Char} {cs before after : List Char} :
    splitLastList sep cs = some (before, after) ↔ cs = before ++ sep :: after ∧ sep ∉ after := by
  induction cs generalizing before with
  | nil => simp [splitLastList]
  | cons c rest ih =>
    rw [splitLastList]
    cases hrest : splitLastList sep rest with
    | some cut =>
      obtain ⟨start, after'⟩ := cut
      rw [hrest] at ih
      constructor
      · rintro h
        obtain ⟨rfl, rfl⟩ : c :: start = before ∧ after' = after := by simpa using h
        obtain ⟨rfl, hafter⟩ := ih.mp rfl
        exact ⟨rfl, hafter⟩
      · rintro ⟨hcs, hafter⟩
        cases before with
        | nil =>
          -- the rest has a separator, but nothing after the last one has
          obtain ⟨-, rfl⟩ := List.cons.inj hcs
          rw [(splitLastList_eq_none_iff sep rest).mpr hafter] at hrest
          cases hrest
        | cons d before =>
          obtain ⟨rfl, hrest'⟩ := List.cons.inj hcs
          obtain ⟨rfl, rfl⟩ : start = before ∧ after' = after := by
            simpa using ih.mpr ⟨hrest', hafter⟩
          rfl
    | none =>
      have hnone := (splitLastList_eq_none_iff sep rest).mp hrest
      dsimp only
      constructor
      · intro h
        split at h
        · next hc =>
          obtain ⟨rfl, rfl⟩ : [] = before ∧ rest = after := by simpa using h
          exact ⟨by rw [hc, List.nil_append], hnone⟩
        · cases h
      · rintro ⟨hcs, hafter⟩
        cases before with
        | nil =>
          obtain ⟨rfl, rfl⟩ := List.cons.inj hcs
          simp
        | cons d before =>
          obtain ⟨-, rfl⟩ := List.cons.inj hcs
          simp at hnone

/-- A text is cut where the separator occurs for the last time. -/
theorem splitLast_eq_some_iff {sep : Char} {s before after : String} :
    splitLast sep s = some (before, after) ↔
      s = before ++ String.singleton sep ++ after ∧ sep ∉ after.toList := by
  have htext : s = before ++ String.singleton sep ++ after ↔
      s.toList = before.toList ++ sep :: after.toList := by
    rw [← String.toList_inj]
    simp
  rw [htext, ← splitLastList_eq_some_iff, splitLast, Option.map_eq_some_iff]
  constructor
  · rintro ⟨⟨start, rest⟩, hcut, heq⟩
    obtain ⟨rfl, rfl⟩ := Prod.mk.inj heq
    simpa using hcut
  · intro hcut
    exact ⟨_, hcut, by simp⟩

theorem splitLast_eq_none_iff {sep : Char} {s : String} :
    splitLast sep s = none ↔ sep ∉ s.toList := by
  rw [splitLast, Option.map_eq_none_iff, splitLastList_eq_none_iff]

end Text

/-! ### References -/

namespace Bootstrap.Entry

open LocaleRegistrar.Text

/-- What is read is the two trimmed halves around the last `#`. -/
theorem parse_eq_ok_iff {text : String} {e : Entry} :
    parse text = .ok e ↔ ∃ path className, text = path ++ "#" ++ className ∧
      '#' ∉ className.toList ∧ trim className ≠ "" ∧ e = ⟨trim path, trim className⟩ := by
  unfold parse
  cases hcut : splitLast '#' text with
  | none =>
    have hnone := splitLast_eq_none_iff.mp hcut
    constructor
    · intro h
      cases h
    · rintro ⟨path, className, rfl, -⟩
      simp at hnone
  | some halves =>
    obtain ⟨path, className⟩ := halves
    have hhalves := splitLast_eq_some_iff.mp hcut
    dsimp only
    constructor
    · intro h
      split at h
      · cases h
      · next hname => exact ⟨path, className, hhalves.1, hhalves.2, hname, (Except.ok.inj h).symm⟩
    · rintro ⟨path', className', htext, hsharp, hname, rfl⟩
      have hcut' : splitLast '#' text = some (path', className') :=
        splitLast_eq_some_iff.mpr ⟨htext, hsharp⟩
      obtain ⟨rfl, rfl⟩ : path = path' ∧ className = className' := by simpa [hcut] using hcut'
      rw [if_neg hname]

/-- A text is refused if nothing but blanks stands after its last `#`, or if it has none. -/
theorem parse_eq_error_iff {text : String} {bad : BadEntry} :
    parse text = .error bad ↔ bad = ⟨text⟩ ∧ ('#' ∉ text.toList ∨
      ∃ path className, text = path ++ "#" ++ className ∧ '#' ∉ className.toList ∧
        ∀ c ∈ className.toList, isBlank c = true) := by
  unfold parse
  cases hcut : splitLast '#' text with
  | none =>
    have hnone := splitLast_eq_none_iff.mp hcut
    simp only [Except.error.injEq, hnone, not_false_eq_true, true_or, and_true]
    exact eq_comm
  | some halves =>
    obtain ⟨path, className⟩ := halves
    obtain ⟨htext, hsharp⟩ := splitLast_eq_some_iff.mp hcut
    have hmem : '#' ∈ text.toList := by simp [htext]
    have hblank : (∃ path className, text = path ++ "#" ++ className ∧ '#' ∉ className.toList ∧
        ∀ c ∈ className.toList, isBlank c = true) ↔ trim className = "" := by
      rw [trim_eq_empty_iff]
      constructor
      · rintro ⟨path', className', htext', hsharp', hblank⟩
        have hcut' : splitLast '#' text = some (path', className') :=
          splitLast_eq_some_iff.mpr ⟨htext', hsharp'⟩
        obtain ⟨rfl, rfl⟩ : path = path' ∧ className = className' := by simpa [hcut] using hcut'
        exact hblank
      · intro hblank
        exact ⟨path, className, htext, hsharp, hblank⟩
    rw [hblank]
    by_cases hname : trim className = ""
    · simp only [hname, if_true, Except.error.injEq, or_true, and_true]
      exact eq_comm
    · simp [hname, hmem]

theorem parse_text {e : Entry} (hpath : Flush e.path.toList) (hname : Flush e.className.toList)
    (hne : e.className ≠ "") (hsharp : '#' ∉ e.className.toList) : parse e.text = .ok e := by
  have htrim := trim_eq_self hname
  refine parse_eq_ok_iff.mpr ⟨e.path, e.className, rfl, hsharp, ?_, ?_⟩
  · rwa [htrim]
  · rw [trim_eq_self hpath, htrim]

/-- What a reference that was read is like. -/
theorem of_parse {text : String} {e : Entry} (h : parse text = .ok e) :
    Flush e.path.toList ∧ Flush e.className.toList ∧ e.className ≠ "" ∧
      '#' ∉ e.className.toList := by
  obtain ⟨path, className, -, hsharp, hname, rfl⟩ := parse_eq_ok_iff.mp h
  refine ⟨flush_trim path, flush_trim className, hname, fun hmem => hsharp ?_⟩
  rw [toList_trim] at hmem
  exact mem_of_mem_trimList hmem

/-- The text of a reference that was read is read as the same reference. -/
theorem parse_text_of_parse {text : String} {e : Entry} (h : parse text = .ok e) :
    parse e.text = .ok e := by
  obtain ⟨hpath, hname, hne, hsharp⟩ := of_parse h
  exact parse_text hpath hname hne hsharp

/-- Reading and writing references. What was read is read again from its text. The references that
their text is read as are those without blanks at the ends of either half and with a class that is
named and has no `#` in its name. A text is refused exactly if it has no `#` or only blanks after
the last one. -/
theorem reference_round_trip (text : String) (e : Entry) :
    (parse text = .ok e → parse e.text = .ok e) ∧
    (parse e.text = .ok e ↔ Flush e.path.toList ∧ Flush e.className.toList ∧ e.className ≠ "" ∧
      '#' ∉ e.className.toList) ∧
    ((∃ bad, parse text = .error bad) ↔ '#' ∉ text.toList ∨
      ∃ path className, text = path ++ "#" ++ className ∧ '#' ∉ className.toList ∧
        ∀ c ∈ className.toList, isBlank c = true) := by
  refine ⟨parse_text_of_parse, ⟨of_parse, ?_⟩, ?_⟩
  · rintro ⟨hpath, hname, hne, hsharp⟩
    exact parse_text hpath hname hne hsharp
  · simp only [parse_eq_error_iff, exists_eq_left]

/-- A path with a `#` between blanks of several kinds is read, and read again; a class with a `#` in
its name is written as something else; and a text with blanks after its last `#` is refused. -/
theorem reference_round_trip_sharp_path :
    parse "\u2003src#v2 #\u3000App\t" = .ok ⟨"src#v2", "App"⟩ ∧
    parse (text ⟨"src#v2", "App"⟩) = .ok ⟨"src#v2", "App"⟩ ∧
    parse (text ⟨"src", "v2#App"⟩) ≠ .ok ⟨"src", "v2#App"⟩ ∧
    ∃ bad, parse "src#App# \x1f" = .error bad := by
  have hread : parse "\u2003src#v2 #\u3000App\t" = .ok ⟨"src#v2", "App"⟩ := by decide +kernel
  have hsharp := (reference_round_trip "" ⟨"src", "v2#App"⟩).2.1
  refine ⟨hread, (reference_round_trip _ _).1 hread, fun h => ?_, ?_⟩
  · exact (hsharp.mp h).2.2.2 (by decide)
  · refine (reference_round_trip "src#App# \x1f" ⟨"", ""⟩).2.2.mpr (.inr ?_)
    exact ⟨"src#App", " \x1f", by decide, by decide, by decide⟩

end Bootstrap.Entry

end LocaleRegistrar
