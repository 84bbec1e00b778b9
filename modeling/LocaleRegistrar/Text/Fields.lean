/-!
Cutting a text at a separator: into all the fields between the separators, or in two at the last one.
-/

namespace LocaleRegistrar.Text

/-- The fields between the occurrences of `sep`. There is one more than there are separators. -/
def fieldsList (sep : Char) : List Char → List (List Char)
  | [] => [[]]
  | c :: rest =>
    if c = sep then [] :: fieldsList sep rest
    else
      match fieldsList sep rest with
      | [] => [[c]]
      | field :: fields => (c :: field) :: fields

def fields (sep : Char) (s : String) : List String :=
  (fieldsList sep s.toList).map String.ofList

/-- What stands before and after the last `sep`. -/
def splitLastList (sep : Char) : List Char → Option (List Char × List Char)
  | [] => none
  | c :: rest =>
    match splitLastList sep rest with
    | some (before, after) => some (c :: before, after)
    | none => if c = sep then some ([], rest) else none

def splitLast (sep : Char) (s : String) : Option (String × String) :=
  (splitLastList sep s.toList).map fun (before, after) =>
    (String.ofList before, String.ofList after)

theorem fieldsList_ne_nil (sep : Char) (cs : List Char) : fieldsList sep cs ≠ [] := by
  cases cs with
  | nil => simp [fieldsList]
  | cons c rest =>
    rw [fieldsList]
    split
    · simp
    · split <;> simp

/-- There is a last separator exactly if there is one at all. -/
theorem splitLastList_eq_none_iff (sep : Char) (cs : List Char) :
    splitLastList sep cs = none ↔ sep ∉ cs := by
  induction cs with
  | nil => simp [splitLastList]
  | cons c rest ih =>
    rw [splitLastList]
    cases h : splitLastList sep rest with
    | some p =>
      have : sep ∈ rest := Decidable.byContradiction fun hn => by simp [ih.2 hn] at h
      simp [this]
    | none =>
      have hn := ih.1 h
      by_cases hc : c = sep
      · simp [hc]
      · simp [hc, hn, Ne.symm hc]

end LocaleRegistrar.Text
