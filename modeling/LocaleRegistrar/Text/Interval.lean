/-!
Sets of code points given as a list of closed intervals. Membership is decided by looking at each
interval in turn; the tables that use it are sorted and their intervals are disjoint.
-/

namespace LocaleRegistrar.Text

/-- A closed interval of code points: its first and its last member. -/
abbrev Interval := Nat × Nat

/-- Does one of the intervals hold the code point `n`? -/
def covers (table : List Interval) (n : Nat) : Bool :=
  table.any fun interval => decide (interval.1 ≤ n) && decide (n ≤ interval.2)

theorem covers_iff {table : List Interval} {n : Nat} :
    covers table n = true ↔ ∃ interval ∈ table, interval.1 ≤ n ∧ n ≤ interval.2 := by
  simp [covers]

/-- The code points below 128 are decided by a rule of their own, the others by a table. -/
def classify (ascii : Char → Bool) (table : List Interval) (c : Char) : Bool :=
  if c.toNat < 128 then ascii c else covers table c.toNat

/-- What holds of all characters of a list is decided along the list, and not over all characters. -/
instance (priority := high) decidableForallMem {p : Char → Prop} [DecidablePred p]
    (cs : List Char) : Decidable (∀ c ∈ cs, p c) :=
  List.decidableBAll p cs

end LocaleRegistrar.Text
