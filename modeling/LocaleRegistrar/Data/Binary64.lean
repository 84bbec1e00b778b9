/-!
Decimal fractions as binary floating-point numbers of 64 bits: the nearest number, and the shortest
decimal that is nearest to a number. All arithmetic is exact.
-/

namespace LocaleRegistrar.Data

/-- The quotient of two natural numbers, rounded to the nearest one and from the middle to the even
one. -/
def roundDiv (num den : Nat) : Nat :=
  let q := num / den
  let twice := 2 * (num % den)
  if twice < den then q
  else if den < twice then q + 1
  else if q % 2 = 0 then q else q + 1

/-- A fraction of natural numbers. -/
structure Fraction where
  num : Nat
  den : Nat

namespace Fraction

/-- The fraction times a power of `base`. -/
def scale (f : Fraction) (base : Nat) (exponent : Int) : Fraction :=
  if 0 ≤ exponent then ⟨f.num * base.pow exponent.toNat, f.den⟩
  else ⟨f.num, f.den * base.pow (-exponent).toNat⟩

def le (f g : Fraction) : Bool := f.num * g.den ≤ g.num * f.den

def lt (f g : Fraction) : Bool := f.num * g.den < g.num * f.den

/-- The greatest exponent of a power of ten that is at most a positive fraction. -/
def decimalExponent (f : Fraction) : Int :=
  if f.den ≤ f.num then ((Nat.toDigits 10 (f.num / f.den)).length : Int) - 1
  else
    match (List.range 400).find? fun k => f.den ≤ f.num * Nat.pow 10 (k + 1) with
    | some k => -((k : Int) + 1)
    | none => 0

end Fraction

/-- The number `mantissa * 2 ^ exponent`, with a mantissa below `2 ^ 53`. -/
structure Binary64 where
  mantissa : Nat
  exponent : Int
deriving DecidableEq, Repr

namespace Binary64

/-- The least exponent. -/
def minExponent : Int := -1074

/-- The greatest exponent. -/
def maxExponent : Int := 971

/-- The number nearest to a fraction, or none if the fraction is too large. -/
def nearest? (f : Fraction) : Option Binary64 :=
  if f.num = 0 then some ⟨0, 0⟩
  else
    let guess : Int := (Nat.log2 f.num : Int) - (Nat.log2 f.den : Int) - 52
    let scaled := f.scale 2 (-guess)
    let fitting := if scaled.num / scaled.den < Nat.pow 2 52 then guess - 1 else guess
    let exponent := max fitting minExponent
    let scaled := f.scale 2 (-exponent)
    let mantissa := roundDiv scaled.num scaled.den
    let result : Binary64 :=
      if mantissa = Nat.pow 2 53 then ⟨Nat.pow 2 52, exponent + 1⟩ else ⟨mantissa, exponent⟩
    if maxExponent < result.exponent then none else some result

/-- A number's value. -/
def value (b : Binary64) : Fraction :=
  Fraction.scale ⟨b.mantissa, 1⟩ 2 b.exponent

/-- The bounds between which a decimal is nearest to a positive number. -/
def bounds (b : Binary64) : Fraction × Fraction :=
  let down := if b.mantissa = Nat.pow 2 52 ∧ minExponent < b.exponent then 1 else 2
  (Fraction.scale ⟨4 * b.mantissa - down, 1⟩ 2 (b.exponent - 2),
   Fraction.scale ⟨4 * b.mantissa + 2, 1⟩ 2 (b.exponent - 2))

/-- Does the decimal `digits * 10 ^ exponent` read back as the number? -/
def readsBack (b : Binary64) (digits : Nat) (exponent : Int) : Bool :=
  let decimal := Fraction.scale ⟨digits, 1⟩ 10 exponent
  let (low, high) := b.bounds
  if b.mantissa % 2 = 0 then low.le decimal && decimal.le high
  else low.lt decimal && decimal.lt high

/-- The decimal of `count` digits that reads back as a positive number and is nearest to it. -/
def decimalOf? (b : Binary64) (count : Nat) : Option (Nat × Int) :=
  let exponent := b.value.decimalExponent - ((count : Int) - 1)
  let scaled := b.value.scale 10 (-exponent)
  let below := scaled.num / scaled.den
  let near := roundDiv scaled.num scaled.den
  let far := if near = below then below + 1 else below
  if b.readsBack near exponent then some (near, exponent)
  else if b.readsBack far exponent then some (far, exponent)
  else none

/-- The shortest decimal that reads back as a positive number. -/
def shortest (b : Binary64) : Nat × Int :=
  ((List.range 17).findSome? fun n => b.decimalOf? (n + 1)).getD (0, 0)

end Binary64

/-- A decimal fraction as it was written, or one of the values that are no number. -/
inductive Decimal
  /-- The digits, with the power of ten they are multiplied by. -/
  | finite (negative : Bool) (digits : Nat) (exponent : Int)
  | infinite (negative : Bool)
  | undefined
deriving DecidableEq, Repr

namespace Decimal

/-- Digits with the point after the first `point` of them. Below `-4` and above 16 the point follows
the first digit, and an exponent of two digits or more comes after. -/
def layOut (digits : List Char) (point : Int) : List Char :=
  let zeros (n : Int) : List Char := List.replicate n.toNat '0'
  if -4 < point ∧ point ≤ 16 then
    if point ≤ 0 then '0' :: '.' :: zeros (-point) ++ digits
    else if (digits.length : Int) ≤ point then
      digits ++ zeros (point - digits.length) ++ ['.', '0']
    else digits.take point.toNat ++ '.' :: digits.drop point.toNat
  else
    let exponent := point - 1
    let magnitude := Nat.toDigits 10 exponent.natAbs
    let mark := if exponent < 0 then ['e', '-'] else ['e', '+']
    let fraction := match digits.drop 1 with
      | [] => []
      | rest => '.' :: rest
    digits.take 1 ++ fraction ++ mark ++ List.replicate (2 - magnitude.length) '0' ++ magnitude

/-- The number nearest to `digits * 10 ^ exponent`, or none if that is too large. Decimals that are
out of every number's reach are not computed. -/
def nearest? (digits : Nat) (exponent : Int) : Option Binary64 :=
  let point := (Nat.toDigits 10 digits).length + exponent
  if digits = 0 ∨ point < -400 then some ⟨0, 0⟩
  else if 400 < point then none
  else Binary64.nearest? (Fraction.scale ⟨digits, 1⟩ 10 exponent)

/-- The text of the number of 64 bits that is nearest to the decimal, with the fewest digits that
read back as it. -/
def text : Decimal → String
  | undefined => "nan"
  | infinite negative => if negative then "-inf" else "inf"
  | finite negative digits exponent =>
    let sign := if negative then "-" else ""
    sign ++
      match nearest? digits exponent with
      | none => "inf"
      | some b =>
        if b.mantissa = 0 then "0.0"
        else
          let (digits, exponent) := b.shortest
          let written := Nat.toDigits 10 digits
          let kept := (written.reverse.dropWhile (· = '0')).reverse
          String.ofList (layOut kept (written.length + exponent))

end Decimal

end LocaleRegistrar.Data
