import QueryGroup.Decimal.Binary64
set_option autoImplicit false

/- The shortest decimal that reads back as a given double. Numbers that round to a double
fill an interval around it, half a unit of the last place to each side and half of that
below a power of two; the ends belong to it when the mantissa is even. For one digit, two
digits and so on the two neighbours of the double on that decimal grid are tried, the
nearer one first, until one lies in the interval. -/
namespace QueryGroup.Decimal

/-- The number `digits * 10 ^ exponent`. -/
structure Scientific where
  digits : Nat
  exponent : Int
deriving DecidableEq, Repr

def digitCount (n : Nat) : Nat := (Nat.toDigits 10 n).length

/-- The least `k` with `num / den < 10 ^ k`, for a positive fraction. -/
def magnitude (num den : Nat) : Int :=
  if den ≤ num then digitCount (num / den)
  else 1 - (digitCount ((den + num - 1) / num - 1) : Int)

/-- Drops the zeros at the end of the digits; `fuel` bounds their number. -/
def Scientific.stripZeros : Nat → Scientific → Scientific
  | 0, x => x
  | fuel + 1, x =>
      if x.digits ≠ 0 ∧ x.digits % 10 = 0 then
        stripZeros fuel ⟨x.digits / 10, x.exponent + 1⟩
      else x

namespace Binary64

/-- The neighbour of the double with `count` digits that reads back as the double, if
there is one; `top` is the double's magnitude. -/
def shortestOf? (x : Binary64) (top : Int) (count : Nat) : Option Scientific :=
  let grid : Int := top - count
  let unit : Int := x.exponent - 2
  let num := twoTo unit.toNat * tenTo (-grid).toNat
  let den := twoTo (-unit).toNat * tenTo grid.toNat
  let low := if x.mantissa = twoTo 52 ∧ leastExponent < x.exponent
    then 4 * x.mantissa - 1 else 4 * x.mantissa - 2
  let high := 4 * x.mantissa + 2
  let value := 4 * x.mantissa * num
  let below := value / den
  let inside (n : Nat) : Bool :=
    if x.mantissa % 2 = 0 then low * num ≤ n * den && n * den ≤ high * num
    else low * num < n * den && n * den < high * num
  let nearBelow : Bool :=
    let gapBelow := value - below * den
    let gapAbove := (below + 1) * den - value
    gapBelow < gapAbove || (gapBelow == gapAbove && below % 2 == 0)
  let (first, second) := if nearBelow then (below, below + 1) else (below + 1, below)
  if inside first then some ⟨first, grid⟩
  else if inside second then some ⟨second, grid⟩
  else none

/-- The digits that are written for the double's magnitude. Seventeen always suffice. -/
def shortest (x : Binary64) : Scientific :=
  if x.isZero then ⟨0, 0⟩
  else
    let (num, den) := x.fraction
    let top := magnitude num den
    match (List.range 17).findSome? fun k => x.shortestOf? top (k + 1) with
    | some found => found.stripZeros 17
    | none => ⟨x.mantissa, 0⟩

example : (⟨false, 1, -1074⟩ : Binary64).shortest = ⟨5, -324⟩ := by decide +kernel

example : (⟨false, 7205759403792794, -56⟩ : Binary64).shortest = ⟨1, -1⟩ := by
  decide +kernel

end Binary64

end QueryGroup.Decimal
