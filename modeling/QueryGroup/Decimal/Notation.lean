import QueryGroup.Decimal.Shortest
set_option autoImplicit false

namespace QueryGroup.Decimal

structure PositionalRange where
  least : Int
  greatest : Int

def positionalRange : PositionalRange := ⟨-5, 15⟩

def zeros (n : Nat) : List Char := List.replicate n '0'

/-- Digits in positional notation; `exponent` is that of the last digit. -/
def positional (digits : List Char) (exponent : Int) : List Char :=
  let point : Int := digits.length + exponent
  if 0 ≤ exponent then digits ++ zeros exponent.toNat ++ ['.', '0']
  else if 0 < point then digits.take point.toNat ++ '.' :: digits.drop point.toNat
  else '0' :: '.' :: zeros (-point).toNat ++ digits

def scientific (digits : List Char) (exponent : Int) : List Char :=
  let lead : Int := digits.length + exponent - 1
  let mantissa := match digits with
    | [] => []
    | [d] => [d]
    | d :: rest => d :: '.' :: rest
  let sign := if lead < 0 then '-' else '+'
  mantissa ++ 'e' :: sign :: Nat.toDigits 10 lead.natAbs

def Scientific.chars (x : Scientific) : List Char :=
  let digits := Nat.toDigits 10 x.digits
  let lead : Int := digits.length + x.exponent - 1
  if positionalRange.least ≤ lead ∧ lead ≤ positionalRange.greatest then
    positional digits x.exponent
  else scientific digits x.exponent

def Binary64.chars (x : Binary64) : List Char :=
  (if x.negative then ['-'] else []) ++ x.shortest.chars

/-- The shortest text that reads back as the double. -/
def Binary64.text (x : Binary64) : String := .ofList x.chars

example : (Binary64.zero true).chars = ['-', '0', '.', '0'] := by decide +kernel

example : (⟨false, 1, -1074⟩ : Binary64).chars = ['5', 'e', '-', '3', '2', '4'] := by
  decide +kernel

end QueryGroup.Decimal
