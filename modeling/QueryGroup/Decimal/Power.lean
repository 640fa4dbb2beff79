set_option autoImplicit false

namespace QueryGroup.Decimal

def twoTo (exponent : Nat) : Nat := Nat.pow 2 exponent

def tenTo (exponent : Nat) : Nat := Nat.pow 10 exponent

end QueryGroup.Decimal
