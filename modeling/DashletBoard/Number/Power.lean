/-
Module: DashletBoard.Number.Power
Purpose: Powers of two and ten.
Main exports: twoTo, tenTo
-/

namespace DashletBoard

/-- A power of two. -/
def twoTo (exponent : Nat) : Nat := Nat.pow 2 exponent

/-- A power of ten. -/
def tenTo (exponent : Nat) : Nat := Nat.pow 10 exponent

end DashletBoard
