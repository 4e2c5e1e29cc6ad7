import WaypointNav.Decimal.Basic

/-! A fixed number of places after the point, rounded from the exact binary value. -/
namespace WaypointNav.Decimal

/-- The quotient rounded to the nearest integer, a half to the even neighbour. -/
def roundDiv (numerator denominator : Nat) : Nat :=
  let quotient := numerator / denominator
  match compare (2 * (numerator % denominator)) denominator with
  | .lt => quotient
  | .gt => quotient + 1
  | .eq => quotient + quotient % 2

def toPlaces (places m : Nat) (q : Int) : Decimal :=
  ⟨roundDiv (m * Nat.pow 2 q.toNat * Nat.pow 10 places) (Nat.pow 2 (-q).toNat), -places⟩

def fixed (places : Nat) (x : Float) : String :=
  text (toPlaces places) x

end WaypointNav.Decimal
