/-! Remainders of binary64 values. The quotient may have a thousand bits, so the division is done on
integers over a common power of two; its result always fits the format. -/
namespace WaypointNav.Angle

open Float.Model

/-- The exact remainder of the truncating division, with the sign of the dividend. -/
def truncated : UnpackedFloat → UnpackedFloat → UnpackedFloat
  | .finite sign m e _, .finite _ n f _ =>
    let least := min e f
    let rest := (m * Nat.pow 2 (e - least).toNat) % (n * Nat.pow 2 (f - least).toNat)
    if rest = 0 then .zero sign else .round .binary64 sign rest least
  | .finite sign m e pos, .infinity _ => .finite sign m e pos
  | .zero sign, .finite .. => .zero sign
  | .zero sign, .infinity _ => .zero sign
  | _, _ => .notANumber

def remainder (x y : Float) : Float :=
  .ofModel (.pack (truncated x.toModel.unpack y.toModel.unpack))

/-- The remainder brought to the sign of a positive modulus. The sum may round up to the modulus. -/
def euclidean (x modulus : Float) : Float :=
  let rest := remainder x modulus
  if rest < 0 then rest + modulus.abs else rest

end WaypointNav.Angle
