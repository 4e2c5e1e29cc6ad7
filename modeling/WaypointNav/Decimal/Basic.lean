/-! Decimal numbers and their positional text. -/
namespace WaypointNav

/-- The number `digits * 10 ^ exponent`. -/
structure Decimal where
  digits : Nat
  exponent : Int
deriving DecidableEq

namespace Decimal

def trim (d : Decimal) : Decimal :=
  if h : d.digits ≠ 0 ∧ d.digits % 10 = 0 then trim ⟨d.digits / 10, d.exponent + 1⟩ else d
termination_by d.digits
decreasing_by omega

/-- All digits written out and never an exponent. A negative `exponent` is the number of places after
the point, and at least one digit stands before it. -/
def positional (d : Decimal) : String :=
  let digits := Nat.toDigits 10 d.digits
  if 0 ≤ d.exponent then
    String.ofList (digits ++ List.replicate d.exponent.toNat '0')
  else
    let places := (-d.exponent).toNat
    let padded := List.replicate (places + 1 - digits.length) '0' ++ digits
    let whole := padded.length - places
    String.ofList (padded.take whole ++ '.' :: padded.drop whole)

/-- The text of a binary64 value whose magnitude `mantissa * 2 ^ exponent` is written as `select`
says. Zero keeps its sign; NaN has none. -/
def text (select : Nat → Int → Decimal) (x : Float) : String :=
  match x.toModel.unpack with
  | .notANumber => "NaN"
  | .infinity sign => mark sign ++ "inf"
  | .zero sign => mark sign ++ (select 0 0).positional
  | .finite sign mantissa exponent _ => mark sign ++ (select mantissa exponent).positional
where
  mark : Float.Model.UnpackedFloat.Sign → String
    | .negative => "-"
    | .positive => ""

end Decimal

end WaypointNav
