import WaypointNav.Decimal.Basic

/-! Decimal numbers from text, and the binary64 value nearest to one. -/
namespace WaypointNav.Decimal

def ofDigits (cs : List Char) : Nat :=
  cs.foldl (fun n c => 10 * n + (c.toNat - '0'.toNat)) 0

def exponent? (cs : List Char) : Option Int :=
  match cs with
  | '-' :: digits => if digits.isEmpty || !digits.all Char.isDigit then none else some (-ofDigits digits)
  | '+' :: digits => unsigned digits
  | digits => unsigned digits
where
  unsigned (digits : List Char) : Option Int :=
    if digits.isEmpty || !digits.all Char.isDigit then none else some (ofDigits digits)

def read? (cs : List Char) : Option Decimal := do
  let (whole, rest) := cs.span Char.isDigit
  let (fraction, rest) := match rest with
    | '.' :: rest => rest.span Char.isDigit
    | rest => ([], rest)
  if whole.isEmpty && fraction.isEmpty then none
  let exponent ← match rest with
    | [] => some 0
    | 'e' :: rest | 'E' :: rest => exponent? rest
    | _ => none
  return ⟨ofDigits (whole ++ fraction), exponent - fraction.length⟩

/-- The nearest binary64 value, infinite when there is none. Numbers far out of range are told by
their number of digits. -/
def toFloat (d : Decimal) : Float :=
  let size := (Nat.toDigits 10 d.digits).length + d.exponent
  if d.digits = 0 || size < -330 then 0
  else if size > 310 then 1 / 0
  else Float.ofScientific d.digits (d.exponent < 0) d.exponent.natAbs

end WaypointNav.Decimal
