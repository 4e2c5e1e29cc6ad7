import WaypointNav.Decimal.Basic

/-! The fewest digits that read back to the same binary64 value. The reals that round to
`m * 2 ^ q` form an interval: half a unit of `m` to each side, a quarter below a power of two, the
ends included when `m` is even. The first decimal grid with a point in it gives the digits. -/
namespace WaypointNav.Decimal

/-- The number of digits before the point, negative when zeros follow it: the least `k` with
`m * 2 ^ q < 10 ^ k`. The least positive value is above `10 ^ (-400)`. -/
def magnitude (m : Nat) (q : Int) : Int :=
  (Nat.toDigits 10 (m * Nat.pow 2 q.toNat * Nat.pow 10 400 / Nat.pow 2 (-q).toNat)).length - 400

/-- The value's neighbour on the grid of multiples of `10 ^ g` that reads back to it. Of two the
nearer is taken, of two equally near ones the upper. -/
def onGrid? (m : Nat) (q g : Int) : Option Decimal :=
  let unit := Nat.pow 2 q.toNat * Nat.pow 10 (-g).toNat
  let step := Nat.pow 2 (-q).toNat * Nat.pow 10 g.toNat
  let lower := m * unit / step
  let below := m * unit - lower * step
  let above := step - below
  let narrow := m == Nat.pow 2 52 && decide (-1074 < q)
  match within m (4 * below) (if narrow then unit else 2 * unit), within m (4 * above) (2 * unit) with
  | true, true => some ⟨if below < above then lower else lower + 1, g⟩
  | true, false => some ⟨lower, g⟩
  | false, true => some ⟨lower + 1, g⟩
  | false, false => none
where
  within (m distance bound : Nat) : Bool :=
    if m % 2 == 0 then distance ≤ bound else distance < bound

/-- Seventeen digits always suffice; should they not, the value itself is the answer. -/
def shortest (m : Nat) (q : Int) : Decimal :=
  if m = 0 then ⟨0, 0⟩
  else
    let k := magnitude m q
    let found := (List.range 17).findSome? fun (n : Nat) => onGrid? m q (k - (n + 1))
    (found.getD ⟨m * Nat.pow 2 q.toNat * Nat.pow 5 (-q).toNat, min q 0⟩).trim

def plain (x : Float) : String :=
  text shortest x

end WaypointNav.Decimal
