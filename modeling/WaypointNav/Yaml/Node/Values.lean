import WaypointNav.Decimal.Read
import WaypointNav.Point
import WaypointNav.Yaml.Flaw
import WaypointNav.Yaml.Node

/-! Values of a known type from a tree. A quoted scalar is text whatever it says. -/
namespace WaypointNav.Yaml

def digitValue (c : Char) : Nat :=
  if c.isDigit then c.toNat - '0'.toNat
  else if 'a' ≤ c && c ≤ 'f' then c.toNat - 'a'.toNat + 10
  else if 'A' ≤ c && c ≤ 'F' then c.toNat - 'A'.toNat + 10
  else 16

def naturalIn (base : Nat) (cs : List Char) : Option Nat :=
  if cs.isEmpty || cs.any (base ≤ digitValue ·) then none
  else some (cs.foldl (fun n c => base * n + digitValue c) 0)

/-- A number below `2 ^ 64`; a decimal one has no leading zero. -/
def natural? (text : String) : Option Nat :=
  let cs := match text.toList with
    | '+' :: cs => cs
    | cs => cs
  let value := match cs with
    | '0' :: 'x' :: cs => naturalIn 16 cs
    | '0' :: 'o' :: cs => naturalIn 8 cs
    | '0' :: 'b' :: cs => naturalIn 2 cs
    | '0' :: _ :: _ => none
    | cs => naturalIn 10 cs
  value.filter (· < Nat.pow 2 64)

/-- A finite number that does not overflow, or one of the spellings of infinity and NaN. -/
def float? (text : String) : Option Float :=
  let finite (cs : List Char) := ((Decimal.read? cs).map Decimal.toFloat).filter Float.isFinite
  match text with
  | ".inf" | ".Inf" | ".INF" | "+.inf" | "+.Inf" | "+.INF" => some (1 / 0)
  | "-.inf" | "-.Inf" | "-.INF" => some (-1 / 0)
  | ".nan" | ".NaN" | ".NAN" => some (0 / 0)
  | _ =>
    match text.toList with
    | '+' :: cs => finite cs
    | '-' :: cs => (finite cs).map Neg.neg
    | cs => finite cs

def bool? (text : String) : Option Bool :=
  match text with
  | "true" | "True" | "TRUE" => some true
  | "false" | "False" | "FALSE" => some false
  | _ => none

namespace Node

def plain (read : String → Option α) (what : String) (node : Node) : Except Flaw α :=
  match node with
  | .scalar true text =>
    match read text with
    | some value => .ok value
    | none => .error (.expected what)
  | _ => .error (.expected what)

def natural : Node → Except Flaw Nat :=
  plain natural? "an unsigned integer"

def float : Node → Except Flaw Float :=
  plain float? "a float"

def bool : Node → Except Flaw Bool :=
  plain bool? "a boolean"

/-- A vacant node is the empty list. -/
def listOf (read : Node → Except Flaw α) : Node → Except Flaw (List α)
  | .list items => items.mapM read
  | node => if node.isVacant then .ok [] else .error (.expected "a sequence")

def point : Node → Except Flaw Point
  | .list [x, y] => do return ⟨← x.float, ← y.float⟩
  | _ => .error (.expected "two floats")

/-- The entries of a section; a vacant one has none. -/
def fields : Node → Except Flaw (List (String × Node))
  | .map entries => entries.mapM fun
    | (.scalar _ key, value) => .ok (key, value)
    | _ => .error (.expected "a field identifier")
  | node => if node.isVacant then .ok [] else .error (.expected "a map")

end Node

/-- The value of a known field, which may be absent but not repeated. -/
def field (fields : List (String × Node)) (name : String) (read : Node → Except Flaw α)
    (default : α) : Except Flaw α :=
  match fields.filter (·.1 == name) with
  | [] => .ok default
  | [(_, node)] => read node
  | _ => .error (.repeated name)

end WaypointNav.Yaml
