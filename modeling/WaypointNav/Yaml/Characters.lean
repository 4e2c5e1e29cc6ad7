/-! Classes of characters. Line breaks are brought to one form before anything else is read. -/
namespace WaypointNav.Yaml

def allowed (c : Char) : Bool :=
  let n := c.toNat
  n = 0x09 || n = 0x0A || n = 0x0D || 0x20 ≤ n && n ≤ 0x7E || n = 0x85
    || 0xA0 ≤ n && n ≤ 0xD7FF || 0xE000 ≤ n && n ≤ 0xFFFD || 0x10000 ≤ n

def normalize : List Char → List Char
  | '\r' :: '\n' :: rest => '\n' :: normalize rest
  | '\r' :: rest => '\n' :: normalize rest
  | '\u0085' :: rest => '\n' :: normalize rest
  | c :: rest => c :: normalize rest
  | [] => []

def isBreak (c : Char) : Bool :=
  c == '\n' || c == '\u2028' || c == '\u2029'

def isBlank (c : Char) : Bool :=
  c == ' ' || c == '\t'

def isFlowIndicator (c : Char) : Bool :=
  c == ',' || c == '[' || c == ']' || c == '{' || c == '}'

def blankAhead : List Char → Bool
  | [] => true
  | c :: _ => isBlank c || isBreak c

/-- Whether three times `mark` stand here, as in a document marker. -/
def isMarker (mark c : Char) : List Char → Bool
  | a :: b :: rest => c == mark && a == mark && b == mark && blankAhead rest
  | _ => false

end WaypointNav.Yaml
