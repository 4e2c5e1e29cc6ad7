import WaypointNav.Yaml.Flaw
import WaypointNav.Yaml.Node
import WaypointNav.Yaml.Token

/-! From tokens to a tree, with the open collections on a stack. What a token leaves out is vacant: an item
between two dashes, a value before the next key. -/
namespace WaypointNav.Yaml

inductive ListKind
  | document
  | block
  /-- dashes in the column of the key they belong to; nothing marks their end -/
  | dashes
  | flow
deriving DecidableEq

inductive MapKind
  | block
  | flow
  | pair
deriving DecidableEq

inductive Phase
  | idle
  | entry
  | key
  | colon (key : Node)
  | value (key : Node)

/-- An open collection; items and entries are kept latest first. -/
inductive Frame
  | list (kind : ListKind) (items : List Node) (wanted : Bool)
  | map (kind : MapKind) (entries : List (Node × Node)) (phase : Phase)

namespace Frame

def put (node : Node) : Frame → Frame
  | .list kind items _ => .list kind (node :: items) false
  | .map kind entries .key => .map kind entries (.colon node)
  | .map kind entries (.value key) => .map kind ((key, node) :: entries) .idle
  | .map kind entries _ => .map kind ((node, .vacant) :: entries) .idle

def node : Frame → Node
  | .list _ items _ => .list items.reverse
  | .map _ entries _ => .map entries.reverse

/-- Whether a node is awaited that `token` shows to be vacant. -/
def leavesOut : Frame → Token → Bool
  | .list .block _ true, token => token == .dash || token == .blockEnd
  | .list .dashes _ true, token =>
    token == .dash || token == .key || token == .value || token == .blockEnd
  | .map .block _ .key, token | .map .block _ (.value _), token =>
    token == .key || token == .value || token == .blockEnd
  | .map .pair _ (.value _), token => token == .comma || token == .flowListEnd
  | .map .flow _ .key, token => token == .value || token == .comma || token == .flowMapEnd
  | .map .flow _ (.value _), token => token == .comma || token == .flowMapEnd
  | _, _ => false

def settle (token : Token) (frame : Frame) : Frame :=
  match if frame.leavesOut token then frame.put .vacant else frame with
  | .map kind entries (.colon key) =>
    if token = .value then .map kind entries (.colon key)
    else .map kind ((key, .vacant) :: entries) .idle
  | frame => frame

/-- Whether the collection ended before `token` without a token of its own. -/
def endsBefore : Frame → Token → Bool
  | .list .dashes _ false, token => token != .dash
  | .map .pair _ .idle, _ => true
  | _, _ => false

end Frame

/-- The stack with everything filled in and closed that `token` leaves behind. -/
def settle (token : Token) : List Frame → List Frame
  | [] => []
  | frame :: stack =>
    let frame := frame.settle token
    match stack with
    | [] => [frame]
    | parent :: stack =>
      if frame.endsBefore token then settle token (parent.put frame.node :: stack)
      else frame :: parent :: stack
termination_by stack => stack.length

def beginNode (frame : Frame) (stack : List Frame) (token : Token) : Except Flaw (List Frame) :=
  match token with
  | .scalar plain text => .ok (frame.put (.scalar plain text) :: stack)
  | .blockList => .ok (.list .block [] false :: frame :: stack)
  | .blockMap => .ok (.map .block [] .idle :: frame :: stack)
  | .flowList => .ok (.list .flow [] true :: frame :: stack)
  | .flowMap => .ok (.map .flow [] .entry :: frame :: stack)
  | token => .error (.unexpected token.describe)

def close (frame : Frame) : List Frame → Except Flaw (List Frame)
  | [] => .error .unfinished
  | parent :: stack => .ok (parent.put frame.node :: stack)

/-- Takes in a token that nothing is left out before. After the mark of a key, a pair takes whatever
ends its vacant key for the end of the key alone: the list never sees it. -/
def accept (frame : Frame) (stack : List Frame) (token : Token) : Except Flaw (List Frame) :=
  match frame, token with
  | .map .pair entries .key, .value | .map .pair entries .key, .comma
  | .map .pair entries .key, .flowListEnd => .ok (.map .pair entries (.colon .vacant) :: stack)
  | .list .block items false, .dash => .ok (.list .block items true :: stack)
  | .list .block _ false, .blockEnd => close frame stack
  | .list .dashes items false, .dash => .ok (.list .dashes items true :: stack)
  | .list .flow items false, .comma => .ok (.list .flow items true :: stack)
  | .list .flow _ _, .flowListEnd => close frame stack
  | .list .flow _ true, .key => .ok (.map .pair [] .key :: frame :: stack)
  | .map .block entries .idle, .key => .ok (.map .block entries .key :: stack)
  | .map .block _ .idle, .blockEnd => close frame stack
  | .map .flow entries .entry, .key => .ok (.map .flow entries .key :: stack)
  | .map .flow entries .idle, .comma => .ok (.map .flow entries .entry :: stack)
  | .map .flow _ .entry, .flowMapEnd | .map .flow _ .idle, .flowMapEnd => close frame stack
  | .map kind entries (.colon key), .value => .ok (.map kind entries (.value key) :: stack)
  | .map .block _ .key, .dash | .map .block _ (.value _), .dash =>
    .ok (.list .dashes [] true :: frame :: stack)
  | .list _ _ true, token | .map _ _ .entry, token | .map _ _ .key, token
  | .map _ _ (.value _), token => beginNode frame stack token
  | _, token => .error (.unexpected token.describe)

def feed (stack : List Frame) (token : Token) : Except Flaw (List Frame) :=
  match settle token stack with
  | [] => .error .unfinished
  | frame :: stack => accept frame stack token

def Node.ofBody (tokens : List Token) : Except Flaw Node := do
  match ← tokens.foldlM feed [.list .document [] true] with
  | [.list .document [node] _] => return node
  | _ => throw .unfinished

/-- The tree of a text with exactly one document. A text without tokens is a vacant document. -/
def Node.ofTokens (tokens : List Token) : Except Flaw Node :=
  let explicit := tokens.head? == some .documentStart
  let tokens := if explicit then tokens.drop 1 else tokens
  let body := tokens.takeWhile (· != .documentEnd)
  let after := tokens.drop body.length
  if after.any (· != .documentEnd) || body.contains .documentStart then .error .secondDocument
  else if body.isEmpty then
    if explicit || after.isEmpty then .ok .vacant else .error (.unexpected "a document end")
  else Node.ofBody body

end WaypointNav.Yaml
