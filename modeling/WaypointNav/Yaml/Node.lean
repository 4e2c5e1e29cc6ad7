namespace WaypointNav.Yaml

/-- A document tree. A scalar is plain if it is written without quotes; nothing written is the empty plain
scalar. -/
inductive Node
  | scalar (plain : Bool) (text : String)
  | list (items : List Node)
  | map (entries : List (Node × Node))

namespace Node

def vacant : Node :=
  .scalar true ""

def isVacant : Node → Bool
  | .scalar true "" => true
  | _ => false

end Node

end WaypointNav.Yaml
