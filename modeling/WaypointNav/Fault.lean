namespace WaypointNav

inductive Fault
  | config (reason : String)
  | file (reason : String)
  | document (reason : String)
  | optimizer (reason : String)
  | legOverflow (length capacity : Nat)
  | outOfRange (index length : Nat)
  | notStarted
deriving DecidableEq

def Fault.message : Fault → String
  | .config reason => "Configuration error: " ++ reason
  | .file reason => "I/O error: " ++ reason
  | .document reason => "YAML error: " ++ reason
  | .optimizer reason => "Optimizer error: " ++ reason
  | .legOverflow length capacity =>
    s!"Segment overflow: {length} points exceed capacity {capacity}"
  | .outOfRange index length => s!"Index {index} out of range for length {length}"
  | .notStarted => "Trajectory not initialized"

end WaypointNav
