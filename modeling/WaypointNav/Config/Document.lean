import WaypointNav.Config
import WaypointNav.Yaml.Reader

/-! Settings from a document. A section that is not written is the default record. A field that is not
written, in a section that is vacant or a map without it, has a default of its own. Unknown fields mean
nothing. -/
namespace WaypointNav

open Yaml (Node Reader field)

namespace RouteConfig

def defaultOuterLength : Nat := 3

def defaultInnerLength : Nat := 10

def defaultInnerSpace : Nat := 30

def defaultOuterWaypoints : List Point := [⟨2, 2⟩, ⟨2, -2⟩]

def ofNode (node : Node) (reader : Reader := .plain) : Except Yaml.Flaw RouteConfig := do
  let fields ← reader.fields node
  return {
    outerLength := ← field fields "outer_length" reader.natural defaultOuterLength
    innerLength := ← field fields "inner_length" reader.natural defaultInnerLength
    innerSpace := ← field fields "inner_space" reader.natural defaultInnerSpace
    outerWaypoints := ← field fields "outer_waypoints" reader.points defaultOuterWaypoints
    relative := ← field fields "relative_waypoints" reader.bool false }

end RouteConfig

namespace ObstacleConfig

def defaultCapacity : Nat := 20

def defaultDuplicateRadius : Float := 1

def defaultMinRange : Float := 0.5

def ofNode (node : Node) (reader : Reader := .plain) : Except Yaml.Flaw ObstacleConfig := do
  let fields ← reader.fields node
  return {
    capacity := ← field fields "max_obstacles" reader.natural defaultCapacity
    duplicateRadius := ← field fields "duplicate_radius" reader.float defaultDuplicateRadius
    minRange := ← field fields "min_sensed_distance" reader.float defaultMinRange }

end ObstacleConfig

namespace NavigationConfig

def defaultArrivalThreshold : Float := 0.5

def defaultCycleHz : Float := 10

def ofNode (node : Node) (reader : Reader := .plain) : Except Yaml.Flaw NavigationConfig := do
  let fields ← reader.fields node
  return {
    arrivalThreshold := ← field fields "arrival_threshold" reader.float defaultArrivalThreshold
    cycleHz := ← field fields "cycle_hz" reader.float defaultCycleHz }

end NavigationConfig

namespace ClearanceConfig

def defaultClearance : Float := 0.8

def defaultMaxSpacing : Float := 0.5

def ofNode (node : Node) (reader : Reader := .plain) : Except Yaml.Flaw ClearanceConfig := do
  let fields ← reader.fields node
  return {
    clearance := ← field fields "clearance" reader.float defaultClearance
    maxSpacing := ← field fields "max_spacing" reader.float defaultMaxSpacing }

end ClearanceConfig

namespace Config

def ofNode (node : Node) (reader : Reader := .plain) : Except Yaml.Flaw Config := do
  let fields ← reader.fields node
  return {
    route := ← field fields "trajectory" (RouteConfig.ofNode · reader) {}
    obstacles := ← field fields "obstacles" (ObstacleConfig.ofNode · reader) {}
    navigation := ← field fields "navigation" (NavigationConfig.ofNode · reader) {}
    optimizer := ← field fields "optimizer" (ClearanceConfig.ofNode · reader) {} }

def ofText (text : String) (reader : Reader := .plain) : Except Fault Config := do
  let config ← (reader.tree text >>= (ofNode · reader)).mapError (.document ·.message)
  config.validate
  return config

def ofFile (content : Except String String) (reader : Reader := .plain) : Except Fault Config := do
  ofText (← content.mapError .file) reader

end Config

end WaypointNav
