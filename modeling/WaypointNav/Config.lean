import WaypointNav.Decimal.Shortest
import WaypointNav.Fault
import WaypointNav.Point

/-! The settings of a flight and what makes them usable. Checking happens once, before a navigator is
made; every later step may rely on it. -/
namespace WaypointNav

structure RouteConfig where
  outerLength : Nat := 3
  innerLength : Nat := 10
  innerSpace : Nat := 30
  outerWaypoints : List Point := [⟨2, 2⟩, ⟨2, -2⟩]
  relative : Bool := false

structure ObstacleConfig where
  capacity : Nat := 20
  duplicateRadius : Float := 1
  minRange : Float := 0.5

structure NavigationConfig where
  arrivalThreshold : Float := 0.5
  cycleHz : Float := 10

structure ClearanceConfig where
  clearance : Float := 0.8
  maxSpacing : Float := 0.5

structure Config where
  route : RouteConfig := {}
  obstacles : ObstacleConfig := {}
  navigation : NavigationConfig := {}
  optimizer : ClearanceConfig := {}

namespace Config

inductive Flaw
  | outerTooShort (length : Nat)
  | innerEmpty
  | innerTooLong (length space : Nat)
  | waypointCount (expected found : Nat)
  | waypointNotFinite
  | noObstacleRoom
  | notPositive (setting : String) (value : Float)
deriving DecidableEq

def Flaw.message : Flaw → String
  | .outerTooShort length => s!"outer_length must be at least 2, got {length}"
  | .innerEmpty => "inner_length must be positive"
  | .innerTooLong length space => s!"inner_length {length} exceeds inner_space {space}"
  | .waypointCount expected found =>
    s!"expected {expected} outer waypoints after the start, got {found}"
  | .waypointNotFinite => "outer waypoints must be finite"
  | .noObstacleRoom => "max_obstacles must be positive"
  | .notPositive setting value =>
    setting ++ " must be positive and finite, got " ++ Decimal.plain value

def positive (setting : String) (value : Float) : Except Flaw Unit :=
  if value.isFinite && value > 0 then .ok () else .error (.notPositive setting value)

def check (config : Config) : Except Flaw Unit := do
  let route := config.route
  if route.outerLength < 2 then throw (.outerTooShort route.outerLength)
  if route.innerLength = 0 then throw .innerEmpty
  if route.innerSpace < route.innerLength then
    throw (.innerTooLong route.innerLength route.innerSpace)
  if route.outerWaypoints.length ≠ route.outerLength - 1 then
    throw (.waypointCount (route.outerLength - 1) route.outerWaypoints.length)
  if route.outerWaypoints.any (!·.isFinite) then throw .waypointNotFinite
  if config.obstacles.capacity = 0 then throw .noObstacleRoom
  positive "duplicate_radius" config.obstacles.duplicateRadius
  positive "min_sensed_distance" config.obstacles.minRange
  positive "arrival_threshold" config.navigation.arrivalThreshold
  positive "cycle_hz" config.navigation.cycleHz
  positive "clearance" config.optimizer.clearance
  positive "max_spacing" config.optimizer.maxSpacing

def validate (config : Config) : Except Fault Unit :=
  config.check.mapError fun flaw => .config flaw.message

end Config

end WaypointNav
