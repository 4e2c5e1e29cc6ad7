import WaypointNav.Config
import WaypointNav.Optimizer

/-! The reference optimizer: path points are pushed out of each obstacle's clearance disc, then
midpoints fill the gaps that became too wide. The last point, the next outer waypoint, never moves. -/
namespace WaypointNav.ClearanceConfig

/-- Pushes a point radially onto the edge of an obstacle's disc. A point on the obstacle itself has no
direction and steps to the side. -/
def pushFrom (config : ClearanceConfig) (p obstacle : Point) : Point :=
  let offset := p - obstacle
  let distance := offset.norm
  if distance ≥ config.clearance then p
  else if distance > 1e-9 then obstacle + offset.scale (config.clearance / distance)
  else obstacle + ⟨config.clearance, 0⟩

def pushClear (config : ClearanceConfig) (obstacles : List Point) (p : Point) : Point :=
  obstacles.foldl config.pushFrom p

def pushed (config : ClearanceConfig) (obstacles : List Point) : List Point → List Point
  | [] => []
  | [last] => [last]
  | p :: rest => config.pushClear obstacles p :: config.pushed obstacles rest

/-- Puts pushed midpoints into gaps wider than `maxSpacing`, first gap first, while `room` lasts. -/
def densify (config : ClearanceConfig) (obstacles : List Point) : Nat → List Point → List Point
  | 0, path => path
  | _, [] => []
  | _, [p] => [p]
  | room + 1, p :: q :: rest =>
    if p.distance q > config.maxSpacing then
      let middle := config.pushClear obstacles (p.interpolate q 0.5)
      config.densify obstacles room (p :: middle :: q :: rest)
    else p :: config.densify obstacles (room + 1) (q :: rest)
termination_by room path => 2 * room + path.length

def path (config : ClearanceConfig) (query : Query) : List Point :=
  let start := config.pushed query.obstacles query.current
  (config.densify query.obstacles (query.capacity - start.length) start).take query.capacity

def optimizer (config : ClearanceConfig) : Optimizer Unit :=
  fun _ query => (.ok (config.path query), ())

end WaypointNav.ClearanceConfig
