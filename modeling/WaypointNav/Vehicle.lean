import WaypointNav.Guide
import WaypointNav.Pose

/-! A point mass that obeys guidance commands. -/
namespace WaypointNav

structure Vehicle where
  pose : Pose
  step : Float
  outer : Option Point := none
  inner : Option Point := none

namespace Vehicle

def new (start : Point) (step : Float) : Vehicle :=
  { pose := ⟨start, 0⟩, step }

def waypoint (vehicle : Vehicle) : Guide → Option Point
  | .outer => vehicle.outer
  | .inner => vehicle.inner

def move (vehicle : Vehicle) (target : Point) : Guide → Vehicle
  | .outer => { vehicle with outer := some target }
  | .inner => { vehicle with inner := some target }

def approach (vehicle : Vehicle) (target : Point) : Vehicle :=
  let position := vehicle.pose.position
  let offset := target - position
  let distance := offset.norm
  if distance ≤ 2.220446049250313e-16 then vehicle
  else
    let reached :=
      if distance ≤ vehicle.step then target
      else position + offset.scale (vehicle.step / distance)
    { vehicle with pose := ⟨reached, Float.atan2 offset.x offset.y⟩ }

/-- Without a target, a vehicle that is told to proceed stays. -/
def obey (vehicle : Vehicle) : Command → Vehicle
  | .move guide target => vehicle.move target guide
  | .proceed guide =>
    match vehicle.waypoint guide with
    | some target => vehicle.approach target
    | none => vehicle

def obeyAll (vehicle : Vehicle) (commands : List Command) : Vehicle :=
  commands.foldl obey vehicle

end Vehicle

end WaypointNav
