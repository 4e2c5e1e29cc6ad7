import WaypointNav.Detection
import WaypointNav.Simulation

/-! A sensor that sees round obstacles of one size, without noise and without shadows. -/
namespace WaypointNav

structure Perception where
  obstacles : List Point
  obstacleRadius : Float
  range : Float
  /-- the largest bearing that is seen, in radians -/
  halfView : Float

namespace Perception

def ofSimulation (world : Simulation) : Perception where
  obstacles := world.obstacles
  obstacleRadius := world.obstacleRadius
  range := world.sensorRange
  halfView := Angle.ofDegrees world.fieldOfView / 2

/-- Half the angle under which an obstacle appears; from inside it fills a half plane. -/
def spread (sensor : Perception) (distance : Float) : Float :=
  if distance > sensor.obstacleRadius then (sensor.obstacleRadius / distance).asin else Angle.pi / 2

def glimpse (sensor : Perception) (pose : Pose) (obstacle : Point) : Option Detection :=
  let distance := pose.position.distance obstacle
  let offset := obstacle - pose.position
  let heading := Angle.wrap (Float.atan2 offset.x offset.y - pose.yaw)
  if distance > sensor.range then none
  else if heading.abs > sensor.halfView then none
  else
    let spread := sensor.spread distance
    some ⟨distance, Angle.toDegrees (heading - spread), Angle.toDegrees (heading + spread)⟩

def observe (sensor : Perception) (pose : Pose) : List Detection :=
  sensor.obstacles.filterMap (sensor.glimpse pose)

end Perception

end WaypointNav
