import WaypointNav.Point

namespace WaypointNav

structure Simulation where
  start : Point := .origin
  step : Float := 0.1
  obstacles : List Point := [⟨1, 1.1⟩, ⟨2, 0.1⟩]
  obstacleRadius : Float := 0.2
  sensorRange : Float := 3
  /-- in degrees, centered on the nose -/
  fieldOfView : Float := 90
  cycles : Nat := 600

end WaypointNav
