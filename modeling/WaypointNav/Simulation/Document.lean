import WaypointNav.Simulation
import WaypointNav.Yaml.Reader

/-! A simulated world from a document, by the same rules as the settings. -/
namespace WaypointNav.Simulation

open Yaml (Node Reader field)

def defaultStep : Float := 0.1

def defaultObstacles : List Point := [⟨1, 1.1⟩, ⟨2, 0.1⟩]

def defaultObstacleRadius : Float := 0.2

def defaultSensorRange : Float := 3

def defaultFieldOfView : Float := 90

def defaultCycles : Nat := 600

def ofNode (node : Node) (reader : Reader := .plain) : Except Yaml.Flaw Simulation := do
  let fields ← reader.fields node
  return {
    start := ← field fields "start" reader.point ⟨0, 0⟩
    step := ← field fields "step" reader.float defaultStep
    obstacles := ← field fields "obstacles" reader.points defaultObstacles
    obstacleRadius := ← field fields "obstacle_radius" reader.float defaultObstacleRadius
    sensorRange := ← field fields "sensor_range" reader.float defaultSensorRange
    fieldOfView := ← field fields "field_of_view_deg" reader.float defaultFieldOfView
    cycles := ← field fields "cycles" reader.natural defaultCycles }

def ofSection (node : Node) (reader : Reader := .plain) : Except Yaml.Flaw Simulation := do
  field (← reader.fields node) "simulation" (ofNode · reader) {}

end WaypointNav.Simulation
