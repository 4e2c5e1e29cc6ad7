import WaypointNav.Angle
import WaypointNav.ObstacleMap
import WaypointNav.Pose

/-! What the sensor reports, and how a batch of reports enters the obstacle map. -/
namespace WaypointNav

/-- An obstacle seen from the vehicle: its range in meters and the bearings of its two edges in
degrees from the nose. -/
structure Detection where
  range : Float
  left : Float
  right : Float

namespace Detection

def isFinite (d : Detection) : Bool :=
  d.range.isFinite && d.left.isFinite && d.right.isFinite

/-- The place of the obstacle, in the middle between its edges. A zero range means that the sensor
had none, and is read as `minRange`. -/
def resolve (d : Detection) (pose : Pose) (minRange : Float) : Point :=
  let range := if d.range == 0 then minRange else d.range
  pose.project range (Angle.ofDegrees ((d.left + d.right) / 2))

end Detection

/-- What became of the detections of a batch. Malformed ones count as duplicates. -/
structure Tally where
  added : Nat := 0
  duplicates : Nat := 0
  dropped : Nat := 0
deriving DecidableEq

namespace Tally

instance : Add Tally :=
  ⟨fun a b => ⟨a.added + b.added, a.duplicates + b.duplicates, a.dropped + b.dropped⟩⟩

def ofInsertion : Insertion → Tally
  | .added => { added := 1 }
  | .duplicate => { duplicates := 1 }
  | .full => { dropped := 1 }

end Tally

namespace ObstacleMap

def ingestOne (map : ObstacleMap) (pose : Pose) (minRange : Float) (d : Detection) :
    Tally × ObstacleMap :=
  if d.isFinite then
    let (outcome, map) := map.insert (d.resolve pose minRange)
    (.ofInsertion outcome, map)
  else ({ duplicates := 1 }, map)

def ingest (map : ObstacleMap) (pose : Pose) (minRange : Float) : List Detection → Tally × ObstacleMap
  | [] => ({}, map)
  | d :: batch =>
    let (first, map) := map.ingestOne pose minRange d
    let (rest, map) := map.ingest pose minRange batch
    (first + rest, map)

end ObstacleMap

end WaypointNav
