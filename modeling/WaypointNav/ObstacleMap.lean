import WaypointNav.Point

/-! The known obstacles. The map only grows, at its end, and holds one entry per physical obstacle:
a position near a stored one is the same obstacle seen again. -/
namespace WaypointNav

inductive Insertion
  | added
  | duplicate
  | full
deriving DecidableEq

structure ObstacleMap where
  capacity : Nat
  radius : Float
  obstacles : List Point
  dropped : Nat

namespace ObstacleMap

def empty (capacity : Nat) (radius : Float) : ObstacleMap :=
  ⟨capacity, radius, [], 0⟩

def size (map : ObstacleMap) : Nat :=
  map.obstacles.length

def isEmpty (map : ObstacleMap) : Bool :=
  map.obstacles.isEmpty

/-- A NaN distance counts as near: such a position carries no information. -/
def near (map : ObstacleMap) (p : Point) : Bool :=
  map.obstacles.any fun known =>
    let distance := known.distance p
    distance < map.radius || distance.isNaN

/-- A position that is known or not finite is a duplicate, in a full map too; only a new one can be
dropped. -/
def insert (map : ObstacleMap) (p : Point) : Insertion × ObstacleMap :=
  if !p.isFinite || map.near p then (.duplicate, map)
  else if map.capacity ≤ map.size then (.full, { map with dropped := map.dropped + 1 })
  else (.added, { map with obstacles := map.obstacles ++ [p] })

end ObstacleMap

end WaypointNav
