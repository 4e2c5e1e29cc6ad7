import WaypointNav.Fault
import WaypointNav.Point

/-! The dense path of one leg, in a fixed number of slots. Every slot past the valid points holds the
origin, so nothing of an earlier plan shows. -/
namespace WaypointNav

structure Leg where
  slots : List Point
  size : Nat
deriving DecidableEq

namespace Leg

def empty (capacity : Nat) : Leg :=
  ⟨List.replicate capacity .origin, 0⟩

def capacity (leg : Leg) : Nat :=
  leg.slots.length

def isEmpty (leg : Leg) : Bool :=
  leg.size == 0

def points (leg : Leg) : List Point :=
  leg.slots.take leg.size

def get? (leg : Leg) (index : Nat) : Option Point :=
  leg.points[index]?

/-- Any slot, those past the valid points too. -/
def slot? (leg : Leg) (index : Nat) : Option Point :=
  leg.slots[index]?

def install (leg : Leg) (points : List Point) : Except Fault Leg :=
  if leg.capacity < points.length then .error (.legOverflow points.length leg.capacity)
  else .ok ⟨points ++ List.replicate (leg.capacity - points.length) .origin, points.length⟩

def ofPoints (capacity : Nat) (points : List Point) : Except Fault Leg :=
  (empty capacity).install points

end Leg

end WaypointNav
