import WaypointNav.ClosedLoop

/-! What a machine adds to the rules. An index is less than `2 ^ 64`. A block of memory has less than
`2 ^ 63` bytes, sixteen for a point, and is asked for whole. A time is less than `2 ^ 64` seconds. An
operation that would pass a limit crashes; any other does what it does without limits. -/
namespace WaypointNav

inductive Failure
  | refused (fault : Fault)
  | crashed
deriving DecidableEq

instance : MonadLift (Except Fault) (Except Failure) :=
  ⟨fun result => result.mapError .refused⟩

namespace Limits

def maxIndex : Nat :=
  18446744073709551615

def maxPoints : Nat :=
  576460752303423487

def require (possible : Bool) : Except Failure Unit :=
  if possible then .ok () else .error .crashed

def reserve (points : Nat) : Except Failure Unit :=
  require (points ≤ maxPoints)

def reserveLeg (config : RouteConfig) : Except Failure Unit := do
  reserve config.innerLength
  reserve config.innerSpace

def checkPeriod (config : NavigationConfig) : Except Failure Unit :=
  require (1 / config.cycleHz < 18446744073709551616)

def emptyMap (capacity : Nat) (radius : Float) : Except Failure ObstacleMap := do
  reserve capacity
  return .empty capacity radius

def emptyLeg (capacity : Nat) : Except Failure Leg := do
  reserve capacity
  return .empty capacity

def leg (capacity : Nat) (points : List Point) : Except Failure Leg := do
  reserve capacity
  Leg.ofPoints capacity points

/-- The room for the outline is asked for by the configured length, whatever its true one. -/
def outline (config : RouteConfig) (start : Point) : Except Failure (List Point) := do
  reserve config.outerLength
  return config.outline start

def straightLeg (config : RouteConfig) (outer : List Point) (index : Nat) :
    Except Failure Leg := do
  if index < outer.length then reserveLeg config
  config.straightLeg outer index

def plan (config : RouteConfig) (start : Point) : Except Failure Route := do
  reserve config.outerLength
  reserveLeg config
  config.plan start

def nextWaypoint (route : Route) (index : Nat) : Except Failure Nat := do
  require (index < maxIndex)
  match route.next? index with
  | some next => return next
  | none => throw .crashed

/-- A route without waypoints has no last leg. -/
def advanceOuter (cursor : Cursor) (count : Nat) : Except Failure Cursor := do
  require (cursor.outer < maxIndex && 0 < count)
  return cursor.advanceOuter count

def advanceInner (cursor : Cursor) (size : Nat) : Except Failure Cursor := do
  require (cursor.inner < maxIndex)
  return cursor.advanceInner size

section Flight

variable {σ : Type}

def navigator (config : Config) (memory : σ) : Except Failure (Navigator σ) := do
  let nav ← Navigator.new config memory
  reserve config.obstacles.capacity
  return nav

def reserveRoute (nav : Navigator σ) : Except Failure Unit := do
  if nav.route.isNone then
    reserve nav.config.route.outerLength
    reserveLeg nav.config.route

def tick (optimizer : Optimizer σ) (nav : Navigator σ) (position : Point) :
    Except Failure (Navigator σ × Outcome) := do
  reserveRoute nav
  nav.tick optimizer position

def closedLoop (config : Config) (world : Simulation) (memory : σ) :
    Except Failure (ClosedLoop σ) := do
  let loop ← ClosedLoop.new config world memory
  reserve config.obstacles.capacity
  return loop

/-- Only the first cycle plans a route. -/
def fly (optimizer : Optimizer σ) (watch : Watch) (count : Nat) (loop : ClosedLoop σ) :
    Except Failure (Flight σ) := do
  if 0 < count then reserveRoute loop.navigator
  return loop.fly optimizer watch count

end Flight

end Limits

end WaypointNav
