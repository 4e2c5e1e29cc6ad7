import WaypointNav.Cursor
import WaypointNav.Detection
import WaypointNav.Guide
import WaypointNav.Notice
import WaypointNav.Replanner
import WaypointNav.Route.Plan

/-! The navigator steers a vehicle around a route. A tick looks at the vehicle's position, and returns the
next state together with everything it did: guidance commands, questions to the optimizer, notices.
Ingested detections only grow the map and mark it as changed; the next tick replans. -/
namespace WaypointNav

structure TickReport where
  started : Bool := false
  innerAdvanced : Bool := false
  outerAdvanced : Bool := false
  replans : Nat := 0
deriving DecidableEq

structure Outcome where
  report : TickReport := {}
  commands : List Command := []
  calls : List Invocation := []
  notices : List Notice := []

namespace TickReport

instance : Add TickReport :=
  ⟨fun a b => ⟨a.started || b.started, a.innerAdvanced || b.innerAdvanced,
    a.outerAdvanced || b.outerAdvanced, a.replans + b.replans⟩⟩

end TickReport

namespace Outcome

instance : Append Outcome :=
  ⟨fun a b => ⟨a.report + b.report, a.commands ++ b.commands, a.calls ++ b.calls,
    a.notices ++ b.notices⟩⟩

end Outcome

structure Navigator (σ : Type) where
  config : Config
  route : Option Route := none
  cursor : Cursor := {}
  map : ObstacleMap
  mapChanged : Bool := false
  replanner : Replanner σ
  innerTarget : Point := .origin

structure Status where
  started : Bool
  cursor : Cursor
  obstacles : Nat
  dropped : Nat
  replans : Nat
  failures : Nat
  timed : Bool

namespace Navigator

variable {σ : Type}

def new (config : Config) (memory : σ) : Except Fault (Navigator σ) := do
  config.validate
  return {
    config
    map := .empty config.obstacles.capacity config.obstacles.duplicateRadius
    replanner := { memory } }

def planned (nav : Navigator σ) : Except Fault Route :=
  match nav.route with
  | some route => .ok route
  | none => .error .notStarted

/-- Plans the route from `position` and commands its first waypoints, unless that is done. -/
def start (nav : Navigator σ) (position : Point) : Except Fault (Navigator σ × Outcome) :=
  match nav.route with
  | some _ => .ok (nav, {})
  | none => do
    let config := nav.config.route
    let route ← config.plan position
    let firstOuter ← route.waypoint 0
    let firstLeg ← route.leg 0
    let firstInner := (firstLeg.get? 0).getD firstOuter
    return ({ nav with route := some route, innerTarget := firstInner }, {
      report := { started := true }
      commands := [.move .outer firstOuter, .move .inner firstInner]
      notices :=
        Notice.ofOutline route.outer ++ [.routeReady config.outerLength config.innerLength] })

/-- Replans the active leg around the whole map. The leg is valid from then on exactly if a path with a
point in it was installed. -/
def replanActive (optimizer : Optimizer σ) (nav : Navigator σ) : Navigator σ × Outcome :=
  match nav.route with
  | none => ({ nav with cursor := { nav.cursor with valid := false } }, { report := { replans := 1 } })
  | some route =>
    let done := nav.replanner.replan optimizer route nav.cursor.leg nav.map.obstacles
    let cursor := match done.result with
      | .ok size => { nav.cursor.clampInner size with valid := decide (0 < size) }
      | .error _ => { nav.cursor with valid := false }
    ({ nav with route := some done.route, replanner := done.replanner, cursor },
      { report := { replans := 1 }, calls := done.calls })

def refresh (optimizer : Optimizer σ) (nav : Navigator σ) : Navigator σ × Outcome :=
  if nav.mapChanged then { nav with mapChanged := false }.replanActive optimizer else (nav, {})

/-- Having arrived on a valid leg, moves the inner guide to the cursor's point and steps the cursor. -/
def walk (nav : Navigator σ) (arrived : Bool) : Except Fault (Navigator σ × Outcome) := do
  if arrived && nav.cursor.valid then
    let route ← nav.planned
    let leg ← route.leg nav.cursor.leg
    let cursor := nav.cursor.advanceInner leg.size
    match leg.get? nav.cursor.inner with
    | some target =>
      return ({ nav with cursor, innerTarget := target },
        { report := { innerAdvanced := true }, commands := [.move .inner target] })
    | none => return ({ nav with cursor }, {})
  else return (nav, {})

/-- Having arrived at the outer waypoint, aims at the next one and replans the leg that leads there. -/
def turn (optimizer : Optimizer σ) (nav : Navigator σ) (arrived : Bool) :
    Except Fault (Navigator σ × Outcome) := do
  if arrived then
    let cursor := nav.cursor.advanceOuter nav.config.route.outerLength
    let route ← nav.planned
    let target ← route.waypoint cursor.outer
    let (nav, replanned) := { nav with cursor }.replanActive optimizer
    let turned : Outcome := {
      report := { outerAdvanced := true }
      commands := [.move .outer target]
      notices := [.outerMoved cursor.outer target] }
    return (nav, turned ++ replanned)
  else return (nav, {})

/-- One navigation cycle. Both arrivals are judged by the targets that stood before it. -/
def tick (optimizer : Optimizer σ) (nav : Navigator σ) (position : Point) :
    Except Fault (Navigator σ × Outcome) := do
  let (nav, started) ← nav.start position
  let route ← nav.planned
  let outerTarget ← route.waypoint nav.cursor.outer
  let threshold := nav.config.navigation.arrivalThreshold
  let atOuter : Bool := position.distance outerTarget < threshold
  let atInner : Bool := position.distance nav.innerTarget < threshold
  let (nav, refreshed) := nav.refresh optimizer
  let (nav, walked) ← nav.walk atInner
  let (nav, turned) ← nav.turn optimizer atOuter
  return (nav, started ++ refreshed ++ walked ++ turned ++ { commands := [.proceed .inner] })

def ingest (nav : Navigator σ) (batch : List Detection) (pose : Pose) : Navigator σ × Tally :=
  let (tally, map) := nav.map.ingest pose nav.config.obstacles.minRange batch
  ({ nav with map, mapChanged := nav.mapChanged || decide (0 < tally.added) }, tally)

def status (nav : Navigator σ) : Status where
  started := nav.route.isSome
  cursor := nav.cursor
  obstacles := nav.map.size
  dropped := nav.map.dropped
  replans := nav.replanner.replans
  failures := nav.replanner.failures
  timed := nav.replanner.timed

end Navigator

end WaypointNav
