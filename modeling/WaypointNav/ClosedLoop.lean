import WaypointNav.Navigator
import WaypointNav.Optimizer.Clearance
import WaypointNav.Perception
import WaypointNav.Vehicle

/-! A navigator that flies a simulated vehicle through a simulated world. -/
namespace WaypointNav

structure ClosedLoop (σ : Type) where
  navigator : Navigator σ
  vehicle : Vehicle

structure Batch where
  detections : List Detection
  pose : Pose

/-- The sensor goes by its own clock: any batches may reach the navigator between two cycles. They are told
by the number of cycles that are left. -/
structure Watch where
  batches : Nat → Vehicle → List Batch

/-- One look around before every cycle. -/
def Watch.ofSimulation (world : Simulation) : Watch where
  batches
    | 0, _ => []
    | _ + 1, vehicle => [⟨(Perception.ofSimulation world).observe vehicle.pose, vehicle.pose⟩]

structure Cycle (σ : Type) where
  tally : Tally
  outcome : Outcome
  after : ClosedLoop σ

structure Flight (σ : Type) where
  cycles : List (Cycle σ)
  last : ClosedLoop σ
  fault : Option Fault

namespace Navigator

variable {σ : Type}

def inform (nav : Navigator σ) : List Batch → Navigator σ × Tally
  | [] => (nav, {})
  | batch :: batches =>
    let (nav, first) := nav.ingest batch.detections batch.pose
    let (nav, rest) := nav.inform batches
    (nav, first + rest)

end Navigator

namespace ClosedLoop

variable {σ : Type}

def new (config : Config) (world : Simulation) (memory : σ) : Except Fault (ClosedLoop σ) := do
  let navigator ← Navigator.new config memory
  return ⟨navigator, .new world.start world.step⟩

def cycle (optimizer : Optimizer σ) (batches : List Batch) (loop : ClosedLoop σ) :
    Except Fault (Cycle σ) := do
  let (navigator, tally) := loop.navigator.inform batches
  let (navigator, outcome) ← navigator.tick optimizer loop.vehicle.pose.position
  return ⟨tally, outcome, ⟨navigator, loop.vehicle.obeyAll outcome.commands⟩⟩

/-- What is seen after the last cycle is taken in too. -/
def fly (optimizer : Optimizer σ) (watch : Watch) : Nat → ClosedLoop σ → Flight σ
  | 0, loop =>
    ⟨[], { loop with navigator := (loop.navigator.inform (watch.batches 0 loop.vehicle)).1 }, none⟩
  | count + 1, loop =>
    match loop.cycle optimizer (watch.batches (count + 1) loop.vehicle) with
    | .error fault => ⟨[], loop, some fault⟩
    | .ok cycle =>
      let rest := fly optimizer watch count cycle.after
      { rest with cycles := cycle :: rest.cycles }

end ClosedLoop

end WaypointNav
