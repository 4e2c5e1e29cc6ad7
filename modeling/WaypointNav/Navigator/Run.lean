import WaypointNav.Navigator

/-! Whole flights: a navigator under any sequence of ticks and ingested batches. -/
namespace WaypointNav

inductive Event
  | tick (position : Point)
  | ingest (batch : List Detection) (pose : Pose)

inductive Effect
  | ticked (outcome : Outcome)
  | ingested (tally : Tally)

namespace Navigator

variable {σ : Type} (optimizer : Optimizer σ)

def step (nav : Navigator σ) : Event → Except Fault (Navigator σ × Effect)
  | .tick position => do
    let (nav, outcome) ← nav.tick optimizer position
    return (nav, .ticked outcome)
  | .ingest batch pose =>
    let (nav, tally) := nav.ingest batch pose
    .ok (nav, .ingested tally)

def run (nav : Navigator σ) : List Event → Except Fault (Navigator σ × List Effect)
  | [] => .ok (nav, [])
  | event :: events => do
    let (nav, effect) ← nav.step optimizer event
    let (nav, effects) ← nav.run events
    return (nav, effect :: effects)

end Navigator

end WaypointNav
