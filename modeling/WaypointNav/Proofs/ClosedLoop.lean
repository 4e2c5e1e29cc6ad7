import WaypointNav.ClosedLoop
import WaypointNav.Proofs.Navigator.Flight

/-! Closed loops. A cycle of a sound navigator succeeds and leaves it sound whatever the sensor has sent
before, so no flight ends early. -/
namespace WaypointNav

variable {σ : Type} {optimizer : Optimizer σ} {config : Config} {memory : σ}

theorem Navigator.Sound.inform {nav : Navigator σ} (sound : nav.Sound config memory)
    (batches : List Batch) : (nav.inform batches).1.Sound config memory := by
  induction batches generalizing nav with
  | nil => exact sound
  | cons batch batches ih => exact ih (sound.ingest batch.detections batch.pose)

namespace ClosedLoop

variable {world : Simulation} {loop : ClosedLoop σ}

def fresh (config : Config) (world : Simulation) (memory : σ) : ClosedLoop σ :=
  ⟨.fresh config memory, .new world.start world.step⟩

theorem new_eq_ok (usable : config.Usable) :
    new config world memory = .ok (fresh config world memory) := by
  unfold new
  rw [Navigator.new_eq_ok usable]
  rfl

theorem sound_fresh (config : Config) (world : Simulation) (memory : σ) :
    (fresh config world memory).navigator.Sound config memory :=
  .atRest Navigator.atRest_fresh

/-- Navigating never touches the map, so a cycle changes it by what was seen alone. -/
theorem cycle_ok (optimizer : Optimizer σ) (batches : List Batch) (usable : config.Usable)
    (sound : loop.navigator.Sound config memory) :
    ∃ cycle, loop.cycle optimizer batches = .ok cycle ∧
      cycle.after.navigator.Sound config memory ∧
      cycle.after.navigator.map = (loop.navigator.inform batches).1.map := by
  have informed : (loop.navigator.inform batches).1.Sound config memory := sound.inform batches
  obtain ⟨p⟩ := informed.passage usable optimizer loop.vehicle.pose.position
  refine ⟨⟨(loop.navigator.inform batches).2, p.outcome, p.last,
    loop.vehicle.obeyAll p.outcome.commands⟩, ?_, informed.acts usable p.acts, p.acts.map_eq⟩
  unfold cycle
  change ((loop.navigator.inform batches).1.tick optimizer _ >>= _) = _
  rw [p.tick_eq]
  rfl

theorem fly_ok (optimizer : Optimizer σ) (watch : Watch) (usable : config.Usable)
    (sound : loop.navigator.Sound config memory) (count : Nat) :
    (loop.fly optimizer watch count).fault = none ∧
      (loop.fly optimizer watch count).cycles.length = count := by
  induction count generalizing loop with
  | zero => exact ⟨rfl, rfl⟩
  | succ count ih =>
    obtain ⟨cycle, cycle_eq, after, -⟩ :=
      cycle_ok optimizer (watch.batches (count + 1) loop.vehicle) usable sound
    obtain ⟨no_fault, length_eq⟩ := ih after
    simp [fly, cycle_eq, no_fault, length_eq]

end ClosedLoop

end WaypointNav
