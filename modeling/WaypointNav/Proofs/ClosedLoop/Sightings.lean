import WaypointNav.Proofs.ClosedLoop
import WaypointNav.Proofs.Ingestion

/-! Where the entries of the map come from. Each is the place of a detection that was sent, so a flight
through a simulated world finds no obstacle that the world does not have. It may find one twice: an
obstacle that is looked at from on top of it is put elsewhere than one that is looked at from beside it. -/
namespace WaypointNav

def Batch.places (batch : Batch) (minRange : Float) : List Point :=
  (batch.detections.filter (·.isFinite)).map (·.resolve batch.pose minRange)

/-- The batches that reach a loop in the cycles it flies, and after them. -/
def Watch.sent {σ : Type} (watch : Watch) : ClosedLoop σ → List (Cycle σ) → List Batch
  | loop, [] => watch.batches 0 loop.vehicle
  | loop, cycle :: cycles =>
    watch.batches (cycles.length + 1) loop.vehicle ++ watch.sent cycle.after cycles

namespace ObstacleMap

variable {map : ObstacleMap} {entry : Point}

theorem mem_insert {p : Point} (mem : entry ∈ (map.insert p).2.obstacles) :
    entry ∈ map.obstacles ∨ entry = p := by
  rcases step : map.insert p with ⟨outcome, next⟩
  rw [step] at mem
  cases inserted step with
  | duplicate | full => exact .inl mem
  | added => simpa using mem

theorem mem_ingest (pose : Pose) (minRange : Float) {batch : List Detection}
    (mem : entry ∈ (map.ingest pose minRange batch).2.obstacles) :
    entry ∈ map.obstacles ∨ entry ∈ Batch.places ⟨batch, pose⟩ minRange := by
  induction batch generalizing map with
  | nil => exact .inl mem
  | cons d batch ih =>
    rw [ingest_cons] at mem
    rcases ih mem with old | placed
    · cases finite : d.isFinite with
      | false =>
        rw [ingestOne_of_malformed pose minRange map finite] at old
        exact .inl old
      | true =>
        unfold ingestOne at old
        rw [if_pos finite] at old
        apply (mem_insert old).imp_right
        simp +contextual [Batch.places, finite]
    · right
      exact (((List.sublist_cons_self d batch).filter _).map _).subset placed

end ObstacleMap

variable {σ : Type} {optimizer : Optimizer σ} {config : Config} {memory : σ} {entry : Point}

theorem Navigator.mem_inform {nav : Navigator σ} {batches : List Batch}
    (mem : entry ∈ (nav.inform batches).1.map.obstacles) : entry ∈ nav.map.obstacles ∨
      entry ∈ batches.flatMap (·.places nav.config.obstacles.minRange) := by
  induction batches generalizing nav with
  | nil => exact .inl mem
  | cons batch batches ih =>
    rw [List.flatMap_cons, List.mem_append]
    rcases ih mem with old | later
    · exact (ObstacleMap.mem_ingest batch.pose nav.config.obstacles.minRange old).imp_right .inl
    · exact .inr (.inr later)

namespace ClosedLoop

variable {loop : ClosedLoop σ} {watch : Watch}

theorem mem_fly (usable : config.Usable) (sound : loop.navigator.Sound config memory) {count : Nat}
    (mem : entry ∈ (loop.fly optimizer watch count).last.navigator.map.obstacles) :
    entry ∈ loop.navigator.map.obstacles ∨
      entry ∈ (watch.sent loop (loop.fly optimizer watch count).cycles).flatMap
        (·.places config.obstacles.minRange) := by
  induction count generalizing loop with
  | zero =>
    rw [← sound.config_eq]
    exact Navigator.mem_inform mem
  | succ count ih =>
    obtain ⟨cycle, cycle_eq, after, map_eq⟩ :=
      cycle_ok optimizer (watch.batches (count + 1) loop.vehicle) usable sound
    have length_eq := (fly_ok optimizer watch usable after count).2
    rw [fly, cycle_eq] at mem ⊢
    rw [Watch.sent, length_eq, List.flatMap_append, List.mem_append]
    rcases ih after mem with old | later
    · rw [map_eq] at old
      rw [← sound.config_eq]
      exact (Navigator.mem_inform old).imp_right .inl
    · exact .inr (.inr later)

/-- Whatever is sent and whenever, every entry of the map after a flight is the place of a detection. -/
theorem entries_sent (optimizer : Optimizer σ) (config : Config) (world : Simulation) (memory : σ)
    (watch : Watch) (accepted : config.validate = .ok ()) (count : Nat) :
    ∃ loop flight, ClosedLoop.new config world memory = .ok loop ∧
      loop.fly optimizer watch count = flight ∧
      flight.fault = none ∧ flight.cycles.length = count ∧
      flight.last.navigator.map.obstacles ⊆
        (watch.sent loop flight.cycles).flatMap (·.places config.obstacles.minRange) := by
  have usable := (Config.validate_eq_ok_iff config).mp accepted
  have sound := sound_fresh config world memory
  obtain ⟨no_fault, length_eq⟩ := fly_ok optimizer watch usable sound count
  refine ⟨_, _, new_eq_ok usable, rfl, no_fault, length_eq, ?_⟩
  intro entry mem
  exact (mem_fly usable sound mem).resolve_left List.not_mem_nil

theorem mem_sent_ofSimulation {world : Simulation} {cycles : List (Cycle σ)} {batch : Batch}
    (mem : batch ∈ (Watch.ofSimulation world).sent loop cycles) :
    ∃ pose, batch = ⟨(Perception.ofSimulation world).observe pose, pose⟩ := by
  induction cycles generalizing loop with
  | nil => cases mem
  | cons cycle cycles ih =>
    rcases List.mem_append.mp mem with now | later
    · exact ⟨loop.vehicle.pose, List.mem_singleton.mp now⟩
    · exact ih later

/-- Every entry of the map after a flight through a simulated world is where a look put an obstacle of it. -/
theorem entries_sighted (optimizer : Optimizer σ) (config : Config) (world : Simulation) (memory : σ)
    (accepted : config.validate = .ok ()) (count : Nat) :
    ∃ loop flight, ClosedLoop.new config world memory = .ok loop ∧
      loop.fly optimizer (.ofSimulation world) count = flight ∧
      ∀ entry ∈ flight.last.navigator.map.obstacles, ∃ obstacle ∈ world.obstacles, ∃ pose d,
        (Perception.ofSimulation world).glimpse pose obstacle = some d ∧ d.isFinite = true ∧
        entry = d.resolve pose config.obstacles.minRange := by
  obtain ⟨loop, flight, new_eq, fly_eq, -, -, sent⟩ :=
    entries_sent optimizer config world memory (.ofSimulation world) accepted count
  refine ⟨loop, flight, new_eq, fly_eq, ?_⟩
  intro entry mem
  obtain ⟨batch, batch_mem, placed⟩ := List.mem_flatMap.mp (sent mem)
  obtain ⟨pose, rfl⟩ := mem_sent_ofSimulation batch_mem
  obtain ⟨d, kept, rfl⟩ := List.mem_map.mp placed
  obtain ⟨seen, finite⟩ := List.mem_filter.mp kept
  obtain ⟨obstacle, known, glimpse_eq⟩ := List.mem_filterMap.mp seen
  exact ⟨obstacle, known, pose, d, glimpse_eq, finite, rfl⟩

end ClosedLoop

end WaypointNav
