import WaypointNav.Demo
import WaypointNav.Proofs.ClosedLoop
import WaypointNav.Proofs.Except
import WaypointNav.Proofs.Limits

/-! How a demonstration ends. Unusable sources are told and refused; with usable ones, and room for what they
ask, it is flown to its end unless the duration of a cycle is no time. -/
namespace WaypointNav

structure Limits.Roomy (config : Config) : Prop where
  obstacles : config.obstacles.capacity ≤ maxPoints
  outer : config.route.outerLength ≤ maxPoints
  inner : config.route.innerSpace ≤ maxPoints

namespace Limits

variable {σ : Type} {config : Config}

theorem Roomy.reserveRoute_eq_ok (roomy : Roomy config) (usable : config.Usable) {nav : Navigator σ}
    (config_eq : nav.config = config) : reserveRoute nav = .ok () := by
  have inner := Nat.le_trans usable.inner_length_le roomy.inner
  unfold reserveRoute reserveLeg
  rw [config_eq, reserve_eq_ok roomy.outer, reserve_eq_ok inner, reserve_eq_ok roomy.inner]
  cases nav.route <;> rfl

theorem Roomy.closedLoop_eq_ok (roomy : Roomy config) (usable : config.Usable) (world : Simulation)
    (memory : σ) : closedLoop config world memory = .ok (.fresh config world memory) := by
  unfold closedLoop
  rw [ClosedLoop.new_eq_ok usable, reserve_eq_ok roomy.obstacles]
  rfl

theorem Roomy.fly_eq_ok (roomy : Roomy config) (usable : config.Usable) (optimizer : Optimizer σ)
    (watch : Watch) (count : Nat) {loop : ClosedLoop σ}
    (config_eq : loop.navigator.config = config) :
    fly optimizer watch count loop = .ok (loop.fly optimizer watch count) := by
  unfold fly
  rw [roomy.reserveRoute_eq_ok usable config_eq]
  by_cases moving : 0 < count
  · rw [if_pos moving]
    rfl
  · rw [if_neg moving]
    rfl

end Limits

namespace Demo

variable {source : Option Source} {reader : Yaml.Reader} {watch : Simulation → Watch}
  {config : Config} {world : Simulation} {fault : Fault}

theorem validate_of_ofText {text : String} (read : Config.ofText text reader = .ok config) :
    config.validate = .ok () := by
  obtain ⟨found, -, checked⟩ := bind_eq_ok_iff.mp read
  obtain ⟨_, accepted, found_eq⟩ := bind_eq_ok_iff.mp checked
  rw [pure_eq_ok_iff.mp found_eq] at accepted
  exact accepted

/-- Loaded settings have passed the check. -/
theorem validate_of_load (load_eq : load source reader = .ok (config, world)) :
    config.validate = .ok () := by
  cases source with
  | none =>
    cases load_eq
    rfl
  | some source =>
    obtain ⟨text, -, parsed⟩ := bind_eq_ok_iff.mp load_eq
    obtain ⟨found, read, seen⟩ := bind_eq_ok_iff.mp parsed
    obtain ⟨there, -, both⟩ := bind_eq_ok_iff.mp seen
    cases both
    exact validate_of_ofText read

theorem run_of_error (load_eq : load source reader = .error fault) :
    run source reader watch = ⟨[.info "Starting Strix navigation demo...",
      ⟨.error, "Invalid configuration: " ++ explain fault⟩], .failed (.refused fault)⟩ := by
  unfold run
  rw [load_eq]

theorem prepare_eq (roomy : Limits.Roomy config) (usable : config.Usable) (world : Simulation) :
    prepare config world =
      if 1 / config.navigation.cycleHz < 18446744073709551616 then
        .ok (.fresh config world ())
      else .error .crashed := by
  unfold prepare Limits.checkPeriod Limits.require
  rw [roomy.closedLoop_eq_ok usable]
  by_cases timed : 1 / config.navigation.cycleHz < 18446744073709551616
  · simp [timed, bind, Except.bind]
  · simp [timed, bind, Except.bind]

theorem fly_fresh (roomy : Limits.Roomy config) (usable : config.Usable) (world : Simulation)
    (watch : Watch) :
    fly config world watch (.fresh config world ()) =
      (flightLog ((ClosedLoop.fresh config world ()).fly config.optimizer.optimizer watch
        world.cycles), .completed) := by
  unfold fly
  rw [roomy.fly_eq_ok usable _ _ _ rfl]

def opening (source : Option Source) : List Record :=
  .info "Starting Strix navigation demo..." ::
    source.toList.map fun source => .info ("Loaded configuration from " ++ source.path)

theorem run_of_load (load_eq : load source reader = .ok (config, world)) (roomy : Limits.Roomy config)
    (usable : config.Usable) :
    run source reader watch =
      if 1 / config.navigation.cycleHz < 18446744073709551616 then
        ⟨opening source ++ flightLog ((ClosedLoop.fresh config world ()).fly
          config.optimizer.optimizer (watch world) world.cycles), .completed⟩
      else ⟨opening source, .failed .crashed⟩ := by
  unfold run
  simp only [load_eq, prepare_eq roomy usable]
  by_cases timed : 1 / config.navigation.cycleHz < 18446744073709551616
  · simp only [if_pos timed, fly_fresh roomy usable]
    rfl
  · simp only [if_neg timed]
    rfl

theorem level_opening (source : Option Source) : ∀ record ∈ opening source, record.level = .info := by
  cases source <;> simp [opening, Record.info]

theorem level_flightLog {flight : Flight Unit} (no_fault : flight.fault = none) :
    ∀ record ∈ flightLog flight, record.level = .info := by
  unfold flightLog
  rw [no_fault]
  simp only [Option.toList_none, List.map_nil, List.append_nil, List.forall_mem_append,
    List.forall_mem_map]
  simp [Record.info]

/-- A source that cannot be read, parsed or used is refused with an error. A usable one with room for its
blocks is flown for exactly the configured number of cycles, none of which fails, if the duration of a
cycle is a time, and crashes before the flight if it is not. This holds for any way to read documents, and
whatever the sensor sends between the cycles. -/
theorem run_ends_by_settings (source : Option Source) (reader : Yaml.Reader)
    (watch : Simulation → Watch) :
    match load source reader with
    | .error fault =>
      (run source reader watch).log = [.info "Starting Strix navigation demo...",
        ⟨.error, "Invalid configuration: " ++ explain fault⟩] ∧
      (run source reader watch).ending.exitCode = 1
    | .ok (config, world) =>
      config.validate = .ok () ∧ (Limits.Roomy config →
        if 1 / config.navigation.cycleHz < 18446744073709551616 then
          ∃ loop flight, ClosedLoop.new config world () = .ok loop ∧
            loop.fly config.optimizer.optimizer (watch world) world.cycles = flight ∧
            flight.cycles.length = world.cycles ∧ flight.fault = none ∧
            (run source reader watch).log = opening source ++ flightLog flight ∧
            (∀ record ∈ (run source reader watch).log, record.level = .info) ∧
            (run source reader watch).ending.exitCode = 0
        else (run source reader watch).ending.exitCode = 101) := by
  cases load_eq : load source reader with
  | error fault =>
    rw [run_of_error load_eq]
    exact ⟨rfl, rfl⟩
  | ok loaded =>
    obtain ⟨config, world⟩ := loaded
    have accepted := validate_of_load load_eq
    refine ⟨accepted, ?_⟩
    intro roomy
    have usable := (Config.validate_eq_ok_iff config).mp accepted
    rw [run_of_load load_eq roomy usable]
    split
    · obtain ⟨no_fault, length_eq⟩ := ClosedLoop.fly_ok config.optimizer.optimizer (watch world)
        usable (ClosedLoop.sound_fresh config world ()) world.cycles
      refine ⟨_, _, ClosedLoop.new_eq_ok usable, rfl, length_eq, no_fault, rfl, ?_, rfl⟩
      exact List.forall_mem_append.mpr ⟨level_opening source, level_flightLog no_fault⟩
    · rfl

/-- The defaults, with a sensor that sends more the more cycles are left. -/
theorem default_flight_completed :
    let watch : Watch := ⟨fun left vehicle => List.replicate left ⟨[⟨1, 0, 0⟩], vehicle.pose⟩⟩
    (run none .plain fun _ => watch).ending.exitCode = 0 ∧ ∃ flight : Flight Unit,
      (run none .plain fun _ => watch).log = opening none ++ flightLog flight ∧
      flight.cycles.length = 600 ∧ flight.fault = none := by
  intro watch
  obtain ⟨-, flown⟩ := run_ends_by_settings none .plain fun _ => watch
  have roomy : Limits.Roomy {} := by
    constructor <;> decide
  have timed : 1 / ({} : Config).navigation.cycleHz < 18446744073709551616 := by decide +kernel
  have completed := flown roomy
  rw [if_pos timed] at completed
  obtain ⟨loop, flight, -, -, length_eq, no_fault, log_eq, -, exit_eq⟩ := completed
  exact ⟨exit_eq, flight, log_eq, length_eq, no_fault⟩

/-- Settings that pass the check, with cycles longer than any time. -/
def endless : Source where
  path := "endless.yaml"
  content := .ok "navigation: {cycle_hz: 1e-300}\nsimulation: {cycles: 2, obstacles: []}\n"

theorem endless_crashes : ∃ config world, load (some endless) = .ok (config, world) ∧
    config.validate = .ok () ∧ Limits.Roomy config ∧ (run (some endless)).ending.exitCode = 101 := by
  have rooms : (load (some endless)).toOption.map (fun loaded => (loaded.1.obstacles.capacity,
      loaded.1.route.outerLength, loaded.1.route.innerSpace)) = some (20, 3, 30) := by
    decide +kernel
  cases load_eq : load (some endless) with
  | error fault =>
    rw [load_eq] at rooms
    cases rooms
  | ok loaded =>
    obtain ⟨config, world⟩ := loaded
    rw [load_eq] at rooms
    obtain ⟨obstacles, outer, inner⟩ : config.obstacles.capacity = 20 ∧
      config.route.outerLength = 3 ∧ config.route.innerSpace = 30 := by
      simpa [Except.toOption] using rooms
    have roomy : Limits.Roomy config := by
      constructor
      · simp [obstacles, Limits.maxPoints]
      · simp [outer, Limits.maxPoints]
      · simp [inner, Limits.maxPoints]
    have crashed : (run (some endless)).ending.exitCode = 101 := by decide +kernel
    exact ⟨config, world, rfl, validate_of_load load_eq, roomy, crashed⟩

end Demo

end WaypointNav
