import Mathlib.Algebra.GroupWithZero.Nat
import WaypointNav.Proofs.Navigator.Growth

/-! The accounts of a flight. What a tick reports, what the replanner counts and what the optimizer was asked
are three records of the same questions. -/
namespace WaypointNav

namespace Effect

theorem calls_total (effects : List Effect) :
    (total effects).calls = effects.flatMap (·.outcome.calls) := by
  induction effects with
  | nil => rfl
  | cons effect effects ih => rw [total, Outcome.calls_append, ih, List.flatMap_cons]

theorem replans_total (effects : List Effect) :
    (total effects).report.replans = (effects.map (·.outcome.report.replans)).sum := by
  induction effects with
  | nil => rfl
  | cons effect effects ih =>
    rw [total, Outcome.report_append, TickReport.replans_add, ih, List.map_cons, List.sum_cons]

end Effect

namespace Replanner

def noted (optimizer : Optimizer σ) (replanner : Replanner σ) (calls : List Invocation) :
    Replanner σ :=
  calls.foldl (note optimizer) replanner

variable {optimizer : Optimizer σ} {replanner : Replanner σ}

theorem noted_cons (call : Invocation) (calls : List Invocation) :
    replanner.noted optimizer (call :: calls) =
      (replanner.note optimizer call).noted optimizer calls := rfl

theorem noted_append (first second : List Invocation) :
    replanner.noted optimizer (first ++ second) =
      (replanner.noted optimizer first).noted optimizer second :=
  List.foldl_append

theorem memory_noted (calls : List Invocation) :
    (replanner.noted optimizer calls).memory = optimizer.recall replanner.memory calls := by
  induction calls generalizing replanner with
  | nil => rfl
  | cons call calls ih =>
    rw [noted_cons, ih, memory_note]
    rfl

theorem timed_noted (calls : List Invocation) :
    (replanner.noted optimizer calls).timed = (replanner.timed || !calls.isEmpty) := by
  induction calls generalizing replanner with
  | nil => exact (Bool.or_false _).symm
  | cons call calls ih => rw [noted_cons, ih, timed_note, List.isEmpty_cons, Bool.not_false,
      Bool.or_true, Bool.true_or]

end Replanner

namespace Navigator

variable {σ : Type} {optimizer : Optimizer σ} {config : Config} {memory : σ}
  {nav next : Navigator σ} {log done : Outcome} {built : Route}

theorem Act.replanner_eq (act : Act optimizer nav done next) :
    next.replanner = nav.replanner.noted optimizer done.calls := by
  cases act <;> rfl

theorem Reached.replanner_eq (reached : Reached optimizer config memory nav log) :
    nav.replanner = Replanner.noted optimizer { memory } log.calls := by
  induction reached with
  | fresh => rfl
  | act reached act ih =>
    rw [act.replanner_eq, ih, Outcome.calls_append, Replanner.noted_append]
  | ingest reached batch pose ih => exact ih

theorem Consulted.room {calls : List Invocation} {config : RouteConfig}
    (consulted : Consulted optimizer memory built calls) (sized : built.Sized config) :
    ∀ call ∈ calls, call.query.capacity = config.innerSpace := by
  induction consulted with
  | nil => nofun
  | snoc earlier held_eq current_eq capacity_eq answer_eq ih =>
    intro call mem
    rcases List.mem_append.mp mem with old | new
    · exact ih call old
    · rw [List.mem_singleton.mp new, capacity_eq]
      exact (earlier.sized sized).capacity _ (Route.leg_mem held_eq)

theorem Told.room {events : List Event} {effects : List Effect}
    (told : Told optimizer config memory events nav effects) (usable : config.Usable) :
    ∀ call ∈ (Effect.total effects).calls, call.query.capacity = config.route.innerSpace := by
  cases first : firstTick events with
  | none =>
    rw [(told.atRest first).2]
    nofun
  | some start =>
    obtain ⟨built, planned, record⟩ := told.recorded first
    exact record.consulted.room (usable.sized_of_plan planned)

theorem countP_isOk {calls : List Invocation} {space : Nat}
    (room : ∀ call ∈ calls, call.query.capacity = space) :
    calls.countP (·.verdict.isOk) =
      calls.countP (·.answer.toOption.any (·.length ≤ space)) := by
  apply List.countP_congr
  intro call mem
  rw [← room call mem]
  unfold Invocation.verdict
  cases call.answer with
  | error fault => exact Iff.rfl
  | ok path => by_cases fits : path.length ≤ call.query.capacity <;>
      simp [fits, Except.isOk, Except.toBool, Except.toOption]

theorem Passage.length_calls {position : Point} (p : Passage optimizer nav position) :
    p.outcome.calls.length = p.outcome.report.replans := by
  rw [p.calls_eq, List.length_append, p.length_refresh, p.length_rounding, p.report_eq]

theorem Passage.replans_le {position : Point} (p : Passage optimizer nav position) :
    p.outcome.report.replans ≤ 2 := by
  rw [p.report_eq]
  exact Nat.add_le_add (Bool.toNat_le _) (Bool.toNat_le _)

theorem kept_moderate (optimizer : Optimizer σ) (config : Config) (memory : σ) :
    Kept optimizer config memory fun _ _ effects => ∀ effect ∈ effects,
      effect.outcome.calls.length = effect.outcome.report.replans ∧
        effect.outcome.report.replans ≤ 2 where
  tick := by
    intro events nav effects position reached before p effect mem
    rcases List.mem_append.mp mem with old | new
    · exact before effect old
    · rw [List.mem_singleton.mp new]
      exact ⟨p.length_calls, p.replans_le⟩
  ingest := by
    intro events nav effects before batch pose effect mem
    rcases List.mem_append.mp mem with old | new
    · exact before effect old
    · rw [List.mem_singleton.mp new]
      exact ⟨rfl, Nat.zero_le 2⟩

/-- Every question to the optimizer is reported by the tick that asked it, two at most in a tick, and counted
once by the replanner: as a replan if its answer is a path that a leg can hold, empty ones among them, else
as a failure. The optimizer has been timed exactly if it has been asked. A batch of detections asks
nothing. -/
theorem replans_accounted (optimizer : Optimizer σ) (config : Config) (memory : σ)
    (accepted : config.validate = .ok ()) (events : List Event) :
    ∃ nav effects calls, flight optimizer config memory events = .ok (nav, effects) ∧
      calls = effects.flatMap (·.outcome.calls) ∧
      nav.replanner.memory = optimizer.recall memory calls ∧
      nav.status.replans + nav.status.failures = calls.length ∧
      (effects.map (·.outcome.report.replans)).sum = calls.length ∧
      nav.status.replans =
        calls.countP (·.answer.toOption.any (·.length ≤ config.route.innerSpace)) ∧
      (nav.status.timed = true ↔ 0 < calls.length) ∧
      (∀ effect ∈ effects, effect.outcome.calls.length = effect.outcome.report.replans ∧
        effect.outcome.report.replans ≤ 2) ∧
      ∀ batch pose, (nav.ingest batch pose).1.replanner = nav.replanner := by
  have usable := (Config.validate_eq_ok_iff config).mp accepted
  obtain ⟨nav, effects, flight_eq, reached, told, moderate⟩ :=
    flight_ok usable ((kept_told optimizer config memory).and (kept_moderate optimizer config memory))
      ⟨⟨atRest_fresh, rfl⟩, nofun⟩ events
  obtain ⟨asked, replans_eq, failures_eq⟩ := reached.counted
  have replanner_eq := reached.replanner_eq
  refine ⟨nav, effects, _, flight_eq, (Effect.calls_total effects), ?_, ?_, ?_, ?_, ?_, moderate,
    fun _ _ => rfl⟩
  · rw [replanner_eq, Replanner.memory_noted]
  · change nav.replanner.replans + nav.replanner.failures = _
    rw [replans_eq, failures_eq, List.length_eq_countP_add_countP (·.verdict.isOk)]
    simp
  · rw [← Effect.replans_total, asked]
  · exact replans_eq.trans (countP_isOk (told.room usable))
  · change nav.replanner.timed = true ↔ _
    rw [replanner_eq, Replanner.timed_noted, List.length_pos_iff]
    simp

/-- Two ticks at the start: the first one turns and asks, the second one turns no more. -/
theorem replans_departing :
    ({} : Config).validate = .ok () ∧ ∃ nav effects,
      flight Optimizer.refuse {} () [.tick .origin, .tick .origin] = .ok (nav, effects) ∧
      nav.status.failures = 1 ∧ nav.status.replans = 0 ∧ nav.status.timed = true := by
  have seen : (flight Optimizer.refuse {} () [.tick .origin, .tick .origin]).toOption.map
      (fun done =>
        let calls := done.2.flatMap (·.outcome.calls)
        (calls.length, calls.countP (·.answer.toOption.any (·.length ≤ 30)))) = some (1, 0) := by
    decide +kernel
  obtain ⟨nav, effects, calls, flight_eq, calls_eq, -, sum_eq, -, replans_eq, timed_iff, -⟩ :=
    replans_accounted Optimizer.refuse {} () rfl [.tick .origin, .tick .origin]
  rw [flight_eq] at seen
  obtain ⟨asked, granted⟩ := Prod.mk.inj (Option.some.inj seen)
  rw [← calls_eq] at asked granted
  rw [asked] at sum_eq timed_iff
  have none : nav.status.replans = 0 := replans_eq.trans granted
  refine ⟨rfl, nav, effects, flight_eq, ?_, none, timed_iff.mpr Nat.one_pos⟩
  rwa [none, Nat.zero_add] at sum_eq

end Navigator

end WaypointNav
