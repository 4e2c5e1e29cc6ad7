import WaypointNav.Proofs.Navigator.Coherence
import WaypointNav.Proofs.Navigator.Growth
import WaypointNav.Proofs.Route.Ends

/-! Flights with the reference optimizer. Since it is tame, all that holds of such flights holds here; and since
a leg keeps its end, that is the waypoint aimed at. -/
namespace WaypointNav.Navigator

variable {σ : Type} {optimizer : Optimizer σ} {config : Config} {memory : σ} {nav : Navigator σ}
  {log : Outcome} {built : Route} {events : List Event} {effects : List Effect}

theorem Told.answered (told : Told optimizer config memory events nav effects)
    (tame : optimizer.Tame) (usable : config.Usable) :
    ∀ call ∈ (Effect.total effects).calls, ∃ path, call.verdict = .ok path ∧ 0 < path.length := by
  intro call mem
  cases first : firstTick events with
  | none =>
    rw [(told.atRest first).2] at mem
    cases mem
  | some start =>
    obtain ⟨built, planned, record⟩ := told.recorded first
    obtain ⟨leg, path, leg_eq, verdict, longer⟩ :=
      record.consulted.answered tame (usable.sized_of_plan planned) call mem
    have size_eq := usable.size_of_plan planned leg_eq
    have pos := usable.inner_length_pos
    exact ⟨path, verdict, by omega⟩

theorem Reached.served (reached : Reached optimizer config memory nav log)
    (answered : ∀ call ∈ log.calls, ∃ path, call.verdict = .ok path ∧ 0 < path.length) :
    nav.replanner.failures = 0 ∧ nav.replanner.replans = log.report.replans ∧
      (nav.cursor.valid = true ↔ 0 < log.report.replans) := by
  obtain ⟨asked, replans_eq, failures_eq⟩ := reached.counted
  have granted : ∀ call ∈ log.calls, call.verdict.isOk = true := by
    intro call mem
    obtain ⟨path, verdict, -⟩ := answered call mem
    rw [verdict]
    rfl
  refine ⟨?_, ?_, ?_⟩
  · rw [failures_eq, List.countP_eq_zero]
    intro call mem
    rw [granted call mem]
    exact Bool.false_ne_true
  · rw [replans_eq, asked, List.countP_eq_length]
    exact granted
  · rw [reached.latest.valid_iff, asked, List.length_pos_iff]
    constructor
    · rintro ⟨call, path, last_eq, -⟩ none
      rw [none] at last_eq
      cases last_eq
    · intro some
      obtain ⟨path, verdict, pos⟩ := answered _ (List.getLast_mem some)
      exact ⟨_, path, List.getLast?_eq_some_getLast some, verdict, pos⟩

theorem Told.route_grown {position : Point} {route : Route}
    (told : Told optimizer config memory events nav effects) (tame : optimizer.Tame)
    (usable : config.Usable) (p : Passage optimizer nav position)
    (route_eq : nav.route = some route) :
    ∃ after, p.last.route = some after ∧ route.Grown after := by
  cases first : firstTick events with
  | none => exact absurd (route_eq.symm.trans (told.atRest first).1.route_eq) nofun
  | some start =>
    obtain ⟨built, planned, record⟩ := told.recorded first
    obtain rfl := Option.some.inj (route_eq.symm.trans record.route_eq)
    -- Both routes are settled from one plan, the later one by the questions of this tick too.
    have later := record.acts p.acts
    exact ⟨_, later.route_eq, later.consulted.grown tame (usable.sized_of_plan planned) rfl⟩

theorem Passage.inner_last {position : Point} (p : Passage optimizer nav position)
    (sound : Sound config memory nav) (tame : optimizer.Tame) (usable : config.Usable) :
    if p.outcome.report.outerAdvanced then p.last.cursor.inner = 0
    else nav.cursor.inner ≤ p.last.cursor.inner := by
  split
  · next turning =>
    rw [p.outerAdvanced_eq] at turning
    obtain ⟨route, leg, way, -⟩ := p.exists_walked sound usable
    obtain ⟨target, next, -, leg_eq, last_eq, -⟩ := p.rounded.exists_target turning way usable
    -- The turn puts the index to zero, and the replan after it leaves it there.
    obtain ⟨held, ahead⟩ := way.turned usable
    obtain ⟨-, rfl⟩ := ahead.unique way.route_eq leg_eq
    rw [last_eq, ahead.inner_replanned tame]
    exact p.walked.cursor.inner_advanceOuter _
  · next away => exact p.acts.inner_le tame usable sound (Bool.eq_false_iff.mpr away)

theorem Told.step_grown (told : Told optimizer config memory events nav effects)
    (sound : Sound config memory nav) (tame : optimizer.Tame) (usable : config.Usable)
    (event : Event) :
    ∃ next effect, nav.step optimizer event = .ok (next, effect) ∧
      (∀ route, nav.route = some route → ∃ after, next.route = some after ∧ route.Grown after) ∧
      if effect.outcome.report.outerAdvanced then next.cursor.inner = 0
      else nav.cursor.inner ≤ next.cursor.inner := by
  cases event with
  | tick position =>
    obtain ⟨p⟩ := sound.passage usable optimizer position
    exact ⟨p.last, _, p.step_eq, fun _ => told.route_grown tame usable p,
      p.inner_last sound tame usable⟩
  | ingest batch pose =>
    exact ⟨_, _, rfl, fun route route_eq => ⟨route, route_eq, .refl route⟩, Nat.le_refl _⟩

theorem Recorded.leg_kept {start : Point} {index : Nat} {leg : Leg}
    (record : Recorded optimizer memory built nav log) (tame : optimizer.Tame)
    (usable : config.Usable) (planned : config.route.plan start = .ok built)
    (leg_eq : (built.settled log.calls).leg index = .ok leg) :
    ∃ first last, built.leg index = .ok first ∧
      config.route.innerLength ≤ leg.size ∧ leg.size ≤ config.route.innerSpace ∧
      first.points.getLast? = some last ∧ leg.points.getLast? = some last := by
  have sized := usable.sized_of_plan planned
  have settled := record.consulted.sized sized
  obtain ⟨first, first_eq, grown⟩ := record.consulted.grown_built tame sized index leg leg_eq
  have size_eq := usable.size_of_plan planned first_eq
  have padded := sized.padded first (Route.leg_mem first_eq)
  obtain ⟨last, last_eq⟩ := padded.exists_last (size_eq ▸ usable.inner_length_pos)
  refine ⟨first, last, first_eq, size_eq ▸ grown.size_le, ?_, last_eq,
    grown.getLast?_eq.trans last_eq⟩
  rw [← settled.capacity leg (Route.leg_mem leg_eq)]
  exact (settled.padded leg (Route.leg_mem leg_eq)).size_le_capacity

/-- After a turn the active leg ends at the waypoint aimed at. -/
theorem Recorded.leg_leads {start : Point} {route : Route} {leg : Leg}
    (record : Recorded optimizer memory built nav log) (way : Underway config nav route leg)
    (oriented : Oriented config nav log) (tame : optimizer.Tame) (usable : config.Usable)
    (planned : config.route.plan start = .ok built)
    (countable : config.route.innerLength ≤ Limits.maxIndex)
    (finite : ∀ p ∈ config.route.outline start, p.isFinite = true)
    (turned : log.report.outerAdvanced = true) :
    ∃ last corner, leg.points.getLast? = some last ∧ route.outer[nav.cursor.outer]? = some corner ∧
      last.Agrees corner := by
  obtain rfl := Option.some.inj (way.route_eq.symm.trans record.route_eq)
  obtain ⟨first, first_eq, grown⟩ :=
    record.consulted.grown_built tame (usable.sized_of_plan planned) _ _ way.leg_eq
  obtain ⟨last, corner, last_eq, corner_eq, agrees⟩ := RouteConfig.leg_ends
    usable.inner_length_le usable.inner_length_pos countable finite planned first_eq
  have outer_eq : (built.settled log.calls).outer = config.route.outline start :=
    (Route.outer_settled _ _).trans (RouteConfig.outer_of_plan usable.inner_length_le planned)
  rw [← outer_eq, way.sized.outer_length, oriented.after_turn turned] at corner_eq
  exact ⟨last, corner, grown.getLast?_eq.trans last_eq, corner_eq, agrees⟩

/-- A flight with the reference optimizer. Every replan succeeds, so from the first one on the active leg is
valid. No event takes a point from a leg or moves its end, and the walk goes back only to the start of a
leg, at a turn. Every leg holds at least as many points as were planned and ends where it was planned to
end; after a turn that is the waypoint aimed at, if all waypoints are finite and the points of a leg can
be counted. -/
theorem clearance_flight_grows (config : Config) (accepted : config.validate = .ok ())
    (events : List Event) :
    ∃ nav effects, flight config.optimizer.optimizer config () events = .ok (nav, effects) ∧
      nav.replanner.failures = 0 ∧
      nav.replanner.replans = (Effect.total effects).report.replans ∧
      (nav.cursor.valid = true ↔ 0 < (Effect.total effects).report.replans) ∧
      (∀ event, ∃ next effect,
        nav.step config.optimizer.optimizer event = .ok (next, effect) ∧
        (∀ route, nav.route = some route → ∃ after, next.route = some after ∧ route.Grown after) ∧
        if effect.outcome.report.outerAdvanced then next.cursor.inner = 0
        else nav.cursor.inner ≤ next.cursor.inner) ∧
      ∀ start, firstTick events = some start → ∃ built route,
        config.route.plan start = .ok built ∧ nav.route = some route ∧
        (∀ index leg, route.leg index = .ok leg → ∃ first last, built.leg index = .ok first ∧
          config.route.innerLength ≤ leg.size ∧ leg.size ≤ config.route.innerSpace ∧
          first.points.getLast? = some last ∧ leg.points.getLast? = some last) ∧
        (config.route.innerLength ≤ Limits.maxIndex →
          (∀ p ∈ config.route.outline start, p.isFinite = true) →
          (Effect.total effects).report.outerAdvanced = true →
          ∃ leg last corner, route.leg nav.cursor.leg = .ok leg ∧
            leg.points.getLast? = some last ∧ route.outer[nav.cursor.outer]? = some corner ∧
            last.Agrees corner) := by
  have usable := (Config.validate_eq_ok_iff config).mp accepted
  have tame := config.optimizer.tame_optimizer
  obtain ⟨nav, effects, flight_eq, reached, told⟩ :=
    flight_told config.optimizer.optimizer () usable events
  have sound := reached.sound usable
  obtain ⟨failures_eq, replans_eq, valid_iff⟩ := reached.served (told.answered tame usable)
  refine ⟨nav, effects, flight_eq, failures_eq, replans_eq, valid_iff,
    told.step_grown sound tame usable, ?_⟩
  intro start first
  obtain ⟨built, planned, record⟩ := told.recorded first
  refine ⟨built, _, planned, record.route_eq, ?_, ?_⟩
  · exact fun index leg leg_eq => record.leg_kept tame usable planned leg_eq
  · intro countable finite turned
    obtain ⟨leg, way, -⟩ := sound.exists_underway record.route_eq
    obtain ⟨last, corner, leads⟩ := record.leg_leads way (reached.oriented usable) tame usable
      planned countable finite turned
    exact ⟨leg, last, corner, way.leg_eq, leads⟩

/-- The first tick at the first waypoint replans the first leg, which leads to the second waypoint. -/
theorem clearance_departing :
    ({} : Config).validate = .ok () ∧ ∃ nav effects route leg last corner,
      flight ({} : Config).optimizer.optimizer {} () [.tick .origin] = .ok (nav, effects) ∧
      nav.replanner.failures = 0 ∧ nav.cursor.valid = true ∧ nav.route = some route ∧
      route.leg nav.cursor.leg = .ok leg ∧ leg.points.getLast? = some last ∧
      route.outer[nav.cursor.outer]? = some corner ∧ last.Agrees corner := by
  have seen : (flight ({} : Config).optimizer.optimizer {} () [.tick .origin]).toOption.map
      (fun done => ((Effect.total done.2).report.replans,
        (Effect.total done.2).report.outerAdvanced)) = some (1, true) := by
    decide +kernel
  have finite : ∀ p ∈ ({} : RouteConfig).outline .origin, p.isFinite = true := by
    decide +kernel
  obtain ⟨nav, effects, flight_eq, failures_eq, -, valid_iff, -, flown⟩ :=
    clearance_flight_grows {} rfl [.tick .origin]
  obtain ⟨built, route, -, route_eq, -, leads⟩ := flown .origin rfl
  rw [flight_eq] at seen
  obtain ⟨replans, turned⟩ := Prod.mk.inj (Option.some.inj seen)
  obtain ⟨leg, last, corner, leg_eq, last_eq, corner_eq, agrees⟩ :=
    leads (by decide) finite turned
  exact ⟨rfl, nav, effects, route, leg, last, corner, flight_eq, failures_eq,
    valid_iff.mpr (replans ▸ Nat.one_pos), route_eq, leg_eq, last_eq, corner_eq, agrees⟩

end WaypointNav.Navigator
