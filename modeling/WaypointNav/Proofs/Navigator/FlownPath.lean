import WaypointNav.Proofs.Navigator.History
import WaypointNav.Proofs.Navigator.Latest

/-! A vehicle only ever walks a path that the optimizer made for the leg it is on, around all the obstacles
that the navigator knows. -/
namespace WaypointNav.Navigator

variable {σ : Type} {optimizer : Optimizer σ} {config : RouteConfig} {memory : σ} {nav : Navigator σ}
  {log : Outcome} {built : Route}

theorem Recorded.valid_iff (record : Recorded optimizer memory built nav log)
    (sized : built.Sized config) (latest : Latest nav log) :
    nav.cursor.valid = true ↔ ∃ call path,
      log.calls.getLast? = some call ∧ call.answer = .ok path ∧
      1 ≤ path.length ∧ path.length ≤ config.innerSpace := by
  rw [latest.valid_iff]
  constructor
  · rintro ⟨call, path, last_eq, verdict, pos⟩
    obtain ⟨answer, fits⟩ := Invocation.verdict_eq_ok_iff.mp verdict
    rw [record.consulted.room_last sized last_eq] at fits
    exact ⟨call, path, last_eq, answer, pos, fits⟩
  · rintro ⟨call, path, last_eq, answer, pos, fits⟩
    rw [← record.consulted.room_last sized last_eq] at fits
    exact ⟨call, path, last_eq, Invocation.verdict_eq_ok_iff.mpr ⟨answer, fits⟩, pos⟩

theorem Recorded.leg_answered (record : Recorded optimizer memory built nav log)
    (sized : built.Sized config) (latest : Latest nav log) (seen : nav.mapChanged = false)
    (valid : nav.cursor.valid = true) :
    ∃ earlier call held leg path,
      log.calls = earlier ++ [call] ∧ call.leg = nav.cursor.leg ∧
      (built.settled earlier).leg call.leg = .ok held ∧
      call.query = ⟨nav.map.obstacles, held.points, config.innerSpace⟩ ∧
      call.answer = (optimizer (optimizer.recall memory earlier) call.query).1 ∧
      call.answer = .ok path ∧
      (built.settled log.calls).leg nav.cursor.leg = .ok leg ∧ leg.points = path := by
  obtain ⟨call, path, last_eq, verdict, -⟩ := latest.valid_iff.mp valid
  obtain ⟨earlier, calls_eq⟩ := List.getLast?_eq_some_iff.mp last_eq
  have consulted := record.consulted
  rw [calls_eq] at consulted
  obtain ⟨held, held_eq, current_eq, answer_eq⟩ := consulted.last
  obtain ⟨route, route_eq, leg_eq⟩ := latest.path_eq call path last_eq verdict
  obtain rfl := Option.some.inj (route_eq.symm.trans record.route_eq)
  have obstacles_eq := latest.known seen
  rw [last_eq] at obstacles_eq
  refine ⟨earlier, call, held, _, path, calls_eq, latest.leg_eq call last_eq, held_eq, ?_,
    answer_eq, (Invocation.verdict_eq_ok_iff.mp verdict).1, leg_eq, Leg.points_filled _ _⟩
  rw [obstacles_eq, ← current_eq, ← record.consulted.room_last sized last_eq]
  rfl

/-- After every tick the active leg is valid exactly if the latest question brought a path with a point in
it that fits. The question was then about this leg as it was before, with the whole map of now, and the
leg holds the answer. -/
theorem valid_leg_is_latest_answer (optimizer : Optimizer σ) (config : Config) (memory : σ)
    (accepted : config.validate = .ok ()) (events : List Event) (position : Point) :
    ∃ nav effects start built route,
      flight optimizer config memory (events ++ [.tick position]) = .ok (nav, effects) ∧
      firstTick (events ++ [.tick position]) = some start ∧
      config.route.plan start = .ok built ∧
      nav.route = some route ∧ route = built.settled (Effect.total effects).calls ∧
      (nav.cursor.valid = true ↔ ∃ call path,
        (Effect.total effects).calls.getLast? = some call ∧ call.answer = .ok path ∧
        1 ≤ path.length ∧ path.length ≤ config.route.innerSpace) ∧
      (nav.cursor.valid = true → ∃ earlier call held leg path,
        (Effect.total effects).calls = earlier ++ [call] ∧
        call.leg = nav.cursor.leg ∧
        (built.settled earlier).leg call.leg = .ok held ∧
        call.query = ⟨nav.map.obstacles, held.points, config.route.innerSpace⟩ ∧
        call.answer = (optimizer (optimizer.recall memory earlier) call.query).1 ∧
        call.answer = .ok path ∧
        route.leg nav.cursor.leg = .ok leg ∧ leg.points = path) := by
  have usable := (Config.validate_eq_ok_iff config).mp accepted
  obtain ⟨before, past, flight_eq, reached, told⟩ :=
    flight_told optimizer memory usable events
  obtain ⟨p⟩ := (reached.sound usable).passage usable optimizer position
  have latest := (reached.acts p.acts).latest
  rw [← Effect.total_ticked] at latest
  obtain ⟨start, built, first, planned, record⟩ :=
    ((kept_told optimizer config memory).tick reached told p).of_tick
  have sized := usable.sized_of_plan planned
  exact ⟨p.last, _, start, built, _, flight_concat flight_eq p.step_eq, first, planned,
    record.route_eq, rfl, record.valid_iff sized latest,
    record.leg_answered sized latest p.mapChanged_last⟩

/-- With its first tick at the first waypoint a navigator turns to the next, and may walk there. -/
theorem departing_leg_is_answer :
    ({} : Config).validate = .ok () ∧ ∃ nav effects call path route leg,
      flight Optimizer.keep {} 0 [.tick .origin] = .ok (nav, effects) ∧
      nav.cursor.valid = true ∧ (Effect.total effects).calls = [call] ∧ call.leg = nav.cursor.leg ∧
      call.answer = .ok path ∧ nav.route = some route ∧ route.leg nav.cursor.leg = .ok leg ∧
      leg.points = path := by
  have seen : (flight Optimizer.keep {} 0 [.tick .origin]).toOption.map
      (fun done => (done.1.cursor.valid, (Effect.total done.2).calls.length)) = some (true, 1) := by
    decide +kernel
  obtain ⟨nav, effects, start, built, route, flight_eq, -, -, route_eq, -, -, latest⟩ :=
    valid_leg_is_latest_answer Optimizer.keep {} 0 rfl [] .origin
  rw [List.nil_append] at flight_eq
  rw [flight_eq] at seen
  obtain ⟨valid, asked⟩ := Prod.mk.inj (Option.some.inj seen)
  obtain ⟨earlier, call, held, leg, path, calls_eq, leg_eq, -, -, -, answer, found, points⟩ :=
    latest valid
  rw [calls_eq, List.length_append] at asked
  rw [List.eq_nil_of_length_eq_zero (Nat.succ.inj asked)] at calls_eq
  exact ⟨rfl, nav, effects, call, path, route, leg, flight_eq, valid, calls_eq, leg_eq, answer,
    route_eq, found, points⟩

end WaypointNav.Navigator
