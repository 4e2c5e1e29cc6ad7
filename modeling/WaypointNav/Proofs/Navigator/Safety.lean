import WaypointNav.Proofs.Navigator.History

/-! Settings that pass the check never fail later: every flight goes on, whatever the optimizer answers and
wherever the vehicle is said to be, and a tick touches no more of the route than what it replans. -/
namespace WaypointNav.Navigator

variable {σ : Type} {optimizer : Optimizer σ} {config : Config} {memory : σ} {nav : Navigator σ}

/-- The polygon stays what it was planned to be. -/
theorem Told.outline {events : List Event} {effects : List Effect} {start : Point}
    (told : Told optimizer config memory events nav effects) (usable : config.Usable)
    (first : firstTick events = some start) :
    ∃ route, nav.route = some route ∧ route.outer = config.route.outline start := by
  obtain ⟨built, planned, record⟩ := told.recorded first
  rw [RouteConfig.plan_eq_ok usable.inner_length_le, Except.ok.injEq] at planned
  refine ⟨_, record.route_eq, ?_⟩
  rw [Route.outer_settled, ← planned]

/-- No flight of accepted settings ends in a fault. The first tick starts it; from then on the route has the
configured size and the outline that was planned where the first tick found the vehicle. A tick changes
no leg other than the active ones at the moments of its replans. -/
theorem accepted_never_faults (optimizer : Optimizer σ) (config : Config) (memory : σ)
    (accepted : config.validate = .ok ()) (events : List Event) :
    ∃ nav effects, flight optimizer config memory events = .ok (nav, effects) ∧
      (∀ start, firstTick events = some start → ∃ route, nav.route = some route ∧
        route.outer = config.route.outline start ∧ route.Sized config.route) ∧
      ∀ position, ∃ last outcome before after,
        nav.tick optimizer position = .ok (last, outcome) ∧
        (outcome.report.started = true ↔ ∀ earlier, .tick earlier ∉ events) ∧
        (nav.route = some before ∨
          nav.route = none ∧ config.route.plan position = .ok before) ∧
        last.route = some after ∧ after.outer = before.outer ∧ after.Sized config.route ∧
        outcome.calls.map Invocation.leg =
          (if nav.mapChanged then [nav.cursor.leg] else []) ++
            (if outcome.report.outerAdvanced then [last.cursor.leg] else []) ∧
        ∀ index, index ∉ outcome.calls.map Invocation.leg →
          after.legs[index]? = before.legs[index]? := by
  have usable := (Config.validate_eq_ok_iff config).mp accepted
  obtain ⟨nav, effects, flight_eq, reached, told⟩ :=
    flight_told optimizer memory usable events
  have sound := reached.sound usable
  refine ⟨nav, effects, flight_eq, ?_, ?_⟩
  · intro start first
    obtain ⟨route, route_eq, outer_eq⟩ := told.outline usable first
    obtain ⟨leg, way, -⟩ := sound.exists_underway route_eq
    exact ⟨route, route_eq, outer_eq, way.sized⟩
  · intro position
    obtain ⟨p⟩ := sound.passage usable optimizer position
    obtain ⟨leg, way, -⟩ := (sound.acts usable p.acts).exists_underway p.route_last
    have planned := p.opened.planned
    rw [sound.config_eq] at planned
    refine ⟨p.last, p.outcome, p.route, _, p.tick_eq, ?_, planned, p.route_last,
      Route.outer_settled _ _, way.sized, p.legs_eq, ?_⟩
    · rw [p.report_eq]
      exact told.route_isNone_iff
    · intro index apart
      apply Route.legs_settled_of_forall_ne
      intro call mem same
      exact apart (List.mem_map.mpr ⟨call, mem, same⟩)

theorem started_departing :
    ({} : Config).validate = .ok () ∧ ∃ nav last outcome,
      flight Optimizer.keep {} 0 [] = .ok (nav, []) ∧
      nav.tick Optimizer.keep ⟨0 / 0, 1 / 0⟩ = .ok (last, outcome) ∧
      outcome.report.started = true ∧
      ∃ route, last.route = some route ∧ route.outer.length = 3 := by
  obtain ⟨nav, effects, flight_eq, -, ticks⟩ := accepted_never_faults Optimizer.keep {} 0 rfl []
  obtain ⟨last, outcome, before, after, tick_eq, started, -, after_eq, -, sized, -⟩ :=
    ticks ⟨0 / 0, 1 / 0⟩
  obtain rfl : effects = [] := by
    cases flight_eq
    rfl
  exact ⟨rfl, nav, last, outcome, flight_eq, tick_eq, started.mpr nofun, after, after_eq,
    sized.outer_length⟩

end WaypointNav.Navigator
