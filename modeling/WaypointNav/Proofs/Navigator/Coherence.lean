import WaypointNav.Proofs.Navigator.History

/-! The cursor always lies on the route. Only a turn moves it from leg to leg, and a turn takes the leg that
ends at the waypoint aimed at; whatever the optimizer makes of a leg, the inner index is pulled back onto
it. -/
namespace WaypointNav

/-- On a route of `count` legs, the active one of `size` points, and before or after the first turn. -/
structure Cursor.Coherent (cursor : Cursor) (count size : Nat) (turned : Prop) : Prop where
  outer_lt : cursor.outer < count
  leg_lt : cursor.leg < count
  before_turn : ¬turned → cursor.outer = 0 ∧ cursor.leg = 0
  after_turn : turned → (cursor.leg + 1) % count = cursor.outer
  inner_lt : cursor.inner < max 1 size
  walkable : cursor.valid = true → 0 < size

namespace Navigator

variable {σ : Type} {optimizer : Optimizer σ} {config : Config} {memory : σ}
  {nav next : Navigator σ} {log done : Outcome}

structure Oriented (config : Config) (nav : Navigator σ) (log : Outcome) : Prop where
  before_turn : log.report.outerAdvanced = false → nav.cursor.outer = 0 ∧ nav.cursor.leg = 0
  after_turn : log.report.outerAdvanced = true →
    (nav.cursor.leg + 1) % config.route.outerLength = nav.cursor.outer

theorem Oriented.ahead (oriented : Oriented config nav log)
    (ahead : done.report.outerAdvanced = false) (outer_eq : next.cursor.outer = nav.cursor.outer)
    (leg_eq : next.cursor.leg = nav.cursor.leg) : Oriented config next (log ++ done) := by
  have same : (log ++ done).report.outerAdvanced = log.report.outerAdvanced := by
    rw [Outcome.report_append, TickReport.outerAdvanced_add, ahead, Bool.or_false]
  constructor
  · rw [same, outer_eq, leg_eq]
    exact oriented.before_turn
  · rw [same, outer_eq, leg_eq]
    exact oriented.after_turn

theorem Oriented.act (oriented : Oriented config nav log) (act : Act optimizer nav done next)
    (config_eq : nav.config = config) (usable : config.Usable) :
    Oriented config next (log ++ done) := by
  cases act with
  | plan => exact oriented.ahead rfl rfl rfl
  | refresh => exact oriented.ahead rfl (Cursor.outer_heed _ _) (Cursor.leg_heed _ _)
  | walk => exact oriented.ahead rfl (Cursor.outer_advanceInner _ _) (Cursor.leg_advanceInner _ _)
  | @turn route leg target =>
    have pos : 0 < nav.config.route.outerLength := by
      rw [config_eq]
      exact usable.outer_pos
    constructor
    · intro unturned
      rw [Outcome.report_append, TickReport.outerAdvanced_add] at unturned
      exact absurd (Bool.or_eq_false_iff.mp unturned).2 (by simp [turning])
    · intro _
      -- The replan that ends a turn moves neither index.
      change ((nav.turned.cursor.heed _).leg + 1) % _ = (nav.turned.cursor.heed _).outer
      rw [Cursor.leg_heed, Cursor.outer_heed, ← config_eq]
      exact nav.cursor.leg_advanceOuter_succ_mod pos
  | proceed => exact oriented.ahead rfl rfl rfl

theorem Reached.oriented (reached : Reached optimizer config memory nav log)
    (usable : config.Usable) : Oriented config nav log := by
  induction reached with
  | fresh => exact ⟨fun _ => ⟨rfl, rfl⟩, nofun⟩
  | act reached act ih => exact ih.act act (reached.sound usable).config_eq usable
  | ingest reached batch pose ih => exact ⟨ih.before_turn, ih.after_turn⟩

theorem Reached.coherent {effects : List Effect}
    (reached : Reached optimizer config memory nav (Effect.total effects)) (usable : config.Usable)
    {route : Route} (route_eq : nav.route = some route) :
    ∃ leg, route.leg nav.cursor.leg = .ok leg ∧
      nav.cursor.Coherent config.route.outerLength leg.size
        (∃ outcome, .ticked outcome ∈ effects ∧ outcome.report.outerAdvanced = true) := by
  obtain ⟨leg, way, walkable⟩ := (reached.sound usable).exists_underway route_eq
  have oriented := reached.oriented usable
  refine ⟨leg, way.leg_eq, way.outer_lt, way.sized.index_lt way.leg_eq, ?_, ?_, way.inner_lt,
    walkable⟩
  · intro unturned
    rw [← Effect.total_outerAdvanced_iff, Bool.not_eq_true] at unturned
    exact oriented.before_turn unturned
  · intro turned
    exact oriented.after_turn ((Effect.total_outerAdvanced_iff effects).mpr turned)

theorem Passage.guided {position : Point} (p : Passage optimizer nav position)
    (sound : Sound config memory nav) (usable : config.Usable) :
    (p.outcome.report.innerAdvanced = true ↔
      position.distance p.started.innerTarget < config.navigation.arrivalThreshold ∧
        (p.started.refresh optimizer).1.cursor.valid = true) ∧
    ((p.started.refresh optimizer).1.cursor.valid = true → ∃ route leg target,
      (p.started.refresh optimizer).1.route = some route ∧
      route.leg (p.started.refresh optimizer).1.cursor.leg = .ok leg ∧
      leg.get? (p.started.refresh optimizer).1.cursor.inner = some target) := by
  have started := sound.acts usable p.opened.acts
  have refreshed := started.acts usable p.refresh_acts
  constructor
  · rw [p.report_eq, ← started.config_eq]
    simp only [Bool.and_eq_true, atInner, decide_eq_true_eq]
  · intro valid
    have route_eq := p.refresh_acts.route_settled p.opened.route_eq
    obtain ⟨leg, way, walkable⟩ := refreshed.exists_underway route_eq
    obtain ⟨target, target_eq⟩ := way.target walkable valid
    exact ⟨_, leg, target, route_eq, way.leg_eq, target_eq⟩

/-- From the first tick on the cursor is coherent with the route and the active leg. So a tick moves the inner
guide exactly if the vehicle has arrived and the leg may still be walked after a look at the map; there
is a point to move it to then. -/
theorem cursor_coherent (optimizer : Optimizer σ) (config : Config) (memory : σ)
    (accepted : config.validate = .ok ()) (events : List Event) :
    ∃ nav effects, flight optimizer config memory events = .ok (nav, effects) ∧
      (∀ position, .tick position ∈ events → ∃ route leg,
        nav.route = some route ∧ route.leg nav.cursor.leg = .ok leg ∧
        nav.cursor.Coherent config.route.outerLength leg.size
          (∃ outcome, .ticked outcome ∈ effects ∧ outcome.report.outerAdvanced = true)) ∧
      ∀ position, ∃ started opening last outcome,
        nav.start position = .ok (started, opening) ∧
        nav.tick optimizer position = .ok (last, outcome) ∧
        (outcome.report.innerAdvanced = true ↔
          position.distance started.innerTarget < config.navigation.arrivalThreshold ∧
            (started.refresh optimizer).1.cursor.valid = true) ∧
        ((started.refresh optimizer).1.cursor.valid = true → ∃ route leg target,
          (started.refresh optimizer).1.route = some route ∧
          route.leg (started.refresh optimizer).1.cursor.leg = .ok leg ∧
          leg.get? (started.refresh optimizer).1.cursor.inner = some target) := by
  have usable := (Config.validate_eq_ok_iff config).mp accepted
  obtain ⟨nav, effects, flight_eq, reached, told⟩ :=
    flight_told optimizer memory usable events
  refine ⟨nav, effects, flight_eq, ?_, ?_⟩
  · intro position ticked
    cases route_eq : nav.route with
    | none => exact absurd ticked (told.route_isNone_iff.mp (by rw [route_eq]; rfl) position)
    | some route =>
      obtain ⟨leg, leg_eq, coherent⟩ := reached.coherent usable route_eq
      exact ⟨route, leg, rfl, leg_eq, coherent⟩
  · intro position
    have sound := reached.sound usable
    obtain ⟨p⟩ := sound.passage usable optimizer position
    exact ⟨p.started, p.opening, p.last, p.outcome, p.opened.start_eq, p.tick_eq,
      p.guided sound usable⟩

theorem coherent_departing :
    ({} : Config).validate = .ok () ∧ ∃ nav effects route leg,
      flight Optimizer.keep {} 0 [.tick .origin] = .ok (nav, effects) ∧
      nav.route = some route ∧ route.leg nav.cursor.leg = .ok leg ∧
      nav.cursor.outer < 3 ∧ (nav.cursor.leg + 1) % 3 = nav.cursor.outer ∧
      nav.cursor.inner < max 1 leg.size := by
  have seen : (flight Optimizer.keep {} 0 [.tick .origin]).toOption.map
      (fun done => (Effect.total done.2).report.outerAdvanced) = some true := by
    decide +kernel
  obtain ⟨nav, effects, flight_eq, coherent, -⟩ :=
    cursor_coherent Optimizer.keep {} 0 rfl [.tick .origin]
  obtain ⟨route, leg, route_eq, leg_eq, coherent⟩ := coherent .origin (List.mem_singleton_self _)
  rw [flight_eq] at seen
  have turned := (Effect.total_outerAdvanced_iff effects).mp (Option.some.inj seen)
  exact ⟨rfl, nav, effects, route, leg, flight_eq, route_eq, leg_eq, coherent.outer_lt,
    coherent.after_turn turned, coherent.inner_lt⟩

end Navigator

end WaypointNav
