import WaypointNav.Proofs.Navigator.Tick

/-! The parts of a tick, told from what they report: a part that reports nothing did nothing, and one that
reports something did just the one act it reports. -/
namespace WaypointNav.Navigator

variable {σ : Type} {optimizer : Optimizer σ} {config : Config} {memory : σ}
  {nav started walked last : Navigator σ} {position : Point} {arrived : Bool}
  {opening strode rounding : Outcome} {route : Route}

def outline (nav : Navigator σ) : Option (List Point) :=
  nav.route.map Route.outer

theorem outline_replanned {leg : Leg} (route_eq : nav.route = some route) :
    (nav.replanned optimizer route leg).outline = nav.outline := by
  unfold outline replanned
  rw [route_eq]
  exact congrArg some (Invocation.outer_settle _ _)

theorem Opened.eq_of_followed (opened : Opened optimizer nav position route started opening)
    {followed : Route} (route_eq : nav.route = some followed) : started = nav ∧ opening = {} := by
  have start_eq := opened.start_eq
  rw [start_of_route route_eq] at start_eq
  cases start_eq
  exact ⟨rfl, rfl⟩

theorem Opened.exists_corner (opened : Opened optimizer nav position route started opening)
    (fresh : nav.route = none) :
    ∃ corner leg, nav.config.route.plan position = .ok route ∧ route.waypoint 0 = .ok corner ∧
      route.leg 0 = .ok leg ∧
      started = { nav with route := some route, innerTarget := (leg.get? 0).getD corner } ∧
      opening = departure nav.config.route route corner ((leg.get? 0).getD corner) := by
  have start_eq := opened.start_eq
  rcases opened.planned with route_eq | ⟨-, planned⟩
  · exact absurd (fresh.symm.trans route_eq) nofun
  unfold start at start_eq
  simp only [fresh, bind_eq_ok_iff, pure_eq_ok_iff, Prod.mk.injEq] at start_eq
  obtain ⟨found, plan_eq, corner, corner_eq, leg, leg_eq, started_eq, opening_eq⟩ := start_eq
  obtain rfl : found = route := Except.ok.inj (plan_eq.symm.trans planned)
  exact ⟨corner, leg, planned, corner_eq, leg_eq, started_eq.symm, opening_eq.symm⟩

theorem commands_refresh (nav : Navigator σ) : (nav.refresh optimizer).2.commands = [] := by
  unfold refresh replanActive
  cases nav.mapChanged with
  | false => rfl
  | true => cases nav.route <;> rfl

theorem Strolled.eq_of_away (strolled : Strolled optimizer nav arrived walked strode)
    (away : strode.report.innerAdvanced = false) : walked = nav ∧ strode = {} := by
  rw [strolled.report] at away
  have walk_eq := strolled.walk_eq
  rw [walk_of_away away] at walk_eq
  cases walk_eq
  exact ⟨rfl, rfl⟩

theorem Strolled.exists_target (strolled : Strolled optimizer nav arrived walked strode)
    (going : strode.report.innerAdvanced = true) {leg : Leg} (way : Underway config nav route leg)
    (walkable : nav.cursor.valid = true → 0 < leg.size) :
    ∃ target, leg.get? nav.cursor.inner = some target ∧
      walked = { nav with cursor := nav.cursor.advanceInner leg.size, innerTarget := target } ∧
      strode = stride target := by
  rw [strolled.report] at going
  obtain ⟨target, target_eq⟩ := way.target walkable (Bool.and_eq_true_iff.mp going).2
  have walk_eq := strolled.walk_eq
  rw [walk_of_arrived way.route_eq way.leg_eq going target_eq] at walk_eq
  cases walk_eq
  exact ⟨target, target_eq, rfl, rfl⟩

theorem Rounded.eq_of_away (rounded : Rounded optimizer nav arrived last rounding)
    (away : rounding.report.outerAdvanced = false) : last = nav ∧ rounding = {} := by
  rw [rounded.report] at away
  cases away
  cases rounded.turn_eq
  exact ⟨rfl, rfl⟩

theorem Rounded.exists_target (rounded : Rounded optimizer nav arrived last rounding)
    (turning : rounding.report.outerAdvanced = true) {leg : Leg}
    (way : Underway config nav route leg) (usable : config.Usable) :
    ∃ target next, route.waypoint nav.turned.cursor.outer = .ok target ∧
      route.leg nav.turned.cursor.leg = .ok next ∧
      last = nav.turned.replanned optimizer route next ∧
      rounding = Navigator.turning nav.turned.cursor.outer target ++
        replanning (nav.turned.ask optimizer next) := by
  rw [rounded.report] at turning
  obtain rfl : arrived = true := turning
  obtain ⟨next, ahead⟩ := way.turned usable
  obtain ⟨target, target_eq⟩ := way.sized.waypoint_ok ahead.outer_lt
  have turn_eq := rounded.turn_eq
  rw [turn_of_arrived way.route_eq target_eq ahead.leg_eq] at turn_eq
  cases turn_eq
  exact ⟨target, next, target_eq, ahead.leg_eq, rfl, rfl⟩

namespace Passage

variable (p : Passage optimizer nav position)

theorem started_eq : p.outcome.report.started = nav.route.isNone := by
  rw [p.report_eq]

theorem innerAdvanced_eq : p.outcome.report.innerAdvanced = p.strode.report.innerAdvanced := by
  rw [p.report_eq, p.strolled.report]

theorem outerAdvanced_eq : p.outcome.report.outerAdvanced = p.rounding.report.outerAdvanced := by
  rw [p.report_eq, p.rounded.report]

/-- The walk starts on the planned polygon, on a leg that has the point it needs. -/
theorem exists_refreshed (sound : Sound config memory nav) (usable : config.Usable) :
    ∃ route leg, Underway config (p.started.refresh optimizer).1 route leg ∧
      ((p.started.refresh optimizer).1.cursor.valid = true → 0 < leg.size) ∧
      route.outer = p.route.outer := by
  have refreshed := (sound.acts usable p.opened.acts).acts usable p.refresh_acts
  obtain ⟨leg, way, walkable⟩ :=
    refreshed.exists_underway (p.refresh_acts.route_settled p.opened.route_eq)
  exact ⟨_, leg, way, walkable, Route.outer_settled _ _⟩

theorem exists_walked (sound : Sound config memory nav) (usable : config.Usable) :
    ∃ route leg, Underway config p.walked route leg ∧ route.outer = p.route.outer := by
  have acts := p.refresh_acts.trans p.strolled.acts
  have walked := (sound.acts usable p.opened.acts).acts usable acts
  obtain ⟨leg, way, -⟩ := walked.exists_underway (acts.route_settled p.opened.route_eq)
  exact ⟨_, leg, way, Route.outer_settled _ _⟩

end Passage

end WaypointNav.Navigator
