import WaypointNav.Proofs.Navigator.Sound

/-! A tick of a sound navigator finds all it needs in each of its parts, and every part is a chain of
acts. -/
namespace WaypointNav.Navigator

variable {σ : Type} {optimizer : Optimizer σ} {config : Config} {memory : σ} {nav : Navigator σ}

def atInner (nav : Navigator σ) (position : Point) : Bool :=
  position.distance nav.innerTarget < nav.config.navigation.arrivalThreshold

def atCorner (nav : Navigator σ) (position corner : Point) : Bool :=
  position.distance corner < nav.config.navigation.arrivalThreshold

structure Opened (optimizer : Optimizer σ) (nav : Navigator σ) (position : Point) (route : Route)
    (started : Navigator σ) (opening : Outcome) : Prop where
  start_eq : nav.start position = .ok (started, opening)
  planned : nav.route = some route ∨
    nav.route = none ∧ nav.config.route.plan position = .ok route
  route_eq : started.route = some route
  cursor_eq : started.cursor = nav.cursor
  map_eq : started.map = nav.map
  mapChanged_eq : started.mapChanged = nav.mapChanged
  replanner_eq : started.replanner = nav.replanner
  report : opening.report = { started := nav.route.isNone }
  calls : opening.calls = []
  acts : Acts optimizer nav opening started

structure Strolled (optimizer : Optimizer σ) (nav : Navigator σ) (arrived : Bool)
    (walked : Navigator σ) (strode : Outcome) : Prop where
  walk_eq : nav.walk arrived = .ok (walked, strode)
  report : strode.report = { innerAdvanced := arrived && nav.cursor.valid }
  calls : strode.calls = []
  acts : Acts optimizer nav strode walked

structure Rounded (optimizer : Optimizer σ) (nav : Navigator σ) (arrived : Bool)
    (last : Navigator σ) (rounding : Outcome) : Prop where
  turn_eq : nav.turn optimizer arrived = .ok (last, rounding)
  report : rounding.report = { outerAdvanced := arrived, replans := arrived.toNat }
  legs : rounding.calls.map Invocation.leg = if arrived then [last.cursor.leg] else []
  acts : Acts optimizer nav rounding last

structure Passage (optimizer : Optimizer σ) (nav : Navigator σ) (position : Point) where
  route : Route
  corner : Point
  started : Navigator σ
  opening : Outcome
  opened : Opened optimizer nav position route started opening
  corner_eq : route.waypoint started.cursor.outer = .ok corner
  refresh_legs : (started.refresh optimizer).2.calls.map Invocation.leg =
    if started.mapChanged then [started.cursor.leg] else []
  refresh_acts : Acts optimizer started (started.refresh optimizer).2 (started.refresh optimizer).1
  walked : Navigator σ
  strode : Outcome
  strolled : Strolled optimizer (started.refresh optimizer).1 (started.atInner position) walked strode
  last : Navigator σ
  rounding : Outcome
  rounded : Rounded optimizer walked (started.atCorner position corner) last rounding

theorem start_of_route {route : Route} (route_eq : nav.route = some route) (position : Point) :
    nav.start position = .ok (nav, {}) := by
  unfold start
  rw [route_eq]

theorem planned_of_route {route : Route} (route_eq : nav.route = some route) :
    nav.planned = .ok route := by
  unfold planned
  rw [route_eq]

theorem AtRest.start_ok (rest : AtRest config memory nav) (usable : config.Usable)
    (position : Point) :
    ∃ route corner leg, config.route.plan position = .ok route ∧
      route.waypoint 0 = .ok corner ∧ route.leg 0 = .ok leg ∧
      nav.start position =
        .ok ({ nav with route := some route, innerTarget := (leg.get? 0).getD corner },
          departure config.route route corner ((leg.get? 0).getD corner)) := by
  have planned := RouteConfig.plan_eq_ok usable.inner_length_le position
  have sized := usable.sized_of_plan planned
  obtain ⟨corner, corner_eq⟩ := sized.waypoint_ok usable.outer_pos
  obtain ⟨leg, leg_eq⟩ := sized.leg_ok usable.outer_pos
  refine ⟨_, corner, leg, planned, corner_eq, leg_eq, ?_⟩
  unfold start departure
  simp only [rest.route_eq, rest.config_eq, planned, bind, Except.bind, corner_eq, leg_eq]
  rfl

section Underway

variable {route : Route} {leg : Leg}

theorem Underway.refresh_eq (way : Underway config nav route leg) :
    nav.refresh optimizer =
      if nav.mapChanged then
        ({ nav with mapChanged := false }.replanned optimizer route leg,
          replanning (nav.ask optimizer leg))
      else (nav, {}) := by
  unfold refresh
  split
  · exact replanActive_eq way.route_eq way.leg_eq
  · rfl

theorem Underway.refresh_acts (way : Underway config nav route leg) :
    Acts optimizer nav (nav.refresh optimizer).2 (nav.refresh optimizer).1 := by
  rw [way.refresh_eq]
  split
  · next changed => exact .one (.refresh changed way.route_eq way.leg_eq)
  · exact .none

theorem walk_of_away {arrived : Bool} (away : (arrived && nav.cursor.valid) = false) :
    nav.walk arrived = .ok (nav, {}) := by
  simp only [walk, away]
  rfl

theorem walk_of_arrived {arrived : Bool} {target : Point} (route_eq : nav.route = some route)
    (leg_eq : route.leg nav.cursor.leg = .ok leg) (going : (arrived && nav.cursor.valid) = true)
    (target_eq : leg.get? nav.cursor.inner = some target) :
    nav.walk arrived =
      .ok ({ nav with cursor := nav.cursor.advanceInner leg.size, innerTarget := target },
        stride target) := by
  have followed := planned_of_route route_eq
  simp only [walk, going, if_true, followed, bind, Except.bind, leg_eq, target_eq]
  rfl

theorem turn_of_arrived {target : Point} (route_eq : nav.route = some route)
    (target_eq : route.waypoint nav.turned.cursor.outer = .ok target)
    (leg_eq : route.leg nav.turned.cursor.leg = .ok leg) :
    nav.turn optimizer true =
      .ok (nav.turned.replanned optimizer route leg,
        turning nav.turned.cursor.outer target ++ replanning (nav.turned.ask optimizer leg)) := by
  have done : nav.turned.replanActive optimizer = _ := replanActive_eq route_eq leg_eq
  unfold Navigator.turned at done target_eq
  have followed := planned_of_route route_eq
  simp only [turn, if_true, followed, bind, Except.bind, target_eq, done]
  rfl

theorem Underway.walk_ok (way : Underway config nav route leg)
    (walkable : nav.cursor.valid = true → 0 < leg.size) (optimizer : Optimizer σ) (arrived : Bool) :
    ∃ walked strode, Strolled optimizer nav arrived walked strode := by
  by_cases going : (arrived && nav.cursor.valid) = true
  · have valid : nav.cursor.valid = true := (Bool.and_eq_true_iff.mp going).2
    obtain ⟨target, target_eq⟩ := way.target walkable valid
    refine ⟨_, _, walk_of_arrived way.route_eq way.leg_eq going target_eq, ?_, rfl,
      .one (.walk way.route_eq way.leg_eq valid target_eq)⟩
    rw [going]
    rfl
  · rw [Bool.not_eq_true] at going
    refine ⟨nav, {}, walk_of_away going, ?_, rfl, .none⟩
    rw [going]

theorem Underway.turn_ok (way : Underway config nav route leg) (usable : config.Usable)
    (optimizer : Optimizer σ) (arrived : Bool) :
    ∃ last rounding, Rounded optimizer nav arrived last rounding := by
  cases arrived with
  | false => exact ⟨nav, {}, rfl, rfl, rfl, .none⟩
  | true =>
    obtain ⟨next, ahead⟩ := way.turned usable
    obtain ⟨target, target_eq⟩ := way.sized.waypoint_ok ahead.outer_lt
    refine ⟨_, _, turn_of_arrived way.route_eq target_eq ahead.leg_eq, rfl, ?_,
      .one (.turn way.route_eq target_eq ahead.leg_eq)⟩
    change [nav.turned.cursor.leg] = [(nav.turned.cursor.heed _).leg]
    rw [Cursor.leg_heed]

theorem Underway.refresh_legs (way : Underway config nav route leg) :
    (nav.refresh optimizer).2.calls.map Invocation.leg =
      if nav.mapChanged then [nav.cursor.leg] else [] := by
  rw [way.refresh_eq]
  split <;> rfl

end Underway

theorem report_refresh (nav : Navigator σ) :
    (nav.refresh optimizer).2.report = { replans := nav.mapChanged.toNat } := by
  unfold refresh replanActive
  cases nav.mapChanged with
  | false => rfl
  | true => cases nav.route <;> rfl

theorem mapChanged_refresh (nav : Navigator σ) : (nav.refresh optimizer).1.mapChanged = false := by
  unfold refresh replanActive
  cases changed : nav.mapChanged with
  | false => exact changed
  | true => cases nav.route <;> rfl

theorem Sound.start_ok (sound : Sound config memory nav) (usable : config.Usable)
    (optimizer : Optimizer σ) (position : Point) :
    ∃ route started opening, Opened optimizer nav position route started opening := by
  cases sound with
  | atRest rest =>
    obtain ⟨route, corner, leg, planned, corner_eq, leg_eq, start_eq⟩ :=
      rest.start_ok usable position
    rw [← rest.config_eq] at planned start_eq
    refine ⟨route, _, _, start_eq, .inr ⟨rest.route_eq, planned⟩, rfl, rfl, rfl, rfl, rfl, ?_,
      rfl, .one (.plan rest.route_eq planned corner_eq leg_eq)⟩
    rw [rest.route_eq]
    rfl
  | underway route leg way walkable =>
    refine ⟨route, nav, {}, start_of_route way.route_eq position, .inl way.route_eq, way.route_eq,
      rfl, rfl, rfl, rfl, ?_, rfl, .none⟩
    rw [way.route_eq]
    rfl

theorem Sound.passage (sound : Sound config memory nav) (usable : config.Usable)
    (optimizer : Optimizer σ) (position : Point) : Nonempty (Passage optimizer nav position) := by
  -- Each part keeps the navigator sound, and that is all that the next part asks for.
  obtain ⟨route, started, opening, opened⟩ := sound.start_ok usable optimizer position
  have started_sound := sound.acts usable opened.acts
  obtain ⟨leg, way, -⟩ := started_sound.exists_underway opened.route_eq
  obtain ⟨corner, corner_eq⟩ := way.sized.waypoint_ok way.outer_lt
  have refresh_acts : Acts optimizer started _ _ := way.refresh_acts
  have refreshed_sound := started_sound.acts usable refresh_acts
  have refreshed_route := refresh_acts.route_settled opened.route_eq
  obtain ⟨leg', way', walkable⟩ := refreshed_sound.exists_underway refreshed_route
  obtain ⟨walked, strode, strolled⟩ := way'.walk_ok walkable optimizer (started.atInner position)
  have walked_sound := refreshed_sound.acts usable strolled.acts
  have walked_route := strolled.acts.route_settled refreshed_route
  obtain ⟨leg'', way'', -⟩ := walked_sound.exists_underway walked_route
  obtain ⟨last, rounding, rounded⟩ :=
    way''.turn_ok usable optimizer (started.atCorner position corner)
  exact ⟨⟨route, corner, started, opening, opened, corner_eq, way.refresh_legs, refresh_acts,
    walked, strode, strolled, last, rounding, rounded⟩⟩

namespace Passage

variable {position : Point} (p : Passage optimizer nav position)

def outcome : Outcome :=
  p.opening ++ (p.started.refresh optimizer).2 ++ p.strode ++ p.rounding ++
    { commands := [.proceed .inner] }

theorem tick_eq : nav.tick optimizer position = .ok (p.last, p.outcome) := by
  have followed := planned_of_route p.opened.route_eq
  have walk_eq := p.strolled.walk_eq
  have turn_eq := p.rounded.turn_eq
  unfold atInner at walk_eq
  unfold atCorner at turn_eq
  simp only [tick, p.opened.start_eq, followed, p.corner_eq, bind, Except.bind, walk_eq, turn_eq]
  rfl

theorem step_eq : nav.step optimizer (.tick position) = .ok (p.last, .ticked p.outcome) := by
  simp only [step, p.tick_eq, bind, Except.bind, pure, Except.pure]

def flying : Outcome :=
  (p.started.refresh optimizer).2 ++ p.strode ++ p.rounding ++ { commands := [.proceed .inner] }

theorem flying_acts : Acts optimizer p.started p.flying p.last :=
  ((p.refresh_acts.trans p.strolled.acts).trans p.rounded.acts).snoc .proceed

theorem outcome_eq : p.outcome = p.opening ++ p.flying := by
  unfold outcome flying
  simp only [Outcome.append_assoc]

theorem acts : Acts optimizer nav p.outcome p.last := by
  rw [p.outcome_eq]
  exact p.opened.acts.trans p.flying_acts

theorem route_last : p.last.route = some (p.route.settled p.outcome.calls) := by
  have silent : p.outcome.calls = p.flying.calls := by
    rw [p.outcome_eq, Outcome.calls_append, p.opened.calls, List.nil_append]
  rw [silent]
  exact p.flying_acts.route_settled p.opened.route_eq

theorem mapChanged_last : p.last.mapChanged = false :=
  p.rounded.acts.unchanged (p.strolled.acts.unchanged (mapChanged_refresh p.started))

theorem report_eq :
    p.outcome.report =
      { started := nav.route.isNone
        innerAdvanced := p.started.atInner position && (p.started.refresh optimizer).1.cursor.valid
        outerAdvanced := p.started.atCorner position p.corner
        replans := nav.mapChanged.toNat + (p.started.atCorner position p.corner).toNat } := by
  unfold outcome
  simp only [Outcome.report_append, p.opened.report, report_refresh, p.strolled.report,
    p.rounded.report, p.opened.mapChanged_eq]
  change TickReport.mk _ _ _ _ = TickReport.mk _ _ _ _
  simp

theorem calls_eq : p.outcome.calls = (p.started.refresh optimizer).2.calls ++ p.rounding.calls := by
  unfold outcome
  simp only [Outcome.calls_append, p.opened.calls, p.strolled.calls, List.nil_append,
    List.append_nil]

theorem legs_eq :
    p.outcome.calls.map Invocation.leg =
      (if nav.mapChanged then [nav.cursor.leg] else []) ++
        (if p.outcome.report.outerAdvanced then [p.last.cursor.leg] else []) := by
  rw [p.calls_eq, List.map_append, p.refresh_legs, p.rounded.legs, p.opened.mapChanged_eq,
    p.opened.cursor_eq, p.report_eq]

theorem length_refresh :
    (p.started.refresh optimizer).2.calls.length = nav.mapChanged.toNat := by
  rw [← p.opened.mapChanged_eq, ← List.length_map, p.refresh_legs]
  cases p.started.mapChanged <;> rfl

theorem length_rounding : p.rounding.calls.length = p.outcome.report.outerAdvanced.toNat := by
  rw [p.report_eq, ← List.length_map, p.rounded.legs]
  cases p.started.atCorner position p.corner <;> rfl

end Passage

end WaypointNav.Navigator
