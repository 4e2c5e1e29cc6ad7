import WaypointNav.Proofs.Navigator.Guidance

/-! The course of a flight: all of a navigator that no answer of an optimizer reaches. It goes from tick to
tick by itself, so flights with different optimizers have it in common. -/
namespace WaypointNav

structure Course where
  config : Config
  outline : Option (List Point)
  outer : Nat
  leg : Nat
  map : ObstacleMap
  mapChanged : Bool

/-- What a tick does along the course: its report, the moves of the outer guide, and for each question to
the optimizer the leg and the obstacles. -/
structure Progress where
  started : Bool := false
  outerAdvanced : Bool := false
  replans : Nat := 0
  corners : List Point := []
  questions : List (Nat × List Point) := []
deriving DecidableEq

def Outcome.progress (outcome : Outcome) : Progress where
  started := outcome.report.started
  outerAdvanced := outcome.report.outerAdvanced
  replans := outcome.report.replans
  corners := Command.targets .outer outcome.commands
  questions := outcome.calls.map fun call => (call.leg, call.query.obstacles)

def Effect.progress (effect : Effect) : Progress :=
  effect.outcome.progress

namespace Course

def fresh (config : Config) : Course where
  config
  outline := none
  outer := 0
  leg := 0
  map := .empty config.obstacles.capacity config.obstacles.duplicateRadius
  mapChanged := false

def start (course : Course) (position : Point) : Course :=
  { course with outline := some (course.outline.getD (course.config.route.outline position)) }

def corner? (course : Course) : Option Point :=
  course.outline.bind (·[course.outer]?)

def arrived (course : Course) (position : Point) : Bool :=
  course.corner?.any fun corner => position.distance corner < course.config.navigation.arrivalThreshold

def turned (course : Course) : Course :=
  let cursor := Cursor.advanceOuter { outer := course.outer } course.config.route.outerLength
  { course with outer := cursor.outer, leg := cursor.leg }

def noted (course : Course) : Course :=
  { course with mapChanged := false }

def tick (course : Course) (position : Point) : Course × Progress :=
  let started := course.start position
  let arrived := started.arrived position
  let last := if arrived then started.noted.turned else started.noted
  (last, {
    started := course.outline.isNone
    outerAdvanced := arrived
    replans := course.mapChanged.toNat + arrived.toNat
    corners :=
      (if course.outline.isNone then started.corner?.toList else []) ++
        if arrived then last.corner?.toList else []
    questions :=
      (if course.mapChanged then [(course.leg, course.map.obstacles)] else []) ++
        if arrived then [(last.leg, course.map.obstacles)] else [] })

def ingest (course : Course) (batch : List Detection) (pose : Pose) : Course :=
  let (tally, map) := course.map.ingest pose course.config.obstacles.minRange batch
  { course with map, mapChanged := course.mapChanged || decide (0 < tally.added) }

def step (course : Course) : Event → Course × Progress
  | .tick position => course.tick position
  | .ingest batch pose => (course.ingest batch pose, {})

def flight (config : Config) (events : List Event) : Course × List Progress :=
  events.foldl (fun (course, made) event =>
    let (next, progress) := course.step event
    (next, made ++ [progress])) (fresh config, [])

theorem flight_concat (config : Config) (events : List Event) (event : Event) :
    flight config (events ++ [event]) =
      (((flight config events).1.step event).1,
        (flight config events).2 ++ [((flight config events).1.step event).2]) := by
  unfold flight
  rw [List.foldl_append]
  rfl

end Course

namespace Navigator

variable {σ : Type} {optimizer : Optimizer σ} {config : Config} {memory : σ} {nav : Navigator σ}

def course (nav : Navigator σ) : Course where
  config := nav.config
  outline := nav.outline
  outer := nav.cursor.outer
  leg := nav.cursor.leg
  map := nav.map
  mapChanged := nav.mapChanged

theorem course_replanned {route : Route} {leg : Leg} (route_eq : nav.route = some route) :
    (nav.replanned optimizer route leg).course = nav.course := by
  unfold course
  rw [outline_replanned route_eq]
  change Course.mk _ _ (nav.cursor.heed _).outer (nav.cursor.heed _).leg _ _ = _
  rw [Cursor.outer_heed, Cursor.leg_heed]
  rfl

theorem course_turned (nav : Navigator σ) : nav.turned.course = nav.course.turned := by
  obtain ⟨outer_eq, leg_eq⟩ := Cursor.advanceOuter_congr nav.cursor { outer := nav.cursor.outer } rfl
    nav.config.route.outerLength
  unfold course Course.turned turned
  rw [outer_eq, leg_eq]
  rfl

theorem Underway.course_refresh {route : Route} {leg : Leg} (way : Underway config nav route leg) :
    (nav.refresh optimizer).1.course = nav.course.noted := by
  rw [way.refresh_eq]
  split
  · exact course_replanned way.route_eq
  · next unchanged =>
    unfold course Course.noted
    rw [Bool.not_eq_true] at unchanged
    rw [unchanged]

theorem Strolled.course_eq {route : Route} {leg : Leg} {arrived : Bool} {walked : Navigator σ}
    {strode : Outcome} (strolled : Strolled optimizer nav arrived walked strode)
    (way : Underway config nav route leg) (walkable : nav.cursor.valid = true → 0 < leg.size) :
    walked.course = nav.course := by
  cases going : strode.report.innerAdvanced with
  | false => rw [(strolled.eq_of_away going).1]
  | true =>
    obtain ⟨target, -, walked_eq, -⟩ := strolled.exists_target going way walkable
    rw [walked_eq]
    unfold course
    rw [Cursor.outer_advanceInner, Cursor.leg_advanceInner]
    rfl

theorem Rounded.course_eq {route : Route} {leg : Leg} {arrived : Bool} {last : Navigator σ}
    {rounding : Outcome} (rounded : Rounded optimizer nav arrived last rounding)
    (way : Underway config nav route leg) (usable : config.Usable) :
    last.course = if rounding.report.outerAdvanced then nav.course.turned else nav.course := by
  cases turning : rounding.report.outerAdvanced with
  | false =>
    rw [(rounded.eq_of_away turning).1]
    rfl
  | true =>
    obtain ⟨target, next, -, -, last_eq, -⟩ := rounded.exists_target turning way usable
    have ahead : nav.turned.route = some route := way.route_eq
    rw [last_eq, course_replanned ahead, course_turned]
    rfl

namespace Passage

variable {position : Point} (p : Passage optimizer nav position)

theorem course_started (sound : Sound config memory nav) (usable : config.Usable) :
    p.started.course = nav.course.start position := by
  cases route_eq : nav.route with
  | some route =>
    obtain ⟨started_eq, -⟩ := p.opened.eq_of_followed route_eq
    rw [started_eq]
    unfold course Course.start outline
    rw [route_eq]
    rfl
  | none =>
    obtain ⟨corner, leg, planned, -, -, started_eq, -⟩ := p.opened.exists_corner route_eq
    rw [sound.config_eq] at planned
    rw [started_eq]
    unfold course Course.start outline
    rw [route_eq, sound.config_eq, ← RouteConfig.outer_of_plan usable.inner_length_le planned]
    rfl

theorem corner?_started (sound : Sound config memory nav) (usable : config.Usable) :
    (nav.course.start position).corner? = some p.corner := by
  rw [← p.course_started sound usable]
  unfold course Course.corner? outline
  rw [p.opened.route_eq]
  exact Route.waypoint_eq_ok_iff.mp p.corner_eq

theorem arrived_eq (sound : Sound config memory nav) (usable : config.Usable) :
    (nav.course.start position).arrived position = p.outcome.report.outerAdvanced := by
  unfold Course.arrived
  rw [p.corner?_started sound usable, p.report_eq, ← p.course_started sound usable]
  rfl

theorem course_last (sound : Sound config memory nav) (usable : config.Usable) :
    p.last.course = (nav.course.tick position).1 := by
  have started := sound.acts usable p.opened.acts
  obtain ⟨leg, way, -⟩ := started.exists_underway p.opened.route_eq
  obtain ⟨refreshed_route, refreshed_leg, refreshed_way, walkable, -⟩ :=
    p.exists_refreshed sound usable
  obtain ⟨walked_route, walked_leg, walked_way, -⟩ := p.exists_walked sound usable
  unfold Course.tick
  dsimp only
  rw [p.rounded.course_eq walked_way usable, p.strolled.course_eq refreshed_way walkable,
    way.course_refresh, p.course_started sound usable, p.arrived_eq sound usable,
    p.outerAdvanced_eq]

theorem corner?_last : p.last.course.corner? = p.route.outer[p.last.cursor.outer]? := by
  unfold course Course.corner? outline
  rw [p.route_last, Option.map_some, Route.outer_settled]
  rfl

theorem corners_opening (sound : Sound config memory nav) (usable : config.Usable) :
    Command.targets .outer p.opening.commands =
      if nav.route.isNone then (nav.course.start position).corner?.toList else [] := by
  obtain ⟨corner, first, opening_eq, departed⟩ := p.commands_opening sound usable
  rw [p.started_eq] at opening_eq departed
  rw [opening_eq]
  cases fresh : nav.route with
  | some route => rfl
  | none =>
    rw [fresh] at departed
    have corner_eq := Route.waypoint_eq_ok_iff.mp p.corner_eq
    rw [p.opened.cursor_eq, (sound.atRest_of_route fresh).cursor_eq, (departed rfl).1] at corner_eq
    rw [p.corner?_started sound usable, ← corner_eq]
    rfl

theorem corners_strode (sound : Sound config memory nav) (usable : config.Usable) :
    Command.targets .outer p.strode.commands = [] := by
  obtain ⟨target, strode_eq, -⟩ := p.commands_strode sound usable
  rw [strode_eq]
  split <;> rfl

theorem corners_rounding (sound : Sound config memory nav) (usable : config.Usable) :
    Command.targets .outer p.rounding.commands =
      if p.outcome.report.outerAdvanced then p.last.course.corner?.toList else [] := by
  obtain ⟨corner, rounding_eq, turned⟩ := p.commands_rounding sound usable
  rw [rounding_eq, p.corner?_last]
  split
  · next turning => rw [turned turning]; rfl
  · rfl

theorem questions_eq :
    (p.outcome.calls.map fun call => (call.leg, call.query.obstacles)) =
      (if nav.mapChanged then [(nav.cursor.leg, nav.map.obstacles)] else []) ++
        if p.outcome.report.outerAdvanced then [(p.last.cursor.leg, nav.map.obstacles)] else [] := by
  have whole : (p.outcome.calls.map fun call => (call.leg, call.query.obstacles)) =
      (p.outcome.calls.map Invocation.leg).map fun leg => (leg, nav.map.obstacles) := by
    rw [List.map_map]
    apply List.map_congr_left
    intro call mem
    rw [p.acts.obstacles_eq call mem]
    rfl
  rw [whole, p.legs_eq, List.map_append]
  congr 1 <;> split <;> rfl

theorem progress_eq (sound : Sound config memory nav) (usable : config.Usable) :
    p.outcome.progress = (nav.course.tick position).2 := by
  have last_eq := p.course_last sound usable
  unfold Course.tick at last_eq ⊢
  dsimp only at last_eq ⊢
  rw [← last_eq, p.arrived_eq sound usable]
  unfold Outcome.progress
  congr 1
  · rw [p.started_eq]
    exact Option.isNone_map.symm
  · rw [p.report_eq]
    rfl
  · rw [p.commands_eq]
    simp only [Command.targets_append, p.corners_opening sound usable,
      p.corners_strode sound usable, p.corners_rounding sound usable]
    have silent : Command.targets .outer [.proceed .inner] = [] := rfl
    have fresh : nav.course.outline.isNone = nav.route.isNone := Option.isNone_map
    rw [List.append_nil, silent, List.append_nil, fresh]
  · exact p.questions_eq

end Passage

theorem kept_course (optimizer : Optimizer σ) (usable : config.Usable) (memory : σ) :
    Kept optimizer config memory fun events nav effects =>
      (nav.course, effects.map Effect.progress) = Course.flight config events where
  tick := by
    intro events nav effects position reached before p
    have sound := reached.sound usable
    rw [Course.flight_concat, ← before, List.map_append, p.course_last sound usable]
    exact congrArg (fun progress => (_, _ ++ [progress])) (p.progress_eq sound usable)
  ingest := by
    intro events nav effects before batch pose
    rw [Course.flight_concat, ← before, List.map_append]
    rfl

theorem flight_course (optimizer : Optimizer σ) (memory : σ) (usable : config.Usable)
    (events : List Event) :
    ∃ nav effects, flight optimizer config memory events = .ok (nav, effects) ∧
      (nav.course, effects.map Effect.progress) = Course.flight config events := by
  obtain ⟨nav, effects, flight_eq, -, course_eq⟩ :=
    flight_ok usable (kept_course optimizer usable memory) rfl events
  exact ⟨nav, effects, flight_eq, course_eq⟩

/-- Two flights with the same events, whatever their optimizers answer, differ only in what the legs hold and
in the walk along them. They turn at the same ticks around the same polygon, know the same obstacles,
and at the same ticks ask about the same legs and obstacles. -/
theorem progress_without_answers {τ : Type} (first : Optimizer σ) (second : Optimizer τ)
    (config : Config) (memory : σ) (memory' : τ) (accepted : config.validate = .ok ())
    (events : List Event) :
    ∃ nav effects nav' effects',
      flight first config memory events = .ok (nav, effects) ∧
      flight second config memory' events = .ok (nav', effects') ∧
      nav.cursor.outer = nav'.cursor.outer ∧ nav.cursor.leg = nav'.cursor.leg ∧
      nav.outline = nav'.outline ∧ nav.map = nav'.map ∧
      effects.map Effect.progress = effects'.map Effect.progress := by
  have usable := (Config.validate_eq_ok_iff config).mp accepted
  obtain ⟨nav, effects, flight_eq, course_eq⟩ := flight_course first memory usable events
  obtain ⟨nav', effects', flight_eq', course_eq'⟩ := flight_course second memory' usable events
  obtain ⟨same, progress_eq⟩ := Prod.mk.inj (course_eq.trans course_eq'.symm)
  exact ⟨nav, effects, nav', effects', flight_eq, flight_eq', congrArg Course.outer same,
    congrArg Course.leg same, congrArg Course.outline same, congrArg Course.map same, progress_eq⟩

/-- An optimizer that refuses everything turns with one that keeps every path. -/
theorem turned_refused :
    ({} : Config).validate = .ok () ∧ ∃ nav effects,
      flight Optimizer.refuse {} () [.tick .origin] = .ok (nav, effects) ∧
      nav.cursor.outer = 1 ∧ nav.cursor.valid = false ∧
      (effects.map fun effect => effect.progress.questions.length) = [1] := by
  have seen : (flight Optimizer.keep {} 0 [.tick .origin]).toOption.map (fun done =>
      (done.1.cursor.outer, (done.2.map Effect.progress).map (·.questions.length))) =
        some (1, [1]) := by
    decide +kernel
  have refused : (flight Optimizer.refuse {} () [.tick .origin]).toOption.map
      (fun done => done.1.cursor.valid) = some false := by
    decide +kernel
  obtain ⟨kept, told, nav, effects, kept_eq, flight_eq, outer_eq, -, -, -, progress_eq⟩ :=
    progress_without_answers Optimizer.keep Optimizer.refuse {} 0 () rfl [.tick .origin]
  rw [kept_eq] at seen
  rw [flight_eq] at refused
  obtain ⟨outer, asked⟩ := Prod.mk.inj (Option.some.inj seen)
  refine ⟨rfl, nav, effects, flight_eq, outer_eq.symm.trans outer, Option.some.inj refused, ?_⟩
  rw [progress_eq, List.map_map] at asked
  exact asked

end Navigator

end WaypointNav
