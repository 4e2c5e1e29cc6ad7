import WaypointNav.Proofs.Navigator.Flight

/-! What the questions to the optimizer tell about the navigator: its route is the planned one with every
answer settled, and the latest question tells whether the active leg may be walked, which leg that is,
and how much of the map has been planned around. -/
namespace WaypointNav.Navigator

variable {σ : Type} {optimizer : Optimizer σ} {config : Config} {memory : σ}
  {nav next : Navigator σ} {log done : Outcome} {built : Route}

/-- Questions along a planned route, each about the points that its leg held by then and answered from
what the optimizer remembered by then. -/
inductive Consulted (optimizer : Optimizer σ) (memory : σ) (built : Route) : List Invocation → Prop
  | nil : Consulted optimizer memory built []
  | snoc {calls : List Invocation} {call : Invocation} {held : Leg}
      (earlier : Consulted optimizer memory built calls)
      (held_eq : (built.settled calls).leg call.leg = .ok held)
      (current_eq : call.query.current = held.points)
      (capacity_eq : call.query.capacity = held.capacity)
      (answer_eq : call.answer = (optimizer (optimizer.recall memory calls) call.query).1) :
      Consulted optimizer memory built (calls ++ [call])

theorem Consulted.last {earlier : List Invocation} {call : Invocation}
    (consulted : Consulted optimizer memory built (earlier ++ [call])) :
    ∃ held, (built.settled earlier).leg call.leg = .ok held ∧ call.query.current = held.points ∧
      call.answer = (optimizer (optimizer.recall memory earlier) call.query).1 := by
  generalize calls_eq : earlier ++ [call] = calls at consulted
  cases consulted with
  | nil => exact absurd calls_eq (by simp)
  | @snoc _ _ held _ held_eq current_eq capacity_eq answer_eq =>
    obtain ⟨rfl, last_eq⟩ := List.append_inj' calls_eq rfl
    obtain rfl : call = _ := List.singleton_inj.mp last_eq
    exact ⟨held, held_eq, current_eq, answer_eq⟩

theorem Consulted.sized {calls : List Invocation} {config : RouteConfig}
    (consulted : Consulted optimizer memory built calls) (sized : built.Sized config) :
    (built.settled calls).Sized config := by
  induction consulted with
  | nil => exact sized
  | snoc earlier held_eq current_eq capacity_eq answer_eq ih =>
    rw [Route.settled_append]
    exact Invocation.sized_settle ih (capacity_eq.trans (ih.capacity _ (Route.leg_mem held_eq)))

theorem Consulted.room_last {calls : List Invocation} {call : Invocation} {config : RouteConfig}
    (consulted : Consulted optimizer memory built calls) (sized : built.Sized config)
    (last_eq : calls.getLast? = some call) : call.query.capacity = config.innerSpace := by
  cases consulted with
  | nil => exact absurd last_eq nofun
  | snoc earlier held_eq current_eq capacity_eq answer_eq =>
    rw [List.getLast?_concat, Option.some.injEq] at last_eq
    rw [← last_eq, capacity_eq]
    exact (earlier.sized sized).capacity _ (Route.leg_mem held_eq)

structure Recorded (optimizer : Optimizer σ) (memory : σ) (built : Route) (nav : Navigator σ)
    (log : Outcome) : Prop where
  route_eq : nav.route = some (built.settled log.calls)
  memory_eq : nav.replanner.memory = optimizer.recall memory log.calls
  consulted : Consulted optimizer memory built log.calls

theorem recall_concat (optimizer : Optimizer σ) (memory : σ) (calls : List Invocation)
    (call : Invocation) :
    optimizer.recall memory (calls ++ [call]) =
      (optimizer (optimizer.recall memory calls) call.query).2 := by
  unfold Optimizer.recall
  rw [List.foldl_append]
  rfl

theorem Recorded.silent (record : Recorded optimizer memory built nav log)
    (calls_eq : done.calls = []) (route_eq : next.route = nav.route)
    (replanner_eq : next.replanner = nav.replanner) :
    Recorded optimizer memory built next (log ++ done) := by
  have same : (log ++ done).calls = log.calls := by
    rw [Outcome.calls_append, calls_eq, List.append_nil]
  refine ⟨?_, ?_, ?_⟩
  · rw [route_eq, same]
    exact record.route_eq
  · rw [replanner_eq, same]
    exact record.memory_eq
  · rw [same]
    exact record.consulted

theorem Recorded.replanned (record : Recorded optimizer memory built nav log) {route : Route}
    {leg : Leg} (route_eq : nav.route = some route) (leg_eq : route.leg nav.cursor.leg = .ok leg)
    (calls_eq : done.calls = [nav.ask optimizer leg]) :
    Recorded optimizer memory built (nav.replanned optimizer route leg) (log ++ done) := by
  -- The leg asked about is the one in the route of all earlier answers.
  obtain rfl : route = built.settled log.calls :=
    Option.some.inj (route_eq.symm.trans record.route_eq)
  refine ⟨?_, ?_, ?_⟩
  · rw [Outcome.calls_append, calls_eq, Route.settled_append]
    rfl
  · rw [Outcome.calls_append, calls_eq, recall_concat, ← record.memory_eq]
    exact Replanner.memory_note _ _ _
  · rw [Outcome.calls_append, calls_eq]
    refine record.consulted.snoc leg_eq rfl rfl ?_
    rw [← record.memory_eq]
    rfl

theorem Recorded.act (record : Recorded optimizer memory built nav log)
    (act : Act optimizer nav done next) : Recorded optimizer memory built next (log ++ done) := by
  cases act with
  | plan fresh => exact absurd (fresh.symm.trans record.route_eq) nofun
  | refresh changed route_eq leg_eq =>
    have noticed : Recorded optimizer memory built { nav with mapChanged := false } log :=
      ⟨record.route_eq, record.memory_eq, record.consulted⟩
    exact noticed.replanned route_eq leg_eq rfl
  | walk => exact record.silent rfl rfl rfl
  | turn route_eq target_eq leg_eq =>
    have ahead : Recorded optimizer memory built nav.turned log :=
      ⟨record.route_eq, record.memory_eq, record.consulted⟩
    exact ahead.replanned route_eq leg_eq rfl
  | proceed => exact record.silent rfl rfl rfl

theorem Recorded.acts (record : Recorded optimizer memory built nav log)
    (acts : Acts optimizer nav done next) : Recorded optimizer memory built next (log ++ done) := by
  induction acts with
  | none =>
    rw [Outcome.append_empty]
    exact record
  | snoc acts act ih =>
    rw [← Outcome.append_assoc]
    exact ih.act act

def firstTick (events : List Event) : Option Point :=
  events.findSome? fun
    | .tick position => some position
    | .ingest .. => none

theorem firstTick_eq_none_iff (events : List Event) :
    firstTick events = none ↔ ∀ position, .tick position ∉ events := by
  unfold firstTick
  rw [List.findSome?_eq_none_iff]
  constructor
  · intro h position mem
    exact absurd (h _ mem) nofun
  · intro h event mem
    cases event with
    | tick position => exact absurd mem (h position)
    | ingest => rfl

/-- A flight before its first tick, or recorded from there on. -/
def Told (optimizer : Optimizer σ) (config : Config) (memory : σ) (events : List Event)
    (nav : Navigator σ) (effects : List Effect) : Prop :=
  match firstTick events with
  | none => AtRest config memory nav ∧ (Effect.total effects).calls = []
  | some start => ∃ built, config.route.plan start = .ok built ∧
    Recorded optimizer memory built nav (Effect.total effects)

theorem firstTick_concat_tick (events : List Event) (position : Point) :
    firstTick (events ++ [.tick position]) = (firstTick events).or (some position) := by
  unfold firstTick
  rw [List.findSome?_append]
  rfl

theorem firstTick_concat_ingest (events : List Event) (batch : List Detection) (pose : Pose) :
    firstTick (events ++ [.ingest batch pose]) = firstTick events := by
  unfold firstTick
  rw [List.findSome?_append]
  exact Option.or_none

theorem recorded_of_atRest {effects : List Effect} {position : Point}
    (rest : AtRest config memory nav) (silent : (Effect.total effects).calls = [])
    (p : Passage optimizer nav position) :
    ∃ built, config.route.plan position = .ok built ∧
      Recorded optimizer memory built p.last (Effect.total effects ++ p.outcome) := by
  rcases p.opened.planned with route_eq | ⟨-, planned⟩
  · exact absurd (route_eq.symm.trans rest.route_eq) nofun
  have calls_eq : (Effect.total effects ++ p.opening).calls = [] := by
    rw [Outcome.calls_append, silent, p.opened.calls, List.append_nil]
  have started : Recorded optimizer memory p.route p.started (Effect.total effects ++ p.opening) := by
    refine ⟨?_, ?_, ?_⟩ <;> rw [calls_eq]
    · exact p.opened.route_eq
    · rw [p.opened.replanner_eq, rest.replanner_eq]
      rfl
    · exact .nil
  rw [rest.config_eq] at planned
  refine ⟨p.route, planned, ?_⟩
  rw [p.outcome_eq, ← Outcome.append_assoc]
  exact started.acts p.flying_acts

theorem kept_told (optimizer : Optimizer σ) (config : Config) (memory : σ) :
    Kept optimizer config memory (Told optimizer config memory) where
  tick := by
    intro events nav effects position reached before p
    unfold Told at before ⊢
    rw [firstTick_concat_tick, Effect.total_ticked]
    cases first : firstTick events with
    | none =>
      rw [first] at before
      exact recorded_of_atRest before.1 before.2 p
    | some start =>
      rw [first] at before
      obtain ⟨built, planned, record⟩ := before
      exact ⟨built, planned, record.acts p.acts⟩
  ingest := by
    intro events nav effects before batch pose
    unfold Told at before ⊢
    rw [firstTick_concat_ingest, Effect.total_ingested]
    cases first : firstTick events with
    | none =>
      rw [first] at before
      obtain ⟨rest, silent⟩ := before
      exact ⟨⟨rest.config_eq, rest.route_eq, rest.cursor_eq, rest.replanner_eq⟩, silent⟩
    | some start =>
      rw [first] at before
      obtain ⟨built, planned, record⟩ := before
      exact ⟨built, planned, ⟨record.route_eq, record.memory_eq, record.consulted⟩⟩

theorem flight_told (optimizer : Optimizer σ) (memory : σ) (usable : config.Usable)
    (events : List Event) :
    ∃ nav effects, flight optimizer config memory events = .ok (nav, effects) ∧
      Reached optimizer config memory nav (Effect.total effects) ∧
      Told optimizer config memory events nav effects :=
  flight_ok usable (kept_told optimizer config memory) ⟨atRest_fresh, rfl⟩ events

theorem Told.atRest {events : List Event} {effects : List Effect}
    (told : Told optimizer config memory events nav effects) (none : firstTick events = none) :
    AtRest config memory nav ∧ (Effect.total effects).calls = [] := by
  unfold Told at told
  rwa [none] at told

theorem Told.recorded {events : List Event} {effects : List Effect} {start : Point}
    (told : Told optimizer config memory events nav effects) (first : firstTick events = some start) :
    ∃ built, config.route.plan start = .ok built ∧
      Recorded optimizer memory built nav (Effect.total effects) := by
  unfold Told at told
  rwa [first] at told

theorem Told.route_isNone_iff {events : List Event} {effects : List Effect}
    (told : Told optimizer config memory events nav effects) :
    nav.route.isNone = true ↔ ∀ position, .tick position ∉ events := by
  rw [← firstTick_eq_none_iff]
  cases first : firstTick events with
  | none => simp [(told.atRest first).1.route_eq]
  | some start =>
    obtain ⟨built, -, record⟩ := told.recorded first
    simp [record.route_eq]

theorem Told.of_tick {events : List Event} {position : Point} {effects : List Effect}
    (told : Told optimizer config memory (events ++ [.tick position]) nav effects) :
    ∃ start built, firstTick (events ++ [.tick position]) = some start ∧
      config.route.plan start = .ok built ∧
      Recorded optimizer memory built nav (Effect.total effects) := by
  unfold Told at told
  rw [firstTick_concat_tick] at told ⊢
  cases first : firstTick events with
  | none =>
    rw [first] at told
    exact ⟨position, told.imp fun built recorded => ⟨rfl, recorded⟩⟩
  | some start =>
    rw [first] at told
    exact ⟨start, told.imp fun built recorded => ⟨rfl, recorded⟩⟩

end WaypointNav.Navigator
