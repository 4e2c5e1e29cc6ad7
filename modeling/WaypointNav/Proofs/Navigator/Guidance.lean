import WaypointNav.Proofs.Guidance
import WaypointNav.Proofs.Navigator.History
import WaypointNav.Proofs.Navigator.Parts

/-! Guidance is told all it needs and nothing else: the outer guide goes around the polygon vertex by vertex,
the inner guide along the active leg, and each stands where the navigator takes it to be. -/
namespace WaypointNav.Navigator

variable {σ : Type} {optimizer : Optimizer σ} {config : Config} {memory : σ}
  {nav next : Navigator σ} {log done : Outcome}

structure Guided (nav : Navigator σ) (commands : List Command) : Prop where
  silent : nav.route = none → ∀ guide, Command.targets guide commands = []
  lapped : ∀ outline, nav.outline = some outline →
    Lapped outline nav.cursor.outer (Command.targets .outer commands)
  inner : ∀ outline, nav.outline = some outline →
    (Command.targets .inner commands).getLast? = some nav.innerTarget

theorem Guided.quiet (guided : Guided nav log.commands)
    (quiet : ∀ guide, Command.targets guide done.commands = [])
    (outline_eq : next.outline = nav.outline) (outer_eq : next.cursor.outer = nav.cursor.outer)
    (target_eq : next.innerTarget = nav.innerTarget) : Guided next (log ++ done).commands := by
  have same guide : Command.targets guide (log ++ done).commands =
      Command.targets guide log.commands := by
    rw [Outcome.commands_append, Command.targets_append, quiet, List.append_nil]
  refine ⟨?_, ?_, ?_⟩
  · intro rest guide
    rw [same]
    refine guided.silent ?_ guide
    unfold outline at outline_eq
    rwa [rest, eq_comm, Option.map_none, Option.map_eq_none_iff] at outline_eq
  · rw [same, outer_eq, outline_eq]
    exact guided.lapped
  · rw [same, target_eq, outline_eq]
    exact guided.inner

theorem Guided.plan {corner first : Point} {route : Route} (guided : Guided nav log.commands)
    (rest : AtRest config memory nav) (corner_eq : route.waypoint 0 = .ok corner) :
    Guided { nav with route := some route, innerTarget := first }
      (log ++ departure nav.config.route route corner first).commands := by
  have silent := guided.silent rest.route_eq
  refine ⟨nofun, ?_, ?_⟩
  · rintro _ ⟨⟩
    rw [Outcome.commands_append, Command.targets_append, silent, rest.cursor_eq]
    exact .first (Route.waypoint_eq_ok_iff.mp corner_eq)
  · intro _ _
    rw [Outcome.commands_append, Command.targets_append, silent]
    rfl

theorem Guided.turn {target : Point} {route : Route} {leg : Leg} (guided : Guided nav log.commands)
    (route_eq : nav.route = some route) (length_eq : route.outer.length = config.route.outerLength)
    (config_eq : nav.config = config) (outer_lt : nav.cursor.outer < config.route.outerLength)
    (target_eq : route.waypoint nav.turned.cursor.outer = .ok target) :
    Guided (nav.turned.replanned optimizer route leg)
      (log ++ (turning nav.turned.cursor.outer target ++
        replanning (nav.turned.ask optimizer leg))).commands := by
  have outline_eq : nav.outline = some route.outer := congrArg (Option.map Route.outer) route_eq
  -- The cursor compares with the count to go around, the laps are told by remainders.
  have turned_eq : nav.turned.cursor.outer = (nav.cursor.outer + 1) % route.outer.length := by
    unfold turned
    rw [config_eq, length_eq]
    exact Cursor.outer_advanceOuter_eq_mod outer_lt
  have lapped := guided.lapped _ outline_eq
  have inner := guided.inner _ outline_eq
  have ahead : nav.turned.route = some route := route_eq
  refine ⟨nofun, ?_, ?_⟩
  · rw [outline_replanned ahead]
    intro outline found
    obtain rfl : route.outer = outline := Option.some.inj (outline_eq.symm.trans found)
    change Lapped _ (nav.turned.cursor.heed _).outer _
    rw [Cursor.outer_heed, turned_eq, Outcome.commands_append, Command.targets_append]
    refine lapped.next ?_
    rw [← turned_eq]
    exact Route.waypoint_eq_ok_iff.mp target_eq
  · intro _ _
    rw [Outcome.commands_append, Command.targets_append]
    change (_ ++ []).getLast? = _
    rwa [List.append_nil]

theorem Guided.act (guided : Guided nav log.commands) (sound : Sound config memory nav)
    (act : Act optimizer nav done next) : Guided next (log ++ done).commands := by
  cases act with
  | plan fresh planned corner_eq leg_eq =>
    cases sound with
    | atRest rest => exact guided.plan rest corner_eq
    | underway route leg way => exact absurd (fresh.symm.trans way.route_eq) nofun
  | refresh changed route_eq leg_eq =>
    exact guided.quiet (fun _ => rfl) (outline_replanned route_eq) (Cursor.outer_heed _ _) rfl
  | walk route_eq leg_eq valid target_eq =>
    refine ⟨fun rest => absurd (route_eq.symm.trans rest) nofun, ?_, ?_⟩
    · rw [Outcome.commands_append, Command.targets_append]
      change ∀ outline, nav.outline = some outline → Lapped _ (nav.cursor.advanceInner _).outer (_ ++ [])
      rw [Cursor.outer_advanceInner, List.append_nil]
      exact guided.lapped
    · intro _ _
      rw [Outcome.commands_append, Command.targets_append]
      exact List.getLast?_concat
  | turn route_eq target_eq leg_eq =>
    obtain ⟨held, way, -⟩ := sound.exists_underway route_eq
    exact guided.turn route_eq way.sized.outer_length way.config_eq way.outer_lt target_eq
  | proceed => exact guided.quiet (fun _ => rfl) rfl rfl rfl

theorem Reached.guided (reached : Reached optimizer config memory nav log) (usable : config.Usable) :
    Guided nav log.commands := by
  induction reached with
  | fresh => exact ⟨fun _ _ => rfl, nofun, nofun⟩
  | act reached act ih => exact ih.act (reached.sound usable) act
  | ingest reached batch pose ih => exact ⟨ih.silent, ih.lapped, ih.inner⟩

namespace Passage

variable {position : Point} (p : Passage optimizer nav position)

theorem commands_eq :
    p.outcome.commands =
      p.opening.commands ++ p.strode.commands ++ p.rounding.commands ++ [.proceed .inner] := by
  unfold outcome
  simp only [Outcome.commands_append, commands_refresh, List.append_nil]

theorem commands_opening (sound : Sound config memory nav) (usable : config.Usable) :
    ∃ corner first, p.opening.commands =
        (if p.outcome.report.started then [.move .outer corner, .move .inner first] else []) ∧
      (p.outcome.report.started = true → p.route.outer[0]? = some corner ∧
        ∃ leg, p.route.legs[0]? = some leg ∧ leg.get? 0 = some first) := by
  rw [p.started_eq]
  cases route_eq : nav.route with
  | some route =>
    obtain ⟨-, silent⟩ := p.opened.eq_of_followed route_eq
    rw [silent]
    exact ⟨.origin, .origin, rfl, nofun⟩
  | none =>
    obtain ⟨corner, leg, planned, corner_eq, leg_eq, -, departed⟩ := p.opened.exists_corner route_eq
    rw [sound.config_eq] at planned
    have size_eq := usable.size_of_plan planned leg_eq
    have padded := (usable.sized_of_plan planned).padded leg (Route.leg_mem leg_eq)
    obtain ⟨first, first_eq⟩ := padded.get?_of_lt (size_eq ▸ usable.inner_length_pos)
    rw [departed, first_eq]
    exact ⟨corner, first, rfl, fun _ =>
      ⟨Route.waypoint_eq_ok_iff.mp corner_eq, leg, Route.leg_eq_ok_iff.mp leg_eq, first_eq⟩⟩

theorem commands_strode (sound : Sound config memory nav) (usable : config.Usable) :
    ∃ target, p.strode.commands =
        (if p.outcome.report.innerAdvanced then [.move .inner target] else []) ∧
      (p.outcome.report.innerAdvanced = true → ∃ route leg,
        (p.started.refresh optimizer).1.route = some route ∧
        route.leg (p.started.refresh optimizer).1.cursor.leg = .ok leg ∧
        leg.get? (p.started.refresh optimizer).1.cursor.inner = some target) := by
  rw [p.innerAdvanced_eq]
  cases going : p.strode.report.innerAdvanced with
  | false =>
    obtain ⟨-, silent⟩ := p.strolled.eq_of_away going
    rw [silent]
    exact ⟨.origin, rfl, nofun⟩
  | true =>
    obtain ⟨route, leg, way, walkable, -⟩ := p.exists_refreshed sound usable
    obtain ⟨target, target_eq, -, strode_eq⟩ := p.strolled.exists_target going way walkable
    rw [strode_eq]
    exact ⟨target, rfl, fun _ => ⟨route, leg, way.route_eq, way.leg_eq, target_eq⟩⟩

theorem commands_rounding (sound : Sound config memory nav) (usable : config.Usable) :
    ∃ corner, p.rounding.commands =
        (if p.outcome.report.outerAdvanced then [.move .outer corner] else []) ∧
      (p.outcome.report.outerAdvanced = true → p.route.outer[p.last.cursor.outer]? = some corner) := by
  rw [p.outerAdvanced_eq]
  cases turning : p.rounding.report.outerAdvanced with
  | false =>
    obtain ⟨-, silent⟩ := p.rounded.eq_of_away turning
    rw [silent]
    exact ⟨.origin, rfl, nofun⟩
  | true =>
    obtain ⟨route, leg, way, outer_eq⟩ := p.exists_walked sound usable
    obtain ⟨corner, next, corner_eq, -, last_eq, rounding_eq⟩ :=
      p.rounded.exists_target turning way usable
    rw [rounding_eq, last_eq]
    refine ⟨corner, rfl, fun _ => ?_⟩
    change p.route.outer[(p.walked.turned.cursor.heed _).outer]? = _
    rw [Cursor.outer_heed, ← outer_eq]
    exact Route.waypoint_eq_ok_iff.mp corner_eq

end Passage

/-- A tick commands the first waypoints if it starts the flight, then one move for each guide that advances,
and in the end to proceed. Over a flight the outer guide visits the vertices of the polygon in order,
around and around. After every tick it stands at the vertex that the cursor aims at and the inner guide
at the navigator's target, and so do the waypoints of any vehicle that obeys. -/
theorem guides_move_in_order (optimizer : Optimizer σ) (config : Config) (memory : σ)
    (accepted : config.validate = .ok ()) (events : List Event) :
    ∃ nav effects, flight optimizer config memory events = .ok (nav, effects) ∧
      (∀ position, ∃ started opening last outcome route corner first target next,
        nav.start position = .ok (started, opening) ∧
        nav.tick optimizer position = .ok (last, outcome) ∧
        started.route = some route ∧
        outcome.commands =
          (if outcome.report.started then [.move .outer corner, .move .inner first] else []) ++
          (if outcome.report.innerAdvanced then [.move .inner target] else []) ++
          (if outcome.report.outerAdvanced then [.move .outer next] else []) ++
          [.proceed .inner] ∧
        (outcome.report.started = true → route.outer[0]? = some corner ∧
          ∃ leg, route.legs[0]? = some leg ∧ leg.get? 0 = some first) ∧
        (outcome.report.innerAdvanced = true → ∃ flown leg,
          (started.refresh optimizer).1.route = some flown ∧
          flown.leg (started.refresh optimizer).1.cursor.leg = .ok leg ∧
          leg.get? (started.refresh optimizer).1.cursor.inner = some target) ∧
        (outcome.report.outerAdvanced = true → route.outer[last.cursor.outer]? = some next)) ∧
      ∀ position, .tick position ∈ events → ∃ route corner, nav.route = some route ∧
        (∀ k, k < (Command.targets .outer (Effect.total effects).commands).length →
          (Command.targets .outer (Effect.total effects).commands)[k]? =
            route.outer[k % config.route.outerLength]?) ∧
        route.outer[nav.cursor.outer]? = some corner ∧
        (Command.targets .outer (Effect.total effects).commands).getLast? = some corner ∧
        (Command.targets .inner (Effect.total effects).commands).getLast? = some nav.innerTarget ∧
        ∀ vehicle : Vehicle,
          (vehicle.obeyAll (Effect.total effects).commands).waypoint .outer = some corner ∧
          (vehicle.obeyAll (Effect.total effects).commands).waypoint .inner =
            some nav.innerTarget := by
  have usable := (Config.validate_eq_ok_iff config).mp accepted
  obtain ⟨nav, effects, flight_eq, reached, told⟩ :=
    flight_told optimizer memory usable events
  have sound := reached.sound usable
  refine ⟨nav, effects, flight_eq, ?_, ?_⟩
  · intro position
    obtain ⟨p⟩ := sound.passage usable optimizer position
    obtain ⟨corner, first, opening_eq, departed⟩ := p.commands_opening sound usable
    obtain ⟨target, strode_eq, strode⟩ := p.commands_strode sound usable
    obtain ⟨next, rounding_eq, rounded⟩ := p.commands_rounding sound usable
    refine ⟨p.started, p.opening, p.last, p.outcome, p.route, corner, first, target, next,
      p.opened.start_eq, p.tick_eq, p.opened.route_eq, ?_, departed, strode, rounded⟩
    rw [p.commands_eq, opening_eq, strode_eq, rounding_eq]
  · intro position ticked
    cases route_eq : nav.route with
    | none => exact absurd ticked (told.route_isNone_iff.mp (by rw [route_eq]; rfl) position)
    | some route =>
      have guided := reached.guided usable
      have outline_eq : nav.outline = some route.outer := congrArg (Option.map Route.outer) route_eq
      have lapped := guided.lapped _ outline_eq
      have inner := guided.inner _ outline_eq
      obtain ⟨leg, way, -⟩ := sound.exists_underway route_eq
      obtain ⟨corner, corner_eq⟩ := way.sized.waypoint_ok way.outer_lt
      rw [Route.waypoint_eq_ok_iff] at corner_eq
      have outer := lapped.getLast?_eq.trans corner_eq
      refine ⟨route, corner, rfl, ?_, corner_eq, outer, inner, ?_⟩
      · rw [← way.sized.outer_length]
        exact lapped.visited
      · intro vehicle
        rw [vehicle.waypoint_obeyAll, vehicle.waypoint_obeyAll, outer, inner]
        exact ⟨rfl, rfl⟩

/-- The first tick at the first waypoint already turns: the outer guide is moved there and on. -/
theorem moves_departing :
    ({} : Config).validate = .ok () ∧ ∃ nav effects route corner,
      flight Optimizer.keep {} 0 [.tick .origin] = .ok (nav, effects) ∧
      nav.route = some route ∧
      (Command.targets .outer (Effect.total effects).commands)[1]? = route.outer[1]? ∧
      route.outer[nav.cursor.outer]? = some corner ∧
      ((Vehicle.new .origin 1).obeyAll (Effect.total effects).commands).waypoint .outer =
        some corner := by
  have seen : (flight Optimizer.keep {} 0 [.tick .origin]).toOption.map
      (fun done => (Command.targets .outer (Effect.total done.2).commands).length) = some 2 := by
    decide +kernel
  obtain ⟨nav, effects, flight_eq, -, moved⟩ :=
    guides_move_in_order Optimizer.keep {} 0 rfl [.tick .origin]
  obtain ⟨route, corner, route_eq, visited, corner_eq, -, -, obeyed⟩ :=
    moved .origin (List.mem_singleton_self _)
  rw [flight_eq] at seen
  have twice : (Command.targets .outer (Effect.total effects).commands).length = 2 :=
    Option.some.inj seen
  exact ⟨rfl, nav, effects, route, corner, flight_eq, route_eq, visited 1 (by omega), corner_eq,
    (obeyed _).1⟩

end WaypointNav.Navigator
