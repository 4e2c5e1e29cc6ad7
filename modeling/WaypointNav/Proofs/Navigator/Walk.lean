import WaypointNav.Proofs.Navigator.Guidance

/-! The walk along a leg. As long as nothing is replanned the inner guide visits the points of the active leg
one after the other, at each arrival the next one, and in the end the last one again and again. -/
namespace WaypointNav

/-- Each effect that reports an inner advance moves the inner guide once, and no other effect moves it. -/
theorem Effect.length_targets_total {effects : List Effect}
    (steps : ∀ effect ∈ effects, (Command.targets .inner effect.outcome.commands).length =
      effect.outcome.report.innerAdvanced.toNat) :
    (Command.targets .inner (Effect.total effects).commands).length =
      effects.countP (·.outcome.report.innerAdvanced) := by
  induction effects with
  | nil => rfl
  | cons effect effects ih =>
    have rest := ih fun later mem => steps later (List.mem_cons_of_mem effect mem)
    rw [Effect.total, Outcome.commands_append, Command.targets_append, List.length_append, rest,
      steps effect List.mem_cons_self, List.countP_cons, Nat.add_comm]
    cases effect.outcome.report.innerAdvanced <;> rfl

namespace Navigator

variable {σ : Type} {optimizer : Optimizer σ} {config : Config} {memory : σ}
  {start nav next last : Navigator σ} {route : Route} {leg : Leg} {moves : List Point}

theorem Sound.step_ok (sound : Sound config memory nav) (usable : config.Usable)
    (optimizer : Optimizer σ) (event : Event) :
    ∃ next effect, nav.step optimizer event = .ok (next, effect) ∧ Sound config memory next := by
  cases event with
  | tick position =>
    obtain ⟨p⟩ := sound.passage usable optimizer position
    exact ⟨p.last, _, p.step_eq, sound.acts usable p.acts⟩
  | ingest batch pose => exact ⟨_, _, rfl, sound.ingest batch pose⟩

theorem Sound.run_ok (sound : Sound config memory nav) (usable : config.Usable)
    (optimizer : Optimizer σ) (events : List Event) :
    ∃ last effects, nav.run optimizer events = .ok (last, effects) := by
  induction events generalizing nav with
  | nil => exact ⟨nav, [], rfl⟩
  | cons event events ih =>
    obtain ⟨mid, effect, step_eq, mid_sound⟩ := sound.step_ok usable optimizer event
    obtain ⟨last, effects, run_eq⟩ := ih mid_sound
    exact ⟨last, effect :: effects, run_cons_eq_ok_iff.mpr ⟨_, _, _, step_eq, run_eq, rfl⟩⟩

/-- A navigator that has walked along the active leg since `start`, with these moves of the inner guide. -/
structure Paced (start : Navigator σ) (leg : Leg) (nav : Navigator σ) (moves : List Point) : Prop where
  route_eq : nav.route = start.route
  cursor_eq : nav.cursor =
    { start.cursor with inner := min (start.cursor.inner + moves.length) (leg.size - 1) }
  visited : ∀ k, k < moves.length →
    moves[k]? = leg.get? (min (start.cursor.inner + k) (leg.size - 1))

theorem Underway.paced (way : Underway config nav route leg) : Paced nav leg nav [] := by
  have lt := way.inner_lt
  have stays : min (nav.cursor.inner + 0) (leg.size - 1) = nav.cursor.inner := by omega
  refine ⟨rfl, ?_, nofun⟩
  rw [List.length_nil, stays]

theorem Paced.stride {target : Point} (paced : Paced start leg nav moves)
    (target_eq : leg.get? nav.cursor.inner = some target) :
    Paced start leg { nav with cursor := nav.cursor.advanceInner leg.size, innerTarget := target }
      (moves ++ [target]) := by
  have inner_eq : nav.cursor.inner = min (start.cursor.inner + moves.length) (leg.size - 1) :=
    congrArg Cursor.inner paced.cursor_eq
  have le : nav.cursor.inner ≤ leg.size - 1 := inner_eq ▸ Nat.min_le_right _ _
  have further : min (nav.cursor.inner + 1) (leg.size - 1) =
      min (start.cursor.inner + (moves ++ [target]).length) (leg.size - 1) := by
    rw [inner_eq, List.length_append, List.length_singleton]
    omega
  refine ⟨paced.route_eq, ?_, visited_concat paced.visited ?_⟩
  · change nav.cursor.advanceInner leg.size = _
    rw [Cursor.advanceInner_eq le, further, paced.cursor_eq]
  · rw [← inner_eq, target_eq]

theorem Strolled.paced {arrived : Bool} {walked : Navigator σ} {strode : Outcome}
    (strolled : Strolled optimizer nav arrived walked strode) (sound : Sound config memory nav)
    (way : Underway config start route leg) (paced : Paced start leg nav moves) :
    Paced start leg walked (moves ++ Command.targets .inner strode.commands) ∧
      (Command.targets .inner strode.commands).length = strode.report.innerAdvanced.toNat := by
  cases going : strode.report.innerAdvanced with
  | false =>
    obtain ⟨rfl, rfl⟩ := strolled.eq_of_away going
    refine ⟨?_, rfl⟩
    rwa [Command.targets_nil, List.append_nil]
  | true =>
    have route_eq := paced.route_eq.trans way.route_eq
    have leg_eq : route.leg nav.cursor.leg = .ok leg := by
      rw [paced.cursor_eq]
      exact way.leg_eq
    obtain ⟨held, here, walkable⟩ := sound.exists_underway route_eq
    obtain ⟨-, rfl⟩ := here.unique route_eq leg_eq
    obtain ⟨target, target_eq, rfl, rfl⟩ := strolled.exists_target going here walkable
    exact ⟨paced.stride target_eq, rfl⟩

namespace Passage

variable {position : Point} (p : Passage optimizer nav position)

/-- Once the flight has started only the walk moves the inner guide. -/
theorem inner_moves (sound : Sound config memory nav) (usable : config.Usable)
    (route_eq : nav.route = some route) :
    Command.targets .inner p.outcome.commands = Command.targets .inner p.strode.commands := by
  obtain ⟨-, opening_eq⟩ := p.opened.eq_of_followed route_eq
  obtain ⟨corner, rounding_eq, -⟩ := p.commands_rounding sound usable
  have elsewhere : Command.targets .inner p.rounding.commands = [] := by
    rw [rounding_eq]
    split <;> rfl
  have silent : Command.targets .inner [.proceed .inner] = [] := rfl
  rw [p.commands_eq, opening_eq]
  simp only [Command.targets_append, elsewhere, silent, List.append_nil]
  exact List.nil_append _

theorem eq_of_quiet (route_eq : nav.route = some route)
    (quiet : p.outcome.report.replans = 0) :
    (p.started.refresh optimizer).1 = nav ∧ p.last = p.walked := by
  rw [p.report_eq] at quiet
  obtain ⟨seen, away⟩ := Nat.add_eq_zero_iff.mp quiet
  rw [Bool.toNat_eq_zero] at seen away
  obtain ⟨started_eq, -⟩ := p.opened.eq_of_followed route_eq
  constructor
  · unfold refresh
    rw [started_eq, seen]
    rfl
  · refine (p.rounded.eq_of_away ?_).1
    rw [p.rounded.report]
    exact away

end Passage

theorem Paced.step {event : Event} {effect : Effect} (paced : Paced start leg nav moves)
    (way : Underway config start route leg) (sound : Sound config memory nav)
    (usable : config.Usable) (step_eq : nav.step optimizer event = .ok (next, effect))
    (quiet : effect.outcome.report.replans = 0) :
    Paced start leg next (moves ++ Command.targets .inner effect.outcome.commands) ∧
      (Command.targets .inner effect.outcome.commands).length =
        effect.outcome.report.innerAdvanced.toNat := by
  cases event with
  | tick position =>
    obtain ⟨p⟩ := sound.passage usable optimizer position
    cases p.step_eq.symm.trans step_eq
    have route_eq := paced.route_eq.trans way.route_eq
    obtain ⟨refreshed_eq, last_eq⟩ := p.eq_of_quiet route_eq quiet
    have strolled := p.strolled
    rw [refreshed_eq] at strolled
    rw [last_eq]
    change Paced start leg p.walked (moves ++ Command.targets .inner p.outcome.commands) ∧
      (Command.targets .inner p.outcome.commands).length = p.outcome.report.innerAdvanced.toNat
    rw [p.inner_moves sound usable route_eq, p.innerAdvanced_eq]
    exact strolled.paced sound way paced
  | ingest batch pose =>
    cases step_eq
    refine ⟨?_, rfl⟩
    change Paced start leg _ (moves ++ [])
    rw [List.append_nil]
    exact ⟨paced.route_eq, paced.cursor_eq, paced.visited⟩

theorem Paced.run {events : List Event} {effects : List Effect} (paced : Paced start leg nav moves)
    (way : Underway config start route leg) (sound : Sound config memory nav)
    (usable : config.Usable) (run_eq : nav.run optimizer events = .ok (last, effects))
    (quiet : ∀ effect ∈ effects, effect.outcome.report.replans = 0) :
    Paced start leg last (moves ++ Command.targets .inner (Effect.total effects).commands) ∧
      ∀ effect ∈ effects, (Command.targets .inner effect.outcome.commands).length =
        effect.outcome.report.innerAdvanced.toNat := by
  induction events generalizing nav moves effects with
  | nil =>
    cases run_eq
    refine ⟨?_, nofun⟩
    change Paced start leg _ (moves ++ [])
    rwa [List.append_nil]
  | cons event events ih =>
    obtain ⟨mid, effect, rest, step_eq, rest_eq, rfl⟩ := run_cons_eq_ok_iff.mp run_eq
    obtain ⟨next, stepped, next_eq, next_sound⟩ := sound.step_ok usable optimizer event
    cases step_eq.symm.trans next_eq
    obtain ⟨further, once⟩ := paced.step way sound usable step_eq (quiet effect List.mem_cons_self)
    obtain ⟨walked, each⟩ := ih further next_sound rest_eq fun later mem =>
      quiet later (List.mem_cons_of_mem effect mem)
    refine ⟨?_, List.forall_mem_cons.mpr ⟨once, each⟩⟩
    rwa [Effect.total, Outcome.commands_append, Command.targets_append, ← List.append_assoc]

/-- From any state of a flight on, and for as long as no tick replans, the inner guide is moved to the points of
the active leg from the cursor's on, none skipped and none repeated until the last one is reached, which
is then repeated; once in each tick that reports an inner advance, and in no other. Of the route and the
cursor only the inner index changes, and it counts these moves. -/
theorem walk_in_order (optimizer : Optimizer σ) (config : Config) (memory : σ)
    (accepted : config.validate = .ok ()) (events later : List Event) :
    ∃ nav past last effects, flight optimizer config memory events = .ok (nav, past) ∧
      nav.run optimizer later = .ok (last, effects) ∧
      ∀ route leg, nav.route = some route → route.leg nav.cursor.leg = .ok leg →
        (∀ effect ∈ effects, effect.outcome.report.replans = 0) →
        ∃ moves, Command.targets .inner (Effect.total effects).commands = moves ∧
          moves.length = effects.countP (·.outcome.report.innerAdvanced) ∧
          (∀ effect ∈ effects, (Command.targets .inner effect.outcome.commands).length =
            effect.outcome.report.innerAdvanced.toNat) ∧
          (∀ k, k < moves.length →
            moves[k]? = leg.get? (min (nav.cursor.inner + k) (leg.size - 1))) ∧
          last.route = nav.route ∧
          last.cursor =
            { nav.cursor with inner := min (nav.cursor.inner + moves.length) (leg.size - 1) } := by
  have usable := (Config.validate_eq_ok_iff config).mp accepted
  obtain ⟨nav, past, flight_eq, reached, -⟩ := flight_told optimizer memory usable events
  have sound := reached.sound usable
  obtain ⟨last, effects, run_eq⟩ := sound.run_ok usable optimizer later
  refine ⟨nav, past, last, effects, flight_eq, run_eq, ?_⟩
  intro route leg route_eq leg_eq quiet
  obtain ⟨held, way, -⟩ := sound.exists_underway route_eq
  obtain ⟨-, rfl⟩ := way.unique route_eq leg_eq
  obtain ⟨walked, once⟩ := way.paced.run way sound usable run_eq quiet
  rw [List.nil_append] at walked
  exact ⟨_, rfl, Effect.length_targets_total once, once, walked.visited, walked.route_eq,
    walked.cursor_eq⟩

/-- Two arrivals on the leg to the second waypoint, at its start and a little further on. -/
theorem walk_departing :
    ({} : Config).validate = .ok () ∧ ∃ nav past last effects route leg,
      flight Optimizer.keep {} 0 [.tick .origin] = .ok (nav, past) ∧
      nav.run Optimizer.keep [.tick .origin, .tick ⟨0.4, 0.4⟩] = .ok (last, effects) ∧
      nav.route = some route ∧ route.leg nav.cursor.leg = .ok leg ∧ leg.size = 10 ∧
      nav.cursor.valid = true ∧
      (Command.targets .inner (Effect.total effects).commands)[0]? = leg.get? 0 ∧
      (Command.targets .inner (Effect.total effects).commands)[1]? = leg.get? 1 ∧
      last.cursor = { nav.cursor with inner := 2 } := by
  have seen : ((flight Optimizer.keep {} 0 [.tick .origin]).toOption.bind fun done =>
      (done.1.run Optimizer.keep [.tick .origin, .tick ⟨0.4, 0.4⟩]).toOption.map fun ran =>
        (done.1.cursor, (done.1.route.bind fun route => route.legs[done.1.cursor.leg]?).map Leg.size,
          ran.2.map fun effect =>
            (effect.outcome.report.replans, effect.outcome.report.innerAdvanced))) =
      some (⟨1, 0, 0, true⟩, some 10, [(0, true), (0, true)]) := by
    decide +kernel
  obtain ⟨nav, past, last, effects, flight_eq, run_eq, walked⟩ :=
    walk_in_order Optimizer.keep {} 0 rfl [.tick .origin] [.tick .origin, .tick ⟨0.4, 0.4⟩]
  rw [flight_eq] at seen
  change Option.map _ (nav.run Optimizer.keep _).toOption = _ at seen
  rw [run_eq] at seen
  obtain ⟨cursor_eq, seen⟩ := Prod.mk.inj (Option.some.inj seen)
  obtain ⟨held_eq, reports⟩ := Prod.mk.inj seen
  obtain ⟨leg, leg_eq, size_eq⟩ := Option.map_eq_some_iff.mp held_eq
  obtain ⟨route, route_eq, leg_eq⟩ := Option.bind_eq_some_iff.mp leg_eq
  rw [← Route.leg_eq_ok_iff] at leg_eq
  have quiet : ∀ effect ∈ effects, effect.outcome.report.replans = 0 := by
    intro effect mem
    have told := List.mem_map_of_mem (f := fun effect : Effect =>
      (effect.outcome.report.replans, effect.outcome.report.innerAdvanced)) mem
    rw [reports] at told
    simp only [List.mem_cons, List.not_mem_nil, or_false, or_self, Prod.mk.injEq] at told
    exact told.1
  have counted : effects.countP (·.outcome.report.innerAdvanced) = 2 := by
    have told := congrArg (List.countP Prod.snd) reports
    rwa [List.countP_map] at told
  obtain ⟨_, rfl, length_eq, -, visited, -, last_eq⟩ := walked route leg route_eq leg_eq quiet
  rw [counted] at length_eq
  rw [length_eq, size_eq, cursor_eq] at visited last_eq
  refine ⟨rfl, nav, past, last, effects, route, leg, flight_eq, run_eq, route_eq, leg_eq, size_eq,
    ?_, visited 0 (by decide), visited 1 (by decide), ?_⟩
  · rw [cursor_eq]
  · rw [last_eq, cursor_eq]
    rfl

end Navigator

end WaypointNav
