import WaypointNav.Proofs.Except
import WaypointNav.Proofs.Navigator.Growth
import WaypointNav.Proofs.Navigator.Walk

/-! A replan in the middle of a leg. The cursor keeps its number while the reference optimizer puts points into
the path, also into the part that is walked already; so the walk goes on at the same number, which need
not be the same point. -/
namespace WaypointNav

/-- In a path that has another beginning and then goes on as the old one from `index` on, the walk from
`index` first goes through what is left of the beginning. -/
theorem Leg.get?_of_behind {leg grown : Leg} {behind : List Point} {index : Nat}
    (padded : leg.Padded) (grown_padded : grown.Padded) (lt : index < leg.size)
    (le : index ≤ behind.length) (points_eq : grown.points = behind ++ leg.points.drop index)
    (k : Nat) :
    grown.get? (min (index + k) (grown.size - 1)) =
      if k < behind.length - index then behind[index + k]?
      else leg.get? (min (index + (k - (behind.length - index))) (leg.size - 1)) := by
  have size_eq : grown.size = behind.length + (leg.size - index) := by
    rw [← grown_padded.length_points, points_eq, List.length_append, List.length_drop,
      padded.length_points]
  unfold get?
  rw [points_eq, size_eq]
  split
  · next early =>
    rw [Nat.min_eq_left (by omega), List.getElem?_append_left (by omega)]
  · next late =>
    rw [List.getElem?_append_right (by omega), List.getElem?_drop]
    congr 1
    omega

namespace Navigator

variable {σ : Type} {optimizer : Optimizer σ} {config : Config} {memory : σ}

/-- The navigator when its map has grown to `map`. -/
def alerted (nav : Navigator σ) (map : ObstacleMap) : Navigator σ :=
  { nav with map, mapChanged := true }

theorem Underway.alerted {nav : Navigator σ} {route : Route} {leg : Leg}
    (way : Underway config nav route leg) (map : ObstacleMap) :
    Underway config (nav.alerted map) route leg :=
  ⟨way.config_eq, way.route_eq, way.sized, way.leg_eq, way.outer_lt, way.inner_lt⟩

theorem Underway.refresh_alerted {nav : Navigator Unit} {route : Route} {leg : Leg}
    (way : Underway config nav route leg) (valid : nav.cursor.valid = true) (pos : 0 < leg.size)
    (map : ObstacleMap) (clearance : ClearanceConfig) :
    ∃ next grown,
      Underway config ((nav.alerted map).refresh clearance.optimizer).1 next grown ∧
      ((nav.alerted map).refresh clearance.optimizer).1.cursor = nav.cursor ∧
      grown.points = clearance.path ⟨map.obstacles, leg.points, leg.capacity⟩ ∧
      leg.size ≤ grown.size := by
  have changed : (nav.alerted map).mapChanged = true := rfl
  have refined : Query.Refined ⟨map.obstacles, leg.points, leg.capacity⟩ _ :=
    clearance.refined_path leg.length_points_le
  have longer := refined.length_ge
  rw [(way.sized.padded leg (Route.leg_mem way.leg_eq)).length_points] at longer
  have verdict : ((nav.alerted map).ask clearance.optimizer leg).verdict = .ok _ :=
    Invocation.verdict_eq_ok_iff.mpr ⟨rfl, refined.fits⟩
  have settled := Invocation.settleLeg_of_ok verdict leg
  rw [(way.alerted map).refresh_eq, if_pos changed]
  refine ⟨_, _, (way.alerted map).noticed.replanned, ?_, ?_, ?_⟩
  · have inner_lt := way.inner_lt
    have lt : nav.cursor.inner <
        (clearance.path ⟨map.obstacles, leg.points, leg.capacity⟩).length := by
      omega
    exact Cursor.heed_of_lt verdict valid lt
  · exact (congrArg Leg.points settled).trans (Leg.points_filled _ _)
  · exact Nat.le_trans longer (Nat.le_of_eq (congrArg Leg.size settled).symm)

/-- A tick that looks at the map first walks on along the leg as it is then, and so do the ticks after it. -/
theorem Passage.walk_refreshed {nav : Navigator σ} {position : Point} {route next : Route}
    {grown : Leg} (p : Passage optimizer nav position) (sound : Sound config memory nav)
    (usable : config.Usable) (route_eq : nav.route = some route)
    (ahead : Underway config (nav.refresh optimizer).1 next grown) {later : List Event}
    (stays : p.outcome.report.outerAdvanced = false ∨ later = []) :
    ∃ final effects moves, p.last.run optimizer later = .ok (final, effects) ∧
      Command.targets .inner (p.outcome ++ Effect.total effects).commands = moves ∧
      ((∀ effect ∈ effects, effect.outcome.report.replans = 0) →
        moves.length = p.outcome.report.innerAdvanced.toNat +
          effects.countP (·.outcome.report.innerAdvanced) ∧
        ∀ k, k < moves.length → moves[k]? =
          grown.get? (min ((nav.refresh optimizer).1.cursor.inner + k) (grown.size - 1))) := by
  obtain ⟨started_eq, -⟩ := p.opened.eq_of_followed route_eq
  have refreshed := (sound.acts usable p.opened.acts).acts usable p.refresh_acts
  have strolled := p.strolled
  rw [started_eq] at refreshed strolled
  obtain ⟨walked, once⟩ := strolled.paced refreshed ahead ahead.paced
  rw [List.nil_append, ← p.inner_moves sound usable route_eq] at walked
  rw [← p.inner_moves sound usable route_eq, ← p.innerAdvanced_eq] at once
  have last_sound := sound.acts usable p.acts
  obtain ⟨final, effects, run_eq⟩ := last_sound.run_ok usable optimizer later
  refine ⟨final, effects, _, run_eq, rfl, ?_⟩
  intro quiet
  rw [Outcome.commands_append, Command.targets_append, List.length_append, once]
  rcases stays with away | none
  · rw [p.outerAdvanced_eq] at away
    rw [← (p.rounded.eq_of_away away).1] at walked
    obtain ⟨further, each⟩ := walked.run ahead last_sound usable run_eq quiet
    have visited := further.visited
    rw [List.length_append, once] at visited
    exact ⟨congrArg _ (Effect.length_targets_total each), visited⟩
  -- A tick that turns leaves the leg, so nothing after it counts.
  · rw [none] at run_eq
    cases run_eq
    have visited := walked.visited
    rw [once] at visited
    refine ⟨rfl, ?_⟩
    change ∀ k, k < _ → (_ ++ [])[k]? = _
    rwa [List.append_nil]

/-- With the reference optimizer a replan in the middle of a valid leg, whatever obstacles the map has come to
hold, leaves the cursor as it is. If the new path goes on like the old one from the cursor's point on, then
the inner guide is first moved to the points that the path has before that one and at or after the cursor's
number, and only then to the old points; so it goes on where it was exactly if the replan has put no
point into the part that is walked already. -/
theorem replan_keeps_number (config : Config) (accepted : config.validate = .ok ())
    (events : List Event) :
    ∃ nav past, flight config.optimizer.optimizer config () events = .ok (nav, past) ∧
      ∀ map position route leg, nav.route = some route → route.leg nav.cursor.leg = .ok leg →
        nav.cursor.valid = true → ∃ next grown last outcome,
          ((nav.alerted map).refresh config.optimizer.optimizer).1.route = some next ∧
          ((nav.alerted map).refresh config.optimizer.optimizer).1.cursor = nav.cursor ∧
          next.leg nav.cursor.leg = .ok grown ∧
          grown.points = config.optimizer.path ⟨map.obstacles, leg.points, leg.capacity⟩ ∧
          (nav.alerted map).tick config.optimizer.optimizer position = .ok (last, outcome) ∧
          ∀ behind, grown.points = behind ++ leg.points.drop nav.cursor.inner →
            nav.cursor.inner ≤ behind.length ∧
            ∀ later, outcome.report.outerAdvanced = false ∨ later = [] → ∃ final effects moves,
              last.run config.optimizer.optimizer later = .ok (final, effects) ∧
              Command.targets .inner (outcome ++ Effect.total effects).commands = moves ∧
              ((∀ effect ∈ effects, effect.outcome.report.replans = 0) →
                moves.length = outcome.report.innerAdvanced.toNat +
                  effects.countP (·.outcome.report.innerAdvanced) ∧
                ∀ k, k < moves.length → moves[k]? =
                  if k < behind.length - nav.cursor.inner then behind[nav.cursor.inner + k]?
                  else leg.get? (min
                    (nav.cursor.inner + (k - (behind.length - nav.cursor.inner))) (leg.size - 1))) := by
  have usable := (Config.validate_eq_ok_iff config).mp accepted
  obtain ⟨nav, past, flight_eq, reached, -⟩ :=
    flight_told config.optimizer.optimizer () usable events
  refine ⟨nav, past, flight_eq, ?_⟩
  intro map position route leg route_eq leg_eq valid
  obtain ⟨held, way, walkable⟩ := (reached.sound usable).exists_underway route_eq
  obtain ⟨-, rfl⟩ := way.unique route_eq leg_eq
  have pos := walkable valid
  have sound : Sound config () (nav.alerted map) :=
    .underway route held (way.alerted map) walkable
  obtain ⟨next, grown, ahead, cursor_eq, points_eq, longer⟩ :=
    way.refresh_alerted valid pos map config.optimizer
  obtain ⟨p⟩ := sound.passage usable config.optimizer.optimizer position
  have leg_eq := ahead.leg_eq
  rw [cursor_eq] at leg_eq
  refine ⟨next, grown, p.last, p.outcome, ahead.route_eq, cursor_eq, leg_eq, points_eq, p.tick_eq, ?_⟩
  intro behind resumed
  have padded := way.sized.padded held (Route.leg_mem way.leg_eq)
  have grown_padded := ahead.sized.padded grown (Route.leg_mem ahead.leg_eq)
  have lt : nav.cursor.inner < held.size := by
    have := way.inner_lt
    omega
  have le : nav.cursor.inner ≤ behind.length := by
    have length_eq := congrArg List.length resumed
    rw [List.length_append, List.length_drop, padded.length_points,
      grown_padded.length_points] at length_eq
    omega
  refine ⟨le, ?_⟩
  intro later stays
  obtain ⟨final, effects, moves, run_eq, moves_eq, walked⟩ :=
    p.walk_refreshed sound usable (way.alerted map).route_eq ahead stays
  refine ⟨final, effects, moves, run_eq, moves_eq, ?_⟩
  intro quiet
  obtain ⟨length_eq, visited⟩ := walked quiet
  refine ⟨length_eq, ?_⟩
  intro k k_lt
  rw [visited k k_lt, cursor_eq]
  exact Leg.get?_of_behind padded grown_padded lt le resumed k

/-- An obstacle far away from the leg: the path stays as it is, and the walk goes on where it was. -/
theorem walk_resumed :
    ({} : Config).validate = .ok () ∧ ∃ nav past route leg last outcome,
      flight ({} : Config).optimizer.optimizer {} () [.tick .origin, .tick .origin] =
        .ok (nav, past) ∧
      nav.route = some route ∧ route.leg nav.cursor.leg = .ok leg ∧
      nav.cursor = ⟨1, 1, 0, true⟩ ∧
      (nav.alerted ⟨20, 1, [⟨-5, -5⟩], 0⟩).tick ({} : Config).optimizer.optimizer .origin =
        .ok (last, outcome) ∧
      outcome.report = { innerAdvanced := true, replans := 1 } ∧
      (Command.targets .inner outcome.commands)[0]? = leg.get? 1 := by
  have seen : ((flight ({} : Config).optimizer.optimizer {} ()
        [.tick .origin, .tick .origin]).toOption.bind fun done =>
      done.1.route.bind fun route => route.legs[done.1.cursor.leg]?.bind fun leg =>
      ((done.1.alerted ⟨20, 1, [⟨-5, -5⟩], 0⟩).tick ({} : Config).optimizer.optimizer
        .origin).toOption.map fun ran =>
        (done.1.cursor, ran.2.report, leg.size,
          ({} : Config).optimizer.path ⟨[⟨-5, -5⟩], leg.points, leg.capacity⟩ == leg.points)) =
      some (⟨1, 1, 0, true⟩, { innerAdvanced := true, replans := 1 }, 10, true) := by
    decide +kernel
  obtain ⟨nav, past, flight_eq, resumed⟩ :=
    replan_keeps_number {} rfl [.tick .origin, .tick .origin]
  rw [flight_eq] at seen
  change nav.route.bind _ = _ at seen
  obtain ⟨route, route_eq, seen⟩ := Option.bind_eq_some_iff.mp seen
  obtain ⟨leg, leg_eq, seen⟩ := Option.bind_eq_some_iff.mp seen
  rw [← Route.leg_eq_ok_iff] at leg_eq
  obtain ⟨ran, ran_eq, seen⟩ := Option.map_eq_some_iff.mp seen
  obtain ⟨cursor_eq, seen⟩ := Prod.mk.inj seen
  obtain ⟨report_eq, seen⟩ := Prod.mk.inj seen
  obtain ⟨size_eq, kept⟩ := Prod.mk.inj seen
  rw [cursor_eq] at resumed
  obtain ⟨next, grown, last, outcome, -, -, -, points_eq, tick_eq, walked⟩ :=
    resumed ⟨20, 1, [⟨-5, -5⟩], 0⟩ .origin route leg route_eq (cursor_eq ▸ leg_eq) rfl
  rw [tick_eq] at ran_eq
  obtain rfl := Option.some.inj ran_eq
  have whole : grown.points = leg.points.take 1 ++ leg.points.drop 1 := by
    rw [points_eq, List.take_append_drop]
    exact eq_of_beq kept
  obtain ⟨-, on⟩ := walked _ whole
  obtain ⟨final, effects, moves, run_eq, moves_eq, visited⟩ := on [] (.inr rfl)
  cases run_eq
  obtain ⟨length_eq, visited⟩ := visited nofun
  change Command.targets .inner (outcome ++ {}).commands = moves at moves_eq
  change outcome.report = _ at report_eq
  rw [Outcome.append_empty] at moves_eq
  rw [report_eq] at length_eq
  have first := visited 0 (length_eq ▸ Nat.one_pos)
  have short : ¬0 < (leg.points.take 1).length - 1 := by
    have := List.length_take_le 1 leg.points
    omega
  rw [if_neg short, Nat.zero_sub, size_eq, ← moves_eq] at first
  exact ⟨rfl, nav, past, route, leg, last, outcome, flight_eq, route_eq, cursor_eq ▸ leg_eq,
    cursor_eq, tick_eq, report_eq, first⟩

/-- An obstacle beside the part of the leg that is walked already: the way around it takes three points more,
so the inner guide is moved back to the sixth point of the old path, when the ninth was next. -/
theorem walk_sent_back :
    ∃ nav past route leg next grown last outcome,
      flight ({} : Config).optimizer.optimizer {} ()
        ((List.range 9).map fun k => .tick ⟨0.2 * k.toFloat, 0.2 * k.toFloat⟩) =
        .ok (nav, past) ∧
      nav.route = some route ∧ route.leg nav.cursor.leg = .ok leg ∧
      nav.cursor = ⟨1, 8, 0, true⟩ ∧
      (nav.alerted ⟨20, 1, [⟨0.5, 0.4⟩], 0⟩).tick ({} : Config).optimizer.optimizer ⟨1.6, 1.6⟩ =
        .ok (last, outcome) ∧
      outcome.report = { innerAdvanced := true, replans := 1 } ∧
      last.route = some next ∧ next.leg nav.cursor.leg = .ok grown ∧
      grown.points = grown.points.take 11 ++ leg.points.drop 8 ∧
      Command.targets .inner outcome.commands = [⟨1.2, 1.2⟩] ∧
      leg.get? 5 = some ⟨1.2, 1.2⟩ ∧ leg.get? 8 = some ⟨1.8, 1.8⟩ := by
  have seen : ((flight ({} : Config).optimizer.optimizer {} ()
        ((List.range 9).map fun k => .tick ⟨0.2 * k.toFloat, 0.2 * k.toFloat⟩)).toOption.bind
          fun done =>
      done.1.route.bind fun route => route.legs[done.1.cursor.leg]?.bind fun leg =>
      ((done.1.alerted ⟨20, 1, [⟨0.5, 0.4⟩], 0⟩).tick ({} : Config).optimizer.optimizer
        ⟨1.6, 1.6⟩).toOption.bind fun ran =>
      ran.1.route.bind fun next => next.legs[done.1.cursor.leg]?.map fun grown =>
        (done.1.cursor, ran.2.report, grown.points == grown.points.take 11 ++ leg.points.drop 8,
          Command.targets .inner ran.2.commands == [⟨1.2, 1.2⟩], leg.get? 5 == some ⟨1.2, 1.2⟩,
          leg.get? 8 == some ⟨1.8, 1.8⟩)) =
      some (⟨1, 8, 0, true⟩, { innerAdvanced := true, replans := 1 }, true, true, true, true) := by
    decide +kernel
  obtain ⟨⟨nav, past⟩, flight_eq, seen⟩ := Option.bind_eq_some_iff.mp seen
  obtain ⟨route, route_eq, seen⟩ := Option.bind_eq_some_iff.mp seen
  obtain ⟨leg, leg_eq, seen⟩ := Option.bind_eq_some_iff.mp seen
  obtain ⟨⟨last, outcome⟩, tick_eq, seen⟩ := Option.bind_eq_some_iff.mp seen
  obtain ⟨next, next_eq, seen⟩ := Option.bind_eq_some_iff.mp seen
  obtain ⟨grown, grown_eq, seen⟩ := Option.map_eq_some_iff.mp seen
  simp only [Prod.mk.injEq, beq_iff_eq] at seen
  obtain ⟨cursor_eq, report_eq, points_eq, moves_eq, back, due⟩ := seen
  exact ⟨nav, past, route, leg, next, grown, last, outcome, eq_ok_of_toOption flight_eq, route_eq,
    Route.leg_eq_ok_iff.mpr leg_eq, cursor_eq, eq_ok_of_toOption tick_eq, report_eq, next_eq,
    Route.leg_eq_ok_iff.mpr grown_eq, points_eq, moves_eq, back, due⟩

end Navigator

end WaypointNav
