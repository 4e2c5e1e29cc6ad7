import WaypointNav.Proofs.Cursor
import WaypointNav.Proofs.Limits
import WaypointNav.Proofs.Route.Ends

/-! The planned legs close the polygon. Each leads from its waypoint to the next one, the last leg back to the
start, and the plan, the route and the cursor mean the same waypoint by the next one. This holds as far as
blocks of memory reach; beyond, planning crashes. -/
namespace WaypointNav

namespace RouteConfig

variable {config : RouteConfig} {outer : List Point} {index : Nat}

/-- The leg divides the way from a waypoint to the next one, around the polygon, into equal steps. -/
structure Divided (config : RouteConfig) (outer : List Point) (index : Nat) (leg : Leg) : Prop where
  capacity_eq : leg.capacity = config.innerSpace
  size_eq : leg.size = config.innerLength
  length_eq : leg.points.length = config.innerLength
  step : ∀ k < config.innerLength, ∃ a b, outer[index]? = some a ∧
    outer[(index + 1) % outer.length]? = some b ∧
    leg.get? k = some (a.interpolate b ((k + 1).toFloat / config.innerLength.toFloat))

theorem getElem?_divide (a b : Point) {count k : Nat} (lt : k < count) :
    (divide a b count)[k]? = some (a.interpolate b ((k + 1).toFloat / count.toFloat)) := by
  unfold divide
  rw [List.getElem?_map, List.getElem?_range lt]
  rfl

theorem divided_side (fits : config.innerLength ≤ config.innerSpace) (lt : index < outer.length) :
    config.Divided outer index (config.side outer index) := by
  have next_lt := Nat.mod_lt (index + 1) (Nat.zero_lt_of_lt lt)
  have origin := List.getElem?_eq_getElem lt
  have target := List.getElem?_eq_getElem next_lt
  have points : (config.side outer index).points = _ := points_side origin target
  refine ⟨?_, config.size_side outer index, ?_, ?_⟩
  · unfold side
    exact Leg.capacity_filled (by rwa [length_divide])
  · rw [points, length_divide]
  · intro k k_lt
    refine ⟨_, _, origin, target, ?_⟩
    unfold Leg.get?
    rw [points, getElem?_divide _ _ k_lt]

theorem straightLeg_of_missing (missing : outer.length ≤ index) :
    config.straightLeg outer index = .error (.outOfRange index outer.length) := by
  unfold straightLeg
  rw [dif_neg (Nat.not_lt.mpr missing)]

theorem straightLeg_of_long (long : config.innerSpace < config.innerLength)
    (lt : index < outer.length) :
    config.straightLeg outer index = .error (.legOverflow config.innerLength config.innerSpace) := by
  unfold straightLeg
  rw [dif_pos lt, Leg.ofPoints_of_lt (by rwa [length_divide]), length_divide]

/-- The start is a waypoint, so a leg is always planned. -/
theorem plan_of_long (long : config.innerSpace < config.innerLength) (start : Point) :
    config.plan start = .error (.legOverflow config.innerLength config.innerSpace) := by
  have pos : 0 < (config.outline start).length := by
    rw [length_outline]
    exact Nat.succ_pos _
  have sides : (List.range (config.outline start).length).mapM
      (config.straightLeg (config.outline start)) =
        .error (.legOverflow config.innerLength config.innerSpace) := by
    rw [length_outline, List.range_succ_eq_map, List.mapM_cons, straightLeg_of_long long pos]
    rfl
  unfold plan
  simp only [sides, bind, Except.bind]

theorem outline_eq (config : RouteConfig) (start : Point) :
    config.outline start = start ::
      if config.relative then config.outerWaypoints.map fun p => ⟨start.x + p.x, start.y + p.y⟩
      else config.outerWaypoints := rfl

end RouteConfig

namespace Route

variable {config : RouteConfig} {start : Point} {route : Route} {index : Nat}

def Reaches (route : Route) (index corner : Nat) : Prop :=
  ∃ leg last p, route.leg index = .ok leg ∧ leg.points.getLast? = some last ∧
    route.waypoint corner = .ok p ∧ last.Agrees p

theorem next?_of_lt (lt : index < route.length) :
    route.next? index = some ((index + 1) % route.length) := by
  have occupied : route.outer.isEmpty = false := by
    rw [List.isEmpty_eq_false_iff]
    exact List.ne_nil_of_length_pos (Nat.zero_lt_of_lt lt)
  unfold next?
  rw [occupied]
  rfl

theorem length_legs_of_plan (fits : config.innerLength ≤ config.innerSpace)
    (planned : config.plan start = .ok route) : route.legs.length = route.length := by
  rw [RouteConfig.plan_eq_ok fits, Except.ok.injEq] at planned
  subst planned
  rw [List.length_map, List.length_range]
  rfl

theorem leg_of_plan (fits : config.innerLength ≤ config.innerSpace)
    (planned : config.plan start = .ok route) (lt : index < route.length) :
    route.leg index = .ok (config.side route.outer index) := by
  rw [RouteConfig.plan_eq_ok fits, Except.ok.injEq] at planned
  subst planned
  have lt : index < (config.outline start).length := lt
  rw [leg_eq_ok_iff, List.getElem?_map, List.getElem?_range lt]
  rfl

def Closed (route : Route) : Prop :=
  ∀ index < route.length, route.Reaches index ((index + 1) % route.length)

theorem closed_of_plan (fits : config.innerLength ≤ config.innerSpace) (pos : 0 < config.innerLength)
    (countable : config.innerLength ≤ Limits.maxIndex) (planned : config.plan start = .ok route)
    (finite : ∀ p ∈ route.outer, p.isFinite = true) : route.Closed := by
  intro index lt
  have outer_eq := RouteConfig.outer_of_plan fits planned
  have leg_eq := leg_of_plan fits planned lt
  rw [outer_eq] at finite
  obtain ⟨last, corner, last_eq, corner_eq, agrees⟩ :=
    RouteConfig.leg_ends fits pos countable finite planned leg_eq
  refine ⟨_, last, corner, leg_eq, last_eq, ?_, agrees⟩
  rw [waypoint_eq_ok_iff, length, outer_eq]
  exact corner_eq

theorem Closed.reaches_next (closed : route.Closed) (lt : index < route.length) :
    ∃ next, route.next? index = some next ∧ route.Reaches index next :=
  ⟨_, next?_of_lt lt, closed index lt⟩

theorem Closed.reaches_start (closed : route.Closed) (pos : 0 < route.length) :
    route.Reaches (route.length - 1) 0 := by
  have last := closed (route.length - 1) (Nat.sub_lt pos Nat.one_pos)
  rwa [Nat.sub_add_cancel pos, Nat.mod_self] at last

/-- The cursor takes the same next waypoint as the route. -/
theorem Closed.reaches_ahead (closed : route.Closed) {cursor : Cursor}
    (lt : cursor.outer < route.length) :
    ∃ ahead, cursor.advanceOuter route.length = ahead ∧ ahead.leg = cursor.outer ∧
      route.next? cursor.outer = some ahead.outer ∧ route.Reaches ahead.leg ahead.outer := by
  have leg_eq := Cursor.leg_advanceOuter_eq lt
  have outer_eq := Cursor.outer_advanceOuter_eq_mod lt
  refine ⟨_, rfl, leg_eq, ?_, ?_⟩
  · rw [outer_eq, next?_of_lt lt]
  · rw [leg_eq, outer_eq]
    exact closed cursor.outer lt

end Route

namespace Limits

variable {config : RouteConfig} {outer : List Point} {index : Nat} {start : Point}

theorem straightLeg_of_missing (missing : outer.length ≤ index) :
    straightLeg config outer index = .error (.refused (.outOfRange index outer.length)) := by
  unfold straightLeg
  rw [if_neg (Nat.not_lt.mpr missing), RouteConfig.straightLeg_of_missing missing]
  rfl

theorem straightLeg_of_crowded (lt : index < outer.length)
    (crowded : maxPoints < config.innerLength ∨ maxPoints < config.innerSpace) :
    straightLeg config outer index = .error .crashed := by
  unfold straightLeg
  rw [if_pos lt, reserveLeg_of_lt crowded]
  rfl

theorem straightLeg_of_roomy (lt : index < outer.length) (inner : config.innerLength ≤ maxPoints)
    (space : config.innerSpace ≤ maxPoints) :
    straightLeg config outer index = (config.straightLeg outer index).mapError .refused := by
  unfold straightLeg
  rw [if_pos lt, reserveLeg_eq_ok inner space]
  rfl

theorem plan_of_crowded (crowded : maxPoints < config.outerLength ∨ maxPoints < config.innerLength ∨
    maxPoints < config.innerSpace) : plan config start = .error .crashed := by
  unfold plan
  by_cases outer : maxPoints < config.outerLength
  · rw [reserve_of_lt outer]
    rfl
  · rw [reserve_eq_ok (Nat.le_of_not_lt outer), reserveLeg_of_lt (crowded.resolve_left outer)]
    rfl

theorem plan_of_roomy (outer : config.outerLength ≤ maxPoints) (inner : config.innerLength ≤ maxPoints)
    (space : config.innerSpace ≤ maxPoints) :
    plan config start = (config.plan start).mapError .refused := by
  unfold plan
  rw [reserve_eq_ok outer, reserveLeg_eq_ok inner space]
  rfl

/-- A straight leg is refused for an index past the waypoints, else for more points than it has room for, and
is else divided into equal steps from its waypoint to the next one. A plan is refused for legs that are too
long; else it has the start and the configured waypoints for its outline, and a straight leg from each. If the
legs have points and the waypoints are finite, each leg ends at the next waypoint, the last one at the start,
and a cursor that advances around the polygon is on the leg that ends at the waypoint it then aims at. Where a
leg or the outline is too large for a block of memory, planning crashes instead. -/
theorem legs_close_polygon (config : RouteConfig) (start : Point) :
    (∀ outer index,
      if outer.length ≤ index then
        straightLeg config outer index = .error (.refused (.outOfRange index outer.length))
      else if maxPoints < config.innerLength ∨ maxPoints < config.innerSpace then
        straightLeg config outer index = .error .crashed
      else if config.innerSpace < config.innerLength then
        straightLeg config outer index =
          .error (.refused (.legOverflow config.innerLength config.innerSpace))
      else ∃ leg, straightLeg config outer index = .ok leg ∧ config.Divided outer index leg) ∧
    if maxPoints < config.outerLength ∨ maxPoints < config.innerLength ∨
        maxPoints < config.innerSpace then
      plan config start = .error .crashed
    else if config.innerSpace < config.innerLength then
      plan config start = .error (.refused (.legOverflow config.innerLength config.innerSpace))
    else ∃ route, plan config start = .ok route ∧
      (route.outer = start ::
        if config.relative then config.outerWaypoints.map fun p => ⟨start.x + p.x, start.y + p.y⟩
        else config.outerWaypoints) ∧
      route.legs.length = route.length ∧
      (∀ index < route.length, ∃ leg, route.leg index = .ok leg ∧
        straightLeg config route.outer index = .ok leg) ∧
      (0 < config.innerLength → (∀ p ∈ route.outer, p.isFinite = true) →
        (∀ index < route.length, ∃ next, route.next? index = some next ∧ route.Reaches index next) ∧
        route.Reaches (route.length - 1) 0 ∧
        ∀ cursor : Cursor, cursor.outer < route.length →
          ∃ ahead, cursor.advanceOuter route.length = ahead ∧
            ahead.leg = cursor.outer ∧ route.next? cursor.outer = some ahead.outer ∧
            route.Reaches ahead.leg ahead.outer) := by
  refine ⟨?_, ?_⟩
  · intro outer index
    split
    · next missing => exact straightLeg_of_missing missing
    next present =>
    have lt := Nat.lt_of_not_le present
    split
    · next crowded => exact straightLeg_of_crowded lt crowded
    next roomy =>
    obtain ⟨inner, space⟩ : config.innerLength ≤ maxPoints ∧ config.innerSpace ≤ maxPoints := by omega
    rw [straightLeg_of_roomy lt inner space]
    split
    · next long =>
      rw [RouteConfig.straightLeg_of_long long lt]
      rfl
    · next short =>
      have fits := Nat.le_of_not_lt short
      rw [RouteConfig.straightLeg_of_lt fits lt]
      exact ⟨_, rfl, RouteConfig.divided_side fits lt⟩
  · split
    · next crowded => exact plan_of_crowded crowded
    next roomy =>
    obtain ⟨outer, inner, space⟩ : config.outerLength ≤ maxPoints ∧ config.innerLength ≤ maxPoints ∧
      config.innerSpace ≤ maxPoints := by omega
    rw [plan_of_roomy outer inner space]
    split
    · next long =>
      rw [RouteConfig.plan_of_long long]
      rfl
    · next short =>
      have fits := Nat.le_of_not_lt short
      obtain ⟨route, planned⟩ : ∃ route, config.plan start = .ok route :=
        ⟨_, RouteConfig.plan_eq_ok fits start⟩
      have outer_eq := RouteConfig.outer_of_plan fits planned
      rw [planned]
      refine ⟨route, rfl, outer_eq.trans (config.outline_eq start),
        Route.length_legs_of_plan fits planned, ?_, ?_⟩
      · intro index lt
        refine ⟨_, Route.leg_of_plan fits planned lt, ?_⟩
        rw [straightLeg_of_roomy lt inner space, RouteConfig.straightLeg_of_lt fits lt]
        rfl
      · intro steps finite
        have countable : config.innerLength ≤ maxIndex := Nat.le_trans inner (by decide)
        have closed := Route.closed_of_plan fits steps countable planned finite
        have pos : 0 < route.length := by
          rw [Route.length, outer_eq, RouteConfig.length_outline]
          exact Nat.succ_pos _
        exact ⟨fun index lt => closed.reaches_next lt, closed.reaches_start pos,
          fun cursor lt => closed.reaches_ahead lt⟩

/-- The usual settings, but for legs of more points than the largest block has. -/
def oversized : RouteConfig := { innerLength := 576460752303423488 }

/-- The points of a leg are laid out before they are held against its room. -/
theorem oversized_leg_crashes :
    0 < (oversized.outline ⟨0.5, -1⟩).length ∧ oversized.innerSpace < oversized.innerLength ∧
      straightLeg oversized (oversized.outline ⟨0.5, -1⟩) 0 = .error .crashed ∧
      straightLeg oversized (oversized.outline ⟨0.5, -1⟩) 0 ≠
        .error (.refused (.legOverflow oversized.innerLength oversized.innerSpace)) := by
  have waypoints : 0 < (oversized.outline ⟨0.5, -1⟩).length := by decide
  have crashed : straightLeg oversized (oversized.outline ⟨0.5, -1⟩) 0 = .error .crashed :=
    straightLeg_of_crowded waypoints (.inl (by decide))
  refine ⟨waypoints, by decide, crashed, ?_⟩
  rw [crashed]
  nofun

end Limits

end WaypointNav
