import WaypointNav.Proofs.Config
import WaypointNav.Proofs.Leg
import WaypointNav.Route.Plan

/-! Routes of the size that the settings ask for. The plan of usable settings is one, and replacing the
path of a leg keeps it one. -/
namespace WaypointNav

namespace Route

structure Sized (route : Route) (config : RouteConfig) : Prop where
  outer_length : route.outer.length = config.outerLength
  legs_length : route.legs.length = config.outerLength
  capacity : ∀ leg ∈ route.legs, leg.capacity = config.innerSpace
  padded : ∀ leg ∈ route.legs, leg.Padded

theorem waypoint_eq_ok_iff {route : Route} {index : Nat} {p : Point} :
    route.waypoint index = .ok p ↔ route.outer[index]? = some p := by
  unfold waypoint
  cases route.outer[index]? <;> simp

theorem leg_eq_ok_iff {route : Route} {index : Nat} {leg : Leg} :
    route.leg index = .ok leg ↔ route.legs[index]? = some leg := by
  unfold Route.leg
  cases route.legs[index]? <;> simp

theorem leg_mem {route : Route} {index : Nat} {leg : Leg} (h : route.leg index = .ok leg) :
    leg ∈ route.legs :=
  List.mem_of_getElem? (leg_eq_ok_iff.mp h)

theorem leg_setLeg_self {route : Route} {index : Nat} {old : Leg} (h : route.leg index = .ok old)
    (leg : Leg) : (route.setLeg index leg).leg index = .ok leg := by
  have lt : index < route.legs.length := (List.getElem?_eq_some_iff.mp (leg_eq_ok_iff.mp h)).1
  rw [leg_eq_ok_iff]
  exact List.getElem?_set_self lt

theorem legs_setLeg_of_ne (route : Route) {index other : Nat} (h : index ≠ other) (leg : Leg) :
    (route.setLeg index leg).legs[other]? = route.legs[other]? :=
  List.getElem?_set_ne h

variable {route : Route} {config : RouteConfig} {index : Nat}

theorem Sized.waypoint_ok (sized : route.Sized config) (lt : index < config.outerLength) :
    ∃ p, route.waypoint index = .ok p := by
  rw [← sized.outer_length] at lt
  exact ⟨route.outer[index], waypoint_eq_ok_iff.mpr (List.getElem?_eq_getElem lt)⟩

theorem Sized.leg_ok (sized : route.Sized config) (lt : index < config.outerLength) :
    ∃ leg, route.leg index = .ok leg := by
  rw [← sized.legs_length] at lt
  exact ⟨route.legs[index], leg_eq_ok_iff.mpr (List.getElem?_eq_getElem lt)⟩

theorem Sized.index_lt (sized : route.Sized config) {leg : Leg} (h : route.leg index = .ok leg) :
    index < config.outerLength := by
  rw [← sized.legs_length]
  exact (List.getElem?_eq_some_iff.mp (leg_eq_ok_iff.mp h)).1

theorem Sized.setLeg (sized : route.Sized config) {leg : Leg}
    (capacity : leg.capacity = config.innerSpace) (padded : leg.Padded) :
    (route.setLeg index leg).Sized config where
  outer_length := sized.outer_length
  legs_length := by
    rw [← sized.legs_length]
    exact List.length_set
  capacity := by
    intro other mem
    rcases List.mem_or_eq_of_mem_set mem with old | rfl
    · exact sized.capacity other old
    · exact capacity
  padded := by
    intro other mem
    rcases List.mem_or_eq_of_mem_set mem with old | rfl
    · exact sized.padded other old
    · exact padded

end Route

namespace RouteConfig

def side (config : RouteConfig) (outer : List Point) (index : Nat) : Leg :=
  .filled config.innerSpace
    (divide (outer.getD index .origin) (outer.getD ((index + 1) % outer.length) .origin)
      config.innerLength)

@[simp] theorem length_divide (a b : Point) (count : Nat) : (divide a b count).length = count := by
  simp [divide]

@[simp] theorem size_side (config : RouteConfig) (outer : List Point) (index : Nat) :
    (config.side outer index).size = config.innerLength := by
  simp [side]

theorem length_outline (config : RouteConfig) (start : Point) :
    (config.outline start).length = config.outerWaypoints.length + 1 := by
  unfold outline
  split <;> simp

theorem straightLeg_of_lt {config : RouteConfig} (fits : config.innerLength ≤ config.innerSpace)
    {outer : List Point} {index : Nat} (lt : index < outer.length) :
    config.straightLeg outer index = .ok (config.side outer index) := by
  have next_lt : (index + 1) % outer.length < outer.length :=
    Nat.mod_lt _ (Nat.zero_lt_of_lt lt)
  unfold straightLeg side
  rw [dif_pos lt, Leg.ofPoints_of_le (by simpa using fits)]
  simp [List.getD_eq_getElem?_getD, lt, next_lt]

theorem plan_eq_ok {config : RouteConfig} (fits : config.innerLength ≤ config.innerSpace)
    (start : Point) :
    config.plan start = .ok ⟨config.outline start,
      (List.range (config.outline start).length).map (config.side (config.outline start))⟩ := by
  have sides : (List.range (config.outline start).length).mapM
      (config.straightLeg (config.outline start)) = .ok _ :=
    mapM_eq_ok fun index mem => straightLeg_of_lt fits (List.mem_range.mp mem)
  unfold plan
  simp only [sides, bind, Except.bind]
  simp [Route.ofParts]

theorem sized_of_plan {config : RouteConfig} (fits : config.innerLength ≤ config.innerSpace)
    (count : config.outerWaypoints.length + 1 = config.outerLength) {start : Point} {route : Route}
    (planned : config.plan start = .ok route) : route.Sized config := by
  rw [plan_eq_ok fits, Except.ok.injEq] at planned
  subst planned
  refine ⟨?_, ?_, ?_, ?_⟩
  · rw [length_outline, count]
  · rw [List.length_map, List.length_range, length_outline, count]
  · intro leg mem
    obtain ⟨index, -, rfl⟩ := List.mem_map.mp mem
    exact Leg.capacity_filled (by simpa using fits)
  · intro leg mem
    obtain ⟨index, -, rfl⟩ := List.mem_map.mp mem
    exact Leg.padded_filled (by simpa using fits)

theorem outer_of_plan {config : RouteConfig} (fits : config.innerLength ≤ config.innerSpace)
    {start : Point} {route : Route} (planned : config.plan start = .ok route) :
    route.outer = config.outline start := by
  rw [plan_eq_ok fits, Except.ok.injEq] at planned
  rw [← planned]

theorem size_of_plan {config : RouteConfig} (fits : config.innerLength ≤ config.innerSpace)
    {start : Point} {route : Route} (planned : config.plan start = .ok route) :
    ∀ leg ∈ route.legs, leg.size = config.innerLength := by
  rw [plan_eq_ok fits, Except.ok.injEq] at planned
  subst planned
  intro leg mem
  obtain ⟨index, -, rfl⟩ := List.mem_map.mp mem
  exact config.size_side _ index

end RouteConfig

theorem Config.Usable.sized_of_plan {config : Config} (usable : config.Usable) {start : Point}
    {route : Route} (planned : config.route.plan start = .ok route) : route.Sized config.route := by
  have count := usable.waypoint_count
  have pos := usable.outer_pos
  exact RouteConfig.sized_of_plan usable.inner_length_le (by omega) planned

theorem Config.Usable.size_of_plan {config : Config} (usable : config.Usable) {start : Point}
    {route : Route} (planned : config.route.plan start = .ok route) {index : Nat} {leg : Leg}
    (leg_eq : route.leg index = .ok leg) : leg.size = config.route.innerLength :=
  RouteConfig.size_of_plan usable.inner_length_le planned leg (Route.leg_mem leg_eq)

end WaypointNav
