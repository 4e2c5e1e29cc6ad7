import WaypointNav.Limits
import WaypointNav.Proofs.Binary64.Laws
import WaypointNav.Proofs.Route

/-! A planned leg ends at the next waypoint: its last point is the whole way along, and there the weights of
the two ends are exactly zero and one. -/
namespace WaypointNav

/-- Equal as numbers, for which the two zeros are one. -/
def Point.Agrees (p q : Point) : Prop :=
  (p.x == q.x) = true ∧ (p.y == q.y) = true

theorem Point.interpolate_one {a b : Point} (a_finite : a.isFinite = true)
    (b_finite : b.isFinite = true) : (a.interpolate b 1).Agrees b := by
  rw [Point.isFinite, Bool.and_eq_true] at a_finite b_finite
  have blend {s t : Float} (s_finite : s.isFinite = true) (t_finite : t.isFinite = true) :
      (s * (1 - 1) + t * 1 == t) = true := by
    rw [Binary64.mul_one]
    exact Binary64.zero_add (Binary64.mul_zero s_finite) t_finite
  exact ⟨blend a_finite.1 b_finite.1, blend a_finite.2 b_finite.2⟩

namespace RouteConfig

variable {config : RouteConfig} {start : Point} {route : Route} {index : Nat} {leg : Leg}

theorem getLast?_divide (a b : Point) {count : Nat} (pos : 0 < count) :
    (divide a b count).getLast? = some (a.interpolate b (count.toFloat / count.toFloat)) := by
  obtain ⟨steps, rfl⟩ := Nat.exists_eq_add_of_lt pos
  unfold divide
  rw [List.getLast?_map, Nat.zero_add, List.range_succ, List.getLast?_concat]
  rfl

theorem side_of_plan (fits : config.innerLength ≤ config.innerSpace)
    (planned : config.plan start = .ok route) (leg_eq : route.leg index = .ok leg) :
    index < (config.outline start).length ∧ leg = config.side (config.outline start) index := by
  rw [plan_eq_ok fits, Except.ok.injEq] at planned
  rw [← planned, Route.leg_eq_ok_iff, List.getElem?_map, Option.map_eq_some_iff] at leg_eq
  obtain ⟨found, found_eq, rfl⟩ := leg_eq
  obtain ⟨lt, rfl⟩ := List.getElem?_eq_some_iff.mp found_eq
  rw [List.length_range] at lt
  rw [List.getElem_range]
  exact ⟨lt, rfl⟩

theorem points_side {outer : List Point} {a b : Point} (origin : outer[index]? = some a)
    (target : outer[(index + 1) % outer.length]? = some b) :
    (config.side outer index).points = divide a b config.innerLength := by
  unfold side
  rw [Leg.points_filled, List.getD_eq_getElem?_getD, List.getD_eq_getElem?_getD, origin, target]
  rfl

theorem leg_ends (fits : config.innerLength ≤ config.innerSpace) (pos : 0 < config.innerLength)
    (countable : config.innerLength ≤ Limits.maxIndex)
    (finite : ∀ p ∈ config.outline start, p.isFinite = true)
    (planned : config.plan start = .ok route) (leg_eq : route.leg index = .ok leg) :
    ∃ last corner, leg.points.getLast? = some last ∧
      (config.outline start)[(index + 1) % (config.outline start).length]? = some corner ∧
      last.Agrees corner := by
  obtain ⟨lt, rfl⟩ := side_of_plan fits planned leg_eq
  have next_lt := Nat.mod_lt (index + 1) (Nat.zero_lt_of_lt lt)
  have target := List.getElem?_eq_getElem next_lt
  have whole : config.innerLength.toFloat / config.innerLength.toFloat = 1 :=
    Binary64.div_self (Binary64.nonzero_toFloat pos (Nat.lt_succ_of_le countable))
  rw [points_side (List.getElem?_eq_getElem lt) target, getLast?_divide _ _ pos, whole]
  exact ⟨_, _, rfl, target, Point.interpolate_one (finite _ (List.getElem_mem lt))
    (finite _ (List.getElem_mem next_lt))⟩

end RouteConfig

end WaypointNav
