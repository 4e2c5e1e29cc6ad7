import WaypointNav.Limits

/-! Blocks of memory. What fits is given, anything longer is a crash. -/
namespace WaypointNav.Limits

variable {config : RouteConfig} {points : Nat}

theorem reserve_eq_ok (le : points ≤ maxPoints) : reserve points = .ok () := by
  unfold reserve require
  rw [if_pos (decide_eq_true le)]

theorem reserve_of_lt (long : maxPoints < points) : reserve points = .error .crashed := by
  unfold reserve require
  rw [if_neg (by simpa using long)]

theorem reserveLeg_eq_ok (inner : config.innerLength ≤ maxPoints)
    (space : config.innerSpace ≤ maxPoints) : reserveLeg config = .ok () := by
  unfold reserveLeg
  rw [reserve_eq_ok inner, reserve_eq_ok space]
  rfl

theorem reserveLeg_of_lt (long : maxPoints < config.innerLength ∨ maxPoints < config.innerSpace) :
    reserveLeg config = .error .crashed := by
  unfold reserveLeg
  by_cases inner : maxPoints < config.innerLength
  · rw [reserve_of_lt inner]
    rfl
  · rw [reserve_eq_ok (Nat.le_of_not_lt inner), reserve_of_lt (long.resolve_left inner)]
    rfl

end WaypointNav.Limits
