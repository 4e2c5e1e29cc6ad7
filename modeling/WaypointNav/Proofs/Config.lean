import WaypointNav.Config
import WaypointNav.Proofs.Except

/-! The check of settings, as the conditions that it stands for. -/
namespace WaypointNav.Config

def Positive (value : Float) : Prop :=
  value.isFinite = true ∧ value > 0

structure Usable (config : Config) : Prop where
  outer_length : 2 ≤ config.route.outerLength
  inner_length_pos : 0 < config.route.innerLength
  inner_length_le : config.route.innerLength ≤ config.route.innerSpace
  waypoint_count : config.route.outerWaypoints.length = config.route.outerLength - 1
  waypoint_finite : ∀ p ∈ config.route.outerWaypoints, p.isFinite = true
  obstacle_room : 0 < config.obstacles.capacity
  duplicate_radius : Positive config.obstacles.duplicateRadius
  min_range : Positive config.obstacles.minRange
  arrival_threshold : Positive config.navigation.arrivalThreshold
  cycle_hz : Positive config.navigation.cycleHz
  clearance : Positive config.optimizer.clearance
  max_spacing : Positive config.optimizer.maxSpacing

theorem Usable.outer_pos {config : Config} (usable : config.Usable) :
    0 < config.route.outerLength :=
  Nat.zero_lt_of_lt usable.outer_length

theorem positive_eq_ok_iff (setting : String) (value : Float) :
    positive setting value = .ok () ↔ Positive value := by
  unfold positive Positive
  split <;> simp_all

theorem reject_eq_ok_iff {bad : Prop} [Decidable bad] (flaw : Flaw)
    (rest : Unit → Except Flaw Unit) :
    (if bad then throw flaw >>= rest else rest ()) = .ok () ↔ ¬bad ∧ rest () = .ok () := by
  by_cases h : bad
  · simp [h, bind, Except.bind, throw, throwThe, MonadExceptOf.throw]
  · simp [h]

theorem check_eq_ok_iff (config : Config) : config.check = .ok () ↔ config.Usable := by
  unfold check
  simp only [reject_eq_ok_iff, check_bind_eq_ok_iff, positive_eq_ok_iff]
  constructor
  · rintro ⟨h₁, h₂, h₃, h₄, h₅, h₆, h₇, h₈, h₉, h₁₀, h₁₁, h₁₂⟩
    refine ⟨by omega, by omega, by omega, by omega, ?_, by omega, h₇, h₈, h₉, h₁₀, h₁₁, h₁₂⟩
    simpa using h₅
  · intro h
    have finite := h.waypoint_finite
    refine ⟨?_, ?_, ?_, ?_, ?_, ?_, h.duplicate_radius, h.min_range, h.arrival_threshold,
      h.cycle_hz, h.clearance, h.max_spacing⟩
    · exact Nat.not_lt.mpr h.outer_length
    · exact Nat.ne_of_gt h.inner_length_pos
    · exact Nat.not_lt.mpr h.inner_length_le
    · exact not_not_intro h.waypoint_count
    · simpa using finite
    · exact Nat.ne_of_gt h.obstacle_room

theorem validate_eq_ok_iff (config : Config) : config.validate = .ok () ↔ config.Usable := by
  rw [← check_eq_ok_iff]
  unfold validate
  cases config.check with
  | error flaw => exact iff_of_false nofun nofun
  | ok => exact iff_of_true rfl rfl

end WaypointNav.Config
