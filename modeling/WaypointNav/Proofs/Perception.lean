import WaypointNav.Perception
import WaypointNav.Proofs.Angle

/-! A view of half a turn to each side has no blind seam: no bearing is out of view, also the one straight
astern, where bearings jump from one end to the other. -/
namespace WaypointNav

namespace Angle

/-- A NaN is also in view. -/
theorem wrap_in_view {halfView : Float} (all_round : pi ≤ halfView) (angle : Float) :
    ¬(wrap angle).abs > halfView := by
  obtain ⟨pi_finite, -, -⟩ := pi_spec
  rcases wrap_spec angle with nan | bounded
  · exact Binary64.not_lt_of_isNaN (Binary64.isNaN_abs nan) halfView
  · have abs_le := (Binary64.abs_le_iff pi_finite).mpr bounded
    have abs_finite := (Binary64.isFinite_abs (wrap angle)).trans bounded.finite
    exact Binary64.not_lt_of_le_of_le pi_finite abs_finite abs_le all_round

end Angle

namespace Perception

variable (sensor : Perception) (pose : Pose)

def InRange (obstacle : Point) : Prop :=
  ¬pose.position.distance obstacle > sensor.range

instance : DecidablePred (sensor.InRange pose) :=
  fun _ => inferInstanceAs (Decidable ¬_)

def sighting (obstacle : Point) : Detection :=
  let distance := pose.position.distance obstacle
  let offset := obstacle - pose.position
  let heading := Angle.wrap (Float.atan2 offset.x offset.y - pose.yaw)
  let spread := sensor.spread distance
  ⟨distance, Angle.toDegrees (heading - spread), Angle.toDegrees (heading + spread)⟩

variable {sensor}

theorem glimpse_all_round (all_round : Angle.pi ≤ sensor.halfView) (obstacle : Point) :
    sensor.glimpse pose obstacle =
      if sensor.InRange pose obstacle then some (sensor.sighting pose obstacle) else none := by
  unfold glimpse
  dsimp only
  rw [if_neg (Angle.wrap_in_view all_round _)]
  exact (ite_not ..).symm

/-- Every obstacle in range is detected once, and no other one. -/
theorem observe_all_round (all_round : Angle.pi ≤ sensor.halfView) :
    sensor.observe pose =
      (sensor.obstacles.filter fun obstacle => sensor.InRange pose obstacle).map
        (sensor.sighting pose) := by
  rw [observe, ← List.filterMap_eq_map', List.filterMap_filter]
  refine List.filterMap_congr fun obstacle _ => ?_
  simp only [glimpse_all_round pose all_round, decide_eq_true_eq]

def lookout : Perception :=
  .ofSimulation { obstacles := [⟨0, -1⟩, ⟨0, 10⟩], fieldOfView := 360 }

theorem observe_astern :
    Angle.pi ≤ lookout.halfView ∧
      lookout.observe ⟨⟨0, 0⟩, 0⟩ = [lookout.sighting ⟨⟨0, 0⟩, 0⟩ ⟨0, -1⟩] := by
  have all_round : Angle.pi ≤ lookout.halfView := by decide +kernel
  refine ⟨all_round, ?_⟩
  have near : lookout.InRange ⟨⟨0, 0⟩, 0⟩ ⟨0, -1⟩ := by decide +kernel
  have far : ¬lookout.InRange ⟨⟨0, 0⟩, 0⟩ ⟨0, 10⟩ := by decide +kernel
  have obstacles_eq : lookout.obstacles = [⟨0, -1⟩, ⟨0, 10⟩] := rfl
  rw [observe_all_round ⟨⟨0, 0⟩, 0⟩ all_round, obstacles_eq,
    List.filter_cons_of_pos (by simpa using near), List.filter_cons_of_neg (by simpa using far),
    List.filter_nil, List.map_singleton]

end Perception

end WaypointNav
