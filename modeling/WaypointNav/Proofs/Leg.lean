import WaypointNav.Leg

/-! A leg is known by its capacity and its valid points. Installing a path keeps the one and replaces
the other, whatever the slots held before. -/
namespace WaypointNav.Leg

def filled (capacity : Nat) (points : List Point) : Leg :=
  ⟨points ++ List.replicate (capacity - points.length) .origin, points.length⟩

/-- The points fit, and the slots past them hold the origin. -/
def Padded (leg : Leg) : Prop :=
  leg = filled leg.capacity leg.points

theorem install_of_le {leg : Leg} {points : List Point} (h : points.length ≤ leg.capacity) :
    leg.install points = .ok (filled leg.capacity points) := by
  unfold install
  rw [if_neg (Nat.not_lt.mpr h)]
  rfl

theorem install_of_lt {leg : Leg} {points : List Point} (h : leg.capacity < points.length) :
    leg.install points = .error (.legOverflow points.length leg.capacity) := by
  unfold install
  rw [if_pos h]

@[simp] theorem size_filled (capacity : Nat) (points : List Point) :
    (filled capacity points).size = points.length := rfl

@[simp] theorem points_filled (capacity : Nat) (points : List Point) :
    (filled capacity points).points = points := by
  simp [Leg.points, filled]

theorem capacity_filled {capacity : Nat} {points : List Point} (h : points.length ≤ capacity) :
    (filled capacity points).capacity = capacity := by
  simp only [Leg.capacity, filled, List.length_append, List.length_replicate]
  omega

theorem capacity_empty (capacity : Nat) : (empty capacity).capacity = capacity := by
  simp [empty, Leg.capacity]

theorem padded_filled {capacity : Nat} {points : List Point} (h : points.length ≤ capacity) :
    (filled capacity points).Padded := by
  unfold Padded
  rw [points_filled, capacity_filled h]

theorem ofPoints_of_le {capacity : Nat} {points : List Point} (h : points.length ≤ capacity) :
    ofPoints capacity points = .ok (filled capacity points) := by
  unfold ofPoints
  rw [install_of_le (by rwa [capacity_empty]), capacity_empty]

theorem ofPoints_of_lt {capacity : Nat} {points : List Point} (h : capacity < points.length) :
    ofPoints capacity points = .error (.legOverflow points.length capacity) := by
  unfold ofPoints
  rw [install_of_lt (by rwa [capacity_empty]), capacity_empty]

structure Holds (leg : Leg) (capacity : Nat) (points : List Point) : Prop where
  capacity_eq : leg.capacity = capacity
  size_eq : leg.size = points.length
  points_eq : leg.points = points
  tail : ∀ slot, points.length ≤ slot → slot < capacity → leg.slot? slot = some .origin

theorem holds_filled {capacity : Nat} {points : List Point} (h : points.length ≤ capacity) :
    (filled capacity points).Holds capacity points := by
  refine ⟨capacity_filled h, size_filled capacity points, points_filled capacity points, ?_⟩
  intro slot past lt
  unfold slot? filled
  rw [List.getElem?_append_right past, List.getElem?_replicate, if_pos (by omega)]

theorem length_points_le (leg : Leg) : leg.points.length ≤ leg.capacity :=
  List.length_take_le' _ _

theorem Padded.length_points {leg : Leg} (h : leg.Padded) : leg.points.length = leg.size := by
  have := congrArg Leg.size h
  rw [size_filled] at this
  exact this.symm

theorem Padded.size_le_capacity {leg : Leg} (h : leg.Padded) : leg.size ≤ leg.capacity := by
  rw [← h.length_points]
  exact leg.length_points_le

theorem Padded.exists_last {leg : Leg} (h : leg.Padded) (pos : 0 < leg.size) :
    ∃ last, leg.points.getLast? = some last := by
  rw [← h.length_points, List.length_pos_iff] at pos
  exact ⟨_, List.getLast?_eq_some_getLast pos⟩

theorem Padded.get?_of_lt {leg : Leg} (h : leg.Padded) {index : Nat} (lt : index < leg.size) :
    ∃ target, leg.get? index = some target := by
  rw [← h.length_points] at lt
  exact ⟨leg.points[index], List.getElem?_eq_getElem lt⟩

end WaypointNav.Leg
