import WaypointNav.Proofs.ObstacleMap.Separation
import WaypointNav.Proofs.Point

/-! What a map has once said about a position it keeps saying: a known position stays known, and one that
found the map full finds it full again. So every position put to a map is known to it, unless it was dropped. -/
namespace WaypointNav.ObstacleMap

structure Extends (map later : ObstacleMap) : Prop where
  capacity_eq : later.capacity = map.capacity
  radius_eq : later.radius = map.radius
  begins : map.obstacles <+: later.obstacles

variable {capacity : Nat} {radius : Float} {outcomes : List Insertion} {map next later : ObstacleMap}
  {p : Point} {outcome : Insertion}

theorem Extends.refl (map : ObstacleMap) : map.Extends map :=
  ⟨rfl, rfl, List.prefix_refl _⟩

theorem Extends.trans (first : map.Extends next) (second : next.Extends later) : map.Extends later :=
  ⟨second.capacity_eq.trans first.capacity_eq, second.radius_eq.trans first.radius_eq,
    first.begins.trans second.begins⟩

theorem extends_insert (step : map.insert p = (outcome, next)) : map.Extends next := by
  cases inserted step with
  | duplicate => exact .refl map
  | full => exact ⟨rfl, rfl, List.prefix_refl _⟩
  | added => exact ⟨rfl, rfl, List.prefix_append _ _⟩

theorem extends_insertAll (map : ObstacleMap) (ps : List Point) :
    map.Extends (map.insertAll ps).2 := by
  induction ps generalizing map with
  | nil => exact .refl map
  | cons p ps ih => exact (extends_insert rfl).trans (ih (map.insert p).2)

theorem Extends.near (extended : map.Extends later) (known : map.near p = true) :
    later.near p = true := by
  unfold ObstacleMap.near at known ⊢
  rw [List.any_eq_true] at known ⊢
  obtain ⟨obstacle, mem, close⟩ := known
  rw [extended.radius_eq]
  exact ⟨obstacle, extended.begins.subset mem, close⟩

/-- There is nothing left to add to a full map. -/
theorem Extends.obstacles_eq (extended : map.Extends later) (full : map.capacity ≤ map.size)
    (fits : later.size ≤ later.capacity) : later.obstacles = map.obstacles := by
  rw [extended.capacity_eq] at fits
  exact (extended.begins.eq_of_length_le (Nat.le_trans fits full)).symm

theorem near_congr (radius_eq : later.radius = map.radius) (obstacles_eq : later.obstacles = map.obstacles) :
    later.near p = map.near p := by
  unfold near
  rw [radius_eq, obstacles_eq]

theorem length_insertAll (map : ObstacleMap) (ps : List Point) :
    (map.insertAll ps).1.length = ps.length := by
  induction ps generalizing map with
  | nil => rfl
  | cons p ps ih => exact congrArg Nat.succ (ih (map.insert p).2)

/-- A position that was put and not dropped is known from then on: a new one lies at no distance from
itself, which the radius exceeds. -/
theorem near_of_inserted (step : map.insert p = (outcome, next)) (positive : 0 < map.radius)
    (finite : p.isFinite = true) (kept : outcome ≠ .full) : next.near p = true := by
  cases inserted step with
  | duplicate known =>
    rcases known with infinite | near
    · rw [finite] at infinite
      cases infinite
    · exact near
  | full => exact absurd rfl kept
  | added =>
    apply near_of_distance_lt (List.mem_append_right _ (List.mem_singleton_self p))
    rwa [Point.distance_self finite]

theorem near_of_mem_zip (map : ObstacleMap) (ps : List Point) (positive : 0 < map.radius)
    (mem : (p, outcome) ∈ ps.zip (map.insertAll ps).1) (finite : p.isFinite = true)
    (kept : outcome ≠ .full) : (map.insertAll ps).2.near p = true := by
  induction ps generalizing map with
  | nil => cases mem
  | cons q ps ih =>
    rw [insertAll, List.zip_cons_cons, List.mem_cons] at mem
    rcases mem with head | tail
    · cases head
      exact (extends_insertAll _ ps).near (near_of_inserted rfl positive finite kept)
    · have extended : map.Extends (map.insert q).2 := extends_insert rfl
      rw [← extended.radius_eq] at positive
      exact ih (map.insert q).2 positive tail

theorem Sound.exists_distance_lt (sound : Sound capacity radius outcomes map)
    (finite : p.isFinite = true) (known : map.near p = true) :
    ∃ obstacle ∈ map.obstacles, obstacle.distance p < radius := by
  unfold near at known
  rw [List.any_eq_true] at known
  obtain ⟨obstacle, mem, close⟩ := known
  rw [Bool.or_eq_true_iff, sound.radius_eq,
    Point.isNaN_distance (sound.finite obstacle mem) finite] at close
  rcases close with lt | nan
  · exact ⟨obstacle, mem, of_decide_eq_true lt⟩
  · cases nan

theorem insert_again (step : map.insert p = (outcome, next)) (positive : 0 < map.radius)
    (kept : outcome ≠ .full) (extended : next.Extends later) :
    later.insert p = (.duplicate, later) := by
  by_cases finite : p.isFinite = true
  · exact insert_of_near (extended.near (near_of_inserted step positive finite kept))
  · unfold insert
    rw [Bool.eq_false_iff.mpr finite, Bool.not_false, Bool.true_or, if_pos rfl]

theorem insert_full_again (step : map.insert p = (.full, next)) (extended : next.Extends later)
    (fits : later.size ≤ later.capacity) : (later.insert p).1 = .full := by
  cases inserted step with
  | full finite apart full =>
    have obstacles_eq := extended.obstacles_eq full fits
    have later_apart := (near_congr extended.radius_eq obstacles_eq).trans apart
    have later_full : later.capacity ≤ later.size := by
      rw [extended.capacity_eq, size, obstacles_eq]
      exact full
    unfold insert
    rw [finite, later_apart, if_neg (by decide), if_pos later_full]

/-- After any insertions each finite position put to the map lies within the radius of an obstacle, save
those counted as dropped. Putting a position once more, after whatever others, changes nothing and finds a
duplicate; or finds the map full, if it was found full the first time. -/
theorem none_lost (capacity : Nat) (radius : Float) (positive : 0 < radius) (ps : List Point) :
    ∃ outcomes map, (empty capacity radius).insertAll ps = (outcomes, map) ∧
      outcomes.length = ps.length ∧ map.dropped = outcomes.count .full ∧
      (∀ p outcome, (p, outcome) ∈ ps.zip outcomes → p.isFinite = true → outcome ≠ .full →
        map.near p = true ∧ ∃ known ∈ map.obstacles, known.distance p < radius) ∧
      ∀ p, ∃ outcome next, map.insert p = (outcome, next) ∧
        ∀ others, ∃ between later, next.insertAll others = (between, later) ∧
          (outcome = .added ∨ outcome = .duplicate → later.insert p = (.duplicate, later)) ∧
          (outcome = .full → (later.insert p).1 = .full) := by
  have sound := (sound_empty : Sound capacity radius _ _).insertAll ps
  rw [List.nil_append] at sound
  refine ⟨_, _, rfl, length_insertAll _ ps, sound.dropped_eq, ?_, ?_⟩
  · intro p outcome mem finite kept
    have near := near_of_mem_zip (empty capacity radius) ps positive mem finite kept
    exact ⟨near, sound.exists_distance_lt finite near⟩
  · intro p
    rcases step : ObstacleMap.insert _ p with ⟨outcome, next⟩
    refine ⟨outcome, next, rfl, ?_⟩
    intro others
    have extended := extends_insertAll next others
    refine ⟨_, _, rfl, ?_, ?_⟩
    · intro kept
      rw [← sound.radius_eq] at positive
      refine insert_again step positive ?_ extended
      rintro rfl
      rcases kept with added | duplicate
      · cases added
      · cases duplicate
    · rintro rfl
      have later_sound := (sound.insert step).insertAll others
      refine insert_full_again step extended ?_
      rw [later_sound.capacity_eq]
      exact later_sound.size_le

/-- In a map with room for one obstacle, the first of three positions is the one kept. -/
theorem none_lost_crowded :
    (0 : Float) < 1 ∧
      (((empty 1 1).insertAll [⟨3, 0⟩, ⟨3, 0.5⟩, ⟨0, 4⟩]).1 = [.added, .duplicate, .full]) ∧
      ∃ known ∈ ((empty 1 1).insertAll [⟨3, 0⟩, ⟨3, 0.5⟩, ⟨0, 4⟩]).2.obstacles,
        known.distance ⟨3, 0.5⟩ < 1 := by
  have outcomes_eq : ((empty 1 1).insertAll [⟨3, 0⟩, ⟨3, 0.5⟩, ⟨0, 4⟩]).1 = [.added, .duplicate, .full] := by
    decide +kernel
  have positive : (0 : Float) < 1 := by decide +kernel
  obtain ⟨outcomes, map, run, -, -, known, -⟩ :=
    none_lost 1 1 positive [⟨3, 0⟩, ⟨3, 0.5⟩, ⟨0, 4⟩]
  rw [run] at outcomes_eq ⊢
  refine ⟨positive, outcomes_eq, ?_⟩
  have mem : ((⟨3, 0.5⟩ : Point), Insertion.duplicate) ∈
      [(⟨3, 0⟩ : Point), ⟨3, 0.5⟩, ⟨0, 4⟩].zip outcomes := by
    change outcomes = _ at outcomes_eq
    rw [outcomes_eq]
    exact List.mem_cons_of_mem _ List.mem_cons_self
  exact (known _ _ mem (by decide +kernel) (by decide)).2

end WaypointNav.ObstacleMap
