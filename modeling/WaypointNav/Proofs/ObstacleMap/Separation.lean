import WaypointNav.Proofs.ObstacleMap

/-! Whatever positions are put to a map, it stays within its capacity, its obstacles stay apart, and each
position that is new is either at the end of the list or among those counted as dropped. -/
namespace WaypointNav.ObstacleMap

def insertAll (map : ObstacleMap) : List Point → List Insertion × ObstacleMap
  | [] => ([], map)
  | p :: ps =>
    let (outcome, map) := map.insert p
    let (outcomes, map) := map.insertAll ps
    (outcome :: outcomes, map)

structure Sound (capacity : Nat) (radius : Float) (outcomes : List Insertion) (map : ObstacleMap) :
    Prop where
  capacity_eq : map.capacity = capacity
  radius_eq : map.radius = radius
  size_le : map.size ≤ capacity
  finite : ∀ p ∈ map.obstacles, p.isFinite = true
  apart : map.obstacles.Pairwise fun a b => ¬a.distance b < radius ∧ (a.distance b).isNaN = false
  size_eq : map.size = outcomes.count .added
  dropped_eq : map.dropped = outcomes.count .full

theorem near_eq_false_iff (map : ObstacleMap) (p : Point) :
    map.near p = false ↔
      ∀ known ∈ map.obstacles, ¬known.distance p < map.radius ∧ (known.distance p).isNaN = false := by
  simp [near]

theorem near_of_distance_lt {map : ObstacleMap} {p known : Point} (mem : known ∈ map.obstacles)
    (lt : known.distance p < map.radius) : map.near p = true := by
  unfold near
  rw [List.any_eq_true]
  exact ⟨known, mem, Bool.or_eq_true_iff.mpr (.inl (decide_eq_true lt))⟩

/-- A known position is not looked at any further, whether there is room or not. -/
theorem insert_of_near {map : ObstacleMap} {p : Point} (known : map.near p = true) :
    map.insert p = (.duplicate, map) := by
  unfold insert
  rw [known, Bool.or_true, if_pos rfl]

variable {capacity : Nat} {radius : Float} {outcomes : List Insertion} {map next : ObstacleMap}
  {p : Point} {outcome : Insertion}

theorem sound_empty : Sound capacity radius [] (empty capacity radius) :=
  ⟨rfl, rfl, Nat.zero_le _, nofun, .nil, rfl, rfl⟩

theorem Sound.insert (sound : Sound capacity radius outcomes map)
    (step : map.insert p = (outcome, next)) :
    Sound capacity radius (outcomes ++ [outcome]) next := by
  have size_eq := sound.size_eq
  have dropped_eq := sound.dropped_eq
  cases inserted step with
  | duplicate =>
    refine ⟨sound.capacity_eq, sound.radius_eq, sound.size_le, sound.finite, sound.apart, ?_, ?_⟩
    · rwa [List.count_append]
    · rwa [List.count_append]
  | full =>
    refine ⟨sound.capacity_eq, sound.radius_eq, sound.size_le, sound.finite, sound.apart, ?_, ?_⟩
    · rwa [List.count_append]
    · rw [List.count_append, ← dropped_eq]
      rfl
  | added finite apart room =>
    have new_apart := (map.near_eq_false_iff p).mp apart
    rw [sound.radius_eq] at new_apart
    rw [sound.capacity_eq] at room
    have grown : (map.obstacles ++ [p]).length = map.size + 1 := List.length_append
    refine ⟨sound.capacity_eq, sound.radius_eq, ?_, ?_, ?_, ?_, ?_⟩
    · exact Nat.le_trans (Nat.le_of_eq grown) room
    · intro q mem
      rcases List.mem_append.mp mem with old | new
      · exact sound.finite q old
      · rwa [List.mem_singleton.mp new]
    -- Only the pairs with the new obstacle are new, and it is the later one in each.
    · rw [List.pairwise_append]
      refine ⟨sound.apart, List.pairwise_singleton _ _, ?_⟩
      intro known mem q new
      rw [List.mem_singleton.mp new]
      exact new_apart known mem
    · rw [List.count_append, ← size_eq]
      exact grown
    · rwa [List.count_append]

theorem Sound.insertAll (sound : Sound capacity radius outcomes map) (ps : List Point) :
    Sound capacity radius (outcomes ++ (map.insertAll ps).1) (map.insertAll ps).2 := by
  induction ps generalizing outcomes map with
  | nil => rwa [ObstacleMap.insertAll, List.append_nil]
  | cons p ps ih =>
    rw [ObstacleMap.insertAll, List.append_cons]
    exact ih (sound.insert rfl)

/-- After any insertions the map is within its capacity, its obstacles are finite and pairwise apart, and
its two counts are those of the outcomes. The next insertion puts a new obstacle at the end or leaves the
list alone; it finds the map full only if it is, and never drops a position near a known one. -/
theorem obstacles_stay_apart (capacity : Nat) (radius : Float) (ps : List Point) :
    ∃ outcomes map, (empty capacity radius).insertAll ps = (outcomes, map) ∧
      map.size ≤ capacity ∧
      (∀ p ∈ map.obstacles, p.isFinite = true) ∧
      (map.obstacles.Pairwise fun a b => ¬a.distance b < radius ∧ (a.distance b).isNaN = false) ∧
      map.size = outcomes.count .added ∧ map.dropped = outcomes.count .full ∧
      ∀ p, ∃ outcome next, map.insert p = (outcome, next) ∧
        next.obstacles = map.obstacles ++ (if outcome = .added then [p] else []) ∧
        (outcome = .full → map.size = capacity) ∧
        ((∃ known ∈ map.obstacles, known.distance p < radius) → outcome = .duplicate ∧ next = map) := by
  have sound := (sound_empty : Sound capacity radius _ _).insertAll ps
  rw [List.nil_append] at sound
  refine ⟨_, _, rfl, sound.size_le, sound.finite, sound.apart, sound.size_eq, sound.dropped_eq, ?_⟩
  intro p
  rcases step : ObstacleMap.insert _ p with ⟨outcome, next⟩
  refine ⟨outcome, next, rfl, ?_, ?_, ?_⟩
  · cases inserted step with
    | duplicate | full => exact (List.append_nil _).symm
    | added => rfl
  · rintro rfl
    cases inserted step with
    | full finite apart full =>
      rw [sound.capacity_eq] at full
      exact Nat.le_antisymm sound.size_le full
  · rintro ⟨known, mem, lt⟩
    rw [← sound.radius_eq] at lt
    rw [insert_of_near (near_of_distance_lt mem lt)] at step
    cases step
    exact ⟨rfl, rfl⟩

end WaypointNav.ObstacleMap
