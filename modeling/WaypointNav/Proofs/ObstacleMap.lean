import WaypointNav.Detection

/-! The map only grows at its end, by as many obstacles as a batch is said to have added. -/
namespace WaypointNav

namespace ObstacleMap

inductive Inserted (map : ObstacleMap) (p : Point) : Insertion → ObstacleMap → Prop
  | duplicate (known : p.isFinite = false ∨ map.near p = true) : Inserted map p .duplicate map
  | full (finite : p.isFinite = true) (apart : map.near p = false) (full : map.capacity ≤ map.size) :
      Inserted map p .full { map with dropped := map.dropped + 1 }
  | added (finite : p.isFinite = true) (apart : map.near p = false) (room : map.size < map.capacity) :
      Inserted map p .added { map with obstacles := map.obstacles ++ [p] }

theorem inserted {map next : ObstacleMap} {p : Point} {outcome : Insertion}
    (step : map.insert p = (outcome, next)) : Inserted map p outcome next := by
  unfold insert at step
  split at step
  · next known =>
    cases step
    exact .duplicate (by simpa using known)
  · next new =>
    obtain ⟨finite, apart⟩ : p.isFinite = true ∧ map.near p = false := by simpa using new
    split at step
    · next full =>
      cases step
      exact .full finite apart full
    · next room =>
      cases step
      exact .added finite apart (Nat.lt_of_not_le room)

theorem obstacles_insert (map : ObstacleMap) (p : Point) :
    ∃ new, (map.insert p).2.obstacles = map.obstacles ++ new ∧
      new.length = (Tally.ofInsertion (map.insert p).1).added := by
  rcases step : map.insert p with ⟨outcome, next⟩
  cases inserted step with
  | duplicate | full => exact ⟨[], (List.append_nil _).symm, rfl⟩
  | added => exact ⟨[p], rfl, rfl⟩

theorem obstacles_ingestOne (map : ObstacleMap) (pose : Pose) (minRange : Float) (d : Detection) :
    ∃ new, (map.ingestOne pose minRange d).2.obstacles = map.obstacles ++ new ∧
      new.length = (map.ingestOne pose minRange d).1.added := by
  unfold ingestOne
  split
  · exact map.obstacles_insert (d.resolve pose minRange)
  · exact ⟨[], (List.append_nil _).symm, rfl⟩

theorem obstacles_ingest (map : ObstacleMap) (pose : Pose) (minRange : Float)
    (batch : List Detection) :
    ∃ new, (map.ingest pose minRange batch).2.obstacles = map.obstacles ++ new ∧
      new.length = (map.ingest pose minRange batch).1.added := by
  induction batch generalizing map with
  | nil => exact ⟨[], (List.append_nil _).symm, rfl⟩
  | cons d batch ih =>
    obtain ⟨first, first_eq, first_length⟩ := map.obstacles_ingestOne pose minRange d
    obtain ⟨rest, rest_eq, rest_length⟩ := ih (map.ingestOne pose minRange d).2
    refine ⟨first ++ rest, ?_, ?_⟩
    · rw [← List.append_assoc, ← first_eq]
      exact rest_eq
    · rw [List.length_append, first_length, rest_length]
      rfl

/-- A batch that adds nothing leaves the map's obstacles as they were. -/
theorem obstacles_ingest_of_added_eq_zero {map : ObstacleMap} {pose : Pose} {minRange : Float}
    {batch : List Detection} (h : (map.ingest pose minRange batch).1.added = 0) :
    (map.ingest pose minRange batch).2.obstacles = map.obstacles := by
  obtain ⟨new, eq, length⟩ := map.obstacles_ingest pose minRange batch
  rw [h, List.length_eq_zero_iff] at length
  rw [eq, length, List.append_nil]

theorem insert_empty {capacity : Nat} (room : 0 < capacity) (radius : Float) (p : Point) :
    (empty capacity radius).insert p =
      if p.isFinite then (.added, ⟨capacity, radius, [p], 0⟩)
      else (.duplicate, empty capacity radius) := by
  cases finite : p.isFinite with
  | false => simp [insert, finite]
  | true => simp [insert, finite, near, size, empty, Nat.ne_of_gt room]

theorem added_ingest_empty {capacity : Nat} (room : 0 < capacity) (radius : Float) (pose : Pose)
    (minRange : Float) (d : Detection) :
    ((empty capacity radius).ingest pose minRange [d]).1.added =
      (d.isFinite && (d.resolve pose minRange).isFinite).toNat := by
  change ((empty capacity radius).ingestOne pose minRange d).1.added = _
  cases finite : d.isFinite with
  | false => simp [ingestOne, finite]
  | true =>
    simp only [ingestOne, finite, insert_empty room, if_true, Bool.true_and]
    cases (d.resolve pose minRange).isFinite <;> rfl

end ObstacleMap

end WaypointNav
