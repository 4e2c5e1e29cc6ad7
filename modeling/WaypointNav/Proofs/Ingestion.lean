import WaypointNav.Navigator
import WaypointNav.Proofs.ObstacleMap

/-! Batches add up. Where a list of detections is cut into batches makes no difference, each detection is
counted exactly once, and a malformed one is only counted. -/
namespace WaypointNav

namespace Tally

@[simp] theorem added_add (a b : Tally) : (a + b).added = a.added + b.added := rfl

@[simp] theorem duplicates_add (a b : Tally) : (a + b).duplicates = a.duplicates + b.duplicates := rfl

@[simp] theorem dropped_add (a b : Tally) : (a + b).dropped = a.dropped + b.dropped := rfl

theorem add_assoc (a b c : Tally) : a + b + c = a + (b + c) := by
  change Tally.mk _ _ _ = Tally.mk _ _ _
  simp [Nat.add_assoc]

theorem add_comm (a b : Tally) : a + b = b + a := by
  change Tally.mk _ _ _ = Tally.mk _ _ _
  simp [Nat.add_comm]

@[simp] theorem empty_add (a : Tally) : ({} : Tally) + a = a := by
  obtain ⟨added, duplicates, dropped⟩ := a
  change Tally.mk _ _ _ = Tally.mk _ _ _
  simp

end Tally

namespace ObstacleMap

structure Accounted (map next : ObstacleMap) (tally : Tally) (detections : Nat) : Prop where
  count_eq : tally.added + tally.duplicates + tally.dropped = detections
  size_eq : next.size = map.size + tally.added
  dropped_eq : next.dropped = map.dropped + tally.dropped

variable {map mid next : ObstacleMap} {first second : Tally} {m n : Nat}

theorem Accounted.none (map : ObstacleMap) : Accounted map map {} 0 :=
  ⟨rfl, rfl, rfl⟩

theorem Accounted.add (before : Accounted map mid first m) (after : Accounted mid next second n) :
    Accounted map next (first + second) (m + n) := by
  obtain ⟨count, size, dropped⟩ := before
  obtain ⟨count', size', dropped'⟩ := after
  constructor
  · simp only [Tally.added_add, Tally.duplicates_add, Tally.dropped_add]
    omega
  · rw [size', size, Tally.added_add, Nat.add_assoc]
  · rw [dropped', dropped, Tally.dropped_add, Nat.add_assoc]

theorem accounted_insert (map : ObstacleMap) (p : Point) :
    Accounted map (map.insert p).2 (.ofInsertion (map.insert p).1) 1 := by
  rcases step : map.insert p with ⟨outcome, next⟩
  cases inserted step with
  | duplicate | full => exact ⟨rfl, rfl, rfl⟩
  | added => exact ⟨rfl, List.length_append, rfl⟩

variable (pose : Pose) (minRange : Float)

theorem ingestOne_of_malformed (map : ObstacleMap) {d : Detection} (malformed : d.isFinite = false) :
    map.ingestOne pose minRange d = ({ duplicates := 1 }, map) := by
  unfold ingestOne
  rw [malformed]
  rfl

theorem accounted_ingestOne (map : ObstacleMap) (d : Detection) :
    Accounted map (map.ingestOne pose minRange d).2 (map.ingestOne pose minRange d).1 1 := by
  cases finite : d.isFinite with
  | false =>
    rw [ingestOne_of_malformed pose minRange map finite]
    exact ⟨rfl, rfl, rfl⟩
  | true =>
    unfold ingestOne
    rw [if_pos finite]
    exact map.accounted_insert (d.resolve pose minRange)

theorem ingest_cons (map : ObstacleMap) (d : Detection) (batch : List Detection) :
    map.ingest pose minRange (d :: batch) =
      ((map.ingestOne pose minRange d).1 +
          ((map.ingestOne pose minRange d).2.ingest pose minRange batch).1,
        ((map.ingestOne pose minRange d).2.ingest pose minRange batch).2) := rfl

theorem accounted_ingest (map : ObstacleMap) (batch : List Detection) :
    Accounted map (map.ingest pose minRange batch).2 (map.ingest pose minRange batch).1
      batch.length := by
  induction batch generalizing map with
  | nil => exact .none map
  | cons d batch ih =>
    rw [List.length_cons, Nat.add_comm]
    exact (map.accounted_ingestOne pose minRange d).add (ih (map.ingestOne pose minRange d).2)

theorem ingest_append (map : ObstacleMap) (first second : List Detection) :
    map.ingest pose minRange (first ++ second) =
      ((map.ingest pose minRange first).1 +
          ((map.ingest pose minRange first).2.ingest pose minRange second).1,
        ((map.ingest pose minRange first).2.ingest pose minRange second).2) := by
  induction first generalizing map with
  | nil => rw [List.nil_append, ingest, Tally.empty_add]
  | cons d first ih => rw [List.cons_append, ingest_cons, ih, ingest_cons, Tally.add_assoc]

/-- Malformed detections are counted as duplicates and leave the others to what they find. -/
theorem ingest_filter (map : ObstacleMap) (batch : List Detection) :
    map.ingest pose minRange batch =
      ((map.ingest pose minRange (batch.filter (·.isFinite))).1 +
          { duplicates := batch.countP (!·.isFinite) },
        (map.ingest pose minRange (batch.filter (·.isFinite))).2) := by
  induction batch generalizing map with
  | nil => rfl
  | cons d batch ih =>
    cases finite : d.isFinite with
    | false =>
      rw [ingest_cons, ingestOne_of_malformed pose minRange map finite, ih,
        List.filter_cons_of_neg (by simp [finite]), List.countP_cons_of_pos (by simp [finite]),
        Tally.add_comm, Tally.add_assoc]
      rfl
    | true =>
      rw [ingest_cons, ih, List.filter_cons_of_pos finite, ingest_cons, Tally.add_assoc,
        List.countP_cons_of_neg (by simp [finite])]

end ObstacleMap

namespace Navigator

variable {σ : Type}

theorem ingest_append (nav : Navigator σ) (pose : Pose) (first second : List Detection) :
    nav.ingest (first ++ second) pose =
      (((nav.ingest first pose).1.ingest second pose).1,
        (nav.ingest first pose).2 + ((nav.ingest first pose).1.ingest second pose).2) := by
  have joined := nav.map.ingest_append pose nav.config.obstacles.minRange first second
  unfold ingest
  simp only [joined, Tally.added_add, Nat.add_pos_iff_pos_or_pos, Bool.decide_or, Bool.or_assoc]

theorem ingest_filter (nav : Navigator σ) (pose : Pose) (batch : List Detection) :
    nav.ingest batch pose =
      ((nav.ingest (batch.filter (·.isFinite)) pose).1,
        (nav.ingest (batch.filter (·.isFinite)) pose).2 +
          { duplicates := batch.countP (!·.isFinite) }) := by
  have filtered := nav.map.ingest_filter pose nav.config.obstacles.minRange batch
  unfold ingest
  rw [filtered]
  rfl

/-- Two batches seen from one pose, taken in one after the other, do what the one joined batch does, and
their tallies add up to its tally. Each detection is counted once: as added if the map has grown by it, as
dropped if it found the map full, else as a duplicate. The map is marked as changed if it was, or if anything
was added. Leaving the malformed detections out changes nothing but the number of duplicates, by their number. -/
theorem batches_add_up (nav : Navigator σ) (pose : Pose) :
    (∀ first second, ∃ mid last before after,
      nav.ingest first pose = (mid, before) ∧ mid.ingest second pose = (last, after) ∧
      nav.ingest (first ++ second) pose = (last, before + after)) ∧
    ∀ batch, ∃ last tally, nav.ingest batch pose = (last, tally) ∧
      tally.added + tally.duplicates + tally.dropped = batch.length ∧
      last.map.size = nav.map.size + tally.added ∧
      last.map.dropped = nav.map.dropped + tally.dropped ∧
      last.mapChanged = (nav.mapChanged || decide (0 < tally.added)) ∧
      ∃ kept, nav.ingest (batch.filter (·.isFinite)) pose = (last, kept) ∧
        tally = kept + { duplicates := batch.countP (!·.isFinite) } := by
  refine ⟨?_, ?_⟩
  · intro first second
    exact ⟨_, _, _, _, rfl, rfl, nav.ingest_append pose first second⟩
  · intro batch
    have accounted := nav.map.accounted_ingest pose nav.config.obstacles.minRange batch
    have filtered := nav.ingest_filter pose batch
    have same : (nav.ingest batch pose).1 = (nav.ingest (batch.filter (·.isFinite)) pose).1 := by
      rw [filtered]
    refine ⟨(nav.ingest batch pose).1, _, rfl, accounted.count_eq, accounted.size_eq,
      accounted.dropped_eq, rfl, _, ?_, congrArg Prod.snd filtered⟩
    rw [same]

end Navigator

end WaypointNav
