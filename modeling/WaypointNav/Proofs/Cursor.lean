import WaypointNav.Cursor
import WaypointNav.Proofs.Replanner

/-! How the cursor's indices move: around the polygon, along the active leg, and back onto the leg when an
answer of the optimizer shortens it. -/
namespace WaypointNav.Cursor

section Indices

variable (cursor : Cursor)

@[simp] theorem inner_advanceOuter (count : Nat) : (cursor.advanceOuter count).inner = 0 := by
  unfold advanceOuter
  split <;> rfl

theorem outer_advanceOuter_lt {count : Nat} (pos : 0 < count) :
    (cursor.advanceOuter count).outer < count := by
  unfold advanceOuter
  split
  · assumption
  · exact pos

theorem outer_advanceOuter_eq_mod {cursor : Cursor} {count : Nat} (lt : cursor.outer < count) :
    (cursor.advanceOuter count).outer = (cursor.outer + 1) % count := by
  unfold advanceOuter
  split
  · next ahead => exact (Nat.mod_eq_of_lt ahead).symm
  · next last =>
    obtain rfl : cursor.outer + 1 = count := by omega
    exact (Nat.mod_self _).symm

/-- Where an outer advance leads is told by the outer index alone. -/
theorem advanceOuter_congr (first second : Cursor) (same : first.outer = second.outer) (count : Nat) :
    (first.advanceOuter count).outer = (second.advanceOuter count).outer ∧
      (first.advanceOuter count).leg = (second.advanceOuter count).leg := by
  unfold advanceOuter
  rw [same]
  split <;> exact ⟨rfl, rfl⟩

theorem leg_advanceOuter_lt {count : Nat} (pos : 0 < count) :
    (cursor.advanceOuter count).leg < count := by
  unfold advanceOuter
  split
  · next lt => exact Nat.lt_of_succ_lt lt
  · exact Nat.sub_lt pos Nat.one_pos

/-- The active leg is the one that departs from the waypoint aimed at before. -/
theorem leg_advanceOuter_eq {cursor : Cursor} {count : Nat} (lt : cursor.outer < count) :
    (cursor.advanceOuter count).leg = cursor.outer := by
  unfold advanceOuter
  split
  · rfl
  · next last =>
    change count - 1 = cursor.outer
    omega

theorem leg_advanceOuter_succ_mod {count : Nat} (pos : 0 < count) :
    ((cursor.advanceOuter count).leg + 1) % count = (cursor.advanceOuter count).outer := by
  unfold advanceOuter
  split
  · next lt => exact Nat.mod_eq_of_lt lt
  · change (count - 1 + 1) % count = 0
    rw [Nat.sub_add_cancel pos, Nat.mod_self]

@[simp] theorem outer_advanceInner (size : Nat) :
    (cursor.advanceInner size).outer = cursor.outer := by
  unfold advanceInner
  split <;> rfl

@[simp] theorem leg_advanceInner (size : Nat) : (cursor.advanceInner size).leg = cursor.leg := by
  unfold advanceInner
  split <;> rfl

@[simp] theorem valid_advanceInner (size : Nat) :
    (cursor.advanceInner size).valid = cursor.valid := by
  unfold advanceInner
  split <;> rfl

theorem inner_le_advanceInner (size : Nat) : cursor.inner ≤ (cursor.advanceInner size).inner := by
  unfold advanceInner
  split
  · exact Nat.le_succ cursor.inner
  · exact Nat.le_refl _

theorem inner_advanceInner_lt {size : Nat} (h : cursor.inner < max 1 size) :
    (cursor.advanceInner size).inner < max 1 size := by
  unfold advanceInner
  split
  · next lt => exact Nat.lt_of_lt_of_le lt (Nat.le_max_right 1 size)
  · exact h

theorem advanceInner_eq {cursor : Cursor} {size : Nat} (le : cursor.inner ≤ size - 1) :
    cursor.advanceInner size = { cursor with inner := min (cursor.inner + 1) (size - 1) } := by
  unfold advanceInner
  split
  · next ahead => rw [Nat.min_eq_left (Nat.le_sub_one_of_lt ahead)]
  · next last =>
    have stays : min (cursor.inner + 1) (size - 1) = cursor.inner := by omega
    rw [stays]

@[simp] theorem outer_clampInner (size : Nat) : (cursor.clampInner size).outer = cursor.outer := by
  unfold clampInner
  split <;> rfl

@[simp] theorem leg_clampInner (size : Nat) : (cursor.clampInner size).leg = cursor.leg := by
  unfold clampInner
  split <;> rfl

theorem inner_clampInner_lt (size : Nat) : (cursor.clampInner size).inner < max 1 size := by
  unfold clampInner
  split
  · change size - 1 < max 1 size
    omega
  · omega

end Indices

/-- The cursor after an answer: valid exactly if a path with a point in it was installed. -/
def heed (cursor : Cursor) (call : Invocation) : Cursor :=
  match call.verdict with
  | .ok path => { cursor.clampInner path.length with valid := decide (0 < path.length) }
  | .error _ => { cursor with valid := false }

variable (cursor : Cursor) (call : Invocation)

@[simp] theorem outer_heed : (cursor.heed call).outer = cursor.outer := by
  unfold heed
  cases call.verdict with
  | error fault => rfl
  | ok path => exact cursor.outer_clampInner path.length

@[simp] theorem leg_heed : (cursor.heed call).leg = cursor.leg := by
  unfold heed
  cases call.verdict with
  | error fault => rfl
  | ok path => exact cursor.leg_clampInner path.length

theorem valid_heed_iff :
    (cursor.heed call).valid = true ↔ ∃ path, call.verdict = .ok path ∧ 0 < path.length := by
  unfold heed
  cases call.verdict with
  | error fault => simp
  | ok path => simp

theorem inner_heed_lt {cursor : Cursor} {leg : Leg} (h : cursor.inner < max 1 leg.size) :
    (cursor.heed call).inner < max 1 (call.settleLeg leg).size := by
  unfold heed Invocation.settleLeg
  cases call.verdict with
  | error fault => exact h
  | ok path => exact cursor.inner_clampInner_lt path.length

/-- A path that reaches the cursor's point leaves a valid cursor as it is. -/
theorem heed_of_lt {cursor : Cursor} {call : Invocation} {path : List Point}
    (verdict : call.verdict = .ok path) (valid : cursor.valid = true)
    (lt : cursor.inner < path.length) : cursor.heed call = cursor := by
  have kept : ¬path.length - 1 < cursor.inner := by omega
  have pos : decide (0 < path.length) = true := decide_eq_true (Nat.zero_lt_of_lt lt)
  unfold heed clampInner
  rw [verdict]
  dsimp only
  rw [if_neg kept, pos, ← valid]

/-- An answer that does not shorten the leg leaves the walk where it is. -/
theorem inner_heed_eq {cursor : Cursor} {leg : Leg} (h : cursor.inner < max 1 leg.size)
    (longer : leg.size ≤ (call.settleLeg leg).size) : (cursor.heed call).inner = cursor.inner := by
  unfold Invocation.settleLeg at longer
  unfold heed
  cases verdict : call.verdict with
  | error fault => rfl
  | ok path =>
    rw [verdict] at longer
    have kept : ¬path.length - 1 < cursor.inner := by
      change leg.size ≤ path.length at longer
      omega
    change (cursor.clampInner path.length).inner = cursor.inner
    unfold clampInner
    rw [if_neg kept]

end WaypointNav.Cursor
