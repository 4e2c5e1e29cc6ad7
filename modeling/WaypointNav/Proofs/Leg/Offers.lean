import WaypointNav.Proofs.Leg

/-! A leg under any sequence of paths. What it holds is the last path that fit, as if that had been the only
one: neither longer paths before it nor refused ones after it leave a trace. -/
namespace WaypointNav.Leg

/-- Puts a path to a leg. A path that does not fit is refused, and the leg stays as it is. -/
def offer (leg : Leg) (path : List Point) : Except Fault Unit × Leg :=
  match leg.install path with
  | .ok next => (.ok (), next)
  | .error fault => (.error fault, leg)

def offerAll (leg : Leg) : List (List Point) → List (Except Fault Unit) × Leg
  | [] => ([], leg)
  | path :: paths =>
    let (answer, leg) := leg.offer path
    let (answers, leg) := leg.offerAll paths
    (answer :: answers, leg)

def answer (capacity : Nat) (path : List Point) : Except Fault Unit :=
  if capacity < path.length then .error (.legOverflow path.length capacity) else .ok ()

def latest (capacity : Nat) (held : List Point) (paths : List (List Point)) : List Point :=
  (paths.filter (·.length ≤ capacity)).getLast?.getD held

variable {capacity : Nat} {held path : List Point} {paths : List (List Point)}

theorem offer_of_le {leg : Leg} (fits : path.length ≤ leg.capacity) :
    leg.offer path = (.ok (), filled leg.capacity path) := by
  unfold offer
  rw [install_of_le fits]

theorem offer_of_lt {leg : Leg} (long : leg.capacity < path.length) :
    leg.offer path = (.error (.legOverflow path.length leg.capacity), leg) := by
  unfold offer
  rw [install_of_lt long]

theorem latest_cons_of_le (fits : path.length ≤ capacity) :
    latest capacity held (path :: paths) = latest capacity path paths := by
  unfold latest
  rw [List.filter_cons_of_pos (by simpa using fits), List.getLast?_cons]
  rfl

theorem latest_cons_of_lt (long : capacity < path.length) :
    latest capacity held (path :: paths) = latest capacity held paths := by
  unfold latest
  rw [List.filter_cons_of_neg (by simpa using long)]

theorem length_latest_le (fits : held.length ≤ capacity) (paths : List (List Point)) :
    (latest capacity held paths).length ≤ capacity := by
  unfold latest
  cases found : (paths.filter (·.length ≤ capacity)).getLast? with
  | none => exact fits
  | some path =>
    have mem := List.mem_of_getLast? found
    exact of_decide_eq_true (List.mem_filter.mp mem).2

/-- After any offers a leg is told by the last path that fit. -/
theorem offerAll_filled (fits : held.length ≤ capacity) (paths : List (List Point)) :
    (filled capacity held).offerAll paths =
      (paths.map (answer capacity), filled capacity (latest capacity held paths)) := by
  -- The path held changes from offer to offer, so the induction is over every one that fits.
  induction paths generalizing held with
  | nil => rfl
  | cons path paths ih =>
    have capacity_eq := capacity_filled fits
    unfold offerAll
    rw [List.map_cons, answer]
    by_cases long : capacity < path.length
    · rw [offer_of_lt (by rwa [capacity_eq]), capacity_eq, if_pos long, latest_cons_of_lt long]
      dsimp only
      rw [ih fits]
    · have short := Nat.le_of_not_lt long
      rw [offer_of_le (by rwa [capacity_eq]), capacity_eq, if_neg long, latest_cons_of_le short]
      dsimp only
      rw [ih short]

theorem filled_nil (capacity : Nat) : filled capacity [] = empty capacity := rfl

/-- After any offers to an empty leg its capacity is the old one, its valid points are the last path that
fit, every slot after them is the origin, and each answer told whether the path fit. The next path is
refused exactly if it does not fit, and nothing changes; else the leg becomes the one that a fresh leg of the
capacity becomes. -/
theorem no_trace_of_earlier_paths (capacity : Nat) (paths : List (List Point)) :
    ∃ leg, (empty capacity).offerAll paths = (paths.map (answer capacity), leg) ∧
      leg.capacity = capacity ∧ leg.size ≤ capacity ∧
      leg.points = leg.slots.take leg.size ∧ leg.points.length = leg.size ∧
      leg.points = latest capacity [] paths ∧
      (∀ index, leg.get? index = if index < leg.size then leg.slot? index else none) ∧
      (∀ slot, leg.size ≤ slot → slot < capacity → leg.slot? slot = some .origin) ∧
      ∀ path,
        if capacity < path.length then
          leg.offer path = (.error (.legOverflow path.length capacity), leg)
        else
          ∃ next, leg.offer path = (.ok (), next) ∧ ofPoints capacity path = .ok next := by
  have nothing : ([] : List Point).length ≤ capacity := Nat.zero_le capacity
  have fits := length_latest_le nothing paths
  have holds := holds_filled fits
  have run := offerAll_filled nothing paths
  rw [filled_nil] at run
  refine ⟨_, run, holds.capacity_eq, fits, rfl, ?_, holds.points_eq, ?_, holds.tail, ?_⟩
  · rw [holds.points_eq, holds.size_eq]
  · intro index
    unfold get? slot? points
    rw [List.getElem?_take]
  · intro path
    by_cases long : capacity < path.length
    · rw [if_pos long, offer_of_lt (by rwa [holds.capacity_eq]), holds.capacity_eq]
    · have short := Nat.le_of_not_lt long
      rw [if_neg long, offer_of_le (by rwa [holds.capacity_eq]), holds.capacity_eq]
      exact ⟨_, rfl, ofPoints_of_le short⟩

end WaypointNav.Leg
