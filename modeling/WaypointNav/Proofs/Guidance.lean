import WaypointNav.Vehicle

/-! What guidance commands come to: a guide stands where it was moved last, and a vehicle that obeys holds
that place, however it proceeds in between. -/
namespace WaypointNav

namespace Command

def target? (guide : Guide) : Command → Option Point
  | .move moved target => if moved = guide then some target else none
  | .proceed _ => none

def targets (guide : Guide) (commands : List Command) : List Point :=
  commands.filterMap (target? guide)

@[simp] theorem targets_nil (guide : Guide) : targets guide [] = [] := rfl

@[simp] theorem targets_append (guide : Guide) (first second : List Command) :
    targets guide (first ++ second) = targets guide first ++ targets guide second :=
  List.filterMap_append

end Command

/-- Moves along places given by their numbers, and one move more. -/
theorem visited_concat {moves : List Point} {place : Nat → Option Point} {target : Point}
    (visited : ∀ k, k < moves.length → moves[k]? = place k)
    (target_eq : place moves.length = some target) :
    ∀ k, k < (moves ++ [target]).length → (moves ++ [target])[k]? = place k := by
  intro k lt
  rw [List.length_append, List.length_singleton] at lt
  rcases Nat.lt_succ_iff_lt_or_eq.mp lt with old | rfl
  · rw [List.getElem?_append_left old]
    exact visited k old
  · rw [List.getElem?_concat_length, target_eq]

/-- Moves around a polygon from its first vertex on, none skipped and none repeated, the latest of them to
the vertex at `index`. -/
structure Lapped (outline : List Point) (index : Nat) (moves : List Point) : Prop where
  visited : ∀ k, k < moves.length → moves[k]? = outline[k % outline.length]?
  latest : ∃ turns, moves.length = turns + 1 ∧ index = turns % outline.length

namespace Lapped

variable {outline moves : List Point} {index : Nat} {corner target : Point}

theorem first (corner_eq : outline[0]? = some corner) : Lapped outline 0 [corner] where
  visited := by
    intro k lt
    obtain rfl : k = 0 := Nat.lt_one_iff.mp lt
    rw [Nat.zero_mod, corner_eq]
    rfl
  latest := ⟨0, rfl, (Nat.zero_mod _).symm⟩

theorem next (lapped : Lapped outline index moves)
    (target_eq : outline[(index + 1) % outline.length]? = some target) :
    Lapped outline ((index + 1) % outline.length) (moves ++ [target]) := by
  obtain ⟨turns, length_eq, rfl⟩ := lapped.latest
  rw [Nat.mod_add_mod] at target_eq ⊢
  refine ⟨visited_concat lapped.visited ?_, turns + 1, ?_, rfl⟩
  · rw [length_eq, target_eq]
  · rw [List.length_append, length_eq]
    rfl

theorem getLast?_eq (lapped : Lapped outline index moves) : moves.getLast? = outline[index]? := by
  obtain ⟨turns, length_eq, rfl⟩ := lapped.latest
  rw [List.getLast?_eq_getElem?, length_eq]
  exact lapped.visited turns (by omega)

end Lapped

namespace Vehicle

theorem waypoint_approach (vehicle : Vehicle) (target : Point) (guide : Guide) :
    (vehicle.approach target).waypoint guide = vehicle.waypoint guide := by
  unfold approach
  dsimp only
  split <;> cases guide <;> rfl

theorem waypoint_obey (vehicle : Vehicle) (command : Command) (guide : Guide) :
    (vehicle.obey command).waypoint guide = (command.target? guide).or (vehicle.waypoint guide) := by
  cases command with
  | move moved target => cases moved <;> cases guide <;> rfl
  | proceed followed =>
    unfold obey
    dsimp only
    cases vehicle.waypoint followed with
    | none => rfl
    | some target => exact vehicle.waypoint_approach target guide

theorem waypoint_obeyAll (vehicle : Vehicle) (commands : List Command) (guide : Guide) :
    (vehicle.obeyAll commands).waypoint guide =
      (Command.targets guide commands).getLast?.or (vehicle.waypoint guide) := by
  induction commands generalizing vehicle with
  | nil => rfl
  | cons command commands ih =>
    change ((vehicle.obey command).obeyAll commands).waypoint guide = _
    rw [ih, waypoint_obey]
    unfold Command.targets
    rw [List.filterMap_cons]
    cases command.target? guide with
    | none => rfl
    | some target =>
      rw [List.getLast?_cons]
      cases (List.filterMap (Command.target? guide) commands).getLast? <;> rfl

end Vehicle

end WaypointNav
