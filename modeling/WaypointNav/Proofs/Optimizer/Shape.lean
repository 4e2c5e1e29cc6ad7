import Mathlib.Data.List.Chain
import Mathlib.Order.Monotone.Basic
import WaypointNav.Proofs.Optimizer.Clearance

/-! The shape of the reference optimizer's paths, whatever its settings are. The search for wide gaps is over
after a number of rounds that the question tells; the pushed points stay in it, in their order and at both
ends, and only a leg without room is left with a wide gap. -/
namespace WaypointNav.ClearanceConfig

structure Search where
  passed : List Point
  ahead : List Point
  room : Nat

namespace Search

/-- One round of the search; there is none without room, or at the last point. -/
def round (config : ClearanceConfig) (obstacles : List Point) : Search → Option Search
  | ⟨passed, p :: q :: rest, room + 1⟩ =>
    if p.distance q > config.maxSpacing then
      some ⟨passed, p :: config.pushClear obstacles (p.interpolate q 0.5) :: q :: rest, room⟩
    else some ⟨passed ++ [p], q :: rest, room + 1⟩
  | _ => none

inductive Ends (config : ClearanceConfig) (obstacles : List Point) : Nat → Search → Search → Prop
  | over {search : Search} (none : search.round config obstacles = none) :
      Ends config obstacles 0 search search
  | round {rounds : Nat} {search next last : Search}
      (some : search.round config obstacles = some next)
      (ends : Ends config obstacles rounds next last) :
      Ends config obstacles (rounds + 1) search last

end Search

variable (config : ClearanceConfig) (obstacles : List Point)

/-- A round takes one from twice the room and the points ahead: a midpoint takes some room and comes to lie
ahead, and a narrow gap is left behind with a point. -/
theorem densify_search (passed : List Point) (room : Nat) (path : List Point) :
    ∃ rounds last, rounds ≤ 2 * room + path.length ∧
      Search.Ends config obstacles rounds ⟨passed, path, room⟩ last ∧
      last.passed ++ last.ahead = passed ++ config.densify obstacles room path := by
  fun_induction densify config obstacles room path generalizing passed with
  | case1 path => exact ⟨0, _, Nat.zero_le _, .over (by simp [Search.round]), rfl⟩
  | case2 room | case3 room p => exact ⟨0, _, Nat.zero_le _, .over rfl, rfl⟩
  | case4 room p q rest wide middle ih =>
    obtain ⟨rounds, last, rounds_le, ends, last_eq⟩ := ih passed
    refine ⟨rounds + 1, last, ?_, .round (if_pos wide) ends, last_eq⟩
    simp only [List.length_cons] at rounds_le ⊢
    omega
  | case5 room p q rest narrow ih =>
    obtain ⟨rounds, last, rounds_le, ends, last_eq⟩ := ih (passed ++ [p])
    refine ⟨rounds + 1, last, ?_, .round (if_neg narrow) ends, ?_⟩
    · simp only [List.length_cons] at rounds_le ⊢
      omega
    · rw [last_eq, List.append_assoc]
      rfl

theorem pushed_eq (path : List Point) :
    config.pushed obstacles path =
      path.dropLast.map (config.pushClear obstacles) ++ path.getLast?.toList := by
  fun_induction pushed config obstacles path with
  | case1 | case2 => rfl
  | case3 p rest several ih =>
    obtain ⟨q, rest, rfl⟩ := List.exists_cons_of_ne_nil fun none => several none
    rw [ih, List.dropLast_cons_cons, List.getLast?_cons_cons]
    rfl

theorem densify_nil (room : Nat) : config.densify obstacles room [] = [] := by
  cases room <;> simp [densify]

@[simp] theorem head?_densify (room : Nat) (path : List Point) :
    (config.densify obstacles room path).head? = path.head? := by
  fun_induction densify config obstacles room path with
  | case1 | case2 | case3 | case5 => rfl
  | case4 room p q rest wide middle ih => exact ih

/-- With room left no gap is wide. -/
theorem isChain_densify {room : Nat} {path : List Point}
    (left : (config.densify obstacles room path).length < path.length + room) :
    (config.densify obstacles room path).IsChain fun p q => ¬p.distance q > config.maxSpacing := by
  fun_induction densify config obstacles room path with
  | case1 path => exact absurd left (Nat.lt_irrefl _)
  | case2 room => exact .nil
  | case3 room p => exact .singleton p
  | case4 room p q rest wide middle ih =>
    apply ih
    simp only [List.length_cons] at left ⊢
    omega
  | case5 room p q rest narrow ih =>
    simp only [List.length_cons] at left ih
    refine List.isChain_cons.mpr ⟨?_, ih (by omega)⟩
    rw [head?_densify]
    rintro _ ⟨⟩
    exact narrow

/-- The points of `first` lie in `second` in their order, from its first place to its last. -/
def Embeds (first second : List Point) : Prop :=
  ∃ place : Nat → Nat, StrictMono place ∧ place 0 = 0 ∧
    place (first.length - 1) = second.length - 1 ∧ ∀ i < first.length, second[place i]? = first[i]?

section Embeds

variable {p q m : Point} {rest second : List Point}

theorem Embeds.refl (path : List Point) : Embeds path path :=
  ⟨id, strictMono_id, rfl, rfl, fun _ _ => rfl⟩

theorem Embeds.cons (embeds : Embeds (q :: rest) second) : Embeds (p :: q :: rest) (p :: second) := by
  obtain ⟨place, mono, first, last, places⟩ := embeds
  have found := places 0 (Nat.succ_pos _)
  rw [first] at found
  obtain ⟨pos, -⟩ := List.getElem?_eq_some_iff.mp found
  refine ⟨fun | 0 => 0 | i + 1 => place i + 1, ?_, rfl, ?_, ?_⟩
  · apply strictMono_nat_of_lt_succ
    rintro (_ | i)
    · exact Nat.succ_pos _
    · exact Nat.succ_lt_succ (mono (Nat.lt_succ_self i))
  · change place rest.length + 1 = second.length
    change place rest.length = second.length - 1 at last
    omega
  · rintro (_ | i) lt
    · rfl
    · exact places i (Nat.lt_of_succ_lt_succ lt)

/-- A point put in between the first two is passed over. -/
theorem Embeds.skip (embeds : Embeds (p :: m :: q :: rest) second) :
    Embeds (p :: q :: rest) second := by
  obtain ⟨place, mono, first, last, places⟩ := embeds
  refine ⟨fun | 0 => 0 | i + 1 => place (i + 2), ?_, rfl, last, ?_⟩
  · apply strictMono_nat_of_lt_succ
    rintro (_ | i)
    · change 0 < place 2
      rw [← first]
      exact mono Nat.two_pos
    · exact mono (Nat.lt_succ_self _)
  · rintro (_ | i) lt
    · have found := places 0 (Nat.succ_pos _)
      rwa [first] at found
    · exact places (i + 2) (Nat.succ_lt_succ lt)

theorem embeds_densify (room : Nat) (path : List Point) :
    Embeds path (config.densify obstacles room path) := by
  fun_induction densify config obstacles room path with
  | case1 | case2 | case3 => exact .refl _
  | case4 room p q rest wide middle ih => exact ih.skip
  | case5 room p q rest narrow ih => exact ih.cons

end Embeds

/-- The reference optimizer answers every question, after a number of rounds that the question tells, and never
fails. Without room for midpoints the answer is the path pushed clear, as far as there is room for it. Else
it is the pushed path with midpoints put in between, and ends at the point that the path ended at. Wide gaps
are left only where the room is used up. -/
theorem path_shape (config : ClearanceConfig) (query : Query) :
    ∃ pushed path, config.optimizer () query = (.ok path, ()) ∧
      pushed = query.current.dropLast.map (config.pushClear query.obstacles) ++
        query.current.getLast?.toList ∧
      (∃ rounds last,
        rounds ≤ 2 * (query.capacity - query.current.length) + query.current.length ∧
        Search.Ends config query.obstacles rounds
          ⟨[], pushed, query.capacity - query.current.length⟩ last ∧
        path = (last.passed ++ last.ahead).take query.capacity) ∧
      (query.current = [] → path = []) ∧
      (query.capacity ≤ query.current.length → path = pushed.take query.capacity) ∧
      (0 < query.current.length → query.current.length ≤ query.capacity →
        query.current.length ≤ path.length ∧ path.length ≤ query.capacity ∧
        Embeds pushed path ∧ path.getLast? = query.current.getLast?) ∧
      (path.length < query.capacity → path.IsChain fun p q => ¬p.distance q > config.maxSpacing) := by
  refine ⟨config.pushed query.obstacles query.current, config.path query, rfl,
    config.pushed_eq query.obstacles query.current, ?_, ?_, ?_, ?_, ?_⟩
  · obtain ⟨rounds, last, rounds_le, ends, last_eq⟩ := config.densify_search query.obstacles []
      (query.capacity - query.current.length) (config.pushed query.obstacles query.current)
    rw [length_pushed] at rounds_le
    refine ⟨rounds, last, rounds_le, ends, ?_⟩
    rw [last_eq, path_eq_take_densify]
    rfl
  · intro vacant
    rw [path_eq_take_densify, vacant, pushed, densify_nil, List.take_nil]
  · exact config.path_eq_take_pushed
  · intro pos fits
    obtain ⟨longer, shorter, last_eq⟩ := config.refined_path fits
    refine ⟨longer, shorter, ?_, last_eq⟩
    rw [config.path_eq_densify fits]
    exact config.embeds_densify query.obstacles _ _
  · intro left
    rcases Nat.le_total query.current.length query.capacity with fits | full
    · rw [config.path_eq_densify fits] at left ⊢
      apply isChain_densify
      rw [length_pushed]
      omega
    -- A path that is cut is as long as it can be.
    · rw [config.path_eq_take_pushed full, List.length_take, length_pushed] at left
      omega

end WaypointNav.ClearanceConfig
