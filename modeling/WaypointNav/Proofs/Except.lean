/-! Steps that may fail. A chain succeeds exactly if each of its steps does. -/
namespace WaypointNav

variable {ε α β : Type}

theorem bind_eq_ok_iff {first : Except ε α} {rest : α → Except ε β} {b : β} :
    first >>= rest = .ok b ↔ ∃ a, first = .ok a ∧ rest a = .ok b := by
  cases first with
  | error problem =>
    constructor
    · intro chain_eq
      cases chain_eq
    · intro ⟨a, first_eq, _⟩
      cases first_eq
  | ok a =>
    constructor
    · intro rest_eq
      exact ⟨a, rfl, rest_eq⟩
    · intro ⟨found, found_eq, rest_eq⟩
      cases found_eq
      exact rest_eq

/-- A step that is only a check. -/
theorem check_bind_eq_ok_iff {check : Except ε Unit} {rest : Unit → Except ε β} {b : β} :
    check >>= rest = .ok b ↔ check = .ok () ∧ rest () = .ok b := by
  rw [bind_eq_ok_iff]
  exact ⟨fun ⟨(), both⟩ => both, fun both => ⟨(), both⟩⟩

theorem pure_eq_ok_iff {a b : α} : (pure a : Except ε α) = .ok b ↔ a = b :=
  ⟨Except.ok.inj, congrArg Except.ok⟩

theorem mapM_eq_ok {f : α → Except ε β} {g : α → β} {l : List α} (h : ∀ x ∈ l, f x = .ok (g x)) :
    l.mapM f = .ok (l.map g) := by
  induction l with
  | nil => rfl
  | cons x l ih =>
    have tail := ih fun y mem => h y (List.mem_cons_of_mem x mem)
    rw [List.mapM_cons, h x List.mem_cons_self, tail]
    rfl

theorem eq_ok_of_toOption {result : Except ε α} {value : α} (some_eq : result.toOption = some value) :
    result = .ok value := by
  cases result with
  | error problem => cases some_eq
  | ok found => exact congrArg Except.ok (Option.some.inj some_eq)

/-- Results that succeed with the same values are the same, apart from the errors. -/
theorem toOption_eq {first second : Except ε α}
    (same : ∀ value, first = .ok value ↔ second = .ok value) : first.toOption = second.toOption := by
  cases first with
  | ok value => rw [(same value).mp rfl]
  | error problem =>
    cases second with
    | ok value => cases (same value).mpr rfl
    | error other => rfl

end WaypointNav
