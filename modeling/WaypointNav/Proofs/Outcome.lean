import WaypointNav.Navigator.Run

/-! Outcomes add up: what a flight did, over all its ticks, is one outcome. -/
namespace WaypointNav

namespace TickReport

@[simp] theorem started_add (a b : TickReport) : (a + b).started = (a.started || b.started) := rfl

@[simp] theorem innerAdvanced_add (a b : TickReport) :
    (a + b).innerAdvanced = (a.innerAdvanced || b.innerAdvanced) := rfl

@[simp] theorem outerAdvanced_add (a b : TickReport) :
    (a + b).outerAdvanced = (a.outerAdvanced || b.outerAdvanced) := rfl

@[simp] theorem replans_add (a b : TickReport) : (a + b).replans = a.replans + b.replans := rfl

theorem add_assoc (a b c : TickReport) : a + b + c = a + (b + c) := by
  change TickReport.mk _ _ _ _ = TickReport.mk _ _ _ _
  simp [Bool.or_assoc, Nat.add_assoc]

end TickReport

namespace Outcome

@[simp] theorem report_append (a b : Outcome) : (a ++ b).report = a.report + b.report := rfl

@[simp] theorem commands_append (a b : Outcome) : (a ++ b).commands = a.commands ++ b.commands := rfl

@[simp] theorem calls_append (a b : Outcome) : (a ++ b).calls = a.calls ++ b.calls := rfl

@[simp] theorem notices_append (a b : Outcome) : (a ++ b).notices = a.notices ++ b.notices := rfl

@[simp] theorem append_empty (a : Outcome) : a ++ ({} : Outcome) = a := by
  obtain ⟨⟨started, inner, outer, replans⟩, commands, calls, notices⟩ := a
  change Outcome.mk ⟨_, _, _, _⟩ _ _ _ = Outcome.mk ⟨_, _, _, _⟩ _ _ _
  simp

@[simp] theorem empty_append (a : Outcome) : ({} : Outcome) ++ a = a := by
  obtain ⟨⟨started, inner, outer, replans⟩, commands, calls, notices⟩ := a
  change Outcome.mk ⟨_, _, _, _⟩ _ _ _ = Outcome.mk ⟨_, _, _, _⟩ _ _ _
  simp

theorem append_assoc (a b c : Outcome) : a ++ b ++ c = a ++ (b ++ c) := by
  change Outcome.mk _ _ _ _ = Outcome.mk _ _ _ _
  simp [TickReport.add_assoc]

end Outcome

namespace Effect

def outcome : Effect → Outcome
  | .ticked outcome => outcome
  | .ingested _ => {}

def total : List Effect → Outcome
  | [] => {}
  | effect :: effects => effect.outcome ++ total effects

theorem total_append (first second : List Effect) :
    total (first ++ second) = total first ++ total second := by
  induction first with
  | nil => exact (Outcome.empty_append _).symm
  | cons effect effects ih => rw [List.cons_append, total, ih, total, Outcome.append_assoc]

@[simp] theorem total_ticked (effects : List Effect) (outcome : Outcome) :
    total (effects ++ [.ticked outcome]) = total effects ++ outcome := by
  rw [total_append]
  exact congrArg _ (Outcome.append_empty outcome)

@[simp] theorem total_ingested (effects : List Effect) (tally : Tally) :
    total (effects ++ [.ingested tally]) = total effects := by
  rw [total_append]
  exact Outcome.append_empty _

theorem total_outerAdvanced_iff (effects : List Effect) :
    (total effects).report.outerAdvanced = true ↔
      ∃ outcome, .ticked outcome ∈ effects ∧ outcome.report.outerAdvanced = true := by
  induction effects with
  | nil => simp [total]
  | cons effect effects ih =>
    rw [total, Outcome.report_append, TickReport.outerAdvanced_add, Bool.or_eq_true, ih]
    cases effect with
    | ticked done => simp [Effect.outcome]
    | ingested tally => simp [Effect.outcome]

end Effect

end WaypointNav
