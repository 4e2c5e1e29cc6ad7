import WaypointNav.Proofs.Navigator.History
import WaypointNav.Proofs.Navigator.Latest
import WaypointNav.Proofs.Navigator.Parts
import WaypointNav.Proofs.Optimizer.Clearance

/-! Flights with a tame optimizer. No replan fails, a leg never loses a point nor its end, and the walk
along it never goes back. -/
namespace WaypointNav

structure Leg.Grown (leg next : Leg) : Prop where
  size_le : leg.size ≤ next.size
  getLast?_eq : next.points.getLast? = leg.points.getLast?

theorem Leg.Grown.refl (leg : Leg) : leg.Grown leg := ⟨Nat.le_refl _, rfl⟩

theorem Leg.Grown.trans {leg mid next : Leg} (first : leg.Grown mid) (second : mid.Grown next) :
    leg.Grown next :=
  ⟨Nat.le_trans first.size_le second.size_le, second.getLast?_eq.trans first.getLast?_eq⟩

def Route.Grown (route next : Route) : Prop :=
  ∀ index leg, next.leg index = .ok leg → ∃ held, route.leg index = .ok held ∧ held.Grown leg

theorem Route.Grown.refl (route : Route) : route.Grown route :=
  fun _ leg leg_eq => ⟨leg, leg_eq, .refl leg⟩

theorem Route.Grown.trans {route mid next : Route} (first : route.Grown mid)
    (second : mid.Grown next) : route.Grown next := by
  intro index leg leg_eq
  obtain ⟨between, between_eq, later⟩ := second index leg leg_eq
  obtain ⟨held, held_eq, earlier⟩ := first index between between_eq
  exact ⟨held, held_eq, earlier.trans later⟩

theorem Invocation.grown_settle {call : Invocation} {route : Route} {held : Leg}
    (held_eq : route.leg call.leg = .ok held) (grown : held.Grown (call.settleLeg held)) :
    route.Grown (call.settle route) := by
  intro index leg leg_eq
  by_cases same : call.leg = index
  · subst same
    rw [Invocation.leg_settle held_eq, Except.ok.injEq] at leg_eq
    exact ⟨held, held_eq, leg_eq ▸ grown⟩
  · rw [Route.leg_eq_ok_iff, call.legs_settle_of_ne route same, ← Route.leg_eq_ok_iff] at leg_eq
    exact ⟨leg, leg_eq, .refl leg⟩

theorem Optimizer.Tame.grown_settleLeg {optimizer : Optimizer σ} (tame : optimizer.Tame)
    {memory : σ} {call : Invocation} {held : Leg} (padded : held.Padded)
    (current_eq : call.query.current = held.points) (capacity_eq : call.query.capacity = held.capacity)
    (answer_eq : call.answer = (optimizer memory call.query).1) :
    ∃ path, call.verdict = .ok path ∧ held.Grown (call.settleLeg held) := by
  have room : call.query.current.length ≤ call.query.capacity := by
    rw [current_eq, capacity_eq]
    exact held.length_points_le
  obtain ⟨path, answered, refined⟩ := tame memory call.query room
  have verdict := Invocation.verdict_eq_ok_iff.mpr ⟨answer_eq.trans answered, refined.fits⟩
  refine ⟨path, verdict, ?_⟩
  unfold Invocation.settleLeg
  rw [verdict]
  refine ⟨?_, ?_⟩
  · rw [Leg.size_filled, ← padded.length_points, ← current_eq]
    exact refined.length_ge
  · rw [Leg.points_filled, refined.getLast?_eq, current_eq]

namespace Navigator

variable {σ : Type} {optimizer : Optimizer σ} {config : Config} {memory : σ}
  {nav next : Navigator σ} {log done : Outcome} {built : Route}

theorem Consulted.grown {calls past later : List Invocation} {config : RouteConfig}
    (consulted : Consulted optimizer memory built calls) (tame : optimizer.Tame)
    (sized : built.Sized config) (whole : past ++ later = calls) :
    (built.settled past).Grown (built.settled calls) := by
  induction consulted generalizing later with
  | nil =>
    rw [(List.append_eq_nil_iff.mp whole).1]
    exact .refl _
  | @snoc calls call held earlier held_eq current_eq capacity_eq answer_eq ih =>
    have padded := (earlier.sized sized).padded held (Route.leg_mem held_eq)
    obtain ⟨path, -, grown⟩ := tame.grown_settleLeg padded current_eq capacity_eq answer_eq
    -- Either nothing was asked since, or the last question is among what was asked since.
    rcases later.eq_nil_or_concat with rfl | ⟨later, final, rfl⟩
    · rw [List.append_nil] at whole
      rw [whole]
      exact .refl _
    · rw [List.concat_eq_append, ← List.append_assoc] at whole
      rw [Route.settled_append]
      exact (ih (List.append_inj' whole rfl).1).trans (Invocation.grown_settle held_eq grown)

theorem Consulted.grown_built {calls : List Invocation} {config : RouteConfig}
    (consulted : Consulted optimizer memory built calls) (tame : optimizer.Tame)
    (sized : built.Sized config) : built.Grown (built.settled calls) :=
  consulted.grown tame sized (List.nil_append calls)

theorem Consulted.answered {calls : List Invocation} {config : RouteConfig}
    (consulted : Consulted optimizer memory built calls) (tame : optimizer.Tame)
    (sized : built.Sized config) :
    ∀ call ∈ calls, ∃ first path, built.leg call.leg = .ok first ∧ call.verdict = .ok path ∧
      first.size ≤ path.length := by
  induction consulted with
  | nil => nofun
  | @snoc calls call held earlier held_eq current_eq capacity_eq answer_eq ih =>
    intro asked mem
    rcases List.mem_append.mp mem with old | new
    · exact ih asked old
    obtain rfl := List.mem_singleton.mp new
    have padded := (earlier.sized sized).padded held (Route.leg_mem held_eq)
    obtain ⟨path, verdict, grown⟩ := tame.grown_settleLeg padded current_eq capacity_eq answer_eq
    obtain ⟨first, first_eq, before⟩ := earlier.grown_built tame sized asked.leg held held_eq
    have size_le := grown.size_le
    unfold Invocation.settleLeg at size_le
    rw [verdict] at size_le
    exact ⟨first, path, first_eq, verdict, Nat.le_trans before.size_le size_le⟩

structure Counted (nav : Navigator σ) (log : Outcome) : Prop where
  asked : log.report.replans = log.calls.length
  replans_eq : nav.replanner.replans = log.calls.countP (·.verdict.isOk)
  failures_eq : nav.replanner.failures = log.calls.countP (!·.verdict.isOk)

theorem Counted.silent (counted : Counted nav log) (calls_eq : done.calls = [])
    (replans_eq : done.report.replans = 0) (replanner_eq : next.replanner = nav.replanner) :
    Counted next (log ++ done) := by
  have same : (log ++ done).calls = log.calls := by
    rw [Outcome.calls_append, calls_eq, List.append_nil]
  refine ⟨?_, ?_, ?_⟩ <;> rw [same]
  · rw [Outcome.report_append, TickReport.replans_add, replans_eq, counted.asked]
    rfl
  · rw [replanner_eq, counted.replans_eq]
  · rw [replanner_eq, counted.failures_eq]

theorem Counted.replanned (counted : Counted nav log) {route : Route} {leg : Leg}
    (calls_eq : done.calls = [nav.ask optimizer leg]) (replans_eq : done.report.replans = 1) :
    Counted (nav.replanned optimizer route leg) (log ++ done) := by
  refine ⟨?_, ?_, ?_⟩ <;> rw [Outcome.calls_append, calls_eq]
  · rw [Outcome.report_append, TickReport.replans_add, replans_eq, counted.asked,
      List.length_append]
    rfl
  · rw [List.countP_append, ← counted.replans_eq]
    exact nav.replanner.replans_note optimizer (nav.ask optimizer leg)
  · rw [List.countP_append, ← counted.failures_eq]
    exact nav.replanner.failures_note optimizer (nav.ask optimizer leg)

theorem Counted.act (counted : Counted nav log) (act : Act optimizer nav done next) :
    Counted next (log ++ done) := by
  cases act with
  | plan | walk | proceed => exact counted.silent rfl rfl rfl
  | refresh =>
    have noticed : Counted { nav with mapChanged := false } log :=
      ⟨counted.asked, counted.replans_eq, counted.failures_eq⟩
    exact noticed.replanned rfl rfl
  | turn =>
    have ahead : Counted nav.turned log := ⟨counted.asked, counted.replans_eq, counted.failures_eq⟩
    exact ahead.replanned rfl rfl

theorem Reached.counted (reached : Reached optimizer config memory nav log) : Counted nav log := by
  induction reached with
  | fresh => exact ⟨rfl, rfl, rfl⟩
  | act reached act ih => exact ih.act act
  | ingest reached batch pose ih => exact ⟨ih.asked, ih.replans_eq, ih.failures_eq⟩

theorem Underway.inner_replanned {route : Route} {leg : Leg} (way : Underway config nav route leg)
    (tame : optimizer.Tame) :
    (nav.replanned optimizer route leg).cursor.inner = nav.cursor.inner := by
  have padded := way.sized.padded leg (Route.leg_mem way.leg_eq)
  have answered : ∃ path, (nav.ask optimizer leg).verdict = .ok path ∧
      leg.Grown ((nav.ask optimizer leg).settleLeg leg) :=
    tame.grown_settleLeg padded rfl rfl rfl
  obtain ⟨path, -, grown⟩ := answered
  exact Cursor.inner_heed_eq _ way.inner_lt grown.size_le

theorem Act.inner_le (act : Act optimizer nav done next) (tame : optimizer.Tame)
    (sound : Sound config memory nav) (ahead : done.report.outerAdvanced = false) :
    nav.cursor.inner ≤ next.cursor.inner := by
  cases act with
  | plan | proceed => exact Nat.le_refl _
  | refresh changed route_eq leg_eq =>
    obtain ⟨held, way, -⟩ := sound.exists_underway route_eq
    obtain ⟨-, rfl⟩ := way.unique route_eq leg_eq
    exact Nat.le_of_eq (way.noticed.inner_replanned tame).symm
  | walk => exact nav.cursor.inner_le_advanceInner _
  | turn => exact absurd ahead Bool.noConfusion

theorem Acts.inner_le {last : Navigator σ} (acts : Acts optimizer nav log last)
    (tame : optimizer.Tame) (usable : config.Usable) (sound : Sound config memory nav)
    (ahead : log.report.outerAdvanced = false) : nav.cursor.inner ≤ last.cursor.inner := by
  induction acts with
  | none => exact Nat.le_refl _
  | snoc acts act ih =>
    obtain ⟨before, after⟩ := Bool.or_eq_false_iff.mp ahead
    exact Nat.le_trans (ih before) (act.inner_le tame (sound.acts usable acts) after)

end Navigator

end WaypointNav
