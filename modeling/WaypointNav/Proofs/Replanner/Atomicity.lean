import WaypointNav.Proofs.Replanner

/-! A replan is all or nothing. Its one answer becomes the whole path of the leg it is about, and nothing
else of the route changes; or the route stays as it was, and the failure is counted. -/
namespace WaypointNav

structure Route.Replaced (route later : Route) (index capacity : Nat) (path : List Point) : Prop where
  outer_eq : later.outer = route.outer
  length_eq : later.legs.length = route.legs.length
  others : ∀ other, other ≠ index → later.legs[other]? = route.legs[other]?
  holds : ∃ leg, later.legs[index]? = some leg ∧ leg.Holds capacity path

theorem Route.replaced_setLeg {route : Route} {index capacity : Nat} {old leg : Leg}
    {path : List Point} (found : route.legs[index]? = some old) (holds : leg.Holds capacity path) :
    route.Replaced (route.setLeg index leg) index capacity path := by
  refine ⟨rfl, List.length_set, ?_, leg, ?_, holds⟩
  · intro other ne
    exact legs_setLeg_of_ne route (Ne.symm ne) leg
  · exact leg_eq_ok_iff.mp (leg_setLeg_self (leg_eq_ok_iff.mpr found) leg)

namespace Invocation

variable {call : Invocation} {path : List Point} {fault : Fault}

theorem verdict_of_error (answer : call.answer = .error fault) : call.verdict = .error fault := by
  unfold verdict
  rw [answer]

theorem verdict_of_long (answer : call.answer = .ok path) (long : ¬path.length ≤ call.query.capacity) :
    call.verdict = .error (.legOverflow path.length call.query.capacity) := by
  unfold verdict
  rw [answer]
  exact if_neg long

end Invocation

namespace Replan

variable {σ : Type}

structure Installed (done : Replan σ) (replanner : Replanner σ) (route : Route)
    (index capacity : Nat) (path : List Point) : Prop where
  result_eq : done.result = .ok path.length
  replaced : route.Replaced done.route index capacity path
  replans_eq : done.replanner.replans = replanner.replans + 1
  failures_eq : done.replanner.failures = replanner.failures

structure Refused (done : Replan σ) (replanner : Replanner σ) (route : Route) (fault : Fault) :
    Prop where
  result_eq : done.result = .error fault
  route_eq : done.route = route
  replans_eq : done.replanner.replans = replanner.replans
  failures_eq : done.replanner.failures = replanner.failures + 1

end Replan

namespace Replanner

variable {σ : Type} {optimizer : Optimizer σ} {replanner : Replanner σ} {route : Route} {index : Nat}
  {leg : Leg} {obstacles path : List Point} {fault : Fault}

theorem replan_of_missing (missing : route.legs.length ≤ index) (obstacles : List Point) :
    replanner.replan optimizer route index obstacles =
      ⟨.error (.outOfRange index route.legs.length), route, replanner, []⟩ := by
  unfold replan Route.leg
  rw [List.getElem?_eq_none missing]

/-- An answer that fits is installed whole. -/
theorem installed_replan (found : route.legs[index]? = some leg)
    (verdict : (replanner.ask optimizer index leg obstacles).verdict = .ok path) :
    (replanner.replan optimizer route index obstacles).Installed replanner route index leg.capacity
      path := by
  have fits : path.length ≤ leg.capacity := (Invocation.verdict_eq_ok_iff.mp verdict).2
  rw [replan_of_leg (Route.leg_eq_ok_iff.mpr found)]
  unfold Invocation.settle note
  rw [verdict]
  exact ⟨rfl, Route.replaced_setLeg found (Leg.holds_filled fits), rfl, rfl⟩

/-- Any other answer changes nothing but the count of failures. -/
theorem refused_replan (found : route.legs[index]? = some leg)
    (verdict : (replanner.ask optimizer index leg obstacles).verdict = .error fault) :
    (replanner.replan optimizer route index obstacles).Refused replanner route fault := by
  rw [replan_of_leg (Route.leg_eq_ok_iff.mpr found)]
  unfold Invocation.settle note
  rw [verdict]
  exact ⟨rfl, rfl, rfl, rfl⟩

/-- A replan of a leg that does not exist asks nobody and changes nothing. Of any other leg it asks the
optimizer once, about the leg's valid points and room. A path that fits becomes the whole content of that leg,
whatever its slots held, and of that leg alone; a failure, or a path that is too long, leaves the whole route
as it was and is the error told. Exactly one of the two counts grows. -/
theorem replan_all_or_nothing (optimizer : Optimizer σ) (replanner : Replanner σ) (route : Route)
    (index : Nat) (obstacles : List Point) :
    ∃ done, replanner.replan optimizer route index obstacles = done ∧
      (route.legs.length ≤ index →
        done = ⟨.error (.outOfRange index route.legs.length), route, replanner, []⟩) ∧
      ∀ leg, route.legs[index]? = some leg → ∃ answer memory,
        optimizer replanner.memory ⟨obstacles, leg.points, leg.capacity⟩ = (answer, memory) ∧
        done.calls = [⟨index, ⟨obstacles, leg.points, leg.capacity⟩, answer⟩] ∧
        done.replanner.memory = memory ∧ done.replanner.timed = true ∧
        match answer with
        | .error fault => done.Refused replanner route fault
        | .ok path =>
          if path.length ≤ leg.capacity then
            done.Installed replanner route index leg.capacity path
          else done.Refused replanner route (.legOverflow path.length leg.capacity) := by
  refine ⟨_, rfl, fun missing => replan_of_missing missing obstacles, ?_⟩
  intro leg found
  have asked : replanner.replan optimizer route index obstacles = _ :=
    replan_of_leg (Route.leg_eq_ok_iff.mpr found) obstacles
  refine ⟨(replanner.ask optimizer index leg obstacles).answer, _, rfl, ?_, ?_, ?_, ?_⟩
  · rw [asked]
    rfl
  · rw [asked]
    exact memory_note optimizer replanner _
  · rw [asked]
    exact timed_note optimizer replanner _
  · cases answer : (replanner.ask optimizer index leg obstacles).answer with
    | error fault => exact refused_replan found (Invocation.verdict_of_error answer)
    | ok path =>
      dsimp only
      split
      · next fits => exact installed_replan found (Invocation.verdict_eq_ok_iff.mpr ⟨answer, fits⟩)
      · next long => exact refused_replan found (Invocation.verdict_of_long answer long)

end Replanner

end WaypointNav
