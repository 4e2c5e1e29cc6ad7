import WaypointNav.Proofs.Route
import WaypointNav.Replanner

/-! A replan is one question to the optimizer. Its answer, held against the room of the leg, decides the
new route, so the route of any moment is known from the questions asked so far. -/
namespace WaypointNav

def Optimizer.recall (optimizer : Optimizer σ) (memory : σ) (calls : List Invocation) : σ :=
  calls.foldl (fun memory call => (optimizer memory call.query).2) memory

def Optimizer.keep : Optimizer Nat :=
  fun asked query => (.ok query.current, asked + 1)

def Optimizer.refuse : Optimizer Unit :=
  fun _ _ => (.error (.optimizer "refused"), ())

namespace Invocation

/-- The answer, refused if it is longer than the leg. -/
def verdict (call : Invocation) : Except Fault (List Point) :=
  match call.answer with
  | .ok path =>
    if path.length ≤ call.query.capacity then .ok path
    else .error (.legOverflow path.length call.query.capacity)
  | .error fault => .error fault

def settleLeg (call : Invocation) (leg : Leg) : Leg :=
  match call.verdict with
  | .ok path => .filled call.query.capacity path
  | .error _ => leg

def settle (call : Invocation) (route : Route) : Route :=
  match call.verdict with
  | .ok path => route.setLeg call.leg (.filled call.query.capacity path)
  | .error _ => route

theorem verdict_eq_ok_iff {call : Invocation} {path : List Point} :
    call.verdict = .ok path ↔ call.answer = .ok path ∧ path.length ≤ call.query.capacity := by
  unfold verdict
  cases call.answer with
  | error fault => simp
  | ok found =>
    by_cases fits : found.length ≤ call.query.capacity
    · simp only [if_pos fits, Except.ok.injEq]
      exact ⟨fun same => ⟨same, same ▸ fits⟩, And.left⟩
    · simp only [if_neg fits, reduceCtorEq, Except.ok.injEq, false_iff]
      exact fun ⟨same, short⟩ => fits (same ▸ short)

theorem answer_bind_install {call : Invocation} {leg : Leg} (room : leg.capacity = call.query.capacity) :
    call.answer.bind leg.install = call.verdict.map (.filled call.query.capacity) := by
  unfold verdict
  cases call.answer with
  | error fault => rfl
  | ok path =>
    simp only [Except.bind]
    by_cases fits : path.length ≤ call.query.capacity
    · rw [if_pos fits, Leg.install_of_le (room ▸ fits), room]
      rfl
    · rw [if_neg fits, Leg.install_of_lt (room ▸ Nat.not_le.mp fits), room]
      rfl

@[simp] theorem outer_settle (call : Invocation) (route : Route) :
    (call.settle route).outer = route.outer := by
  unfold settle
  cases call.verdict <;> rfl

theorem leg_settle {call : Invocation} {route : Route} {leg : Leg}
    (h : route.leg call.leg = .ok leg) :
    (call.settle route).leg call.leg = .ok (call.settleLeg leg) := by
  unfold settle settleLeg
  cases call.verdict with
  | error fault => exact h
  | ok path => exact Route.leg_setLeg_self h _

theorem settleLeg_of_ok {call : Invocation} {path : List Point} (verdict : call.verdict = .ok path)
    (leg : Leg) : call.settleLeg leg = .filled call.query.capacity path := by
  unfold settleLeg
  rw [verdict]

theorem legs_settle_of_ne (call : Invocation) (route : Route) {index : Nat} (h : call.leg ≠ index) :
    (call.settle route).legs[index]? = route.legs[index]? := by
  unfold settle
  cases call.verdict with
  | error fault => rfl
  | ok path => exact Route.legs_setLeg_of_ne route h _

theorem sized_settle {call : Invocation} {route : Route} {config : RouteConfig}
    (sized : route.Sized config) (room : call.query.capacity = config.innerSpace) :
    (call.settle route).Sized config := by
  unfold settle
  cases verdict : call.verdict with
  | error fault => exact sized
  | ok path =>
    have fits := (verdict_eq_ok_iff.mp verdict).2
    exact sized.setLeg ((Leg.capacity_filled fits).trans room) (Leg.padded_filled fits)

end Invocation

namespace Route

def settled (route : Route) (calls : List Invocation) : Route :=
  calls.foldl (fun route call => call.settle route) route

@[simp] theorem settled_append (route : Route) (first second : List Invocation) :
    route.settled (first ++ second) = (route.settled first).settled second :=
  List.foldl_append

theorem outer_settled (route : Route) (calls : List Invocation) :
    (route.settled calls).outer = route.outer := by
  induction calls generalizing route with
  | nil => rfl
  | cons call calls ih => exact (ih (call.settle route)).trans (call.outer_settle route)

theorem legs_settled_of_forall_ne (route : Route) {calls : List Invocation} {index : Nat}
    (h : ∀ call ∈ calls, call.leg ≠ index) :
    (route.settled calls).legs[index]? = route.legs[index]? := by
  induction calls generalizing route with
  | nil => rfl
  | cons call calls ih =>
    have rest := ih (call.settle route) fun other mem => h other (List.mem_cons_of_mem call mem)
    exact rest.trans (call.legs_settle_of_ne route (h call List.mem_cons_self))

end Route

namespace Replanner

variable {optimizer : Optimizer σ} {replanner : Replanner σ} {route : Route} {index : Nat}

def ask (optimizer : Optimizer σ) (replanner : Replanner σ) (index : Nat) (leg : Leg)
    (obstacles : List Point) : Invocation :=
  let query := ⟨obstacles, leg.points, leg.capacity⟩
  ⟨index, query, (optimizer replanner.memory query).1⟩

def note (optimizer : Optimizer σ) (replanner : Replanner σ) (call : Invocation) : Replanner σ :=
  let asked := { replanner with
    memory := (optimizer replanner.memory call.query).2, timed := true }
  match call.verdict with
  | .ok _ => { asked with replans := asked.replans + 1 }
  | .error _ => { asked with failures := asked.failures + 1 }

@[simp] theorem memory_note (optimizer : Optimizer σ) (replanner : Replanner σ)
    (call : Invocation) :
    (replanner.note optimizer call).memory = (optimizer replanner.memory call.query).2 := by
  unfold note
  cases call.verdict <;> rfl

@[simp] theorem timed_note (optimizer : Optimizer σ) (replanner : Replanner σ)
    (call : Invocation) : (replanner.note optimizer call).timed = true := by
  unfold note
  cases call.verdict <;> rfl

theorem replans_note (optimizer : Optimizer σ) (replanner : Replanner σ) (call : Invocation) :
    (replanner.note optimizer call).replans =
      replanner.replans + [call].countP (·.verdict.isOk) := by
  unfold note
  rw [List.countP_singleton]
  cases call.verdict <;> rfl

theorem failures_note (optimizer : Optimizer σ) (replanner : Replanner σ) (call : Invocation) :
    (replanner.note optimizer call).failures =
      replanner.failures + [call].countP (!·.verdict.isOk) := by
  unfold note
  rw [List.countP_singleton]
  cases call.verdict <;> rfl

theorem replan_of_leg {leg : Leg} (h : route.leg index = .ok leg) (obstacles : List Point) :
    let call := replanner.ask optimizer index leg obstacles
    replanner.replan optimizer route index obstacles =
      ⟨call.verdict.map List.length, call.settle route, replanner.note optimizer call, [call]⟩ := by
  intro call
  have installed : (optimizer replanner.memory call.query).1.bind leg.install =
      call.verdict.map (.filled call.query.capacity) :=
    call.answer_bind_install rfl
  have query : call.query = ⟨obstacles, leg.points, leg.capacity⟩ := rfl
  unfold replan Invocation.settle note
  simp only [h, ← query, installed]
  cases call.verdict <;> rfl

end Replanner

end WaypointNav
