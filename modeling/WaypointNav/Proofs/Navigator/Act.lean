import WaypointNav.Proofs.Cursor
import WaypointNav.Proofs.ObstacleMap
import WaypointNav.Proofs.Outcome

/-! What a navigator can do, one act at a time. A tick is a chain of acts, so what each act keeps holds
after every tick, and in the middle of it. -/
namespace WaypointNav.Navigator

variable {σ : Type} {optimizer : Optimizer σ} {config : Config} {memory : σ}

def ask (optimizer : Optimizer σ) (nav : Navigator σ) (leg : Leg) : Invocation :=
  nav.replanner.ask optimizer nav.cursor.leg leg nav.map.obstacles

def replanned (optimizer : Optimizer σ) (nav : Navigator σ) (route : Route) (leg : Leg) :
    Navigator σ :=
  let call := nav.ask optimizer leg
  { nav with
    route := some (call.settle route)
    replanner := nav.replanner.note optimizer call
    cursor := nav.cursor.heed call }

def turned (nav : Navigator σ) : Navigator σ :=
  { nav with cursor := nav.cursor.advanceOuter nav.config.route.outerLength }

def departure (config : RouteConfig) (route : Route) (corner target : Point) : Outcome where
  report := { started := true }
  commands := [.move .outer corner, .move .inner target]
  notices := Notice.ofOutline route.outer ++ [.routeReady config.outerLength config.innerLength]

def replanning (call : Invocation) : Outcome where
  report := { replans := 1 }
  calls := [call]

def stride (target : Point) : Outcome where
  report := { innerAdvanced := true }
  commands := [.move .inner target]

def turning (index : Nat) (target : Point) : Outcome where
  report := { outerAdvanced := true }
  commands := [.move .outer target]
  notices := [.outerMoved index target]

inductive Act (optimizer : Optimizer σ) : Navigator σ → Outcome → Navigator σ → Prop
  | plan {nav : Navigator σ} {position corner : Point} {route : Route} {leg : Leg}
      (fresh : nav.route = none) (planned : nav.config.route.plan position = .ok route)
      (corner_eq : route.waypoint 0 = .ok corner) (leg_eq : route.leg 0 = .ok leg) :
      Act optimizer nav (departure nav.config.route route corner ((leg.get? 0).getD corner))
        { nav with route := some route, innerTarget := (leg.get? 0).getD corner }
  | refresh {nav : Navigator σ} {route : Route} {leg : Leg} (changed : nav.mapChanged = true)
      (route_eq : nav.route = some route) (leg_eq : route.leg nav.cursor.leg = .ok leg) :
      Act optimizer nav (replanning (nav.ask optimizer leg))
        ({ nav with mapChanged := false }.replanned optimizer route leg)
  | walk {nav : Navigator σ} {route : Route} {leg : Leg} {target : Point}
      (route_eq : nav.route = some route) (leg_eq : route.leg nav.cursor.leg = .ok leg)
      (valid : nav.cursor.valid = true) (target_eq : leg.get? nav.cursor.inner = some target) :
      Act optimizer nav (stride target)
        { nav with cursor := nav.cursor.advanceInner leg.size, innerTarget := target }
  | turn {nav : Navigator σ} {route : Route} {leg : Leg} {target : Point}
      (route_eq : nav.route = some route)
      (target_eq : route.waypoint nav.turned.cursor.outer = .ok target)
      (leg_eq : route.leg nav.turned.cursor.leg = .ok leg) :
      Act optimizer nav
        (turning nav.turned.cursor.outer target ++ replanning (nav.turned.ask optimizer leg))
        (nav.turned.replanned optimizer route leg)
  | proceed {nav : Navigator σ} : Act optimizer nav { commands := [.proceed .inner] } nav

inductive Acts (optimizer : Optimizer σ) (nav : Navigator σ) : Outcome → Navigator σ → Prop
  | none : Acts optimizer nav {} nav
  | snoc {log done : Outcome} {mid last : Navigator σ} (acts : Acts optimizer nav log mid)
      (act : Act optimizer mid done last) : Acts optimizer nav (log ++ done) last

theorem Acts.one {nav last : Navigator σ} {done : Outcome} (act : Act optimizer nav done last) :
    Acts optimizer nav done last := by
  have chain := Acts.none.snoc act
  rwa [Outcome.empty_append] at chain

theorem Acts.trans {nav mid last : Navigator σ} {log done : Outcome}
    (first : Acts optimizer nav log mid) (second : Acts optimizer mid done last) :
    Acts optimizer nav (log ++ done) last := by
  induction second with
  | none =>
    rw [Outcome.append_empty]
    exact first
  | snoc acts act ih =>
    rw [← Outcome.append_assoc]
    exact ih.snoc act

/-- The questions asked are all that changes a route. -/
theorem Act.route_settled {nav next : Navigator σ} {done : Outcome} {route : Route}
    (act : Act optimizer nav done next) (route_eq : nav.route = some route) :
    next.route = some (route.settled done.calls) := by
  cases act with
  | plan fresh => exact absurd (fresh.symm.trans route_eq) nofun
  | refresh changed found_eq =>
    obtain rfl : route = _ := Option.some.inj (route_eq.symm.trans found_eq)
    rfl
  | walk => exact route_eq
  | turn found_eq =>
    obtain rfl : route = _ := Option.some.inj (route_eq.symm.trans found_eq)
    rfl
  | proceed => exact route_eq

theorem Acts.route_settled {nav last : Navigator σ} {log : Outcome} {route : Route}
    (acts : Acts optimizer nav log last) (route_eq : nav.route = some route) :
    last.route = some (route.settled log.calls) := by
  induction acts with
  | none => exact route_eq
  | snoc acts act ih =>
    rw [Outcome.calls_append, Route.settled_append]
    exact act.route_settled ih

/-- A navigator does not change its map, and marks it at most as looked at. -/
theorem Act.map_eq {nav next : Navigator σ} {done : Outcome} (act : Act optimizer nav done next) :
    next.map = nav.map := by
  cases act <;> rfl

theorem Acts.map_eq {nav last : Navigator σ} {log : Outcome} (acts : Acts optimizer nav log last) :
    last.map = nav.map := by
  induction acts with
  | none => rfl
  | snoc acts act ih => exact act.map_eq.trans ih

/-- Every question is about the whole map. -/
theorem Act.obstacles_eq {nav next : Navigator σ} {done : Outcome}
    (act : Act optimizer nav done next) :
    ∀ call ∈ done.calls, call.query.obstacles = nav.map.obstacles := by
  cases act with
  | refresh | turn =>
    intro call mem
    obtain rfl := List.mem_singleton.mp mem
    rfl
  | plan | walk | proceed => nofun

theorem Acts.obstacles_eq {nav last : Navigator σ} {log : Outcome}
    (acts : Acts optimizer nav log last) :
    ∀ call ∈ log.calls, call.query.obstacles = nav.map.obstacles := by
  induction acts with
  | none => nofun
  | snoc acts act ih =>
    intro call mem
    rw [Outcome.calls_append, List.mem_append] at mem
    rcases mem with old | new
    · exact ih call old
    · rw [← acts.map_eq]
      exact act.obstacles_eq call new

theorem Acts.unchanged {nav last : Navigator σ} {log : Outcome} (acts : Acts optimizer nav log last)
    (unchanged : nav.mapChanged = false) : last.mapChanged = false := by
  induction acts with
  | none => exact unchanged
  | snoc acts act ih =>
    cases act with
    | refresh => rfl
    | plan | walk | turn | proceed => exact ih

theorem replanActive_eq {nav : Navigator σ} {route : Route} {leg : Leg}
    (route_eq : nav.route = some route) (leg_eq : route.leg nav.cursor.leg = .ok leg) :
    nav.replanActive optimizer =
      (nav.replanned optimizer route leg, replanning (nav.ask optimizer leg)) := by
  have done : nav.replanner.replan optimizer route nav.cursor.leg nav.map.obstacles = _ :=
    Replanner.replan_of_leg leg_eq _
  unfold replanActive replanned ask Cursor.heed
  simp only [route_eq, done]
  cases Invocation.verdict _ <;> rfl

end WaypointNav.Navigator
