import WaypointNav.Proofs.Navigator.Act

/-! The states of a flight. A navigator is at rest until its first tick; from then on its route has the
configured size and its cursor points into it. -/
namespace WaypointNav.Navigator

variable {σ : Type} {optimizer : Optimizer σ} {config : Config} {memory : σ}

structure AtRest (config : Config) (memory : σ) (nav : Navigator σ) : Prop where
  config_eq : nav.config = config
  route_eq : nav.route = none
  cursor_eq : nav.cursor = {}
  replanner_eq : nav.replanner = { memory }

/-- The navigator follows `route`, and `leg` is the active leg. -/
structure Underway (config : Config) (nav : Navigator σ) (route : Route) (leg : Leg) : Prop where
  config_eq : nav.config = config
  route_eq : nav.route = some route
  sized : route.Sized config.route
  leg_eq : route.leg nav.cursor.leg = .ok leg
  outer_lt : nav.cursor.outer < config.route.outerLength
  inner_lt : nav.cursor.inner < max 1 leg.size

/-- Also between the parts of a tick. -/
inductive Sound (config : Config) (memory : σ) (nav : Navigator σ) : Prop
  | atRest (rest : AtRest config memory nav)
  | underway (route : Route) (leg : Leg) (way : Underway config nav route leg)
      (walkable : nav.cursor.valid = true → 0 < leg.size)

def fresh (config : Config) (memory : σ) : Navigator σ where
  config
  map := .empty config.obstacles.capacity config.obstacles.duplicateRadius
  replanner := { memory }

theorem new_eq_ok (usable : config.Usable) : Navigator.new config memory = .ok (fresh config memory) := by
  unfold Navigator.new
  rw [(Config.validate_eq_ok_iff config).mpr usable]
  rfl

theorem atRest_fresh : AtRest config memory (fresh config memory) := ⟨rfl, rfl, rfl, rfl⟩

section Underway

variable {nav : Navigator σ} {route : Route} {leg : Leg}

theorem Underway.room (way : Underway config nav route leg) :
    (nav.ask optimizer leg).query.capacity = config.route.innerSpace :=
  way.sized.capacity leg (Route.leg_mem way.leg_eq)

theorem Underway.noticed (way : Underway config nav route leg) :
    Underway config { nav with mapChanged := false } route leg :=
  ⟨way.config_eq, way.route_eq, way.sized, way.leg_eq, way.outer_lt, way.inner_lt⟩

theorem Underway.replanned (way : Underway config nav route leg) :
    Underway config (nav.replanned optimizer route leg) ((nav.ask optimizer leg).settle route)
      ((nav.ask optimizer leg).settleLeg leg) where
  config_eq := way.config_eq
  route_eq := rfl
  sized := Invocation.sized_settle way.sized way.room
  leg_eq := by
    change Route.leg _ (nav.cursor.heed _).leg = _
    rw [Cursor.leg_heed]
    exact Invocation.leg_settle way.leg_eq
  outer_lt := by
    change (nav.cursor.heed _).outer < _
    rw [Cursor.outer_heed]
    exact way.outer_lt
  -- A refused answer leaves both the index and the leg alone; any other pulls the index back.
  inner_lt := Cursor.inner_heed_lt _ way.inner_lt

theorem walkable_replanned (h : (nav.replanned optimizer route leg).cursor.valid = true) :
    0 < ((nav.ask optimizer leg).settleLeg leg).size := by
  obtain ⟨path, verdict, pos⟩ := (Cursor.valid_heed_iff _ _).mp h
  unfold Invocation.settleLeg
  rw [verdict]
  exact pos

theorem Underway.turned (way : Underway config nav route leg) (usable : config.Usable) :
    ∃ next, Underway config nav.turned route next := by
  have pos := usable.outer_pos
  obtain ⟨next, next_eq⟩ := way.sized.leg_ok (nav.cursor.leg_advanceOuter_lt pos)
  refine ⟨next, way.config_eq, way.route_eq, way.sized, ?_, ?_, ?_⟩
  · simpa only [Navigator.turned, way.config_eq] using next_eq
  · simpa only [Navigator.turned, way.config_eq] using nav.cursor.outer_advanceOuter_lt pos
  · simp only [Navigator.turned, Cursor.inner_advanceOuter]
    omega

theorem Underway.target (way : Underway config nav route leg)
    (walkable : nav.cursor.valid = true → 0 < leg.size) (valid : nav.cursor.valid = true) :
    ∃ target, leg.get? nav.cursor.inner = some target := by
  have lt : nav.cursor.inner < leg.size := by
    have := walkable valid
    have := way.inner_lt
    omega
  exact (way.sized.padded leg (Route.leg_mem way.leg_eq)).get?_of_lt lt

theorem Underway.unique (way : Underway config nav route leg) {route' : Route} {leg' : Leg}
    (route_eq : nav.route = some route') (leg_eq : route'.leg nav.cursor.leg = .ok leg') :
    route = route' ∧ leg = leg' := by
  obtain rfl : route = route' := Option.some.inj (way.route_eq.symm.trans route_eq)
  exact ⟨rfl, Except.ok.inj (way.leg_eq.symm.trans leg_eq)⟩

end Underway

theorem AtRest.act {nav next : Navigator σ} {done : Outcome} (rest : AtRest config memory nav)
    (usable : config.Usable) (act : Act optimizer nav done next) : Sound config memory next := by
  cases act with
  | @plan position corner route leg fresh planned corner_eq leg_eq =>
    have sized : route.Sized config.route := by
      rw [rest.config_eq] at planned
      exact usable.sized_of_plan planned
    have invalid : nav.cursor.valid = false := by rw [rest.cursor_eq]
    refine .underway route leg ⟨rest.config_eq, rfl, sized, ?_, ?_, ?_⟩ ?_
    · simpa only [rest.cursor_eq] using leg_eq
    · simpa only [rest.cursor_eq] using usable.outer_pos
    · simp only [rest.cursor_eq]
      omega
    · intro valid
      exact absurd (valid.symm.trans invalid) Bool.noConfusion
  | refresh _ route_eq => exact absurd (route_eq.symm.trans rest.route_eq) nofun
  | walk route_eq => exact absurd (route_eq.symm.trans rest.route_eq) nofun
  | turn route_eq => exact absurd (route_eq.symm.trans rest.route_eq) nofun
  | proceed => exact .atRest rest

theorem Underway.act {nav next : Navigator σ} {done : Outcome} {route : Route} {leg : Leg}
    (way : Underway config nav route leg) (walkable : nav.cursor.valid = true → 0 < leg.size)
    (usable : config.Usable) (act : Act optimizer nav done next) : Sound config memory next := by
  cases act with
  | plan fresh => exact absurd (fresh.symm.trans way.route_eq) nofun
  | refresh changed route_eq leg_eq =>
    obtain ⟨rfl, rfl⟩ := way.unique route_eq leg_eq
    exact .underway _ _ way.noticed.replanned walkable_replanned
  | walk route_eq leg_eq valid target_eq =>
    obtain ⟨rfl, rfl⟩ := way.unique route_eq leg_eq
    refine .underway route leg ⟨way.config_eq, way.route_eq, way.sized, ?_, ?_, ?_⟩ ?_
    · simpa only [Cursor.leg_advanceInner] using way.leg_eq
    · simpa only [Cursor.outer_advanceInner] using way.outer_lt
    · exact Cursor.inner_advanceInner_lt _ way.inner_lt
    · simpa only [Cursor.valid_advanceInner] using walkable
  | turn route_eq target_eq leg_eq =>
    obtain ⟨next, ahead⟩ := way.turned usable
    obtain ⟨rfl, rfl⟩ := ahead.unique route_eq leg_eq
    exact .underway _ _ ahead.replanned walkable_replanned
  | proceed => exact .underway route leg way walkable

theorem Sound.act {nav next : Navigator σ} {done : Outcome} (sound : Sound config memory nav)
    (usable : config.Usable) (act : Act optimizer nav done next) : Sound config memory next := by
  cases sound with
  | atRest rest => exact rest.act usable act
  | underway route leg way walkable => exact way.act walkable usable act

theorem Sound.acts {nav last : Navigator σ} {log : Outcome} (sound : Sound config memory nav)
    (usable : config.Usable) (acts : Acts optimizer nav log last) : Sound config memory last := by
  induction acts with
  | none => exact sound
  | snoc acts act ih => exact ih.act usable act

theorem Sound.ingest {nav : Navigator σ} (sound : Sound config memory nav) (batch : List Detection)
    (pose : Pose) : Sound config memory (nav.ingest batch pose).1 := by
  cases sound with
  | atRest rest =>
    exact .atRest ⟨rest.config_eq, rest.route_eq, rest.cursor_eq, rest.replanner_eq⟩
  | underway route leg way walkable =>
    exact .underway route leg
      ⟨way.config_eq, way.route_eq, way.sized, way.leg_eq, way.outer_lt, way.inner_lt⟩ walkable

theorem Sound.config_eq {nav : Navigator σ} (sound : Sound config memory nav) :
    nav.config = config := by
  cases sound with
  | atRest rest => exact rest.config_eq
  | underway route leg way => exact way.config_eq

theorem Sound.exists_underway {nav : Navigator σ} (sound : Sound config memory nav) {route : Route}
    (route_eq : nav.route = some route) :
    ∃ leg, Underway config nav route leg ∧ (nav.cursor.valid = true → 0 < leg.size) := by
  cases sound with
  | atRest rest => exact absurd (route_eq.symm.trans rest.route_eq) nofun
  | underway found leg way walkable =>
    obtain rfl : route = found := Option.some.inj (route_eq.symm.trans way.route_eq)
    exact ⟨leg, way, walkable⟩

theorem Sound.atRest_of_route {nav : Navigator σ} (sound : Sound config memory nav)
    (fresh : nav.route = none) : AtRest config memory nav := by
  cases sound with
  | atRest rest => exact rest
  | underway route leg way => exact absurd (fresh.symm.trans way.route_eq) nofun

end WaypointNav.Navigator
