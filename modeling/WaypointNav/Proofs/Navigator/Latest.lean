import WaypointNav.Proofs.Navigator.Flight

/-! What the latest question to the optimizer tells about the navigator: which leg is active, whether it
may be walked and what it holds, and how much of the map has been planned around. -/
namespace WaypointNav.Navigator

variable {σ : Type} {optimizer : Optimizer σ} {config : Config} {memory : σ}
  {nav next : Navigator σ} {log done : Outcome}

structure Latest (nav : Navigator σ) (log : Outcome) : Prop where
  valid_iff : nav.cursor.valid = true ↔ ∃ call path,
    log.calls.getLast? = some call ∧ call.verdict = .ok path ∧ 0 < path.length
  leg_eq : ∀ call, log.calls.getLast? = some call → call.leg = nav.cursor.leg
  path_eq : ∀ call path, log.calls.getLast? = some call → call.verdict = .ok path →
    ∃ route, nav.route = some route ∧
      route.leg nav.cursor.leg = .ok (.filled call.query.capacity path)
  known : nav.mapChanged = false →
    nav.map.obstacles = (log.calls.getLast?.map (·.query.obstacles)).getD []

theorem latest_replanned {route : Route} {leg : Leg} (leg_eq : route.leg nav.cursor.leg = .ok leg)
    (calls_eq : done.calls = [nav.ask optimizer leg]) :
    Latest (nav.replanned optimizer route leg) (log ++ done) := by
  have last_eq : (log ++ done).calls.getLast? = some (nav.ask optimizer leg) := by
    rw [Outcome.calls_append, calls_eq, List.getLast?_concat]
  refine ⟨?_, ?_, ?_, ?_⟩ <;> simp only [last_eq, Option.some.injEq]
  · refine (Cursor.valid_heed_iff _ _).trans ⟨?_, ?_⟩
    · rintro ⟨path, verdict, pos⟩
      exact ⟨_, path, rfl, verdict, pos⟩
    · rintro ⟨call, path, rfl, verdict, pos⟩
      exact ⟨path, verdict, pos⟩
  · rintro call rfl
    exact (Cursor.leg_heed _ _).symm
  · rintro call path rfl verdict
    refine ⟨_, rfl, ?_⟩
    change Route.leg _ (nav.cursor.heed _).leg = _
    rw [Cursor.leg_heed]
    have settled : ((nav.ask optimizer leg).settle route).leg nav.cursor.leg = .ok _ :=
      Invocation.leg_settle leg_eq
    unfold Invocation.settleLeg at settled
    rwa [verdict] at settled
  · exact fun _ => rfl

theorem Latest.silent (latest : Latest nav log) (calls_eq : done.calls = [])
    (route_eq : ∀ route, nav.route = some route → next.route = some route)
    (valid_eq : next.cursor.valid = nav.cursor.valid) (leg_eq : next.cursor.leg = nav.cursor.leg)
    (known : next.mapChanged = false →
      nav.mapChanged = false ∧ next.map.obstacles = nav.map.obstacles) :
    Latest next (log ++ done) := by
  have same : (log ++ done).calls = log.calls := by
    rw [Outcome.calls_append, calls_eq, List.append_nil]
  refine ⟨?_, ?_, ?_, ?_⟩ <;> rw [same]
  · rw [valid_eq]
    exact latest.valid_iff
  · rw [leg_eq]
    exact latest.leg_eq
  · intro call path last_eq verdict
    obtain ⟨route, found, held⟩ := latest.path_eq call path last_eq verdict
    rw [leg_eq]
    exact ⟨route, route_eq route found, held⟩
  · intro unchanged
    obtain ⟨before, obstacles_eq⟩ := known unchanged
    rw [obstacles_eq]
    exact latest.known before

theorem Latest.act (latest : Latest nav log) (act : Act optimizer nav done next) :
    Latest next (log ++ done) := by
  cases act with
  | plan fresh =>
    refine latest.silent rfl ?_ rfl rfl fun unchanged => ⟨unchanged, rfl⟩
    exact fun route found => absurd (fresh.symm.trans found) nofun
  -- A question makes itself the latest one, so nothing of `latest` is needed for it.
  | refresh changed route_eq leg_eq => exact latest_replanned leg_eq rfl
  | walk =>
    exact latest.silent rfl (fun _ => id) (Cursor.valid_advanceInner _ _)
      (Cursor.leg_advanceInner _ _) fun unchanged => ⟨unchanged, rfl⟩
  | turn route_eq target_eq leg_eq => exact latest_replanned leg_eq rfl
  | proceed => exact latest.silent rfl (fun _ => id) rfl rfl fun unchanged => ⟨unchanged, rfl⟩

theorem Latest.ingest (latest : Latest nav log) (batch : List Detection) (pose : Pose) :
    Latest (nav.ingest batch pose).1 log := by
  rw [← Outcome.append_empty log]
  refine latest.silent rfl (fun _ => id) rfl rfl ?_
  intro unchanged
  -- A map that is not marked has got a batch at most that added nothing.
  obtain ⟨before, added⟩ := Bool.or_eq_false_iff.mp unchanged
  refine ⟨before, ObstacleMap.obstacles_ingest_of_added_eq_zero ?_⟩
  exact Nat.eq_zero_of_not_pos (of_decide_eq_false added)

theorem Reached.latest (reached : Reached optimizer config memory nav log) : Latest nav log := by
  induction reached with
  | fresh =>
    refine ⟨?_, ?_, ?_, fun _ => rfl⟩
    · simp [Navigator.fresh]
    · simp
    · simp
  | act reached act ih => exact ih.act act
  | ingest reached batch pose ih => exact ih.ingest batch pose

end WaypointNav.Navigator
