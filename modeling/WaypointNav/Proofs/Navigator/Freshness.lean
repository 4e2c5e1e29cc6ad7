import WaypointNav.Proofs.Navigator.Latest

/-! No obstacle is lost between the map and the optimizer. A batch that adds something is answered by the
next tick, and a tick replans for nothing else than such a batch or a turn. -/
namespace WaypointNav.Navigator

variable {σ : Type} {optimizer : Optimizer σ} {config : Config} {memory : σ}

def sinceTick (effects : List Effect) : List Tally :=
  effects.foldl (fun tallies effect => match effect with
    | .ticked _ => []
    | .ingested tally => tallies ++ [tally]) []

@[simp] theorem sinceTick_ticked (effects : List Effect) (outcome : Outcome) :
    sinceTick (effects ++ [.ticked outcome]) = [] := by
  unfold sinceTick
  rw [List.foldl_append]
  rfl

@[simp] theorem sinceTick_ingested (effects : List Effect) (tally : Tally) :
    sinceTick (effects ++ [.ingested tally]) = sinceTick effects ++ [tally] := by
  unfold sinceTick
  rw [List.foldl_append]
  rfl

/-- Whether a batch since the last tick was said to have added something. -/
def pending (effects : List Effect) : Bool :=
  (sinceTick effects).any fun tally => decide (0 < tally.added)

theorem kept_pending (optimizer : Optimizer σ) (config : Config) (memory : σ) :
    Kept optimizer config memory fun _ nav effects => nav.mapChanged = pending effects where
  tick := by
    intro events nav effects position reached before p
    rw [p.mapChanged_last, pending, sinceTick_ticked]
    rfl
  ingest := by
    intro events nav effects before batch pose
    rw [pending, sinceTick_ingested, List.any_append, ← pending, ← before]
    simp [Navigator.ingest]

/-- A tick replans once if something was added to the map since the tick before, once if it turns, and never
else; each time it puts the whole map to the optimizer. So after a tick the optimizer's latest question
was about all obstacles known. Between ticks the map grows at its end, by as many obstacles as are said
to be added. -/
theorem no_obstacle_lost (optimizer : Optimizer σ) (config : Config) (memory : σ)
    (accepted : config.validate = .ok ()) (events : List Event) :
    ∃ nav effects, flight optimizer config memory events = .ok (nav, effects) ∧
      (∀ position, ∃ started opening last outcome turning,
        nav.start position = .ok (started, opening) ∧
        flight optimizer config memory (events ++ [.tick position]) =
          .ok (last, effects ++ [.ticked outcome]) ∧
        outcome.calls = (started.refresh optimizer).2.calls ++ turning ∧
        (started.refresh optimizer).2.calls.length = (pending effects).toNat ∧
        turning.length = outcome.report.outerAdvanced.toNat ∧
        outcome.report.replans = (pending effects).toNat + outcome.report.outerAdvanced.toNat ∧
        (∀ call ∈ outcome.calls, call.query.obstacles = nav.map.obstacles) ∧
        last.map = nav.map ∧
        last.map.obstacles = (((Effect.total effects).calls ++ outcome.calls).getLast?.map
          (·.query.obstacles)).getD []) ∧
      ∀ batch pose, ∃ grown tally new,
        flight optimizer config memory (events ++ [.ingest batch pose]) =
          .ok (grown, effects ++ [.ingested tally]) ∧
        grown.map.obstacles = nav.map.obstacles ++ new ∧ new.length = tally.added := by
  have usable := (Config.validate_eq_ok_iff config).mp accepted
  obtain ⟨nav, effects, flight_eq, reached, changed_eq⟩ :=
    flight_ok usable (kept_pending optimizer config memory) rfl events
  refine ⟨nav, effects, flight_eq, ?_, ?_⟩
  · intro position
    obtain ⟨p⟩ := (reached.sound usable).passage usable optimizer position
    have latest := (reached.acts p.acts).latest
    refine ⟨p.started, p.opening, p.last, p.outcome, p.rounding.calls, p.opened.start_eq,
      flight_concat flight_eq p.step_eq, p.calls_eq, ?_, p.length_rounding, ?_,
      p.acts.obstacles_eq, p.acts.map_eq, latest.known p.mapChanged_last⟩
    · rw [← changed_eq]
      exact p.length_refresh
    · rw [← changed_eq, p.report_eq]
  · intro batch pose
    obtain ⟨new, obstacles_eq, length_eq⟩ :=
      nav.map.obstacles_ingest pose nav.config.obstacles.minRange batch
    exact ⟨_, _, new, flight_concat flight_eq rfl, obstacles_eq, length_eq⟩

/-- The first batch asks for no replan if its reading is no number, and for one if it puts an obstacle anywhere. -/
theorem asked_by_first_batch :
    ({} : Config).validate = .ok () ∧
    (∃ nav effects started opening,
      flight Optimizer.keep {} 0 [.ingest [⟨0 / 0, 0, 0⟩] ⟨.origin, 0⟩] = .ok (nav, effects) ∧
      nav.start .origin = .ok (started, opening) ∧
      (started.refresh Optimizer.keep).2.calls.length = 0) ∧
    ∃ nav effects started opening,
      flight Optimizer.keep {} 0 [.ingest [⟨1, 0, 0⟩] ⟨.origin, 0⟩] = .ok (nav, effects) ∧
      nav.start .origin = .ok (started, opening) ∧
      (started.refresh Optimizer.keep).2.calls.length =
        ((Detection.mk 1 0 0).resolve ⟨.origin, 0⟩ 0.5).isFinite.toNat := by
  have told (d : Detection) : ∃ nav effects started opening,
      flight Optimizer.keep {} 0 [.ingest [d] ⟨.origin, 0⟩] = .ok (nav, effects) ∧
      nav.start .origin = .ok (started, opening) ∧
      (started.refresh Optimizer.keep).2.calls.length =
        (d.isFinite && (d.resolve ⟨.origin, 0⟩ 0.5).isFinite).toNat := by
    obtain ⟨nav, effects, flight_eq, ticks, -⟩ :=
      no_obstacle_lost Optimizer.keep {} 0 rfl [.ingest [d] ⟨.origin, 0⟩]
    obtain ⟨started, opening, last, outcome, turning, start_eq, -, -, asked, -⟩ := ticks .origin
    refine ⟨nav, effects, started, opening, flight_eq, start_eq, ?_⟩
    have room : 0 < ({} : Config).obstacles.capacity := by decide
    have added := ObstacleMap.added_ingest_empty room 1 ⟨.origin, 0⟩ 0.5 d
    have effects_eq : effects =
        [.ingested ((ObstacleMap.empty 20 1).ingest ⟨.origin, 0⟩ 0.5 [d]).1] := by
      cases flight_eq
      rfl
    have pending_eq : pending effects =
        decide (0 < ((ObstacleMap.empty 20 1).ingest ⟨.origin, 0⟩ 0.5 [d]).1.added) := by
      rw [effects_eq]
      exact Bool.or_false _
    rw [asked, pending_eq, added]
    cases d.isFinite && (d.resolve ⟨.origin, 0⟩ 0.5).isFinite <;> rfl
  have malformed : (Detection.mk (0 / 0) 0 0).isFinite = false := by decide +kernel
  have wellformed : (Detection.mk 1 0 0).isFinite = true := by decide +kernel
  refine ⟨rfl, ?_, ?_⟩
  · have first := told ⟨0 / 0, 0, 0⟩
    rwa [malformed] at first
  · have first := told ⟨1, 0, 0⟩
    rwa [wellformed] at first

end WaypointNav.Navigator
