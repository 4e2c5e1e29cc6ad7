import WaypointNav.Proofs.Except
import WaypointNav.Proofs.Navigator.Tick

/-! Flights. What a fresh navigator has, and what every tick and every batch keep, holds after any events;
no flight of usable settings ends in a fault. -/
namespace WaypointNav.Navigator

variable {σ : Type} {optimizer : Optimizer σ} {config : Config} {memory : σ}

def flight (optimizer : Optimizer σ) (config : Config) (memory : σ) (events : List Event) :
    Except Fault (Navigator σ × List Effect) := do
  let nav ← Navigator.new config memory
  nav.run optimizer events

/-- The states of a flight, with all that was done up to each. -/
inductive Reached (optimizer : Optimizer σ) (config : Config) (memory : σ) :
    Navigator σ → Outcome → Prop
  | fresh : Reached optimizer config memory (fresh config memory) {}
  | act {nav next : Navigator σ} {log done : Outcome}
      (reached : Reached optimizer config memory nav log) (act : Act optimizer nav done next) :
      Reached optimizer config memory next (log ++ done)
  | ingest {nav : Navigator σ} {log : Outcome} (reached : Reached optimizer config memory nav log)
      (batch : List Detection) (pose : Pose) :
      Reached optimizer config memory (nav.ingest batch pose).1 log

theorem Reached.acts {nav last : Navigator σ} {log done : Outcome}
    (reached : Reached optimizer config memory nav log) (acts : Acts optimizer nav done last) :
    Reached optimizer config memory last (log ++ done) := by
  induction acts with
  | none =>
    rw [Outcome.append_empty]
    exact reached
  | snoc acts act ih =>
    rw [← Outcome.append_assoc]
    exact ih.act act

theorem Reached.sound {nav : Navigator σ} {log : Outcome}
    (reached : Reached optimizer config memory nav log) (usable : config.Usable) :
    Sound config memory nav := by
  induction reached with
  | fresh => exact .atRest atRest_fresh
  | act reached act ih => exact ih.act usable act
  | ingest reached batch pose ih => exact ih.ingest batch pose

structure Kept (optimizer : Optimizer σ) (config : Config) (memory : σ)
    (P : List Event → Navigator σ → List Effect → Prop) : Prop where
  tick {events : List Event} {nav : Navigator σ} {effects : List Effect} {position : Point}
    (reached : Reached optimizer config memory nav (Effect.total effects))
    (before : P events nav effects) (p : Passage optimizer nav position) :
    P (events ++ [.tick position]) p.last (effects ++ [.ticked p.outcome])
  ingest {events : List Event} {nav : Navigator σ} {effects : List Effect}
    (before : P events nav effects) (batch : List Detection) (pose : Pose) :
    P (events ++ [.ingest batch pose]) (nav.ingest batch pose).1
      (effects ++ [.ingested (nav.ingest batch pose).2])

variable {P Q : List Event → Navigator σ → List Effect → Prop}

theorem Kept.and (first : Kept optimizer config memory P) (second : Kept optimizer config memory Q) :
    Kept optimizer config memory fun events nav effects => P events nav effects ∧ Q events nav effects where
  tick := by
    intro events nav effects position reached before p
    exact ⟨first.tick reached before.1 p, second.tick reached before.2 p⟩
  ingest := by
    intro events nav effects before batch pose
    exact ⟨first.ingest before.1 batch pose, second.ingest before.2 batch pose⟩

theorem run_cons_eq_ok_iff {nav last : Navigator σ} {event : Event} {events : List Event}
    {effects : List Effect} :
    nav.run optimizer (event :: events) = .ok (last, effects) ↔ ∃ mid effect rest,
      nav.step optimizer event = .ok (mid, effect) ∧ mid.run optimizer events = .ok (last, rest) ∧
      effects = effect :: rest := by
  simp only [run, bind_eq_ok_iff, pure_eq_ok_iff, Prod.exists, Prod.mk.injEq]
  constructor
  · rintro ⟨mid, effect, step_eq, _, rest, run_eq, rfl, rfl⟩
    exact ⟨mid, effect, rest, step_eq, run_eq, rfl⟩
  · rintro ⟨mid, effect, rest, step_eq, run_eq, rfl⟩
    exact ⟨mid, effect, step_eq, last, rest, run_eq, rfl, rfl⟩

theorem Reached.run_ok {past : List Event} {nav : Navigator σ} {effects : List Effect}
    (reached : Reached optimizer config memory nav (Effect.total effects)) (usable : config.Usable)
    (kept : Kept optimizer config memory P) (before : P past nav effects) (events : List Event) :
    ∃ last later, nav.run optimizer events = .ok (last, later) ∧
      Reached optimizer config memory last (Effect.total (effects ++ later)) ∧
      P (past ++ events) last (effects ++ later) := by
  -- The events behind are kept in `past`, so that `P` can speak of the whole flight.
  induction events generalizing past nav effects with
  | nil =>
    refine ⟨nav, [], rfl, ?_⟩
    rw [List.append_nil, List.append_nil]
    exact ⟨reached, before⟩
  | cons event events ih =>
    cases event with
    | tick position =>
      obtain ⟨p⟩ := (reached.sound usable).passage usable optimizer position
      have after := reached.acts p.acts
      rw [← Effect.total_ticked] at after
      obtain ⟨last, later, run_eq, rest⟩ := ih after (kept.tick reached before p)
      refine ⟨last, .ticked p.outcome :: later, ?_, ?_⟩
      · exact run_cons_eq_ok_iff.mpr ⟨_, _, _, p.step_eq, run_eq, rfl⟩
      · rwa [List.append_cons, List.append_cons _ (Event.tick position)]
    | ingest batch pose =>
      have after := reached.ingest batch pose
      rw [← Effect.total_ingested effects (nav.ingest batch pose).2] at after
      obtain ⟨last, later, run_eq, rest⟩ := ih after (kept.ingest before batch pose)
      refine ⟨last, .ingested (nav.ingest batch pose).2 :: later, ?_, ?_⟩
      · exact run_cons_eq_ok_iff.mpr ⟨_, _, _, rfl, run_eq, rfl⟩
      · rwa [List.append_cons, List.append_cons _ (Event.ingest batch pose)]

theorem run_concat {nav mid last : Navigator σ} {events : List Event} {effects : List Effect}
    {event : Event} {effect : Effect} (run_eq : nav.run optimizer events = .ok (mid, effects))
    (step_eq : mid.step optimizer event = .ok (last, effect)) :
    nav.run optimizer (events ++ [event]) = .ok (last, effects ++ [effect]) := by
  induction events generalizing nav effects with
  | nil =>
    cases run_eq
    exact run_cons_eq_ok_iff.mpr ⟨_, _, _, step_eq, rfl, rfl⟩
  | cons first events ih =>
    obtain ⟨stepped, done, rest, first_eq, rest_eq, rfl⟩ := run_cons_eq_ok_iff.mp run_eq
    exact run_cons_eq_ok_iff.mpr ⟨stepped, done, _, first_eq, ih rest_eq, rfl⟩

theorem flight_concat {nav last : Navigator σ} {events : List Event} {effects : List Effect}
    {event : Event} {effect : Effect}
    (flight_eq : flight optimizer config memory events = .ok (nav, effects))
    (step_eq : nav.step optimizer event = .ok (last, effect)) :
    flight optimizer config memory (events ++ [event]) = .ok (last, effects ++ [effect]) := by
  obtain ⟨start, new_eq, run_eq⟩ := bind_eq_ok_iff.mp flight_eq
  exact bind_eq_ok_iff.mpr ⟨start, new_eq, run_concat run_eq step_eq⟩

theorem flight_ok (usable : config.Usable) (kept : Kept optimizer config memory P)
    (fresh : P [] (fresh config memory) []) (events : List Event) :
    ∃ nav effects, flight optimizer config memory events = .ok (nav, effects) ∧
      Reached optimizer config memory nav (Effect.total effects) ∧ P events nav effects := by
  have start : Reached optimizer config memory (Navigator.fresh config memory) (Effect.total []) :=
    .fresh
  obtain ⟨nav, effects, run_eq, reached, rest⟩ := start.run_ok usable kept fresh events
  refine ⟨nav, effects, ?_, reached, rest⟩
  unfold flight
  rw [new_eq_ok usable]
  exact run_eq

end WaypointNav.Navigator
