import Lobby.Proofs.Request.Deeds

/-!
# Runs as deeds

Every event does deeds only, so what deeds keep holds in every state of a run (`Server.keep_run`).
-/

namespace Lobby.Server

variable {s : Server}

/-- **An event does deeds.** -/
theorem deeds_after (h : s.seating.Coherent) {e : Event} (admitted : s.admits e = true)
    (room : s.created.toNat + 1 < UInt32.size) : Stage.Deeds e s.stage (s.after e).stage := by
  cases e with
  | connect peer =>
    rw [after, stage_connect]
    exact Deeds.single h (.enter (idle_stage h (fresh_nextSession h)))
  | request session packet => exact Router.deeds_dispatch h admitted room packet
  | close session =>
    rw [after, stage_close]
    exact Deeds.single h (.close session)
  | disconnect session =>
    rw [after, disconnect, stage_deregister]
    exact deeds_leaveActivities h session disconnectedReason
  | wait clock => exact .refl
  | restock store => exact Deeds.single h (.restock rfl)

/-- What is feasible starts with a possible event. -/
theorem Feasible.deeds {e : Event} {events : List Event} (h : s.seating.Coherent)
    (feasible : s.Feasible (e :: events)) : Stage.Deeds e s.stage (s.after e).stage := by
  obtain ⟨admitted, -, games⟩ := feasible
  rw [gamesCreated] at games
  exact deeds_after h (Bool.and_eq_true_iff.1 admitted).1 (by omega)

/-- **What deeds keep, a run keeps.** -/
theorem keep_run {P : Stage → Prop} {events : List Event}
    (step : ∀ e ∈ events, ∀ {g k : Stage}, g.Orderly → P g → Stage.Deed e g k → P k)
    (h : s.seating.Coherent) (feasible : s.Feasible events) (start : P s.stage) :
    P (s.run events).stage := by
  induction events generalizing s with
  | nil => exact start
  | cons e events ih =>
    obtain ⟨coherent, rest⟩ := feasible.after h
    have kept := (feasible.deeds h).keep (step e List.mem_cons_self) start
    exact ih (fun e he => step e (List.mem_cons_of_mem _ he)) coherent rest kept

end Lobby.Server
