import Countersign.Proofs.Mediation
import Countersign.Proofs.Responses

/-!
A write is answered.

Once the store has granted an update, a program in order has nothing left to do but to note it in the log and to end
(`Program.Orderly.granted_of_changed`). So a request after which a record is another one has been answered 200
(`Service.answered_of_changed`), which is the converse of `Service.answered_changes`.
-/

namespace Countersign

open Http (Request Response)

/-- A call after which the store is another one is an update that has been granted. -/
theorem Backend.Working.granted_of_changed {backend : Backend} (working : backend.Working) {call : StoreCall}
    {answer : Option StoreAnswer} {store later : Store} (answered : backend call store = (answer, later))
    (changed : later ≠ store) : ∃ user fields saved, call = .update user fields ∧ answer = some (.ok saved) := by
  cases call with
  | update user fields =>
    rw [working.update] at answered
    rcases store.update_cases user fields with ⟨_, saved, _, _, _, updated⟩ | ⟨kept, -⟩
    · exact ⟨user, fields, saved, rfl, (congrArg Prod.fst answered).symm.trans (congrArg Prod.fst updated)⟩
    · rw [answered] at kept
      exact absurd kept changed
  | _ => exact absurd ((congrArg Prod.snd answered).symm.trans (working.looks (by trivial) store)) changed

namespace Program

variable {ι α : Type}

/-- A settled program ends, and leaves store and guard as they are. -/
theorem Settled.run {ends : α → Prop} {p : Program α} (settled : p.Settled ends) (backend : Backend) (w : World) :
    (∃ a, (p.run (World.answerWith backend) w).1 = some a ∧ ends a) ∧
      (p.run (World.answerWith backend) w).2.memory = w.memory := by
  induction p generalizing w with
  | done a => exact ⟨⟨a, rfl, settled⟩, rfl⟩
  | abort => exact settled.elim
  | call c next ih =>
    cases c with
    | log e => exact ih () settled _
    | _ => exact settled.elim

/-- A run that leaves another store behind ends as one in which an update has been granted. -/
theorem Orderly.granted_of_changed {backend : Backend} (working : backend.Working) {may : String → String → Prop}
    {ends : Ends ι α} {p : Program α} (orderly : p.Orderly ends may) (w : World)
    (changed : (p.run (World.answerWith backend) w).2.store ≠ w.store) :
    ∃ a, (p.run (World.answerWith backend) w).1 = some a ∧ ends.granted a := by
  induction orderly generalizing w with
  | done | abort => exact absurd rfl changed
  | log _ _ ih => exact ih { w with log := w.log ++ [_] } changed
  | record _ _ ih => exact ih _ { w with replay := w.replay.touch (ReplayGuard.key _ _) } changed
  | @store _ call next _ _ granted _ ih =>
    rcases isAnswer : backend call w.store with ⟨answer, store⟩
    rw [run_store isAnswer] at changed ⊢
    by_cases same : store = w.store
    · cases answer with
      | none => exact absurd same changed
      | some answer => exact ih answer { w with store } fun ended => changed (ended.trans same)
    · obtain ⟨user, fields, saved, isUpdate, rfl⟩ := working.granted_of_changed isAnswer same
      exact ((granted user fields isUpdate saved).run backend { w with store }).1

end Program

/-- Questions that write nothing. -/
abbrev Questions.lookUps : Questions := fun _ call => call.LooksUp

namespace Service

variable {s : Service} {now : Instant}

/-- A request that leaves another store behind has been answered 200. -/
theorem answered_of_changed {backend : Backend} (working : backend.Working) {w : World} {request : Request}
    {newId : String}
    (changed : ((s.handle request newId now).run (World.answerWith backend) w).2.store ≠ w.store) :
    ∃ response, ((s.handle request newId now).run (World.answerWith backend) w).1 = some response ∧
      response.status = 200 :=
  (s.handle_orderly request newId now).granted_of_changed working w changed

end Service

end Countersign
