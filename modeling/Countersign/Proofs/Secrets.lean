import Countersign.Proofs.Responses

/-!
No signature is ever compared under an empty key.

A kept text is read as a secret just where it is the text of some octets (`SharedSecret.ofText?_eq_some_iff`), and a
secret that is agreed on has octets too. So whatever is kept, and whatever programs are answered, the check of a
signature finds no secret empty, at the gate and at the endpoints alike: it neither answers so nor logs it
(`Program.Orderly.run`, `SharedSecret.never_empty`). What the check answers it logs (`Signature.tells_check`), so the log
tells as much as the answer.
-/

namespace Countersign

open Http (Response)
open Session (Attempt)

/-! ### Secrets and their texts -/

namespace SharedSecret

theorem ofText?_encoded (b : Bytes) : ofText? (toText ⟨b⟩) = if b = [] then none else some ⟨b⟩ := by
  by_cases empty : b = []
  · subst empty
    rfl
  · rw [if_neg empty]
    exact ofText?_toText empty

end SharedSecret

/-- In a run no refusal for an empty secret is logged, and the end is one that there may be. -/
theorem Program.Orderly.run {ι α : Type} {ends : Ends ι α} {may : String → String → Prop} {p : Program α}
    (orderly : p.Orderly ends may) (backend : Backend) (w : World) :
    (∀ a, (p.run (World.answerWith backend) w).1 = some a → ends.ever a) ∧
      ∃ events, (p.run (World.answerWith backend) w).2.log = w.log ++ events ∧
        ∀ e ∈ events, e.refusal? ≠ some .emptySecret := by
  induction orderly generalizing w with
  | done ended =>
    refine ⟨?_, [], by simp [Program.run], by simp⟩
    rintro _ ⟨⟩
    exact ended
  | abort => exact ⟨by simp [Program.run], [], by simp [Program.run], by simp⟩
  | @log _ e _ keyed _ ih =>
    obtain ⟨ended, events, grown, others⟩ := ih { w with log := w.log ++ [e] }
    refine ⟨ended, e :: events, grown.trans (List.append_cons ..).symm, ?_⟩
    rw [List.forall_mem_cons]
    exact ⟨keyed, others⟩
  | record _ _ ih => exact ih _ { w with replay := w.replay.touch (ReplayGuard.key _ _) }
  | @store _ call _ _ _ _ _ ih =>
    rcases isAnswer : backend call w.store with ⟨answer, store⟩
    rw [run_store isAnswer]
    cases answer with
    | none => exact ⟨by simp, [], by simp, by simp⟩
    | some a => exact ih a { w with store }

namespace Signature

/-- What the log tells of a check that comes to an answer, or to none. -/
def notes (request : SignedRequest) : Option (Except SignatureError Unit) → List Event
  | some (.error e) => [refusal request e]
  | _ => []

/-- Whatever the world, the log grows by what a check answers. -/
def Tells (backend : Backend) (request : SignedRequest) (p : Program (Except SignatureError Unit)) : Prop :=
  ∀ w, (p.run (World.answerWith backend) w).2.log = w.log ++ notes request (p.run (World.answerWith backend) w).1

section

variable {backend : Backend} {request : SignedRequest}

theorem tells_ok : Tells backend request (pure (.ok ())) := fun _ => (List.append_nil _).symm

theorem tells_refuse (e : SignatureError) : Tells backend request (refuse request e) := fun _ => rfl

theorem tells_ite {c : Prop} [Decidable c] {p q : Program (Except SignatureError Unit)}
    (first : Tells backend request p) (second : Tells backend request q) :
    Tells backend request (if c then p else q) := by
  split
  · exact first
  · exact second

theorem tells_record {timestamp nonce : String} {next : Bool → Program (Except SignatureError Unit)}
    (rest : ∀ fresh, Tells backend request (next fresh)) :
    Tells backend request (Program.record timestamp nonce >>= next) :=
  fun w => rest _ { w with replay := w.replay.touch (ReplayGuard.key timestamp nonce) }

/-- A check logs why it refuses a request, and nothing else. -/
theorem tells_check (secret : Option Bytes) (now : Instant) : Tells backend request (check request secret now) := by
  unfold check
  cases now.onClock? with
  | none => exact fun _ => (List.append_nil _).symm
  | some now =>
    show Tells backend request (checkAt request secret now)
    unfold checkAt
    split
    · exact tells_refuse _
    · split
      · exact tells_ok
      · refine tells_ite (tells_refuse _) (tells_ite (tells_record fun fresh => ?_) (tells_refuse _))
        exact tells_ite (tells_ite tells_ok (tells_refuse _)) (tells_refuse _)

end

end Signature

/-- Secrets go to texts and back, those of no octets apart; so no check that is made under a secret finds it empty. The
checks that a login and a refresh make can be told by the log, in which every refusal stands. -/
theorem SharedSecret.never_empty :
    (∀ b, ofText? (toText ⟨b⟩) = if b = [] then none else some ⟨b⟩) ∧
      (∀ text secret, ofText? text = some secret ↔ secret.bytes ≠ [] ∧ secret.toText = text) ∧
      (∀ backend w p resource action request now,
        ((Gate.check p resource action request now).run (World.answerWith backend) w).1 ≠
          some (.error (.signature .emptySecret))) ∧
      (∀ backend w request secret now,
        ((Signature.check request secret now).run (World.answerWith backend) w).2.log =
          w.log ++ Signature.notes request ((Signature.check request secret now).run (World.answerWith backend) w).1) ∧
      (∀ request e, (Signature.refusal request e).refusal? = some e) ∧
      ∀ backend w s now (handler : Handler), ∃ events,
        ((handler.program s now).run (World.answerWith backend) w).2.log = w.log ++ events ∧
          ∀ e ∈ events, e.refusal? ≠ some .emptySecret := by
  refine ⟨ofText?_encoded, fun _ _ => ofText?_eq_some_iff, ?_, ?_, ?_, ?_⟩
  · intro backend w p resource action request now answered
    exact ((Gate.orderly_check action).run backend w).1 _ answered rfl
  · exact fun backend w request secret now => Signature.tells_check secret now w
  · exact Signature.refusal?_refusal
  · intro backend w s now handler
    obtain ⟨_, orderly⟩ := handler.orderly s now
    exact (orderly.run backend w).2

end Countersign
