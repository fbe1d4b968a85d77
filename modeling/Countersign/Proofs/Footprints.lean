import Countersign.Proofs.Commitments
import Countersign.Proofs.Nonces
import Countersign.Proofs.Replays

/-!
What a request leaves behind.

A request is noted at most once, under the pair that its own headers bear, and only if its method asks for a change
(`Service.handle_orderly`). That bounds what a request does to the guard, whatever it comes to; a write, on the other
hand, is answered 200 (`Service.answered_of_changed`). Both together are `Service.handle_footprint`.
-/

namespace Countersign

open Http (Request Response)
open Session (Attempt)

/-! ### The guard after a note -/

/-- The keys of a guard once a key has been noted: one that the guard knows comes to the front; a new one is added in
front, and takes the place of the oldest if the guard is full. -/
inductive ReplayGuard.Renewed (guard : ReplayGuard) (k : String) : List String → Prop
  | known (known : k ∈ guard.keys) : Renewed guard k (k :: guard.keys.erase k)
  | added (new : k ∉ guard.keys) (room : guard.keys.length < guard.capacity) : Renewed guard k (k :: guard.keys)
  | evicting (new : k ∉ guard.keys) (full : guard.keys.length = guard.capacity) :
      Renewed guard k (k :: guard.keys.dropLast)

theorem ReplayGuard.renewed_touch (guard : ReplayGuard) (k : String) : guard.Renewed k (guard.touch k).keys := by
  have bounded := guard.bounded
  by_cases known : k ∈ guard.keys
  · rw [keys_touch_known known]
    exact .known known
  · rw [keys_touch, List.erase_of_not_mem known]
    by_cases room : guard.keys.length < guard.capacity
    · rw [List.take_of_length_le (by omega)]
      exact .added known room
    · have full : guard.keys.length = guard.capacity := by omega
      rw [← full, ← List.dropLast_eq_take]
      exact .evicting known full

/-- A run leaves the guard as it was, or has noted one pair that may be noted. -/
theorem Program.Orderly.noted {ι α : Type} {ends : Ends ι α} {may : String → String → Prop} {p : Program α}
    (orderly : p.Orderly ends may) (backend : Backend) (w : World) :
    (p.run (World.answerWith backend) w).2.replay = w.replay ∨ ∃ timestamp nonce, may timestamp nonce ∧
      (p.run (World.answerWith backend) w).2.replay = w.replay.touch (ReplayGuard.key timestamp nonce) := by
  induction orderly generalizing w with
  | done | abort => exact .inl rfl
  | log _ _ ih => exact ih { w with log := w.log ++ [_] }
  | @record may timestamp nonce next allowed _ ih =>
    right
    refine ⟨timestamp, nonce, allowed, ?_⟩
    rcases ih _ { w with replay := w.replay.touch (ReplayGuard.key timestamp nonce) } with same | noted
    · exact same
    · obtain ⟨_, _, never, -⟩ := noted
      exact never.elim
  | @store _ call _ _ _ _ _ ih =>
    rcases isAnswer : backend call w.store with ⟨answer, store⟩
    rw [run_store isAnswer]
    cases answer with
    | none => exact .inl rfl
    | some a => exact ih a { w with store }

/-! ### Requests -/

namespace Service

variable {s : Service} {now : Instant}

theorem Reaches.mutating {request : Request} {before : List Exchange} {handler : Handler}
    (reached : s.Reaches request now before handler) : request.method.isMutating = true := by
  cases reached with
  | login put place =>
    rw [put]
    decide
  | refresh post place =>
    rw [post]
    decide
  | logout delete place =>
    rw [delete]
    decide
  | rename patch place named presented belongs =>
    rw [patch]
    decide

/-- A request that only reads leaves store and guard as they are. -/
theorem untouched_of_reads {backend : Backend} (working : backend.Working) (s : Service) (w : World)
    {request : Request} (reads : request.Reads) (newId : String) (now : Instant) :
    ((s.handle request newId now).run (World.answerWith backend) w).2.memory = w.memory := by
  have unchanging := reads.not_mutating
  have sameStore : ((s.handle request newId now).run (World.answerWith backend) w).2.store = w.store := by
    rcases s.writes_once working w request newId now rfl with same | ⟨_, _, _, _, _, _, _, reached, -⟩
    · exact same
    · rw [reached.mutating] at unchanging
      cases unchanging
  have sameReplay : ((s.handle request newId now).run (World.answerWith backend) w).2.replay = w.replay := by
    rcases (s.handle_orderly request newId now).noted backend w with same | ⟨_, _, ⟨changes, -⟩, -⟩
    · exact same
    · rw [show request.method.isMutating = true from changes] at unchanging
      cases unchanging
  show Memory.mk _ _ = Memory.mk _ _
  rw [sameStore, sameReplay]

/-- What a request leaves behind, given what its run comes to. -/
structure Footprint (request : Request) (w : World) (ran : Option Response × World) : Prop where
  /-- Records are others only if the answer is 200. -/
  refused : ∀ response, ran.1 = some response → response.status ≠ 200 → ran.2.store = w.store
  reads : request.Reads → ran.2.store = w.store ∧ ran.2.replay = w.replay
  capacity : ran.2.replay.capacity = w.replay.capacity
  /-- At most the pair that the request bears has been noted. -/
  noted : ran.2.replay = w.replay ∨ ∃ timestamp nonce, request.Bears timestamp nonce ∧
    w.replay.Renewed (ReplayGuard.key timestamp nonce) ran.2.replay.keys

theorem handle_footprint {backend : Backend} (working : backend.Working) (s : Service) (w : World) (request : Request)
    (newId : String) (now : Instant) :
    Footprint request w ((s.handle request newId now).run (World.answerWith backend) w) := by
  have noted := (s.handle_orderly request newId now).noted backend w
  refine ⟨fun response answered notOk => ?_, fun reads => ?_, ?_, ?_⟩
  · by_cases same : ((s.handle request newId now).run (World.answerWith backend) w).2.store = w.store
    · exact same
    · obtain ⟨other, answeredToo, ok⟩ := s.answered_of_changed working same
      cases answered.symm.trans answeredToo
      exact absurd ok notOk
  · have untouched := untouched_of_reads working s w reads newId now
    exact ⟨congrArg Memory.store untouched, congrArg Memory.replay untouched⟩
  · rcases noted with same | ⟨timestamp, nonce, -, touched⟩
    · rw [same]
    · rw [touched]
      rfl
  · refine noted.imp_right ?_
    rintro ⟨timestamp, nonce, ⟨-, bears⟩, touched⟩
    rw [touched]
    exact ⟨timestamp, nonce, bears, ReplayGuard.renewed_touch ..⟩

end Service

theorem Service.handle_footprint_rename :
    Service.Footprint (Sample.rename "aaaaaaaaaaaaaaaaaaaa") Sample.world
      ((Sample.service.handle (Sample.rename "aaaaaaaaaaaaaaaaaaaa") "" ⟨60, 0⟩).run (World.answerWith Store.answer)
        Sample.world) :=
  Service.handle_footprint Store.answer_working Sample.service Sample.world (Sample.rename "aaaaaaaaaaaaaaaaaaaa") ""
    ⟨60, 0⟩

end Countersign
