import Countersign.Proofs.Guards
import Countersign.Proofs.Outages
import Countersign.Proofs.Signing
import Countersign.Proofs.Verdicts

/-!
Which requests a check lets pass, and what it does to the guard.

`Stamp.Borne` says which headers bear a stamp, and `Signature.Ready` what more is in order when the guard is asked:
secret and body. The guard is asked exactly then, and once. It notes the pair, whatever comes of the signature; nothing
else that is found out about a request changes it (`Signature.checkAt_exact`).
-/

namespace Countersign

open Http (Headers)

namespace Stamp

/-- Which headers bear a stamp at an instant. -/
structure Borne (headers : Headers) (now : Instant) (stamp : Stamp) : Prop where
  signature : headers.Shows Signature.signatureHeader stamp.signature
  nonce : headers.Shows Signature.nonceHeader stamp.nonce
  long : 20 ≤ stamp.nonce.length
  timestamp : headers.Shows Signature.timestampHeader stamp.timestamp
  near : ∃ sent, Time.Rfc3339.read? stamp.timestamp = some sent ∧
    -(60 * Instant.second) ≤ now.since sent ∧ now.since sent ≤ 60 * Instant.second

theorem borne_iff {headers : Headers} {now : Instant} {stamp : Stamp} :
    Borne headers now stamp ↔ read headers now = .ok stamp := by
  rw [read_eq_ok_iff]
  constructor
  · rintro ⟨signed, unique, long, dated, sent, isInstant, near⟩
    exact ⟨header_eq_ok_iff.mpr signed, header_eq_ok_iff.mpr unique, long, header_eq_ok_iff.mpr dated, sent, isInstant,
      inWindow_iff.mpr near⟩
  · rintro ⟨signed, unique, long, dated, sent, isInstant, near⟩
    exact ⟨header_eq_ok_iff.mp signed, header_eq_ok_iff.mp unique, long, header_eq_ok_iff.mp dated, sent, isInstant,
      inWindow_iff.mp near⟩

end Stamp

namespace Signature

/-- All is in order that a check looks at before it asks the guard. -/
structure Ready (request : SignedRequest) (secret : Option Bytes) (now : Instant) (stamp : Stamp) : Prop where
  borne : stamp.Borne request.headers now
  keyed : ∃ bytes, secret = some bytes ∧ bytes ≠ []
  covers : request.headers.text? bodyHashHeader = some (bodyHash stamp.nonce request.body)

/-- The signature that a stamp claims is that of the request. -/
def Signed (request : SignedRequest) (secret : Bytes) (stamp : Stamp) : Prop :=
  stamp.signature = ofParts secret stamp.nonce stamp.timestamp request.method request.target
    (bodyHash stamp.nonce request.body)

/-- No digest is empty, so a header that is not there never passes for one. -/
theorem coversBody_iff {request : SignedRequest} {stamp : Stamp} : stamp.coversBody request = true ↔
    request.headers.text? bodyHashHeader = some (bodyHash stamp.nonce request.body) := by
  have some_char : bodyHash stamp.nonce request.body ≠ "" := Base64.encode_ne .standard (Hash.hmac_ne _ _)
  unfold Stamp.coversBody
  rw [beq_iff_eq]
  cases request.headers.text? bodyHashHeader with
  | none => simp [some_char.symm]
  | some text => simp

theorem signs_iff {request : SignedRequest} {secret : Bytes} {stamp : Stamp} :
    stamp.signs request secret = true ↔ Signed request secret stamp := by
  unfold Stamp.signs Signed
  exact beq_iff_eq

section

variable {guard left : ReplayGuard} {request : SignedRequest} {given : Option Bytes} {secret : Bytes} {now : Instant}
  {stamp : Stamp} {answer : Except SignatureError Unit}

theorem Ready.intro (read : Stamp.read request.headers now = .ok stamp) (secret_ne : secret ≠ [])
    (covers : stamp.coversBody request = true) : Ready request (some secret) now stamp :=
  ⟨Stamp.borne_iff.mpr read, ⟨secret, rfl, secret_ne⟩, coversBody_iff.mp covers⟩

theorem Ready.elim (ready : Ready request (some secret) now stamp) :
    Stamp.read request.headers now = .ok stamp ∧ secret ≠ [] ∧ stamp.coversBody request = true := by
  obtain ⟨borne, ⟨_, ⟨⟩, secret_ne⟩, covers⟩ := ready
  exact ⟨Stamp.borne_iff.mp borne, secret_ne, coversBody_iff.mpr covers⟩

/-! ### Answers -/

namespace Verdict

theorem accepts_iff (verdict : Verdict guard request now (some secret) answer left) : answer = .ok () ↔
    ∃ stamp, Ready request (some secret) now stamp ∧ stamp.key ∉ guard.keys ∧ Signed request secret stamp := by
  constructor
  · rintro rfl
    cases verdict with
    | accepted read secret_ne covers fresh signs => exact ⟨_, .intro read secret_ne covers, fresh, signs_iff.mp signs⟩
  · rintro ⟨stamp, ready, fresh, signed⟩
    obtain ⟨read, secret_ne, covers⟩ := ready.elim
    exact (verdict.unique (.accepted read secret_ne covers fresh (signs_iff.mpr signed))).1

theorem unsigned_iff (verdict : Verdict guard request now none answer left) :
    answer = .ok () ↔ ∃ stamp : Stamp, stamp.Borne request.headers now := by
  constructor
  · rintro rfl
    cases verdict with
    | unsigned read => exact ⟨_, Stamp.borne_iff.mpr read⟩
  · rintro ⟨stamp, borne⟩
    exact (verdict.unique (.unsigned (Stamp.borne_iff.mp borne))).1

/-- A new pair is noted, whether the signature is right or wrong. -/
theorem of_new (verdict : Verdict guard request now given answer left) (ready : Ready request given now stamp)
    (new : stamp.key ∉ guard.keys) :
    left = guard.touch stamp.key ∧ (answer = .ok () ∨ answer = .error .signatureMismatch) := by
  obtain ⟨secret, rfl, -⟩ := ready.keyed
  obtain ⟨read, secret_ne, covers⟩ := ready.elim
  by_cases signs : stamp.signs request secret = true
  · obtain ⟨same, isLeft⟩ := verdict.unique (.accepted read secret_ne covers new signs)
    exact ⟨isLeft, .inl same⟩
  · obtain ⟨same, isLeft⟩ := verdict.unique (.mismatched read secret_ne covers new (Bool.eq_false_iff.mpr signs))
    exact ⟨isLeft, .inr same⟩

theorem of_known (verdict : Verdict guard request now given answer left) (ready : Ready request given now stamp)
    (known : stamp.key ∈ guard.keys) : left = guard.touch stamp.key ∧ answer = .error .replay := by
  obtain ⟨secret, rfl, -⟩ := ready.keyed
  obtain ⟨read, secret_ne, covers⟩ := ready.elim
  exact (verdict.unique (.replayed read secret_ne covers known)).symm

/-- Where the guard is asked, there is a secret, and the request passes, is a replay or has another signature. -/
theorem unready (verdict : Verdict guard request now given answer left)
    (otherwise : given = none ∨ ∃ e, answer = .error e ∧ e ≠ .replay ∧ e ≠ .signatureMismatch) (stamp : Stamp) :
    ¬ Ready request given now stamp := by
  intro ready
  rcases otherwise with rfl | ⟨e, rfl, notReplay, notMismatch⟩
  · obtain ⟨bytes, isSecret, -⟩ := ready.keyed
    cases isSecret
  · by_cases known : stamp.key ∈ guard.keys
    · exact notReplay (Except.error.inj (verdict.of_known ready known).2)
    · rcases (verdict.of_new ready known).2 with accepted | mismatched
      · cases accepted
      · exact notMismatch (Except.error.inj mismatched)

/-- A guard that is not asked stays as it was. -/
theorem of_unready (verdict : Verdict guard request now given answer left)
    (unready : ∀ stamp, ¬ Ready request given now stamp) : left = guard := by
  cases verdict with
  | unread | unsigned | emptySecret | otherBody => rfl
  | replayed read secret_ne covers | mismatched read secret_ne covers | accepted read secret_ne covers =>
    exact absurd (.intro read secret_ne covers) (unready _)

theorem capacity (verdict : Verdict guard request now given answer left) : left.capacity = guard.capacity := by
  cases verdict <;> rfl

end Verdict

/-! ### What the guard is asked -/

theorem heard_ready (backend : Backend) (w : World) (ready : Ready request given now stamp) :
    (checkAt request given now).heard (World.answerWith backend) w =
      [.record stamp.timestamp stamp.nonce (w.replay.record stamp.timestamp stamp.nonce).1] := by
  obtain ⟨secret, rfl, -⟩ := ready.keyed
  obtain ⟨read, secret_ne, covers⟩ := ready.elim
  unfold checkAt
  rw [read]
  dsimp only
  unfold checkStamp
  rw [if_neg (by simpa using secret_ne), if_pos covers]
  show _ :: Program.heard _ (if (w.replay.record stamp.timestamp stamp.nonce).1 then _ else _) _ = _
  -- What is left to do is only to log.
  split
  · split <;> rfl
  · rfl

theorem heard_unready (backend : Backend) (w : World) (unready : ∀ stamp, ¬ Ready request given now stamp) :
    (checkAt request given now).heard (World.answerWith backend) w = [] := by
  unfold checkAt
  cases read : Stamp.read request.headers now with
  | error e => rfl
  | ok stamp =>
    cases given with
    | none => rfl
    | some secret =>
      dsimp only
      unfold checkStamp
      by_cases empty : secret = []
      · rw [if_pos (by simpa using empty)]
        rfl
      · have other : ¬ stamp.coversBody request = true := fun covers => unready stamp (.intro read empty covers)
        rw [if_neg (by simpa using empty), if_neg other]
        rfl

end

/-! ### The whole check -/

/-- What a check answers, what it asks, and the guard afterwards. -/
structure Checked (guard : ReplayGuard) (request : SignedRequest) (secret : Option Bytes) (now : Instant)
    (answer : Except SignatureError Unit) (asked : List Exchange) (left : ReplayGuard) : Prop where
  /-- Under a secret a request passes if all is in order, the pair is new, and it is signed. -/
  accepts : ∀ bytes, secret = some bytes → (answer = .ok () ↔
    ∃ stamp, Ready request secret now stamp ∧ stamp.key ∉ guard.keys ∧ Signed request bytes stamp)
  /-- Without a secret it passes if it bears a stamp. -/
  unsigned : secret = none → (answer = .ok () ↔ ∃ stamp : Stamp, stamp.Borne request.headers now)
  consults : (∃ timestamp nonce fresh, Exchange.record timestamp nonce fresh ∈ asked) ↔
    ∃ stamp, Ready request secret now stamp
  /-- A new pair becomes the most recent one, whether the signature is right or wrong. -/
  notes : ∀ stamp, Ready request secret now stamp → stamp.key ∉ guard.keys →
    asked = [.record stamp.timestamp stamp.nonce true] ∧ left.keys = (stamp.key :: guard.keys).take guard.capacity ∧
      (answer = .ok () ∨ answer = .error .signatureMismatch)
  /-- A known pair comes to the front, and the request is a replay. -/
  moves : ∀ stamp, Ready request secret now stamp → stamp.key ∈ guard.keys →
    asked = [.record stamp.timestamp stamp.nonce false] ∧ left.keys = stamp.key :: guard.keys.erase stamp.key ∧
      answer = .error .replay
  /-- In all other cases the guard stays as it was. -/
  keeps : (secret = none ∨ ∃ e, answer = .error e ∧ e ≠ .replay ∧ e ≠ .signatureMismatch) →
    asked = [] ∧ left = guard
  capacity : left.capacity = guard.capacity

/-- Every check of a request comes to an end, with such an answer and with such a guard. -/
theorem checkAt_exact (backend : Backend) (request : SignedRequest) (secret : Option Bytes) (now : Instant) (w : World) :
    ∃ answer left, (checkAt request secret now).run (World.answerWith backend) w = (some answer, left) ∧
      left.store = w.store ∧
      Checked w.replay request secret now answer ((checkAt request secret now).heard (World.answerWith backend) w)
        left.replay := by
  obtain ⟨answer, left, ran, verdict, kept⟩ := run_checkAt backend request secret now w
  refine ⟨answer, left, ran, kept, ?_⟩
  constructor
  case accepts =>
    rintro bytes rfl
    exact verdict.accepts_iff
  case unsigned =>
    rintro rfl
    exact verdict.unsigned_iff
  case consults =>
    constructor
    · rintro ⟨timestamp, nonce, fresh, asked⟩
      refine Classical.byContradiction fun unready => ?_
      rw [heard_unready backend w (not_exists.mp unready)] at asked
      cases asked
    · rintro ⟨stamp, ready⟩
      rw [heard_ready backend w ready]
      exact ⟨_, _, _, List.mem_singleton_self _⟩
  case notes =>
    intro stamp ready new
    obtain ⟨isLeft, answers⟩ := verdict.of_new ready new
    rw [heard_ready backend w ready, Stamp.record_new new, isLeft, ReplayGuard.keys_touch_new new]
    exact ⟨rfl, rfl, answers⟩
  case moves =>
    intro stamp ready known
    obtain ⟨isLeft, answers⟩ := verdict.of_known ready known
    rw [heard_ready backend w ready, Stamp.record_known known, isLeft, ReplayGuard.keys_touch_known known]
    exact ⟨rfl, rfl, answers⟩
  case keeps =>
    intro otherwise
    have unready := verdict.unready otherwise
    exact ⟨heard_unready backend w unready, verdict.of_unready unready⟩
  case capacity => exact verdict.capacity

end Signature

end Countersign
