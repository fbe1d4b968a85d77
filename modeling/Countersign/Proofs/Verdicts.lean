import Countersign.Verify

/-!
What the check of a signed request answers, and what it leaves behind.

A stamp is read exactly if the headers hold what `Stamp.Stands` says. `Signature.Verdict` has a case for each way in
which a check may come out, with the guard afterwards. Every check comes out in one of these ways
(`Signature.run_checkAt`), and touches nothing but the guard and the log.
-/

namespace Countersign

open Http (Headers)

/-- The first header of a name is readable and not empty. -/
def Http.Headers.Shows (headers : Headers) (name value : String) : Prop := headers.text? name = some value ∧ value ≠ ""

namespace Stamp

open Signature

/-- The key under which a stamp is remembered. -/
def key (stamp : Stamp) : String := ReplayGuard.key stamp.timestamp stamp.nonce

theorem record_new {guard : ReplayGuard} {stamp : Stamp} (new : stamp.key ∉ guard.keys) :
    (guard.record stamp.timestamp stamp.nonce).1 = true := by
  simpa [ReplayGuard.record, key] using new

theorem record_known {guard : ReplayGuard} {stamp : Stamp} (known : stamp.key ∈ guard.keys) :
    (guard.record stamp.timestamp stamp.nonce).1 = false := by
  simpa [ReplayGuard.record, key] using known

theorem header_eq_ok_iff {headers : Headers} {name value : String} :
    header headers name = .ok value ↔ headers.Shows name value := by
  unfold header Headers.Shows
  cases headers.text? name with
  | none => simp
  | some text =>
    by_cases empty : text = ""
    · simp [empty]
    · dsimp only
      rw [if_neg (by simpa using empty)]
      constructor
      · rintro ⟨⟩
        exact ⟨rfl, empty⟩
      · rintro ⟨⟨⟩, -⟩
        rfl

theorem text?_of_header {headers : Headers} {name value : String} (there : header headers name = .ok value) :
    headers.text? name = some value := (header_eq_ok_iff.mp there).1

theorem inWindow_iff {now sent : Instant} :
    inWindow now sent = true ↔ -(60 * Instant.second) ≤ now.since sent ∧ now.since sent ≤ 60 * Instant.second := by
  unfold inWindow maxSkew
  simp [and_comm]

/-- What headers hold of which a stamp is read at an instant. -/
structure Stands (headers : Headers) (now : Instant) (stamp : Stamp) : Prop where
  signature : header headers signatureHeader = .ok stamp.signature
  nonce : header headers nonceHeader = .ok stamp.nonce
  long : minNonceLength ≤ stamp.nonce.length
  timestamp : header headers timestampHeader = .ok stamp.timestamp
  near : ∃ sent, Time.Rfc3339.read? stamp.timestamp = some sent ∧ inWindow now sent = true

theorem read_eq_ok_iff {headers : Headers} {now : Instant} {stamp : Stamp} :
    read headers now = .ok stamp ↔ Stands headers now stamp := by
  constructor
  · intro isRead
    unfold read at isRead
    simp only [bind, Except.bind] at isRead
    split at isRead
    · cases isRead
    next signature signed =>
      split at isRead
      · cases isRead
      next nonce unique =>
        split at isRead
        · cases isRead
        next long =>
          split at isRead
          · cases isRead
          next timestamp dated =>
            split at isRead
            · cases isRead
            next sent isInstant =>
              split at isRead
              next near =>
                cases Except.ok.inj isRead
                exact ⟨signed, unique, Nat.not_lt.mp long, dated, sent, isInstant, near⟩
              · cases isRead
  · rintro ⟨signed, unique, long, dated, sent, isInstant, near⟩
    unfold read
    rw [signed, unique, dated]
    simp only [bind, Except.bind]
    rw [if_neg (Nat.not_lt.mpr long), isInstant]
    exact if_pos near

end Stamp

namespace Signature

/-- How the check of a request at an instant may come out at a guard, and the guard afterwards. -/
inductive Verdict (guard : ReplayGuard) (request : SignedRequest) (now : Instant) :
    Option Bytes → Except SignatureError Unit → ReplayGuard → Prop
  | unread {secret : Option Bytes} {e : SignatureError} (unread : Stamp.read request.headers now = .error e) :
      Verdict guard request now secret (.error e) guard
  | unsigned {stamp : Stamp} (read : Stamp.read request.headers now = .ok stamp) :
      Verdict guard request now none (.ok ()) guard
  | emptySecret {stamp : Stamp} (read : Stamp.read request.headers now = .ok stamp) :
      Verdict guard request now (some []) (.error .emptySecret) guard
  | otherBody {stamp : Stamp} {secret : Bytes} (read : Stamp.read request.headers now = .ok stamp)
      (secret_ne : secret ≠ []) (other : stamp.coversBody request = false) :
      Verdict guard request now (some secret) (.error .bodyHashMismatch) guard
  | replayed {stamp : Stamp} {secret : Bytes} (read : Stamp.read request.headers now = .ok stamp)
      (secret_ne : secret ≠ []) (covers : stamp.coversBody request = true) (known : stamp.key ∈ guard.keys) :
      Verdict guard request now (some secret) (.error .replay) (guard.touch stamp.key)
  | mismatched {stamp : Stamp} {secret : Bytes} (read : Stamp.read request.headers now = .ok stamp)
      (secret_ne : secret ≠ []) (covers : stamp.coversBody request = true) (fresh : stamp.key ∉ guard.keys)
      (other : stamp.signs request secret = false) :
      Verdict guard request now (some secret) (.error .signatureMismatch) (guard.touch stamp.key)
  | accepted {stamp : Stamp} {secret : Bytes} (read : Stamp.read request.headers now = .ok stamp)
      (secret_ne : secret ≠ []) (covers : stamp.coversBody request = true) (fresh : stamp.key ∉ guard.keys)
      (signs : stamp.signs request secret = true) :
      Verdict guard request now (some secret) (.ok ()) (guard.touch stamp.key)

/-- A check comes out in one way only. -/
theorem Verdict.unique {guard left left' : ReplayGuard} {request : SignedRequest} {now : Instant}
    {secret : Option Bytes} {verdict verdict' : Except SignatureError Unit}
    (first : Verdict guard request now secret verdict left)
    (second : Verdict guard request now secret verdict' left') : verdict = verdict' ∧ left = left' := by
  cases first <;> cases second <;> simp_all

variable (backend : Backend)

theorem run_refuse (request : SignedRequest) (e : SignatureError) (w : World) :
    (refuse request e).run (World.answerWith backend) w =
      (some (.error e), { w with log := w.log ++ [refusal request e] }) := rfl

/-- What a check under a secret answers once the stamp has been read. -/
theorem run_checkStamp {request : SignedRequest} {now : Instant} {stamp : Stamp}
    (read : Stamp.read request.headers now = .ok stamp) (secret : Bytes) (w : World) : ∃ verdict left,
      (checkStamp request stamp secret).run (World.answerWith backend) w = (some verdict, left) ∧
        Verdict w.replay request now (some secret) verdict left.replay ∧ left.store = w.store := by
  unfold checkStamp
  by_cases empty : secret = []
  · subst empty
    exact ⟨_, _, run_refuse .., .emptySecret read, rfl⟩
  · rw [if_neg (by simpa using empty)]
    by_cases covers : stamp.coversBody request = true
    · rw [if_pos covers]
      show ∃ verdict left, Program.run _ (if (w.replay.record stamp.timestamp stamp.nonce).1 then _ else _)
        { w with replay := w.replay.touch stamp.key } = (some verdict, left) ∧ _
      by_cases known : stamp.key ∈ w.replay.keys
      · rw [Stamp.record_known known]
        exact ⟨_, _, run_refuse .., .replayed read empty covers known, rfl⟩
      · rw [Stamp.record_new known, if_pos rfl]
        by_cases signs : stamp.signs request secret = true
        · rw [if_pos signs]
          exact ⟨_, _, rfl, .accepted read empty covers known signs, rfl⟩
        · rw [if_neg signs]
          exact ⟨_, _, run_refuse .., .mismatched read empty covers known (by simpa using signs), rfl⟩
    · rw [if_neg covers]
      exact ⟨_, _, run_refuse .., .otherBody read empty (by simpa using covers), rfl⟩

/-- Every check comes out in one of the ways of `Verdict`. -/
theorem run_checkAt (request : SignedRequest) (secret : Option Bytes) (now : Instant) (w : World) :
    ∃ verdict left,
      (checkAt request secret now).run (World.answerWith backend) w = (some verdict, left) ∧
        Verdict w.replay request now secret verdict left.replay ∧ left.store = w.store := by
  unfold checkAt
  cases read : Stamp.read request.headers now with
  | error e => exact ⟨_, _, run_refuse .., .unread read, rfl⟩
  | ok stamp =>
    cases secret with
    | none => exact ⟨_, _, rfl, .unsigned read, rfl⟩
    | some secret => exact run_checkStamp backend read secret w

theorem Verdict.run {request : SignedRequest} {secret : Option Bytes} {now : Instant} {w : World}
    {verdict : Except SignatureError Unit} {guard : ReplayGuard}
    (isVerdict : Verdict w.replay request now secret verdict guard) : ∃ left,
      (checkAt request secret now).run (World.answerWith backend) w = (some verdict, left) ∧
        left.replay = guard ∧ left.store = w.store := by
  obtain ⟨verdict', left, ran, came, kept⟩ := run_checkAt backend request secret now w
  obtain ⟨rfl, isGuard⟩ := came.unique isVerdict
  exact ⟨left, ran, isGuard, kept⟩

end Signature

end Countersign
