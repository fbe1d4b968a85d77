import Countersign.Proofs.Instants
import Countersign.Proofs.Replays

/-!
A signed request passes once.

The text of an instant is read as the beginning of the second in which the instant lies, a leap second being one of its
own, so a request that was signed then has its stamp read while the clock is within a minute of that (`Stamp.read_signedAt`). A guard that does not know the nonce lets it
pass; from then on it is a replay as long as the guard remembers it (`Presentation.call_known`), and the guard remembers
it at least until the next request (`Signature.passes_once`). Without a secret only the stamp is read, as often as one
likes.
-/

namespace Countersign

open Http (Header Method)

namespace Instant

/-- An instant of the years 0 to 9999. -/
structure FourDigit (t : Instant) : Prop where
  begun : Time.Date.dayNumber ⟨0, 1, 1⟩ * day ≤ t.seconds
  unended : t.seconds < Time.Date.dayNumber ⟨10000, 1, 1⟩ * day

/-- Whether a clock shows an instant at most a minute before or after the beginning of the second of another. -/
structure Near (now t : Instant) : Prop where
  early : -(60 * second) ≤ now.since t.truncated
  late : now.since t.truncated ≤ 60 * second

/-- Outside of leap seconds the distance is the difference of what the two instants count. -/
theorem near_iff {now t : Instant} (plainClock : now.isLeap = false) (plain : t.isLeap = false) :
    now.Near t ↔ -(60 * second) ≤ (now.seconds - t.seconds) * second + now.nanos ∧
      (now.seconds - t.seconds) * second + now.nanos ≤ 60 * second := by
  have whole : t.truncated.nanos = 0 := by
    rw [nanos_truncated, plain]
    rfl
  have apart : now.since t.truncated = (now.seconds - t.seconds) * second + now.nanos := by
    simp [since, whole, plainClock, plain]
  rw [← apart]
  exact ⟨fun near => ⟨near.early, near.late⟩, fun both => ⟨both.1, both.2⟩⟩

theorem FourDigit.read?_write {t : Instant} (dated : t.FourDigit) :
    Time.Rfc3339.read? (Time.Rfc3339.write t) = some t.truncated := by
  have first : Time.Date.dayNumber ⟨0, 1, 1⟩ * day = -62167219200 := by decide
  have last : Time.Date.dayNumber ⟨10000, 1, 1⟩ * day = 253402300800 := by decide
  have begun := dated.begun
  have unended := dated.unended
  exact Time.Rfc3339.read?_write (by omega) (by omega)

theorem Near.inWindow {now t : Instant} (near : now.Near t) : Stamp.inWindow now t.truncated = true :=
  Stamp.inWindow_iff.mpr ⟨near.early, near.late⟩

end Instant

/-- A request with the headers of what was signed at an instant. -/
def SignedRequest.signedAt (method : Method) (target : String) (body secret : Bytes) (nonce : String) (t : Instant) :
    SignedRequest where
  method := method
  target := target
  headers := (RequestSignature.signAt method target body secret nonce t).headers
  body := body

/-- What such a request says about its signing. -/
def Stamp.signedAt (method : Method) (target : String) (body secret : Bytes) (nonce : String) (t : Instant) :
    Stamp where
  signature := (RequestSignature.signAt method target body secret nonce t).signature
  nonce := nonce
  timestamp := Time.Rfc3339.write t

section

variable {method : Method} {target nonce : String} {body secret : Bytes} {t now : Instant}

theorem Stamp.read_signedAt (visible : Header.Visible nonce) (long : Signature.minNonceLength ≤ nonce.length)
    (dated : t.FourDigit) (near : now.Near t) :
    read (SignedRequest.signedAt method target body secret nonce t).headers now =
      .ok (signedAt method target body secret nonce t) := by
  have apart : RequestSignature.Apart [] := by decide
  have read := RequestSignature.read_headers (s := RequestSignature.signAt method target body secret nonce t) apart
    visible.readable long (Time.Rfc3339.readable_write t) dated.read?_write near.inWindow
    (Base64.encode_readable .standard _) (Base64.encode_ne _ (Hash.hmac_ne _ _))
  rw [List.nil_append] at read
  exact read

theorem Stamp.coversBody_signedAt : (signedAt method target body secret nonce t).coversBody
    (SignedRequest.signedAt method target body secret nonce t) = true := by
  have apart : RequestSignature.Apart [] := by decide
  have covers : Stamp.coversBody (signedAt method target body secret nonce t)
      ⟨method, target, [] ++ (RequestSignature.signAt method target body secret nonce t).headers, body⟩ = true :=
    RequestSignature.coversBody_headers (s := RequestSignature.signAt method target body secret nonce t) apart rfl
  rw [List.nil_append] at covers
  exact covers

theorem Stamp.signs_signedAt : (signedAt method target body secret nonce t).signs
    (SignedRequest.signedAt method target body secret nonce t) secret = true := beq_self_eq_true _

end

namespace Presentation

variable {p : Presentation} {stamp : Stamp} {secret : Bytes}

/-- A request without a secret passes if its stamp is read, and leaves everything as it was. -/
theorem call_unsigned (read : Stamp.read p.request.headers p.now = .ok stamp) (unsigned : p.secret = none) (w : World) :
    p.call w = (some (.ok ()), w) := by
  unfold call Signature.checkAt
  rw [read, unsigned]
  rfl

/-- What is signed passes a guard that does not know its nonce. -/
theorem call_fresh (read : Stamp.read p.request.headers p.now = .ok stamp) (isSecret : p.secret = some secret)
    (secret_ne : secret ≠ []) (covers : stamp.coversBody p.request = true)
    (signs : stamp.signs p.request secret = true) {w : World} (fresh : stamp.key ∉ w.replay.keys) :
    ∃ left, p.call w = (some (.ok ()), left) ∧ left.replay = w.replay.touch stamp.key := by
  obtain ⟨left, ran, isGuard, -⟩ :=
    (Signature.Verdict.accepted read secret_ne covers fresh signs).run Store.answer
  rw [← isSecret] at ran
  exact ⟨left, ran, isGuard⟩

/-- As long as the guard knows its nonce it is a replay, and only moves the nonce to the front. -/
theorem call_known (read : Stamp.read p.request.headers p.now = .ok stamp) (isSecret : p.secret = some secret)
    (secret_ne : secret ≠ []) (covers : stamp.coversBody p.request = true) {w : World}
    (known : stamp.key ∈ w.replay.keys) : ∃ left, p.call w = (some (.error .replay), left) ∧
      left.replay = w.replay.touch stamp.key ∧ left.replay.keys.Perm w.replay.keys := by
  obtain ⟨left, ran, isGuard, -⟩ := (Signature.Verdict.replayed read secret_ne covers known).run Store.answer
  rw [← isSecret] at ran
  exact ⟨left, ran, isGuard, isGuard ▸ ReplayGuard.touch_perm known⟩

end Presentation

/-- What was signed at an instant passes within a minute of that second, and is a replay the next time, which leaves
the guard as the first time did. Without a secret it passes whenever it comes, and changes nothing. -/
theorem Signature.passes_once (method : Method) (target : String) (body : Bytes) {secret : Bytes}
    (secret_ne : secret ≠ []) {nonce : String} (visible : Header.Visible nonce) (long : 20 ≤ nonce.length)
    {t now : Instant} (dated : t.FourDigit) (near : now.Near t) {w : World}
    (unseen : ReplayGuard.key (Time.Rfc3339.write t) nonce ∉ w.replay.keys) :
    (∃ once again,
      Presentation.call ⟨.signedAt method target body secret nonce t, some secret, now⟩ w = (some (.ok ()), once) ∧
      Presentation.call ⟨.signedAt method target body secret nonce t, some secret, now⟩ once =
        (some (.error .replay), again) ∧
      once.replay = w.replay.touch (ReplayGuard.key (Time.Rfc3339.write t) nonce) ∧ again.replay = once.replay) ∧
    ∀ w : World,
      Presentation.call ⟨.signedAt method target body secret nonce t, none, now⟩ w = (some (.ok ()), w) := by
  have read : Stamp.read (SignedRequest.signedAt method target body secret nonce t).headers now =
      .ok (.signedAt method target body secret nonce t) := Stamp.read_signedAt visible long dated near
  constructor
  · obtain ⟨once, passes, noted⟩ := Presentation.call_fresh (p := ⟨_, _, _⟩) read rfl secret_ne
      Stamp.coversBody_signedAt Stamp.signs_signedAt unseen
    have known : (Stamp.signedAt method target body secret nonce t).key ∈ once.replay.keys := by
      rw [noted]
      exact ReplayGuard.mem_touch_self ..
    obtain ⟨again, refused, notedAgain, -⟩ := Presentation.call_known (p := ⟨_, _, _⟩) read rfl secret_ne
      Stamp.coversBody_signedAt known
    refine ⟨once, again, passes, refused, noted, ?_⟩
    rw [notedAgain, noted, ReplayGuard.touch_touch]
  · exact Presentation.call_unsigned (p := ⟨_, _, _⟩) read rfl

namespace Sample

/-- The last nanosecond of the 29th of February in the year 0. -/
def leapDay : Instant := ⟨Time.Date.dayNumber ⟨0, 2, 29⟩ * Instant.day + 86399, 999999999⟩

theorem leapDay_dated : leapDay.FourDigit := ⟨by decide, by decide⟩

/-- The clock is a minute early. -/
theorem leapDay_near : Instant.Near ⟨leapDay.seconds - 60, 0⟩ leapDay := by
  have early : (leapDay.seconds - 60 - leapDay.seconds) * Instant.second + 0 = -(60 * Instant.second) := by decide
  refine (Instant.near_iff (by decide) (by decide)).mpr ⟨Int.le_of_eq early.symm, ?_⟩
  exact Int.le_trans (Int.le_of_eq early) (by decide)

end Sample

theorem Signature.passes_once_leapDay :
    (∃ once again,
      Presentation.call ⟨.signedAt .patch "/a;b" [0] [1] "a;b;c;d;e;f;g;h;i;j;" Sample.leapDay, some [1],
        ⟨Sample.leapDay.seconds - 60, 0⟩⟩ Sample.small = (some (.ok ()), once) ∧
      Presentation.call ⟨.signedAt .patch "/a;b" [0] [1] "a;b;c;d;e;f;g;h;i;j;" Sample.leapDay, some [1],
        ⟨Sample.leapDay.seconds - 60, 0⟩⟩ once = (some (.error .replay), again) ∧
      once.replay = Sample.small.replay.touch
        (ReplayGuard.key (Time.Rfc3339.write Sample.leapDay) "a;b;c;d;e;f;g;h;i;j;") ∧
      again.replay = once.replay) ∧
    ∀ w : World, Presentation.call ⟨.signedAt .patch "/a;b" [0] [1] "a;b;c;d;e;f;g;h;i;j;" Sample.leapDay, none,
      ⟨Sample.leapDay.seconds - 60, 0⟩⟩ w = (some (.ok ()), w) :=
  passes_once .patch "/a;b" [0] (by decide) (by decide +kernel) (by decide) Sample.leapDay_dated Sample.leapDay_near
    List.not_mem_nil

end Countersign
