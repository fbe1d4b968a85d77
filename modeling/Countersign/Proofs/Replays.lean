import Countersign.Proofs.Guards
import Countersign.Proofs.Tampering

/-!
What refused requests do to the memory of an accepted one.

A request is noted before its signature is compared, so requests that are refused fill the guard too. Whoever sends
as many of them as the guard has room for, each with a nonce of its own and the digest of its body, has an accepted
request accepted once more, and needs no secret for it (`Signature.reopens`). Nothing less will do: refused requests
make the guard forget an accepted one only if so many other pairs reached it, and one of them was new to it
(`Signature.reopened_by_others`).
-/

namespace Countersign

/-- The pair under which a signed request is to be noted. -/
def SignedRequest.Bears (request : SignedRequest) (timestamp nonce : String) : Prop :=
  request.headers.text? Signature.timestampHeader = some timestamp ∧
    request.headers.text? Signature.nonceHeader = some nonce

theorem SignedRequest.Bears.key_eq {request : SignedRequest} {timestamp nonce : String} {now : Instant}
    {stamp : Stamp} (bears : request.Bears timestamp nonce) (read : Stamp.read request.headers now = .ok stamp) :
    ReplayGuard.key timestamp nonce = stamp.key := by
  obtain ⟨dated, unique⟩ := Stamp.texts_of_read read
  cases Option.some.inj (bears.1.symm.trans dated)
  cases Option.some.inj (bears.2.symm.trans unique)
  rfl

/-- A request that is given to the check at an instant, with a secret or without. -/
structure Presentation where
  request : SignedRequest
  secret : Option Bytes
  now : Instant

namespace Presentation

/-- What the check answers, and the world afterwards. -/
def call (p : Presentation) (w : World) : Option (Except SignatureError Unit) × World :=
  (Signature.checkAt p.request p.secret p.now).run World.answer w

variable {p : Presentation} {w left : World} {e : SignatureError}

theorem verdict_of_call (called : p.call w = (some (.error e), left)) :
    Signature.Verdict w.replay p.request p.now p.secret (.error e) left.replay := by
  obtain ⟨verdict, left', ran, isVerdict, -⟩ :=
    Signature.run_checkAt Store.answer p.request p.secret p.now w
  have same := ran.symm.trans called
  cases same
  exact isVerdict

/-- A refused request leaves the guard as it was, or the guard has noted its pair. -/
theorem noted_of_refused (called : p.call w = (some (.error e), left)) :
    left.replay = w.replay ∨
    ∃ stamp, Stamp.read p.request.headers p.now = .ok stamp ∧ left.replay = w.replay.touch stamp.key ∧
      (e = .replay ∧ stamp.key ∈ w.replay.keys ∨ e = .signatureMismatch ∧ stamp.key ∉ w.replay.keys) := by
  have isVerdict := verdict_of_call called
  generalize left.replay = guard at isVerdict
  generalize p.secret = secret at isVerdict
  cases isVerdict with
  | unread unread => exact .inl rfl
  | emptySecret read => exact .inl rfl
  | otherBody read secret_ne other => exact .inl rfl
  | replayed read secret_ne covers known => exact .inr ⟨_, read, rfl, .inl ⟨rfl, known⟩⟩
  | mismatched read secret_ne covers fresh other => exact .inr ⟨_, read, rfl, .inr ⟨rfl, fresh⟩⟩

end Presentation

/-- A request that passes is noted under its pair, which was new. -/
theorem World.Passes.noted {w : World} {request : SignedRequest} {secret : Bytes} {now : Instant}
    (passes : w.Passes request secret now) :
    ∃ stamp, Stamp.read request.headers now = .ok stamp ∧ stamp.key ∉ w.replay.keys ∧
      (Presentation.call ⟨request, some secret, now⟩ w).2.replay = w.replay.touch stamp.key := by
  obtain ⟨guard, isVerdict⟩ := World.passes_iff.mp passes
  obtain ⟨left, ran, isGuard, -⟩ := isVerdict.run Store.answer
  have isLeft : (Presentation.call ⟨request, some secret, now⟩ w).2 = left := congrArg Prod.snd ran
  rw [isLeft, isGuard]
  cases isVerdict with
  | accepted read secret_ne covers fresh signs => exact ⟨_, read, fresh, rfl⟩

namespace Signature

/-- Requests that are given to the check one after the other, all of which it refuses, and why. -/
inductive Refused : World → List (Presentation × SignatureError) → World → Prop
  | nil (w : World) : Refused w [] w
  | cons {w left last : World} {p : Presentation} {e : SignatureError} {calls : List (Presentation × SignatureError)}
      (called : p.call w = (some (.error e), left)) (rest : Refused left calls last) :
      Refused w ((p, e) :: calls) last

/-- A pair that has reached the guard. -/
def Noted (calls : List (Presentation × SignatureError)) (pair : String × String) : Prop :=
  ∃ call ∈ calls, call.1.request.Bears pair.1 pair.2 ∧ (call.2 = .replay ∨ call.2 = .signatureMismatch)

namespace Refused

variable {w last : World} {calls : List (Presentation × SignatureError)} {k : String}

theorem capacity (refused : Refused w calls last) : last.replay.capacity = w.replay.capacity := by
  induction refused with
  | nil w => rfl
  | cons called rest ih =>
    rcases Presentation.noted_of_refused called with same | ⟨stamp, -, touched, -⟩
    · rw [ih, same]
    · rw [ih, touched]
      rfl

theorem remembers {others : String → Prop} (refused : Refused w calls last)
    (remembers : w.replay.Remembers k others) : last.replay.Remembers k fun x =>
      others x ∨ ∃ pair, Noted calls pair ∧ ReplayGuard.key pair.1 pair.2 = x := by
  induction refused generalizing others with
  | nil w => exact remembers.mono fun x other => .inl other
  | @cons w left last p e calls called rest ih =>
    have later {pair : String × String} (noted : Noted calls pair) : Noted ((p, e) :: calls) pair := by
      obtain ⟨call, member, isNoted⟩ := noted
      exact ⟨call, List.mem_cons_of_mem _ member, isNoted⟩
    rcases Presentation.noted_of_refused called with same | ⟨stamp, read, touched, why⟩
    · rw [← same] at remembers
      refine (ih remembers).mono fun x among => among.imp_right ?_
      rintro ⟨pair, noted, isKey⟩
      exact ⟨pair, later noted, isKey⟩
    · have noted : Noted ((p, e) :: calls) (stamp.timestamp, stamp.nonce) :=
        ⟨_, List.mem_cons_self, Stamp.texts_of_read read, why.imp And.left And.left⟩
      have touchedToo : left.replay.Remembers k fun x => others x ∨ x = stamp.key := by
        rw [touched]
        exact ReplayGuard.remembers_touch remembers (fun x other => .inl other) fun _ => .inr rfl
      refine (ih touchedToo).mono ?_
      rintro x ((other | rfl) | ⟨pair, isNoted, isKey⟩)
      · exact .inl other
      · exact .inr ⟨_, noted, rfl⟩
      · exact .inr ⟨pair, later isNoted, isKey⟩

/-- The guard forgets a key only when another is noted that is new to it. -/
theorem forgotten (refused : Refused w calls last) (known : k ∈ w.replay.keys) (unknown : k ∉ last.replay.keys) :
    ∃ call ∈ calls, call.2 = .signatureMismatch ∧
      ∃ stamp, Stamp.read call.1.request.headers call.1.now = .ok stamp ∧ stamp.key ≠ k := by
  induction refused with
  | nil w => exact absurd known unknown
  | @cons w left last p e calls called rest ih =>
    have later (known : k ∈ left.replay.keys) : ∃ call ∈ (p, e) :: calls, call.2 = .signatureMismatch ∧
        ∃ stamp, Stamp.read call.1.request.headers call.1.now = .ok stamp ∧ stamp.key ≠ k := by
      obtain ⟨call, member, found⟩ := ih known unknown
      exact ⟨call, List.mem_cons_of_mem _ member, found⟩
    rcases Presentation.noted_of_refused called with same | ⟨stamp, read, touched, ⟨rfl, old⟩ | ⟨rfl, new⟩⟩
    · refine later ?_
      rw [same]
      exact known
    · refine later ?_
      rw [touched]
      exact (ReplayGuard.touch_perm old).mem_iff.mpr known
    · refine ⟨_, List.mem_cons_self, rfl, stamp, read, ?_⟩
      rintro rfl
      exact absurd known new

end Refused

end Signature

/-! ### Requests of nobody -/

/-- A request that is in order but for its signature, which is not the one under the secret it is checked with. -/
structure Presentation.Forged (p : Presentation) (stamp : Stamp) : Prop where
  read : Stamp.read p.request.headers p.now = .ok stamp
  covers : stamp.coversBody p.request = true
  unsigned : ∃ secret, p.secret = some secret ∧ secret ≠ [] ∧ stamp.signs p.request secret = false

/-- Such a request is refused whatever the guard knows, and is noted. -/
theorem Presentation.Forged.refused {p : Presentation} {stamp : Stamp} (forged : p.Forged stamp) (w : World) :
    ∃ e left, p.call w = (some (.error e), left) ∧ left.replay = w.replay.touch stamp.key := by
  obtain ⟨request, _, now⟩ := p
  obtain ⟨read, covers, secret, rfl, secret_ne, other⟩ := forged
  by_cases known : stamp.key ∈ w.replay.keys
  · have isVerdict : Signature.Verdict w.replay request now (some secret) _ _ :=
      .replayed read secret_ne covers known
    obtain ⟨left, ran, touched, -⟩ := isVerdict.run Store.answer
    exact ⟨.replay, left, ran, touched⟩
  · have isVerdict : Signature.Verdict w.replay request now (some secret) _ _ :=
      .mismatched read secret_ne covers known other
    obtain ⟨left, ran, touched, -⟩ := isVerdict.run Store.answer
    exact ⟨.signatureMismatch, left, ran, touched⟩

namespace Signature

/-- What forged requests leave in the guard, while there is room for them. -/
theorem Refused.of_forged {forged : List (Presentation × Stamp)} (isForged : ∀ f ∈ forged, f.1.Forged f.2)
    {w : World} {front back : List String} (keys : w.replay.keys = front ++ back)
    (nodup : ((forged.map (·.2.key)).reverse ++ front).Nodup)
    (room : forged.length + front.length ≤ w.replay.capacity) :
    ∃ calls last back', calls.map Prod.fst = forged.map Prod.fst ∧ Refused w calls last ∧
      last.replay.keys = (forged.map (·.2.key)).reverse ++ front ++ back' := by
  induction forged generalizing w front back with
  | nil => exact ⟨[], w, back, rfl, .nil w, keys⟩
  | cons f forged ih =>
    obtain ⟨e, left, called, touched⟩ := (isForged f List.mem_cons_self).refused w
    rw [List.map_cons, List.reverse_cons, List.append_assoc] at nodup
    have other : f.2.key ∉ front := (List.nodup_cons.mp (List.nodup_append.mp nodup).2.1).1
    rw [List.length_cons] at room
    obtain ⟨back', inFront⟩ := ReplayGuard.touch_front keys other (by omega)
    rw [← touched] at inFront
    have roomLeft : forged.length + (f.2.key :: front).length ≤ left.replay.capacity := by
      rw [touched, List.length_cons]
      show _ ≤ w.replay.capacity
      omega
    obtain ⟨calls, last, back'', same, refused, leads⟩ :=
      ih (fun f' member => isForged f' (List.mem_cons_of_mem f member)) inFront nodup roomLeft
    refine ⟨(f.1, e) :: calls, last, back'', by rw [List.map_cons, List.map_cons, same], .cons called refused, ?_⟩
    rw [leads, List.map_cons, List.reverse_cons, List.append_assoc _ [_], List.singleton_append]

/-- As many forged requests as the guard has room for, each with a pair of its own, and what was signed is accepted
again. -/
theorem reopens {w : World} {request : SignedRequest} {secret : Bytes} {later : Instant} {stamp : Stamp}
    (valid : stamp.Valid request secret later) {forged : List (Presentation × Stamp)}
    (isForged : ∀ f ∈ forged, f.1.Forged f.2) (full : forged.length = w.replay.capacity)
    (nodup : (forged.map (·.2.key)).Nodup) (others : ∀ f ∈ forged, f.2.key ≠ stamp.key) :
    ∃ calls last, calls.map Prod.fst = forged.map Prod.fst ∧ Refused w calls last ∧
      last.Passes request secret later := by
  obtain ⟨calls, last, back, same, refused, keys⟩ := Refused.of_forged isForged (List.nil_append _).symm
    (by rwa [List.append_nil, (List.reverse_perm _).nodup_iff]) (by rw [full]; exact Nat.le_refl _)
  refine ⟨calls, last, same, refused, valid.passes ?_⟩
  -- There is no room for anything else.
  have none_else : back = [] := by
    have bounded := last.replay.bounded
    rw [keys, refused.capacity, ← full] at bounded
    simp only [List.append_nil, List.length_append, List.length_reverse, List.length_map] at bounded
    exact List.eq_nil_of_length_eq_zero (by omega)
  rw [keys, none_else, List.append_nil, List.append_nil, List.mem_reverse]
  intro member
  obtain ⟨f, isIn, isKey⟩ := List.mem_map.mp member
  exact others f isIn isKey

/-- An accepted request is accepted again after nothing but refused ones only if these have brought as many other
pairs to the guard as it has room for, and one of them was new to it. -/
theorem reopened_by_others {w last : World} {request : SignedRequest} {secret : Bytes} {now later : Instant}
    {calls : List (Presentation × SignatureError)} (passes : w.Passes request secret now)
    (refused : Refused (Presentation.call ⟨request, some secret, now⟩ w).2 calls last)
    (again : last.Passes request secret later) :
    ∃ timestamp nonce, request.Bears timestamp nonce ∧
      (∃ others : List (String × String), others.Nodup ∧ w.replay.capacity ≤ others.length ∧
        ∀ pair ∈ others, pair ≠ (timestamp, nonce) ∧ Noted calls pair) ∧
      ∃ call ∈ calls, call.2 = .signatureMismatch ∧ ¬ call.1.request.Bears timestamp nonce := by
  obtain ⟨stamp, read, -, touched⟩ := passes.noted
  have bears : request.Bears stamp.timestamp stamp.nonce := Stamp.texts_of_read read
  have forgotten : stamp.key ∉ last.replay.keys := by
    obtain ⟨stamp', read', fresh, -⟩ := again.noted
    rw [show stamp.key = stamp'.key from bears.key_eq read']
    exact fresh
  refine ⟨stamp.timestamp, stamp.nonce, bears, ?_, ?_⟩
  · have remembers := ReplayGuard.remembers_touch_self w.replay stamp.key fun _ => False
    rw [← touched] at remembers
    have crowd := ((refused.remembers remembers).mono fun x among => among.resolve_left id).crowd_pairs forgotten
    rw [refused.capacity, touched] at crowd
    exact crowd
  · have known : stamp.key ∈ (Presentation.call ⟨request, some secret, now⟩ w).2.replay.keys := by
      rw [touched]
      exact ReplayGuard.mem_touch_self ..
    obtain ⟨call, member, mismatched, stamp', read', other⟩ := refused.forgotten known forgotten
    exact ⟨call, member, mismatched, fun same => other (same.key_eq read').symm⟩

end Signature

namespace Sample

/-- What goes for a signature of the new name under another nonce. -/
def noSignature : RequestSignature :=
  ⟨"bbbbbbbbbbbbbbbbbbbb", minute, Signature.bodyHash "bbbbbbbbbbbbbbbbbbbb" newName, "a"⟩

def forgery : Presentation := ⟨⟨.patch, "/api/v1/users/0", noSignature.headers, newName⟩, some [0], ⟨90, 0⟩⟩

theorem forgery_forged : forgery.Forged ⟨"a", "bbbbbbbbbbbbbbbbbbbb", minute⟩ := by
  have apart : RequestSignature.Apart [] := by decide
  constructor
  · exact RequestSignature.read_headers (s := noSignature) apart (by decide +kernel) (by decide) minute_readable
      read?_minute (by decide) (by decide) (by decide)
  · have hashed : noSignature.bodyHash = Signature.bodyHash noSignature.nonce newName := rfl
    have covers : Stamp.coversBody ⟨noSignature.signature, noSignature.nonce, noSignature.timestamp⟩
        ⟨.patch, "/api/v1/users/0", [] ++ noSignature.headers, newName⟩ = true :=
      RequestSignature.coversBody_headers apart hashed
    rw [List.nil_append] at covers
    exact covers
  · refine ⟨[0], rfl, by decide, beq_eq_false_iff_ne.mpr fun same => ?_⟩
    -- A signature is longer.
    have long := congrArg (fun s => s.toList.length) same
    unfold Signature.ofParts at long
    rw [Base64.length_encode, Hash.length_hmac] at long
    exact absurd long (by decide)

/-- A guard with room for one pair. -/
def small : World := { replay := .new 1 }

theorem small_passes : small.Passes bareRename [0] ⟨90, 0⟩ := bareRename_valid.passes (by decide)

theorem small_reopened : ∃ e last,
    Signature.Refused (Presentation.call ⟨bareRename, some [0], ⟨90, 0⟩⟩ small).2 [(forgery, e)] last ∧
      last.Passes bareRename [0] ⟨90, 0⟩ := by
  obtain ⟨_, -, -, touched⟩ := small_passes.noted
  generalize (Presentation.call ⟨bareRename, some [0], ⟨90, 0⟩⟩ small).2 = w at touched
  have isForged : ∀ f ∈ [(forgery, (⟨"a", "bbbbbbbbbbbbbbbbbbbb", minute⟩ : Stamp))], f.1.Forged f.2 := by
    simpa using forgery_forged
  have full : 1 = w.replay.capacity := by
    rw [touched]
    rfl
  obtain ⟨calls, last, same, refused, again⟩ := Signature.reopens bareRename_valid isForged full
    (List.nodup_cons.mpr ⟨List.not_mem_nil, .nil⟩) (by decide)
  obtain ⟨⟨_, e⟩, rfl, rfl⟩ := List.map_eq_singleton_iff.mp same
  exact ⟨e, last, refused, again⟩

end Sample

theorem Signature.reopened_by_forgery : ∃ e timestamp nonce, Sample.bareRename.Bears timestamp nonce ∧
    (∃ others : List (String × String), others.Nodup ∧ 1 ≤ others.length ∧
      ∀ pair ∈ others, pair ≠ (timestamp, nonce) ∧ Noted [(Sample.forgery, e)] pair) ∧
    ∃ call ∈ [(Sample.forgery, e)], call.2 = .signatureMismatch ∧ ¬ call.1.request.Bears timestamp nonce := by
  obtain ⟨e, last, refused, again⟩ := Sample.small_reopened
  exact ⟨e, reopened_by_others Sample.small_passes refused again⟩

/-- One forged request is enough where there is room for one pair. -/
theorem Signature.small_reopens_rename : Sample.small.Passes Sample.bareRename [0] ⟨90, 0⟩ ∧ ∃ e last,
    Refused (Presentation.call ⟨Sample.bareRename, some [0], ⟨90, 0⟩⟩ Sample.small).2 [(Sample.forgery, e)] last ∧
      last.Passes Sample.bareRename [0] ⟨90, 0⟩ :=
  ⟨Sample.small_passes, Sample.small_reopened⟩

end Countersign
