import Countersign.Proofs.Progress
import Countersign.Proofs.Timestamps
import Countersign.Proofs.Texts

/-!
What a signature covers cannot be exchanged without a collision.

The parts of the canonical text stand between semicolons, which nonce and target may hold too. It can be read all the
same once the body's digest is known to come from one nonce: the digest is cut off by its length, the nonce by its
text, and instant and method end at the first semicolon (`canonicalText_injective`). So two requests that pass under
one secret with one signature are the same in all that it covers, or HMAC gives one value for two inputs
(`Signature.tampering_collides`).
-/

namespace Countersign

open Http (Method)

/-- Two different inputs, each a key and a message, for which HMAC gives the same. -/
def Hash.Collide (x y : Bytes × Bytes) : Prop := x ≠ y ∧ hmac x.1 x.2 = hmac y.1 y.2

/-! ### Reading the canonical text -/

theorem Http.Method.not_mem_token (m : Method) : ';' ∉ m.token.toList := by
  intro member
  have valid := m.valid
  unfold isToken at valid
  rw [Bool.and_eq_true] at valid
  exact absurd (List.all_eq_true.mp valid.2 ';' member) (by decide)

theorem Http.Method.token_injective {m n : Method} (same : m.token = n.token) : m = n := by
  cases m
  cases n
  cases same
  rfl

namespace Signature

theorem length_bodyHash (nonce : String) (body : Bytes) : (bodyHash nonce body).toList.length = 43 := by
  unfold bodyHash
  rw [Base64.length_encode, Hash.length_hmac]

/-- The text before the body's digest. -/
def head (nonce timestamp : String) (method : Method) (target : String) : List Char :=
  nonce.toList ++ ';' :: (timestamp.toList ++ ';' :: (method.token.toList ++ ';' :: target.toList))

theorem toList_canonicalText (nonce timestamp : String) (method : Method) (target hash : String) :
    (canonicalText nonce timestamp method target hash).toList =
      head nonce timestamp method target ++ ';' :: hash.toList := by
  simp [canonicalText, head]

theorem hash_eq_of_canonicalText_eq {nonce nonce' timestamp timestamp' target target' hash hash' : String}
    {method method' : Method} (long : hash.toList.length = hash'.toList.length)
    (same : canonicalText nonce timestamp method target hash =
      canonicalText nonce' timestamp' method' target' hash') :
    head nonce timestamp method target = head nonce' timestamp' method' target' ∧ hash = hash' := by
  have texts := congrArg String.toList same
  rw [toList_canonicalText, toList_canonicalText] at texts
  obtain ⟨heads, hashes⟩ := List.append_inj' texts (by simp only [List.length_cons, long])
  exact ⟨heads, String.toList_injective (List.cons.inj hashes).2⟩

/-- Behind a nonce that is known the other parts can be told from each other. -/
theorem head_injective {nonce timestamp timestamp' target target' : String} {method method' : Method}
    {sent sent' : Instant} (dated : Time.Rfc3339.read? timestamp = some sent)
    (datedToo : Time.Rfc3339.read? timestamp' = some sent')
    (same : head nonce timestamp method target = head nonce timestamp' method' target') :
    timestamp = timestamp' ∧ method = method' ∧ target = target' := by
  have parts := (List.cons.inj (List.append_cancel_left same)).2
  obtain ⟨timestamps, later⟩ := Text.append_cons_inj (Time.Rfc3339.not_mem_of_read? dated)
    (Time.Rfc3339.not_mem_of_read? datedToo) parts
  obtain ⟨methods, targets⟩ := Text.append_cons_inj method.not_mem_token method'.not_mem_token later
  exact ⟨String.toList_injective timestamps, Method.token_injective (String.toList_injective methods),
    String.toList_injective targets⟩

end Signature

/-! ### What is computed when a request is checked -/

namespace Stamp

variable (stamp : Stamp) (request : SignedRequest)

/-- Key and message of the body's digest. -/
def bodyInput : Bytes × Bytes := (Bytes.ofText stamp.nonce, request.body)

/-- Key and message of the signature. -/
def signatureInput (secret : Bytes) : Bytes × Bytes :=
  (secret, Bytes.ofText (Signature.canonicalText stamp.nonce stamp.timestamp request.method request.target
    (Signature.bodyHash stamp.nonce request.body)))

/-- What HMAC is applied to when the stamp of a request is checked under a secret. -/
def inputs (secret : Bytes) : List (Bytes × Bytes) := [stamp.bodyInput request, stamp.signatureInput request secret]

variable {stamp request}

theorem signature_of_signs {secret : Bytes} (signs : stamp.signs request secret = true) :
    stamp.signature = Base64.encode .standard
      (Hash.hmac (stamp.signatureInput request secret).1 (stamp.signatureInput request secret).2) :=
  beq_iff_eq.mp signs

/-- Stamps of one signature are those of one request, or two of the four inputs collide. -/
theorem agree_or_collide {stamp' : Stamp} {request' : SignedRequest} {secret : Bytes} {sent sent' : Instant}
    (dated : Time.Rfc3339.read? stamp.timestamp = some sent)
    (datedToo : Time.Rfc3339.read? stamp'.timestamp = some sent')
    (signs : stamp.signs request secret = true) (signsToo : stamp'.signs request' secret = true)
    (same : stamp.signature = stamp'.signature) :
    (stamp.nonce = stamp'.nonce ∧ stamp.timestamp = stamp'.timestamp ∧ request.method = request'.method ∧
      request.target = request'.target ∧ request.body = request'.body) ∨
    ∃ x ∈ stamp.inputs request secret, ∃ y ∈ stamp'.inputs request' secret, Hash.Collide x y := by
  rw [signature_of_signs signs, signature_of_signs signsToo] at same
  have outer := Base64.encode_injective .standard same
  by_cases oneText : stamp.signatureInput request secret = stamp'.signatureInput request' secret
  · have texts := Bytes.ofText_injective (congrArg Prod.snd oneText)
    have long : (Signature.bodyHash stamp.nonce request.body).toList.length =
        (Signature.bodyHash stamp'.nonce request'.body).toList.length := by
      rw [Signature.length_bodyHash, Signature.length_bodyHash]
    obtain ⟨heads, hashes⟩ := Signature.hash_eq_of_canonicalText_eq long texts
    have inner : Hash.hmac (stamp.bodyInput request).1 (stamp.bodyInput request).2 =
        Hash.hmac (stamp'.bodyInput request').1 (stamp'.bodyInput request').2 :=
      Base64.encode_injective .standard hashes
    by_cases oneBody : stamp.bodyInput request = stamp'.bodyInput request'
    · left
      obtain ⟨nonces, bodies⟩ := Prod.mk.inj oneBody
      have nonce := Bytes.ofText_injective nonces
      rw [nonce] at heads
      obtain ⟨timestamp, method, target⟩ := Signature.head_injective dated datedToo heads
      exact ⟨nonce, timestamp, method, target, bodies⟩
    · exact .inr ⟨_, List.mem_cons_self, _, List.mem_cons_self, oneBody, inner⟩
  · have last {x y : Bytes × Bytes} : y ∈ [x, y] := List.mem_cons_of_mem x List.mem_cons_self
    exact .inr ⟨_, last, _, last, oneText, outer⟩

end Stamp

/-! ### Requests that pass -/

/-- Whether a request passes the check under a secret at an instant, in a world. -/
def World.Passes (w : World) (request : SignedRequest) (secret : Bytes) (now : Instant) : Prop :=
  ((Signature.checkAt request (some secret) now).run World.answer w).1 = some (.ok ())

theorem World.passes_iff {w : World} {request : SignedRequest} {secret : Bytes} {now : Instant} :
    w.Passes request secret now ↔
      ∃ left, Signature.Verdict w.replay request now (some secret) (.ok ()) left := by
  constructor
  · intro passes
    obtain ⟨verdict, left, ran, isVerdict, -⟩ :=
      Signature.run_checkAt Store.answer request (some secret) now w
    have same : some verdict = some (.ok ()) := (congrArg Prod.fst ran).symm.trans passes
    cases same
    exact ⟨_, isVerdict⟩
  · rintro ⟨guard, isVerdict⟩
    obtain ⟨left, ran, -⟩ := isVerdict.run Store.answer
    exact congrArg Prod.fst ran

theorem Stamp.Valid.passes {w : World} {request : SignedRequest} {secret : Bytes} {now : Instant} {stamp : Stamp}
    (valid : stamp.Valid request secret now) (fresh : stamp.key ∉ w.replay.keys) : w.Passes request secret now :=
  World.passes_iff.mpr ⟨_, .accepted valid.read valid.secret_ne valid.covers fresh valid.signs⟩

/-- Two requests that pass under one secret with one signature, wherever and whenever, are the same in all that it
covers, or two of the inputs of HMAC in their checks collide. -/
theorem Signature.tampering_collides {w w' : World} {request request' : SignedRequest} {secret : Bytes}
    {now now' : Instant} (passes : w.Passes request secret now) (passesToo : w'.Passes request' secret now')
    (same : request.headers.text? signatureHeader = request'.headers.text? signatureHeader) :
    ∃ stamp stamp', Stamp.read request.headers now = .ok stamp ∧ Stamp.read request'.headers now' = .ok stamp' ∧
      ((stamp.nonce = stamp'.nonce ∧ stamp.timestamp = stamp'.timestamp ∧ request.method = request'.method ∧
        request.target = request'.target ∧ request.body = request'.body) ∨
      ∃ x ∈ stamp.inputs request secret, ∃ y ∈ stamp'.inputs request' secret, Hash.Collide x y) := by
  obtain ⟨_, verdict⟩ := World.passes_iff.mp passes
  obtain ⟨_, verdict'⟩ := World.passes_iff.mp passesToo
  cases verdict with
  | @accepted stamp _ read secret_ne covers fresh signs =>
    cases verdict' with
    | @accepted stamp' _ read' secret_ne' covers' fresh' signs' =>
      have stands := Stamp.read_eq_ok_iff.mp read
      have stands' := Stamp.read_eq_ok_iff.mp read'
      rw [Stamp.text?_of_header stands.signature, Stamp.text?_of_header stands'.signature] at same
      obtain ⟨_, dated, _⟩ := stands.near
      obtain ⟨_, dated', _⟩ := stands'.near
      exact ⟨stamp, stamp', read, read', Stamp.agree_or_collide dated dated' signs signs' (Option.some.inj same)⟩

namespace Sample

/-- The signed request for a new name without the token of the session. -/
def bareRename : SignedRequest :=
  ⟨.patch, "/api/v1/users/0",
    (RequestSignature.sign .patch "/api/v1/users/0" newName [0] "aaaaaaaaaaaaaaaaaaaa" minute).headers, newName⟩

theorem bareRename_valid : (stamp "aaaaaaaaaaaaaaaaaaaa").Valid bareRename [0] ⟨90, 0⟩ := by
  have apart : RequestSignature.Apart [] := by decide
  exact RequestSignature.valid apart (by decide) (by decide) (by decide +kernel) (by decide) minute_readable
    read?_minute (by decide)

end Sample

theorem Signature.tampering_collides_rename :
    ∃ stamp stamp', Stamp.read (Sample.rename "aaaaaaaaaaaaaaaaaaaa").signed.headers ⟨60, 0⟩ = .ok stamp ∧
      Stamp.read Sample.bareRename.headers ⟨90, 0⟩ = .ok stamp' ∧
      ((stamp.nonce = stamp'.nonce ∧ stamp.timestamp = stamp'.timestamp ∧
        (Sample.rename "aaaaaaaaaaaaaaaaaaaa").signed.method = Sample.bareRename.method ∧
        (Sample.rename "aaaaaaaaaaaaaaaaaaaa").signed.target = Sample.bareRename.target ∧
        (Sample.rename "aaaaaaaaaaaaaaaaaaaa").signed.body = Sample.bareRename.body) ∨
      ∃ x ∈ stamp.inputs (Sample.rename "aaaaaaaaaaaaaaaaaaaa").signed [0],
        ∃ y ∈ stamp'.inputs Sample.bareRename [0], Hash.Collide x y) := by
  have valid : (Sample.stamp "aaaaaaaaaaaaaaaaaaaa").Valid (Sample.rename "aaaaaaaaaaaaaaaaaaaa").signed [0] ⟨60, 0⟩ :=
    Sample.rename_valid (by decide +kernel) (by decide)
  have passes : Sample.world.Passes (Sample.rename "aaaaaaaaaaaaaaaaaaaa").signed [0] ⟨60, 0⟩ :=
    valid.passes (by decide)
  have passesToo : World.Passes { replay := .new 7 } Sample.bareRename [0] ⟨90, 0⟩ :=
    Sample.bareRename_valid.passes (by decide)
  have signature := Stamp.text?_of_header (Stamp.read_eq_ok_iff.mp valid.read).signature
  have signatureToo := Stamp.text?_of_header (Stamp.read_eq_ok_iff.mp Sample.bareRename_valid.read).signature
  exact tampering_collides passes passesToo (signature.trans signatureToo.symm)

end Countersign
