import Countersign.Proofs.Base64
import Countersign.Proofs.Steps
import Countersign.Proofs.Texts

/-!
A request that has been signed is found to be.

Texts of readable characters come through a header as they are (`Http.Header.text?_ofText`), and Base64 has no
other characters. So the headers that `RequestSignature.sign` makes give a stamp which is valid under the same
secret (`RequestSignature.valid`).
-/

namespace Countersign

open Http (Header Headers Method)

/-- Texts of the characters that a header may hold. -/
def Http.Header.Readable (s : String) : Prop := ∀ c ∈ s.toList, 32 ≤ c.toNat ∧ c.toNat < 127 ∨ c.toNat = 9

instance (s : String) : Decidable (Header.Readable s) := List.decidableBAll _ s.toList

theorem Bytes.ofText_of_ascii {s : String} (ascii : ∀ c ∈ s.toList, c.toNat < 128) :
    ofText s = s.toList.map fun c => c.val.toUInt8 := by
  rw [ofText_eq]
  generalize s.toList = l at ascii
  induction l with
  | nil => rfl
  | cons c l ih =>
    have single : c.utf8Size = 1 := by
      have small := ascii c List.mem_cons_self
      rw [Char.utf8Size_eq_one_iff, UInt32.le_iff_toNat_le]
      exact Nat.le_of_lt_succ small
    rw [List.flatMap_cons, List.map_cons, String.utf8EncodeChar_eq_singleton single,
      ih fun d member => ascii d (List.mem_cons_of_mem c member)]
    rfl

theorem Http.Header.text?_ofText {name value : String} (readable : Readable value) :
    (ofText name value).text? = some value := by
  have ascii : ∀ c ∈ value.toList, c.toNat < 128 := fun c member => by
    have := readable c member
    omega
  have octet : ∀ c ∈ value.toList, c.val.toUInt8.toNat = c.toNat := fun c member => by
    have := ascii c member
    exact Nat.mod_eq_of_lt (by omega : c.toNat < 256)
  unfold text? ofText
  dsimp only
  rw [Bytes.ofText_of_ascii ascii, if_pos, List.map_map]
  · have same : value.toList.map ((fun b : UInt8 => Char.ofNat b.toNat) ∘ fun c => c.val.toUInt8) =
        value.toList.map id := by
      refine List.map_congr_left fun c member => ?_
      rw [Function.comp, octet c member, Char.ofNat_toNat]
      rfl
    rw [same, List.map_id, String.ofList_toList]
  · rw [List.all_map, List.all_eq_true]
    intro c member
    have := readable c member
    have small := octet c member
    simp [isReadable, UInt8.le_iff_toNat_le, UInt8.lt_iff_toNat_lt, ← UInt8.toNat_inj, -Char.toUInt8_val, small]
    omega

theorem Http.Header.Readable.append {s t : String} (first : Readable s) (second : Readable t) : Readable (s ++ t) := by
  intro c member
  rw [String.toList_append, List.mem_append] at member
  exact member.elim (first c) (second c)

theorem Json.Plain.readable {s : String} (plain : Plain s) : Header.Readable s := by
  intro c member
  have visible := isPlain_iff.mp (plain c member)
  omega

theorem Text.trim_of_plain {s : String} (plain : Json.Plain s) : trim s.toList = s.toList := by
  have visible : ∀ c ∈ s.toList, isBlank c = false := fun c member => by
    have visible := Json.isPlain_iff.mp (plain c member)
    simp [isBlank]
    omega
  have kept {l : List Char} (visible : ∀ c ∈ l, isBlank c = false) : l.dropWhile isBlank = l := by
    cases l with
    | nil => rfl
    | cons c l => exact List.dropWhile_cons_of_neg (by simp [visible c List.mem_cons_self])
  unfold trim
  rw [kept visible, kept fun c member => visible c (List.mem_reverse.mp member), List.reverse_reverse]

/-- A token of plain characters is presented by its header. -/
theorem Session.presented?_bearer {token : String} (plain : Json.Plain token) (token_ne : token ≠ "")
    (headers : Headers) :
    presented? (.ofText "authorization" ("Bearer " ++ token) :: headers) = some token := by
  have text : Headers.text? (.ofText "authorization" ("Bearer " ++ token) :: headers) "authorization" =
      some ("Bearer " ++ token) := by
    show (Header.ofText "authorization" ("Bearer " ++ token)).text? = _
    exact Header.text?_ofText (Header.Readable.append (by decide) plain.readable)
  have isBearer : bearer? ("Bearer " ++ token) = some token := by
    unfold bearer?
    rw [String.toList_append]
    show (some token.toList).bind _ = _
    rw [Option.bind_some, Text.trim_of_plain plain]
    dsimp only
    rw [if_neg (by simpa using token_ne), String.ofList_toList]
  unfold presented?
  rw [text, Option.bind_some, isBearer]
  rfl

namespace Base64

theorem encode_plain (alphabet : Alphabet) (b : Bytes) : Json.Plain (encode alphabet b) := fun _ member =>
  all_encode alphabet (p := fun c => Json.isPlain c = true) (by cases alphabet <;> decide) member

theorem encode_readable (alphabet : Alphabet) (b : Bytes) : Header.Readable (encode alphabet b) :=
  (encode_plain alphabet b).readable

theorem encode_ne (alphabet : Alphabet) {b : Bytes} (some_octet : b ≠ []) : encode alphabet b ≠ "" := by
  intro empty
  have reads := decode?_encode alphabet b
  rw [empty] at reads
  exact some_octet (Option.some.inj reads).symm

end Base64

theorem Hash.hmac_ne (key message : Bytes) : hmac key message ≠ [] := by
  intro empty
  have length := length_hmac key message
  rw [empty] at length
  cases length

namespace Stamp

variable {headers : Headers} {now sent : Instant}

theorem header_of_text? {name value : String} (there : headers.text? name = some value) (some_char : value ≠ "") :
    header headers name = .ok value := header_eq_ok_iff.mpr ⟨there, some_char⟩

/-- With all else in order the window decides. -/
theorem read_eq_of_texts {stamp : Stamp} (signed : headers.text? Signature.signatureHeader = some stamp.signature)
    (signature_ne : stamp.signature ≠ "") (unique : headers.text? Signature.nonceHeader = some stamp.nonce)
    (long : Signature.minNonceLength ≤ stamp.nonce.length)
    (dated : headers.text? Signature.timestampHeader = some stamp.timestamp)
    (isInstant : Time.Rfc3339.read? stamp.timestamp = some sent) :
    read headers now = if inWindow now sent then .ok stamp else .error .timestampOutOfRange := by
  have nonce_ne : stamp.nonce ≠ "" := by
    intro empty
    rw [empty] at long
    exact absurd long (by decide)
  have timestamp_ne : stamp.timestamp ≠ "" := by
    intro empty
    rw [empty] at isInstant
    cases isInstant
  unfold read
  rw [header_of_text? signed signature_ne, header_of_text? unique nonce_ne, header_of_text? dated timestamp_ne]
  simp only [bind, Except.bind]
  rw [if_neg (Nat.not_lt.mpr long), isInstant]
  rfl

theorem read_of_texts {stamp : Stamp} (signed : headers.text? Signature.signatureHeader = some stamp.signature)
    (signature_ne : stamp.signature ≠ "") (unique : headers.text? Signature.nonceHeader = some stamp.nonce)
    (long : Signature.minNonceLength ≤ stamp.nonce.length)
    (dated : headers.text? Signature.timestampHeader = some stamp.timestamp)
    (isInstant : Time.Rfc3339.read? stamp.timestamp = some sent) (near : inWindow now sent = true) :
    read headers now = .ok stamp := by
  rw [read_eq_of_texts signed signature_ne unique long dated isInstant, if_pos near]

end Stamp

namespace RequestSignature

/-- What a signature puts under which name. -/
def texts (s : RequestSignature) : List (String × String) :=
  [(Signature.nonceHeader, s.nonce), (Signature.timestampHeader, s.timestamp),
    (Signature.bodyHashHeader, s.bodyHash), (Signature.signatureHeader, s.signature)]

/-- Whether headers are none of a signature's. -/
def Apart (others : Headers) : Prop :=
  ∀ h ∈ others, h.name ∉ [Signature.nonceHeader, Signature.timestampHeader, Signature.bodyHashHeader,
    Signature.signatureHeader]

instance (others : Headers) : Decidable (Apart others) := List.decidableBAll _ others

theorem text?_headers {others : Headers} (apart : Apart others) {s : RequestSignature} {name value : String}
    (given : (name, value) ∈ s.texts) (readable : Header.Readable value) :
    Headers.text? (others ++ s.headers) name = some value := by
  have skipped : others.find? (fun h => h.name == name) = none := by
    refine List.find?_eq_none.mpr fun h member same => apart h member ?_
    have isName : (name, value).1 ∈ s.texts.map Prod.fst := List.mem_map_of_mem given
    rw [beq_iff_eq.mp same]
    exact isName
  unfold Headers.text? Headers.first?
  rw [List.find?_append, skipped, Option.none_or]
  simp only [texts, List.mem_cons, Prod.mk.injEq, List.not_mem_nil, or_false] at given
  rcases given with ⟨rfl, rfl⟩ | ⟨rfl, rfl⟩ | ⟨rfl, rfl⟩ | ⟨rfl, rfl⟩ <;> exact Header.text?_ofText readable

/-- Headers of a signature give its stamp, while its instant is near enough. -/
theorem read_headers {others : Headers} {s : RequestSignature} {now sent : Instant} (apart : Apart others)
    (nonceReadable : Header.Readable s.nonce) (long : Signature.minNonceLength ≤ s.nonce.length)
    (timestampReadable : Header.Readable s.timestamp) (isInstant : Time.Rfc3339.read? s.timestamp = some sent)
    (near : Stamp.inWindow now sent = true) (signatureReadable : Header.Readable s.signature)
    (signature_ne : s.signature ≠ "") :
    Stamp.read (others ++ s.headers) now = .ok ⟨s.signature, s.nonce, s.timestamp⟩ := by
  refine Stamp.read_of_texts ?_ signature_ne ?_ long ?_ isInstant near
  · exact text?_headers apart (by simp [texts]) signatureReadable
  · exact text?_headers apart (by simp [texts]) nonceReadable
  · exact text?_headers apart (by simp [texts]) timestampReadable

/-- They cover the body if its digest is among them. -/
theorem coversBody_headers {others : Headers} {s : RequestSignature} {method : Method} {target : String}
    {body : Bytes} (apart : Apart others) (hashed : s.bodyHash = Signature.bodyHash s.nonce body) :
    Stamp.coversBody ⟨s.signature, s.nonce, s.timestamp⟩ ⟨method, target, others ++ s.headers, body⟩ = true := by
  have given : Headers.text? (others ++ s.headers) Signature.bodyHashHeader =
      some (Signature.bodyHash s.nonce body) := by
    rw [← hashed]
    refine text?_headers apart (by simp [texts]) ?_
    rw [hashed]
    exact Base64.encode_readable .standard _
  unfold Stamp.coversBody
  rw [given]
  exact beq_self_eq_true _

/-- A request that carries what `sign` makes is found to be signed, while its instant is near enough. -/
theorem valid {others : Headers} {method : Method} {target : String} {body secret : Bytes}
    {nonce timestamp : String} {now sent : Instant} (apart : Apart others) (secret_ne : secret ≠ [])
    (onClock : now.onClock? = some now) (nonceReadable : Header.Readable nonce)
    (long : Signature.minNonceLength ≤ nonce.length) (timestampReadable : Header.Readable timestamp)
    (isInstant : Time.Rfc3339.read? timestamp = some sent) (near : Stamp.inWindow now sent = true) :
    Stamp.Valid ⟨method, target, others ++ (sign method target body secret nonce timestamp).headers, body⟩ secret
      now ⟨(sign method target body secret nonce timestamp).signature, nonce, timestamp⟩ := by
  constructor
  · exact onClock
  · exact read_headers (s := sign method target body secret nonce timestamp) apart nonceReadable long
      timestampReadable isInstant near (Base64.encode_readable .standard _) (Base64.encode_ne _ (Hash.hmac_ne _ _))
  · exact secret_ne
  · exact coversBody_headers (s := sign method target body secret nonce timestamp) apart rfl
  · exact beq_self_eq_true _

end RequestSignature

end Countersign
