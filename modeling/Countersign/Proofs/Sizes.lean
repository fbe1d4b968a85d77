import Countersign.Proofs.Agreement
import Countersign.Proofs.Tokens

/-!
How many octets are written.

A text without escapes takes as many octets as it has characters (`Json.length_rawOf`), and none takes fewer. So the
body of a login is as long as what it holds (`LoginRequest.length_write`), but that of a refresh holds the email twice,
once in the token (`TokenService.length_encode`).
-/

namespace Countersign

open Json (rawOf Value)

namespace Json

theorem Quoted.escape_ne (c : Char) : escape c ≠ [] := by
  intro empty
  rcases escape_cases c with ⟨isC, -⟩ | ⟨letter, isC, -⟩ | ⟨high, low, isC, -⟩ <;>
    · rw [isC] at empty
      cases empty

theorem length_le_flatMap {α β : Type} {f : α → List β} (some_item : ∀ x, f x ≠ []) (l : List α) :
    l.length ≤ (l.flatMap f).length := by
  induction l with
  | nil => exact Nat.le_refl 0
  | cons x l ih =>
    have first := List.length_pos_of_ne_nil (some_item x)
    rw [List.flatMap_cons, List.length_append, List.length_cons]
    omega

theorem length_le_rawOf (text : String) : text.toList.length ≤ (rawOf text).length :=
  Nat.le_trans (length_le_flatMap Quoted.escape_ne _) (length_le_flatMap (fun _ => String.utf8EncodeChar_ne_nil) _)

theorem length_rawOf {text : String} (plain : Plain text) : (rawOf text).length = text.toList.length := by
  unfold Plain at plain
  unfold rawOf
  generalize text.toList = l at plain
  induction l with
  | nil => rfl
  | cons c l ih =>
    have isPlain := plain c List.mem_cons_self
    have ascii : c.toNat < 128 := by
      have visible := isPlain_iff.mp isPlain
      omega
    rw [List.flatMap_cons, List.flatMap_append, List.length_append, Quoted.escape_of_isPlain isPlain,
      List.flatMap_singleton, (Token.octets_ascii ascii).1, ih fun d member => plain d (List.mem_cons_of_mem c member)]
    exact Nat.add_comm 1 _

/-! ### Objects -/

theorem length_writeOnto (out s : String) :
    (Bytes.ofText (Quoted.writeOnto out s)).length = (Bytes.ofText out).length + (rawOf s).length + 2 := by
  rw [Token.ofText_writeOnto, List.length_append, Token.quoted, List.length_cons, List.length_append]
  exact rfl

theorem length_push (out : String) {c : Char} (ascii : c.toNat < 128) :
    (Bytes.ofText (out.push c)).length = (Bytes.ofText out).length + 1 := by
  rw [Token.ofText_push out ascii, List.length_append]
  rfl

end Json

open Json (length_writeOnto length_push)

theorem LoginRequest.length_write (r : LoginRequest) : (Bytes.ofText r.toValue.write).length =
    (rawOf r.publicKey).length + (rawOf r.email).length + (rawOf r.password).length + 42 := by
  have keys : (rawOf "public_key").length = 10 ∧ (rawOf "email").length = 5 ∧ (rawOf "password").length = 8 := by
    decide +kernel
  obtain ⟨publicKey, email, password⟩ := keys
  have none : (Bytes.ofText "").length = 0 := by decide +kernel
  simp only [toValue, Value.write, Value.writeOnto, Value.writeMembers, Bool.false_eq_true, ↓reduceIte,
    length_writeOnto, @length_push _ '\x7d' (by decide), @length_push _ ',' (by decide),
    @length_push _ ':' (by decide), @length_push _ '\x7b' (by decide), publicKey, email, password, none]
  omega

theorem RefreshRequest.length_write (r : RefreshRequest) : (Bytes.ofText r.toValue.write).length =
    (rawOf r.email).length + (rawOf r.refreshToken).length + 31 := by
  have keys : (rawOf "email").length = 5 ∧ (rawOf "refresh_token").length = 13 := by decide +kernel
  obtain ⟨email, refreshToken⟩ := keys
  have none : (Bytes.ofText "").length = 0 := by decide +kernel
  simp only [toValue, Value.write, Value.writeOnto, Value.writeMembers, Bool.false_eq_true, ↓reduceIte,
    length_writeOnto, @length_push _ '\x7d' (by decide), @length_push _ ',' (by decide),
    @length_push _ ':' (by decide), @length_push _ '\x7b' (by decide), email, refreshToken, none]
  omega

theorem Bytes.length_le_ofText (s : String) : s.toList.length ≤ (ofText s).length := by
  rw [ofText_eq]
  exact Json.length_le_flatMap (fun _ => String.utf8EncodeChar_ne_nil) _

/-- A token is a third longer than the email in it. -/
theorem TokenService.length_encode (service : TokenService) (c : Claims) :
    4 * c.subject.toList.length ≤ 3 * (service.encode c).toList.length := by
  have payload : c.subject.toList.length ≤ (Bytes.ofText c.toValue.write).length := by
    have escaped := Json.length_le_flatMap Json.Quoted.escape_ne c.subject.toList
    have octets := Bytes.length_le_ofText c.toValue.write
    rw [Claims.toList_write] at octets
    simp only [Claims.textMember, List.length_cons, List.length_append] at octets
    omega
  have encoded := Base64.length_encode .urlSafe (Bytes.ofText c.toValue.write)
  have part : (part c.toValue.write).toList.length = (4 * (Bytes.ofText c.toValue.write).length + 2) / 3 := encoded
  rw [toList_encode]
  simp only [List.length_cons, List.length_append, part]
  omega

/-- A travelling key is 87 characters long, none of which is escaped. -/
theorem PublicKey.length_toText (k : PublicKey) : (rawOf k.toText).length = 87 := by
  have plain : Json.Plain k.toText := by
    unfold toText
    exact ((Base64.encode_plain .urlSafe _).append (by decide)).append (Base64.encode_plain .urlSafe _)
  have length (x : P256.Coordinate) : (Base64.encode .urlSafe (P256.Coordinate.toBytes x)).toList.length = 43 := by
    rw [Base64.length_encode, (P256.Coordinate.toBytes_spec x).1]
  have comma : ",".toList = [','] := rfl
  rw [Json.length_rawOf plain]
  simp [toText, length, comma]

end Countersign
