import Countersign.KeyExchange
import Countersign.Proofs.Curve
import Countersign.Proofs.Signing
import Countersign.Proofs.Texts

/-!
Both sides agree on a secret.

A key that travels as a text is read back (`PublicKey.ofText_toText`), and the product of two scalars and the base point
does not depend on their order, so each side derives what the other does (`KeyPair.derive_comm`), unless the first
coordinate of the product is zero (`KeyPair.derive_toText`). Every scalar from 1 to `order - 1` is half of a pair
(`KeyPair.ofScalar?_eq_some`).
-/

namespace Countersign

namespace Bytes

theorem toNat_cons (x : UInt8) (b : Bytes) : toNat (x :: b) = x.toNat * 256 ^ b.length + toNat b := by
  have onto (n : Nat) (b : Bytes) : b.foldl (fun n x => n * 256 + x.toNat) n = n * 256 ^ b.length + toNat b := by
    induction b generalizing n with
    | nil => simp [toNat]
    | cons x b ih =>
      rw [toNat, List.foldl_cons, List.foldl_cons, ih, ih (0 * 256 + x.toNat), List.length_cons, Nat.pow_succ]
      ring
  rw [toNat, List.foldl_cons, onto, Nat.zero_mul, Nat.zero_add]

theorem ofNat_spec (width n : Nat) : (ofNat width n).length = width ∧ toNat (ofNat width n) = n % 256 ^ width := by
  have state (width : Nat) : ∃ b : Bytes, (List.range width).foldl
      (fun ((b, n) : Bytes × Nat) _ => (UInt8.ofNat n :: b, n / 256)) ([], n) = (b, n / 256 ^ width) ∧
      b.length = width ∧ toNat b = n % 256 ^ width := by
    induction width with
    | zero => exact ⟨[], by simp, rfl, by simp [toNat, Nat.mod_one]⟩
    | succ width ih =>
      obtain ⟨b, reached, isLength, isNumber⟩ := ih
      refine ⟨UInt8.ofNat (n / 256 ^ width) :: b, ?_, by simp [isLength], ?_⟩
      · rw [List.range_succ, List.foldl_append, reached, Nat.pow_succ, ← Nat.div_div_eq_div_mul]
        rfl
      · have low : (UInt8.ofNat (n / 256 ^ width)).toNat = n / 256 ^ width % 256 := UInt8.toNat_ofNat'
        rw [toNat_cons, isLength, isNumber, low, Nat.pow_succ, Nat.mod_mul]
        ring
  obtain ⟨b, reached, isLength, isNumber⟩ := state width
  unfold ofNat
  rw [reached]
  exact ⟨isLength, isNumber⟩

end Bytes

/-! ### Keys -/

open P256 (Coordinate OnCurve Point)

theorem P256.Coordinate.toBytes_spec (x : Coordinate) :
    (P256.Coordinate.toBytes x).length = 32 ∧ (P256.Coordinate.toBytes x).toNat = x.val := by
  obtain ⟨isLength, isNumber⟩ := Bytes.ofNat_spec 32 x.val
  refine ⟨isLength, isNumber.trans (Nat.mod_eq_of_lt (Nat.lt_trans x.isLt ?_))⟩
  decide

namespace PublicKey

theorem coordinate_encode (x : Coordinate) :
    coordinate (Base64.encode .urlSafe (P256.Coordinate.toBytes x)).toList = .ok x.val := by
  obtain ⟨isLength, isNumber⟩ := P256.Coordinate.toBytes_spec x
  unfold coordinate
  rw [String.ofList_toList, Base64.decode?_encode]
  dsimp only
  rw [if_pos isLength, isNumber]

/-- A key that travels is read back. -/
theorem ofText_toText (k : PublicKey) : ofText k.toText = .ok k := by
  have noComma (b : Bytes) : ',' ∉ (Base64.encode .urlSafe b).toList :=
    fun member => Base64.all_encode .urlSafe (p := (· ≠ ',')) (by decide) member rfl
  have cut : Text.cut? ',' k.toText.toList = some ((Base64.encode .urlSafe (P256.Coordinate.toBytes k.x)).toList,
      (Base64.encode .urlSafe (P256.Coordinate.toBytes k.y)).toList) := by
    unfold toText
    rw [String.toList_append, String.toList_append, List.append_assoc]
    exact Text.cut?_append_cons (noComma _) _
  unfold ofText
  rw [cut]
  dsimp only
  rw [coordinate_encode, coordinate_encode]
  show (if small : k.x.val < P256.prime ∧ k.y.val < P256.prime then _ else _) = _
  rw [dif_pos ⟨k.x.isLt, k.y.isLt⟩]
  have isPoint : ofPoint? (.affine k.x k.y) = some k := dif_pos k.onCurve
  rw [isPoint]

end PublicKey

namespace KeyPair

theorem scalar_small (pair : KeyPair) : pair.scalar < 2 ^ 256 := Nat.lt_trans pair.scalar_lt Point.order_lt

/-- The product of two scalars and the base point, in either order. -/
theorem multiple_comm (pair peer : KeyPair) : Point.multiple pair.scalar peer.publicKey.point =
    Point.multiple peer.scalar pair.publicKey.point := by
  obtain ⟨g, means⟩ := Point.base_means
  rw [← pair.agrees, ← peer.agrees, Point.multiple_comm means pair.scalar_small peer.scalar_small]

theorem derive_comm (pair peer : KeyPair) :
    pair.derive peer.publicKey.toText = peer.derive pair.publicKey.toText := by
  unfold derive
  rw [PublicKey.ofText_toText, PublicKey.ofText_toText]
  show pair.secretWith peer.publicKey = peer.secretWith pair.publicKey
  unfold secretWith
  rw [multiple_comm]

theorem derive_toText (pair : KeyPair) (peer : PublicKey)
    (nonzero : firstCoordinate (Point.multiple pair.scalar peer.point) ≠ 0) : pair.derive peer.toText =
      .ok ⟨P256.Coordinate.toBytes (firstCoordinate (Point.multiple pair.scalar peer.point))⟩ := by
  unfold derive
  rw [PublicKey.ofText_toText]
  show pair.secretWith peer = _
  unfold secretWith
  exact if_neg nonzero

/-- Every scalar that may be half of a pair is. -/
theorem ofScalar?_eq_some {scalar : Nat} (positive : 0 < scalar) (small : scalar < P256.order) :
    ∃ pair, ofScalar? scalar = some pair ∧ pair.scalar = scalar := by
  obtain ⟨g, means⟩ := Point.base_means
  have made := means.multiple (Nat.lt_trans small Point.order_lt)
  unfold ofScalar?
  rw [dif_pos small]
  split
  next vanishes => exact absurd vanishes (Point.multiple_base_ne_infinity positive small)
  next x y isPoint =>
    rw [isPoint] at made
    rw [dif_pos made.onCurve]
    exact ⟨_, rfl, rfl⟩

theorem secret_ne {pair : KeyPair} {peer : String} {secret : SharedSecret}
    (agreed : pair.derive peer = .ok secret) : secret.bytes ≠ [] := by
  unfold derive at agreed
  cases isKey : PublicKey.ofText peer with
  | error e =>
    rw [isKey] at agreed
    cases agreed
  | ok key =>
    rw [isKey] at agreed
    have shared : pair.secretWith key = .ok secret := agreed
    unfold secretWith at shared
    dsimp only at shared
    split at shared
    · cases shared
    · cases shared
      intro empty
      have length := (P256.Coordinate.toBytes_spec (firstCoordinate (.multiple pair.scalar key.point))).1
      rw [show P256.Coordinate.toBytes _ = [] from empty] at length
      cases length

end KeyPair

theorem PublicKey.toText_ne (k : PublicKey) : k.toText ≠ "" := by
  intro empty
  have texts := congrArg String.toList empty
  simp [toText] at texts

end Countersign
