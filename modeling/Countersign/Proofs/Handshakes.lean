import Countersign.Proofs.Agreement

/-!
What a handshake comes to, for every two scalars.

Multiples of the base point multiply as their scalars do, modulo the order (`Point.multiple_multiple_base`). The order is
a prime, so the point that two scalars have in common is never the one at infinity (`Point.multiple_mul_ne_infinity`).
Both sides read the first coordinate of that point, or refuse because it is zero (`KeyPair.handshake`); what travels
between them is never refused.
-/

namespace Countersign

open P256 (Coordinate Point)

namespace P256.Point

variable {m n : Nat}

theorem reduced_lt (n : Nat) : n % order < 2 ^ 256 := by
  have below : n % order < order := Nat.mod_lt n (by decide)
  exact Nat.lt_trans below order_lt

theorem multiple_multiple_base (m_lt : m < 2 ^ 256) (n_lt : n < 2 ^ 256) :
    multiple m (multiple n base) = multiple (m * n % order) base := by
  obtain ⟨g, means⟩ := base_means
  have twice : Means (multiple m (multiple n base)) (m • n • g) := (means.multiple n_lt).multiple m_lt
  have once : Means (multiple (m * n % order) base) ((m * n % order) • g) := means.multiple (reduced_lt _)
  have same : m • n • g = (m * n % order) • g := by
    calc m • n • g = (m * n) • g := (mul_nsmul' g m n).symm
      _ = (m * n % addOrderOf g) • g := (mod_addOrderOf_nsmul g (m * n)).symm
      _ = (m * n % order) • g := by rw [addOrderOf_base means]
  rw [same] at twice
  exact twice.unique once

theorem mul_mod_order_pos (m_pos : 0 < m) (m_lt : m < order) (n_pos : 0 < n) (n_lt : n < order) :
    0 < m * n % order := by
  apply Nat.pos_of_ne_zero
  intro zero
  have divides : order ∣ m * n := Nat.dvd_of_mod_eq_zero zero
  rcases order_prime.dvd_mul.mp divides with first | second
  · have := Nat.le_of_dvd m_pos first
    omega
  · have := Nat.le_of_dvd n_pos second
    omega

theorem multiple_mul_ne_infinity (m_pos : 0 < m) (m_lt : m < order) (n_pos : 0 < n) (n_lt : n < order) :
    multiple (m * n % order) base ≠ infinity := by
  apply multiple_base_ne_infinity (mul_mod_order_pos m_pos m_lt n_pos n_lt)
  exact Nat.mod_lt _ (by decide)

end P256.Point

namespace KeyPair

/-- A side whose key is read derives the first coordinate of the common point, unless it is zero. -/
theorem derive_eq (own peer : KeyPair) {x y : Coordinate}
    (isPoint : Point.multiple (own.scalar * peer.scalar % P256.order) .base = .affine x y) :
    own.derive peer.publicKey.toText = if x = 0 then .error .degenerate else .ok ⟨P256.Coordinate.toBytes x⟩ := by
  have product : Point.multiple own.scalar peer.publicKey.point = .affine x y := by
    rw [← peer.agrees, Point.multiple_multiple_base own.scalar_small peer.scalar_small, isPoint]
  have read : own.derive peer.publicKey.toText = own.secretWith peer.publicKey := by
    rw [derive, PublicKey.ofText_toText]
    rfl
  simp [read, secretWith, product, firstCoordinate]

/-- For every two scalars both sides derive the same 32 octets, or both find the secret degenerate. -/
theorem handshake {m n : Nat} (m_pos : 0 < m) (m_lt : m < P256.order) (n_pos : 0 < n) (n_lt : n < P256.order) :
    ∃ (own peer : KeyPair) (x y : Coordinate), ofScalar? m = some own ∧ ofScalar? n = some peer ∧
      own.publicKey.point = Point.multiple m .base ∧ peer.publicKey.point = Point.multiple n .base ∧
      Point.multiple (m * n % P256.order) .base = .affine x y ∧
      ((x ≠ 0 ∧ ∃ secret : SharedSecret, secret.bytes.length = 32 ∧ secret.bytes = P256.Coordinate.toBytes x ∧
          own.derive peer.publicKey.toText = .ok secret ∧ peer.derive own.publicKey.toText = .ok secret) ∨
        (x = 0 ∧ own.derive peer.publicKey.toText = .error .degenerate ∧
          peer.derive own.publicKey.toText = .error .degenerate)) := by
  obtain ⟨own, isOwn, rfl⟩ := ofScalar?_eq_some m_pos m_lt
  obtain ⟨peer, isPeer, rfl⟩ := ofScalar?_eq_some n_pos n_lt
  cases common : Point.multiple (own.scalar * peer.scalar % P256.order) .base with
  | infinity => exact absurd common (Point.multiple_mul_ne_infinity m_pos m_lt n_pos n_lt)
  | affine x y =>
    have ownSide := own.derive_eq peer common
    have peerSide := peer.derive_eq own (Nat.mul_comm own.scalar peer.scalar ▸ common)
    refine ⟨own, peer, x, y, isOwn, isPeer, own.agrees.symm, peer.agrees.symm, rfl, ?_⟩
    by_cases zero : x = 0
    · rw [if_pos zero] at ownSide peerSide
      exact .inr ⟨zero, ownSide, peerSide⟩
    · rw [if_neg zero] at ownSide peerSide
      exact .inl ⟨zero, ⟨P256.Coordinate.toBytes x⟩, (P256.Coordinate.toBytes_spec x).1, rfl, ownSide, peerSide⟩

/-- A key and a secret whose first octet is zero, and scalars whose product exceeds the order. -/
theorem handshake_zeroOctet : ∃ own peer : KeyPair, ofScalar? 43 = some own ∧
    ofScalar? 0x17d05f41653594d66b29aca6b29aca6b236ec9ec6ecc9da1347089ee6ad3a444 = some peer ∧
    ∃ secret : SharedSecret, secret.bytes = [
        0x00, 0x75, 0xba, 0x8d, 0x34, 0x30, 0x49, 0x5f, 0xc6, 0x89, 0xe1, 0x02, 0x4b, 0x48, 0xe4, 0x8f,
        0x4e, 0xc4, 0xd2, 0xed, 0xa5, 0xd5, 0xb8, 0xf8, 0xad, 0x76, 0x37, 0xda, 0xbf, 0x06, 0x5d, 0xf3] ∧
      own.derive peer.publicKey.toText = .ok secret ∧ peer.derive own.publicKey.toText = .ok secret := by
  obtain ⟨own, peer, x, y, isOwn, isPeer, -, -, common, outcome⟩ :=
    @handshake 43 0x17d05f41653594d66b29aca6b29aca6b236ec9ec6ecc9da1347089ee6ad3a444
      (by decide) (by decide) (by decide) (by decide)
  have isFirst : firstCoordinate (Point.multiple
      (43 * 0x17d05f41653594d66b29aca6b29aca6b236ec9ec6ecc9da1347089ee6ad3a444 % P256.order) .base) =
      Fin.ofNat P256.prime 0x75ba8d3430495fc689e1024b48e48f4ec4d2eda5d5b8f8ad7637dabf065df3 := by decide +kernel
  rw [common] at isFirst
  obtain rfl : x = _ := isFirst
  rcases outcome with ⟨-, secret, -, isSecret, agreed⟩ | ⟨zero, -⟩
  · refine ⟨own, peer, isOwn, isPeer, secret, ?_, agreed⟩
    rw [isSecret]
    decide +kernel
  · exact absurd zero (by decide)

end KeyPair

end Countersign
