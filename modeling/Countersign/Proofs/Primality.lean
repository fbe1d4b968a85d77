import Countersign.P256
import Mathlib.Data.List.Prime
import Mathlib.NumberTheory.LucasPrimality
import Mathlib.Tactic.NormNum.Prime

/-!
The primes of the curve.

A number is prime if some residue of it has the order that only a prime allows (`lucas_primality`). That takes the prime
factors of the number before it, so a table goes from small primes to `P256.prime` and `P256.order`, and each of its
entries has factors that stand before it (`Witness.all_prime`).
-/

namespace Countersign.P256

/-- What goes through the bits of a number, one after the other, makes the number. -/
theorem foldl_bits {α : Type} (made : Nat → α → Prop) {step : α → Bool → α} {start : α} (first : made 0 start)
    (next : ∀ k a set, made k a → made (2 * k + set.toNat) (step a set)) {n : Nat} (small : n < 2 ^ 256) :
    made n ((bits n).foldl step start) := by
  have prefixes (count : Nat) (few : count ≤ 256) :
      made (n / 2 ^ (256 - count)) (((List.range count).map fun i => n.testBit (255 - i)).foldl step start) := by
    induction count with
    | zero =>
      rw [Nat.sub_zero, Nat.div_eq_of_lt small]
      exact first
    | succ count ih =>
      have taken := next _ _ (n.testBit (255 - count)) (ih (by omega))
      have halves : n / 2 ^ (256 - (count + 1)) = 2 * (n / 2 ^ (256 - count)) + (n.testBit (255 - count)).toNat := by
        rw [show 256 - count = 255 - count + 1 by omega, show 256 - (count + 1) = 255 - count by omega,
          Nat.pow_succ, ← Nat.div_div_eq_div_mul, Nat.toNat_testBit]
        omega
      rw [halves, List.range_succ, List.map_append, List.foldl_append]
      exact taken
  have all := prefixes 256 (Nat.le_refl 256)
  rwa [Nat.sub_self, Nat.pow_zero, Nat.div_one] at all

/-- `a` to the power of `n` modulo `m`, for `n` below `2 ^ 256`. -/
def powerModulo (m a n : Nat) : Nat :=
  (bits n).foldl (fun y set => if set then y * y * a % m else y * y % m) (1 % m)

theorem powerModulo_eq (m a : Nat) {n : Nat} (small : n < 2 ^ 256) : powerModulo m a n = a ^ n % m := by
  refine foldl_bits (fun k y => y = a ^ k % m) rfl ?_ small
  rintro k _ set rfl
  have squared : a ^ k % m * (a ^ k % m) % m = a ^ (2 * k) % m := by
    rw [← Nat.mul_mod, ← Nat.pow_add, Nat.two_mul]
  cases set with
  | false => exact squared
  | true =>
    show a ^ k % m * (a ^ k % m) * a % m = a ^ (2 * k + 1) % m
    rw [Nat.pow_succ, Nat.mul_mod, squared, ← Nat.mul_mod]

/-- A number, a residue of the greatest order, and the prime factors of the number before it. -/
structure Witness where
  number : Nat
  residue : Nat
  factors : List Nat

namespace Witness

/-- Whether the residue has that order, if the factors are prime. -/
def Holds (w : Witness) : Prop :=
  2 ≤ w.number ∧ w.number < 2 ^ 256 ∧ w.factors.prod = w.number - 1 ∧
    powerModulo w.number w.residue (w.number - 1) = 1 ∧
    ∀ q ∈ w.factors, powerModulo w.number w.residue ((w.number - 1) / q) ≠ 1

instance (w : Witness) : Decidable w.Holds :=
  inferInstanceAs (Decidable (_ ∧ _ ∧ _ ∧ _ ∧ ∀ q ∈ w.factors, _))

theorem Holds.prime {w : Witness} (holds : w.Holds) (primes : ∀ q ∈ w.factors, q.Prime) : w.number.Prime := by
  obtain ⟨large, small, product, whole, proper⟩ := holds
  have power (n : Nat) (less : n ≤ w.number - 1) :
      ((w.residue : ZMod w.number) ^ n = 1) ↔ powerModulo w.number w.residue n = 1 := by
    rw [powerModulo_eq _ _ (by omega), ← Nat.cast_pow, ← Nat.cast_one, ZMod.natCast_eq_natCast_iff',
      Nat.one_mod_eq_one.mpr (by omega)]
  refine lucas_primality w.number (w.residue : ZMod w.number) ((power _ (Nat.le_refl _)).mpr whole) ?_
  intro q isPrime divides
  rw [← product] at divides
  obtain ⟨factor, member, within⟩ := (Prime.dvd_prod_iff isPrime.prime).mp divides
  obtain rfl := (Nat.prime_dvd_prime_iff_eq isPrime (primes factor member)).mp within
  exact fun one => proper q member ((power _ (Nat.div_le_self ..)).mp one)

/-- Whether the factors of each entry are known to be prime, or stand before it. -/
def Chain : List Nat → List Witness → Prop
  | _, [] => True
  | known, w :: rest => (∀ q ∈ w.factors, q ∈ known) ∧ w.Holds ∧ Chain (w.number :: known) rest

instance decidableChain : (known : List Nat) → (table : List Witness) → Decidable (Chain known table)
  | _, [] => isTrue trivial
  | known, w :: rest =>
    have := decidableChain (w.number :: known) rest
    inferInstanceAs (Decidable ((∀ q ∈ w.factors, q ∈ known) ∧ w.Holds ∧ Chain (w.number :: known) rest))

theorem all_prime {known : List Nat} {table : List Witness} (chain : Chain known table)
    (primes : ∀ q ∈ known, q.Prime) : ∀ w ∈ table, w.number.Prime := by
  induction table generalizing known with
  | nil => nofun
  | cons w rest ih =>
    obtain ⟨among, holds, later⟩ := chain
    have isPrime := holds.prime fun q member => primes q (among q member)
    intro v member
    rcases List.mem_cons.mp member with rfl | member
    · exact isPrime
    · refine ih later ?_ v member
      intro q isKnown
      rcases List.mem_cons.mp isKnown with rfl | isKnown
      · exact isPrime
      · exact primes q isKnown

end Witness

/-- The small primes at which the table starts. -/
def smallPrimes : List Nat :=
  [2, 3, 5, 7, 11, 17, 23, 29, 41, 43, 53, 71, 107, 127, 131, 173, 197, 257, 311, 373, 641, 1297, 1531, 2411, 3023,
    3407, 3677, 3769, 16879, 17449, 18169, 38189, 65537, 78283, 126241, 155317, 490463, 704251, 3969899, 6700417, 9350987]

theorem smallPrimes_prime : ∀ q ∈ smallPrimes, q.Prime := by
  unfold smallPrimes
  simp only [List.mem_cons, List.not_mem_nil, or_false, forall_eq_or_imp, forall_eq]
  norm_num

/-- From small primes to the size of the field. -/
def fieldTable : List Witness :=
  [⟨204061199, 11, [2, 11, 23, 107, 3769]⟩,
    ⟨34282281433, 17, [2, 2, 2, 3, 7, 204061199]⟩,
    ⟨66417393611, 6, [2, 5, 53, 173, 197, 3677]⟩,
    ⟨11290956913871, 13, [2, 5, 17, 66417393611]⟩,
    ⟨46076956964474543, 5, [2, 23, 18169, 78283, 704251]⟩,
    ⟨774023187263532362759620327192479577272145303, 3,
      [2, 3, 3, 2411, 34282281433, 11290956913871, 46076956964474543]⟩,
    ⟨835945042244614951780389953367877943453916927241, 11,
      [2, 2, 2, 3, 3, 3, 5, 774023187263532362759620327192479577272145303]⟩,
    ⟨prime, 6, [2, 3, 5, 5, 17, 257, 641, 1531, 65537, 490463, 6700417,
      835945042244614951780389953367877943453916927241]⟩]

/-- From small primes to the number of points. -/
def orderTable : List Witness :=
  [⟨187019741, 2, [2, 2, 5, 9350987]⟩,
    ⟨311245691, 2, [2, 5, 7, 17, 29, 29, 311]⟩,
    ⟨622491383, 5, [2, 311245691]⟩,
    ⟨1002328039319, 19, [2, 126241, 3969899]⟩,
    ⟨191039911, 3, [2, 3, 5, 41, 155317]⟩,
    ⟨208150935158385979, 2, [2, 3, 11, 43, 127, 3023, 191039911]⟩,
    ⟨2624747550333869278416773953, 7, [2, 2, 2, 2, 2, 2, 3, 3, 1297, 16879, 208150935158385979]⟩,
    ⟨order, 7, [2, 2, 2, 2, 3, 71, 131, 373, 3407, 17449, 38189, 187019741, 622491383, 1002328039319,
      2624747550333869278416773953]⟩]

theorem prime_prime : prime.Prime := by
  have chain : Witness.Chain smallPrimes fieldTable := by decide +kernel
  exact Witness.all_prime chain smallPrimes_prime _ (List.getLast_mem (List.cons_ne_nil _ _))

theorem order_prime : order.Prime := by
  have chain : Witness.Chain smallPrimes orderTable := by decide +kernel
  exact Witness.all_prime chain smallPrimes_prime _ (List.getLast_mem (List.cons_ne_nil _ _))

end Countersign.P256
