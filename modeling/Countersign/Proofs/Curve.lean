import Countersign.Proofs.Primality
import Mathlib.AlgebraicGeometry.EllipticCurve.Affine.Point
import Mathlib.FieldTheory.Finite.Basic
import Mathlib.GroupTheory.OrderOfElement

/-!
The points of the curve as a group.

`Means` relates points with coordinates to the points of the Weierstrass curve over the prime field, whose sum is known
to be that of a group. Sums and multiples keep the relation (`Means.add`, `Means.multiple`), and it determines the point
(`Means.unique`). So it does not matter in which order two scalars multiply the base point (`Point.multiple_comm`), and
no scalar between 0 and `order` makes it vanish (`Point.multiple_base_ne_infinity`).
-/

namespace Countersign.P256

instance : Fact prime.Prime := ⟨prime_prime⟩

/-! ### The field -/

/-- A coordinate as an element of the field. -/
def element (x : Coordinate) : ZMod prime := (x.val : ZMod prime)

section

variable {x y u v : Coordinate}

theorem element_injective : Function.Injective element := by
  intro x y same
  have residues := (ZMod.natCast_eq_natCast_iff' x.val y.val prime).mp same
  rw [Nat.mod_eq_of_lt x.isLt, Nat.mod_eq_of_lt y.isLt] at residues
  exact Fin.ext residues

theorem element_add (x y : Coordinate) : element (x + y) = element x + element y := by
  unfold element
  rw [Fin.val_add, ZMod.natCast_mod, Nat.cast_add]

theorem element_mul (x y : Coordinate) : element (x * y) = element x * element y := by
  unfold element
  rw [Fin.val_mul, ZMod.natCast_mod, Nat.cast_mul]

theorem element_sub (x y : Coordinate) : element (x - y) = element x - element y := by
  unfold element
  rw [Fin.sub_def, ZMod.natCast_mod, Nat.cast_add, Nat.cast_sub y.isLt.le, ZMod.natCast_self, zero_sub, sub_eq_add_neg,
    add_comm]

theorem element_zero : element 0 = 0 := Nat.cast_zero

theorem element_ofNat {n : Nat} (small : n < prime) : element (Fin.ofNat prime n) = (n : ZMod prime) :=
  congrArg Nat.cast (Nat.mod_eq_of_lt small)

theorem element_three : element 3 = 3 := (element_ofNat (by decide)).trans Nat.cast_ofNat

theorem element_eq_zero : element x = 0 ↔ x = 0 := by
  rw [← element_zero]
  exact element_injective.eq_iff

theorem element_power (x : Coordinate) {n : Nat} (small : n < 2 ^ 256) : element (power x n) = element x ^ n := by
  refine foldl_bits (fun k y => element y = element x ^ k) ?_ ?_ small
  · rw [pow_zero]
    exact Nat.cast_one
  · intro k y set isPower
    have squared : element (y * y) = element x ^ (2 * k) := by rw [element_mul, isPower, ← pow_add, Nat.two_mul]
    cases set with
    | false => exact squared
    | true =>
      show element (y * y * x) = element x ^ (2 * k + 1)
      rw [element_mul, squared, pow_succ]

theorem element_inverse (x : Coordinate) : element (inverse x) = (element x)⁻¹ := by
  unfold inverse
  rw [element_power x (by decide)]
  by_cases zero : element x = 0
  · rw [zero, inv_zero, zero_pow (by decide)]
  · refine eq_inv_of_mul_eq_one_left ?_
    rw [← pow_succ, ← ZMod.pow_card_sub_one_eq_one zero]
    rfl

end

/-! ### The group -/

/-- The curve over the field. -/
def curve : WeierstrassCurve.Affine (ZMod prime) := ⟨0, 0, 0, -3, element constant⟩

variable {x y u v : Coordinate}

theorem onCurve_iff : OnCurve x y ↔ curve.Equation (element x) (element y) := by
  have equation : curve.Equation (element x) (element y) ↔
      element y ^ 2 = element x ^ 3 - 3 * element x + element constant := by
    rw [WeierstrassCurve.Affine.equation_iff]
    simp [curve, sub_eq_add_neg]
  rw [equation, OnCurve, ← element_injective.eq_iff, element_add, element_sub, element_mul, element_mul, element_mul,
    element_mul, element_three, pow_two, pow_three']

theorem curve_Δ_ne_zero : curve.Δ ≠ 0 := by
  have value : curve.Δ = 1728 - 432 * element constant ^ 2 := by
    simp only [WeierstrassCurve.Δ, WeierstrassCurve.b₂, WeierstrassCurve.b₄, WeierstrassCurve.b₆, WeierstrassCurve.b₈,
      curve]
    ring
  have numbers : element (Fin.ofNat prime 1728) = 1728 ∧ element (Fin.ofNat prime 432) = 432 :=
    ⟨(element_ofNat (by decide)).trans Nat.cast_ofNat, (element_ofNat (by decide)).trans Nat.cast_ofNat⟩
  rw [value, ← numbers.1, ← numbers.2, pow_two, ← element_mul, ← element_mul, ← element_sub, ne_eq, element_eq_zero]
  decide

theorem nonsingular_iff : curve.Nonsingular (element x) (element y) ↔ OnCurve x y := by
  rw [onCurve_iff, WeierstrassCurve.Affine.equation_iff_nonsingular_of_Δ_ne_zero curve_Δ_ne_zero]

/-- Which point of the group a point with coordinates is. -/
def Means : Point → curve.Point → Prop
  | .infinity, g => g = 0
  | .affine x y, g => ∃ isPoint, g = .some (element x) (element y) isPoint

namespace Means

variable {p q : Point} {g h : curve.Point}

theorem of_onCurve (onCurve : OnCurve x y) : ∃ g, Means (.affine x y) g :=
  ⟨_, nonsingular_iff.mpr onCurve, rfl⟩

theorem onCurve (means : Means (.affine x y) g) : OnCurve x y := nonsingular_iff.mp means.1

theorem unique (means : Means p g) (meansToo : Means q g) : p = q := by
  cases p with
  | infinity =>
    cases q with
    | infinity => rfl
    | affine u v =>
      obtain ⟨_, isPoint⟩ := meansToo
      exact absurd (isPoint.symm.trans means) (WeierstrassCurve.Affine.Point.some_ne_zero _)
  | affine x y =>
    obtain ⟨_, rfl⟩ := means
    cases q with
    | infinity => exact absurd meansToo (WeierstrassCurve.Affine.Point.some_ne_zero _)
    | affine u v =>
      obtain ⟨_, isPoint⟩ := meansToo
      obtain ⟨first, second⟩ := WeierstrassCurve.Affine.Point.some.inj isPoint
      rw [element_injective first, element_injective second]

theorem of_some {a b : ZMod prime} {isPoint : curve.Nonsingular a b} (first : a = element x) (second : b = element y) :
    Means (.affine x y) (.some a b isPoint) := by
  subst first second
  exact ⟨isPoint, rfl⟩

/-- The third point of a line is the sum, if its slope is the one of the chord or the tangent. -/
theorem reflect {slope : Coordinate} {isPoint : curve.Nonsingular (element x) (element y)}
    {isPointToo : curve.Nonsingular (element u) (element v)}
    (apart : ¬ (element x = element u ∧ element y = curve.negY (element u) (element v)))
    (isSlope : element slope = curve.slope (element x) (element u) (element y) (element v)) :
    Means (Point.reflect slope x y u) (.some _ _ isPoint + .some _ _ isPointToo) := by
  rw [WeierstrassCurve.Affine.Point.add_some apart]
  have first : curve.addX (element x) (element u) (element slope) = element (slope * slope - x - u) := by
    rw [element_sub, element_sub, element_mul]
    simp [WeierstrassCurve.Affine.addX, curve, pow_two]
  refine of_some ?_ ?_
  · rw [← isSlope, first]
  · rw [← isSlope, WeierstrassCurve.Affine.addY, WeierstrassCurve.Affine.negAddY, first, element_sub (slope * _),
      element_mul slope, element_sub x]
    simp only [WeierstrassCurve.Affine.negY, curve]
    ring

theorem double (means : Means p g) : Means p.double (g + g) := by
  cases p with
  | infinity =>
    obtain rfl : g = 0 := means
    exact add_zero 0
  | affine x y =>
    obtain ⟨isPoint, rfl⟩ := means
    have opposite : element y = curve.negY (element x) (element y) ↔ y + y = 0 := by
      rw [← element_eq_zero, element_add, ← eq_neg_iff_add_eq_zero]
      simp [WeierstrassCurve.Affine.negY, curve]
    unfold Point.double
    dsimp only
    by_cases flat : y + y = 0
    · rw [if_pos flat]
      exact WeierstrassCurve.Affine.Point.add_self_of_Y_eq (opposite.mpr flat)
    · rw [if_neg flat]
      have steep : element y ≠ curve.negY (element x) (element y) := fun same => flat (opposite.mp same)
      have isSlope : element ((3 * (x * x) - 3) * inverse (y + y)) =
          curve.slope (element x) (element x) (element y) (element y) := by
        rw [WeierstrassCurve.Affine.slope_of_Y_ne rfl steep, element_mul, element_inverse, element_sub, element_mul,
          element_mul, element_add, element_three]
        simp only [WeierstrassCurve.Affine.negY, curve]
        rw [div_eq_mul_inv, show element y - (-element y - 0 * element x - 0) = element y + element y by ring]
        ring
      exact reflect (fun same => steep same.2) isSlope

theorem add (means : Means p g) (meansToo : Means q h) : Means (p.add q) (g + h) := by
  cases p with
  | infinity =>
    obtain rfl : g = 0 := means
    rw [zero_add]
    exact meansToo
  | affine x y =>
    cases q with
    | infinity =>
      obtain rfl : h = 0 := meansToo
      rw [add_zero]
      exact means
    | affine u v =>
      unfold Point.add
      dsimp only
      by_cases column : x = u
      · rw [if_pos column]
        by_cases same : y = v
        · rw [if_pos same]
          subst column same
          obtain ⟨_, rfl⟩ := means
          obtain ⟨_, rfl⟩ := meansToo
          exact double ⟨_, rfl⟩
        · rw [if_neg same]
          obtain ⟨isPoint, rfl⟩ := means
          obtain ⟨isPointToo, rfl⟩ := meansToo
          have columns : element x = element u := congrArg element column
          have rows := WeierstrassCurve.Affine.Y_eq_of_X_eq isPoint.1 isPointToo.1 columns
          exact WeierstrassCurve.Affine.Point.add_of_Y_eq columns
            (rows.resolve_left fun rows => same (element_injective rows))
      · rw [if_neg column]
        obtain ⟨isPoint, rfl⟩ := means
        obtain ⟨isPointToo, rfl⟩ := meansToo
        have columns : element x ≠ element u := fun same => column (element_injective same)
        refine reflect (fun same => columns same.1) ?_
        rw [WeierstrassCurve.Affine.slope_of_X_ne columns, element_mul, element_inverse, element_sub, element_sub,
          div_eq_mul_inv]

/-- Doubling and adding, as the bits of a scalar tell, make the multiple. -/
theorem multiple (means : Means p g) {n : Nat} (small : n < 2 ^ 256) : Means (Point.multiple n p) (n • g) := by
  refine foldl_bits (fun k q => Means q (k • g)) ?_ ?_ small
  · exact zero_nsmul g
  · intro k q set made
    have doubled : Means q.double ((2 * k) • g) := by
      rw [Nat.two_mul, add_nsmul]
      exact made.double
    cases set with
    | false => exact doubled
    | true =>
      show Means (q.double.add p) ((2 * k + 1) • g)
      rw [add_nsmul, one_nsmul]
      exact doubled.add means

end Means

namespace Point

theorem order_lt : order < 2 ^ 256 := by decide

theorem base_means : ∃ g, Means base g := Means.of_onCurve (by decide +kernel)

/-- Two scalars multiply a point in either order. -/
theorem multiple_comm {p : Point} {g : curve.Point} (means : Means p g) {m n : Nat} (small : m < 2 ^ 256)
    (smallToo : n < 2 ^ 256) : multiple m (multiple n p) = multiple n (multiple m p) := by
  refine Means.unique ((means.multiple smallToo).multiple small) ?_
  rw [← mul_nsmul, mul_comm, mul_nsmul]
  exact (means.multiple small).multiple smallToo

theorem nsmul_eq_zero {p : Point} {g : curve.Point} (means : Means p g) {n : Nat} (small : n < 2 ^ 256) :
    n • g = 0 ↔ multiple n p = infinity := by
  have made := means.multiple small
  refine ⟨fun zero => ?_, fun vanishes => ?_⟩
  · exact made.unique zero
  · rw [vanishes] at made
    exact made

theorem addOrderOf_base {g : curve.Point} (means : Means base g) : addOrderOf g = order := by
  have : Fact order.Prime := ⟨order_prime⟩
  have vanishes : multiple order base = infinity := by decide +kernel
  refine addOrderOf_eq_prime ((nsmul_eq_zero means order_lt).mpr vanishes) ?_
  rintro rfl
  have same : base = infinity := means.unique rfl
  simp [base] at same

/-- A scalar does not make the base point vanish. -/
theorem multiple_base_ne_infinity {n : Nat} (positive : 0 < n) (small : n < order) : multiple n base ≠ infinity := by
  intro vanishes
  obtain ⟨g, means⟩ := base_means
  have zero := (nsmul_eq_zero means (Nat.lt_trans small order_lt)).mpr vanishes
  have divides := addOrderOf_dvd_of_nsmul_eq_zero zero
  rw [addOrderOf_base means] at divides
  exact absurd (Nat.le_of_dvd positive divides) (Nat.not_le.mpr small)

end Point

end Countersign.P256
