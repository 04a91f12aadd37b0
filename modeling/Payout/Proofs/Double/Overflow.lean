import Payout.Proofs.Double.Sums

/-!
# Sums that overflow

A left sum of nonnegative doubles may leave the finite range. It then becomes the positive
infinity and stays there, since an infinity absorbs every finite term: such a sum is always a
nonnegative double or the positive infinity (`NonnegOrInf.sumFloats`), never NaN and never
negative. The positive infinity lies above every finite double, and stays the positive
infinity when a finite double is taken from it or its magnitude is taken. So a comparison of
such a sum with a finite bound goes the way the sum's model says, whether or not it overflowed.
-/

open Float.Model

namespace Payout.Double

/-- A double that is a nonnegative number or the positive infinity. -/
def NonnegOrInf (x : Float) : Prop :=
  (x.isFinite = true ∧ 0 ≤ value x) ∨ x.toModel.unpack = .infinity .positive

section Infinity

variable {x y : Float} (hx : x.toModel.unpack = .infinity .positive)
include hx

/-- The positive infinity is not finite. -/
theorem isFinite_eq_false_of_infinity :
  x.isFinite = false
  := by
  change x.toModel.unpack.isFinite = false
  rw [hx]
  rfl

/-- The positive infinity absorbs a finite term. -/
theorem add_of_infinity (hy : y.isFinite = true) :
  (x + y).toModel.unpack = .infinity .positive
  := by
  change (Float.Model.pack (UnpackedFloat.add Format.binary64 x.toModel.unpack
    y.toModel.unpack)).unpack = _
  change y.toModel.unpack.isFinite = true at hy
  rw [hx]
  cases h : y.toModel.unpack <;> rw [h] at hy <;> simp [UnpackedFloat.isFinite] at hy <;>
    simp [UnpackedFloat.add, unpack_pack_infinity]

/-- Taking a finite double from the positive infinity leaves it. -/
theorem sub_of_infinity (hy : y.isFinite = true) :
  (x - y).toModel.unpack = .infinity .positive
  := by
  change (Float.Model.pack (UnpackedFloat.sub Format.binary64 x.toModel.unpack
    y.toModel.unpack)).unpack = _
  change y.toModel.unpack.isFinite = true at hy
  rw [sub_eq_add_unpackedNeg, hx]
  cases h : y.toModel.unpack <;> rw [h] at hy <;> simp [UnpackedFloat.isFinite] at hy <;>
    simp [UnpackedFloat.neg, UnpackedFloat.add, unpack_pack_infinity]

/-- The magnitude of the positive infinity is itself. -/
theorem abs_of_infinity :
  x.abs.toModel.unpack = .infinity .positive
  := by
  change (Float.Model.pack x.toModel.unpack.abs).unpack = _
  rw [hx]
  exact unpack_pack_infinity _

/-- Every finite double lies below the positive infinity. -/
theorem lt_of_infinity (hy : y.isFinite = true) :
  y < x
  := by
  change y.toModel.unpack.isFinite = true at hy
  show decide (y.toModel.unpack.lt x.toModel.unpack = true) = true
  rw [hx]
  cases h : y.toModel.unpack <;> rw [h] at hy <;> simp [UnpackedFloat.isFinite] at hy <;>
    simp [UnpackedFloat.lt, UnpackedFloat.compare]

/-- The positive infinity lies above every finite double. -/
theorem not_le_of_infinity (hy : y.isFinite = true) :
  ¬x ≤ y
  := by
  change y.toModel.unpack.isFinite = true at hy
  show ¬decide (x.toModel.unpack.le y.toModel.unpack = true) = true
  rw [hx]
  cases h : y.toModel.unpack <;> rw [h] at hy <;> simp [UnpackedFloat.isFinite] at hy <;>
    simp [UnpackedFloat.le, UnpackedFloat.compare]

end Infinity

/-- Adding a nonnegative double to a nonnegative double or the positive infinity gives one
of these again: a finite sum is its rounded exact sum, an overflow of a nonnegative sum is the
positive infinity, and the infinity absorbs the term. -/
theorem NonnegOrInf.add {x y : Float} (hx : NonnegOrInf x) (hy : y.isFinite = true)
    (hy0 : 0 ≤ value y) :
  NonnegOrInf (x + y)
  := by
  rcases hx with ⟨hfin, hx0⟩ | hinf
  · have hd : Delivers (x + y).toModel.unpack (value x + value y) := delivers_add hfin hy
    by_cases hbound : |roundDouble (value x + value y)| < 2 ^ (1024 : ℤ)
    · obtain ⟨hfin', hval⟩ := hd.finite hbound
      exact .inl ⟨hfin', by rw [value, hval]; exact roundDouble_nonneg (by linarith)⟩
    · rw [Delivers, if_neg hbound, if_neg (by linarith)] at hd
      exact .inr hd
  · exact .inr (add_of_infinity hinf hy)

/-- A left sum of nonnegative doubles from a nonnegative start is a nonnegative double or the
positive infinity. -/
theorem NonnegOrInf.foldl_add {a : Float} {xs : List Float} (ha : NonnegOrInf a)
    (hxs : ∀ x ∈ xs, x.isFinite = true ∧ 0 ≤ value x) :
  NonnegOrInf (xs.foldl (· + ·) a)
  := by
  induction xs generalizing a with
  | nil => exact ha
  | cons x xs ih =>
    obtain ⟨hx, hx0⟩ := hxs x (List.mem_cons_self ..)
    exact ih (ha.add hx hx0) fun y hy => hxs y (List.mem_cons_of_mem _ hy)

/-- `sumFloats` of nonnegative doubles is a nonnegative double or the positive infinity. -/
theorem NonnegOrInf.sumFloats {xs : List Float} (hxs : ∀ x ∈ xs, x.isFinite = true ∧ 0 ≤ value x) :
  NonnegOrInf (Payout.sumFloats xs)
  := NonnegOrInf.foldl_add (.inl ⟨isFinite_negZero, value_negZero.ge⟩) hxs

end Payout.Double
