import Payout.Proofs.Double.Overflow
import Payout.Proofs.Double.Whole
import Payout.Domain.Validation

/-!
# Taking a term out of a sum

The doubles a left sum of nonnegative terms passes through, the nonnegative numbers and the
positive infinity (`NonnegOrInf`), compare as their values do, with the infinity above them
all. On them:

* adding a nonnegative term never lowers a partial sum (`NonnegOrInf.le_add`);
* adding the same term to two ordered partial sums keeps them ordered
  (`NonnegOrInf.add_le_add`), since rounding is monotone and an overflow only goes up to the
  infinity;
* so a left sum is monotone in where it starts (`NonnegOrInf.foldl_add_le`).

Taking any one term out of a sum of nonnegative doubles therefore never raises it
(`sumFloats_eraseIdx_le`), although every partial sum after the term rounds differently. For
the rows of a distribution this is `totalPercentage_eraseIdx_le`.
-/

open Float.Model

namespace Payout.Double

variable {x y z : Float}

/-! ### The order of partial sums -/

/-- A finite double at least zero has a nonnegative value, negative zero included. -/
theorem value_nonneg_of_le (hx : x.isFinite = true) (h : 0.0 ≤ x) :
  0 ≤ value x
  := by
  rwa [le_iff_value_le isFinite_zero hx, value_zero] at h

/-- The positive infinity lies above every nonnegative double, and above itself. -/
theorem NonnegOrInf.le_of_infinity (hx : NonnegOrInf x) (hy : y.toModel.unpack = .infinity .positive) :
  x ≤ y
  := by
  show decide (x.toModel.unpack.le y.toModel.unpack = true) = true
  rw [hy]
  rcases hx with ⟨hfin, -⟩ | hinf
  · change x.toModel.unpack.isFinite = true at hfin
    cases h : x.toModel.unpack <;> rw [h] at hfin <;> simp [UnpackedFloat.isFinite] at hfin <;>
      simp [UnpackedFloat.le, UnpackedFloat.compare]
  · rw [hinf]
    rfl

theorem NonnegOrInf.le_refl (hx : NonnegOrInf x) :
  x ≤ x
  := by
  rcases hx with ⟨hfin, -⟩ | hinf
  · exact (le_iff_value_le hfin hfin).mpr le_rfl
  · exact NonnegOrInf.le_of_infinity (.inr hinf) hinf

/-- Adding a nonnegative double never lowers a nonnegative double or the positive infinity. Rounding
a larger exact sum does not go below the start. -/
theorem NonnegOrInf.le_add (hx : NonnegOrInf x) (hy : y.isFinite = true) (hy0 : 0 ≤ value y) :
  x ≤ x + y
  := by
  rcases hx.add hy hy0 with ⟨hsum, -⟩ | hinf
  · obtain ⟨hfin, -⟩ := isFinite_of_isFinite_add hsum
    rw [le_iff_value_le hfin hsum, value_add hfin hy hsum]
    exact le_roundDouble_add (roundDouble_value x) hy0
  · exact hx.le_of_infinity hinf

/-- Adding one nonnegative double to two ordered ones keeps them ordered. When the larger sum is
finite, so are both starts, and the smaller exact sum rounds below the larger rounded sum, so it
does not overflow. -/
theorem NonnegOrInf.add_le_add (hx : NonnegOrInf x) (hz : NonnegOrInf z) (hxz : x ≤ z)
    (hy : y.isFinite = true) (hy0 : 0 ≤ value y) :
  x + y ≤ z + y
  := by
  rcases hz.add hy hy0 with ⟨hzy, -⟩ | hinf
  · obtain ⟨hzfin, -⟩ := isFinite_of_isFinite_add hzy
    obtain ⟨hxfin, hx0⟩ : x.isFinite = true ∧ 0 ≤ value x := by
      rcases hx with hfin | hxinf
      · exact hfin
      · exact absurd hxz (not_le_of_infinity hxinf hzfin)
    have hle : value x ≤ value z := (le_iff_value_le hxfin hzfin).mp hxz
    have hmono : roundDouble (value x + value y) ≤ roundDouble (value z + value y) :=
      roundDouble_mono (by linarith)
    have hbound : |roundDouble (value x + value y)| < 2 ^ (1024 : ℤ) := by
      rw [abs_of_nonneg (roundDouble_nonneg (by linarith))]
      exact hmono.trans_lt ((le_abs_self _).trans_lt ((delivers_add hzfin hy).bound hzy))
    have hxy : (x + y).isFinite = true := isFinite_add hxfin hy hbound
    rw [le_iff_value_le hxy hzy, value_add hxfin hy hxy, value_add hzfin hy hzy]
    exact hmono
  · exact (hx.add hy hy0).le_of_infinity hinf

/-- A left sum of nonnegative doubles is monotone in where it starts. The induction runs over
the terms and carries the order of the two partial sums, both nonnegative or infinite. -/
theorem NonnegOrInf.foldl_add_le {a b : Float} {xs : List Float} (ha : NonnegOrInf a)
    (hb : NonnegOrInf b) (hab : a ≤ b) (hxs : ∀ x ∈ xs, x.isFinite = true ∧ 0 ≤ value x) :
  xs.foldl (· + ·) a ≤ xs.foldl (· + ·) b
  := by
  induction xs generalizing a b with
  | nil => exact hab
  | cons x xs ih =>
    obtain ⟨hx, hx0⟩ := hxs x (List.mem_cons_self ..)
    exact ih (ha.add hx hx0) (hb.add hx hx0) (ha.add_le_add hb hab hx hx0)
      fun y hy => hxs y (List.mem_cons_of_mem _ hy)

/-! ### Taking a term out -/

/-- A sum over two lists runs the second from the sum of the first. -/
theorem sumFloats_append (xs ys : List Float) :
  sumFloats (xs ++ ys) = ys.foldl (· + ·) (sumFloats xs)
  := List.foldl_append

/-- Taking one term out of a sum of nonnegative doubles never raises the sum. The terms before
it are summed alike; at its place the full sum only grows, and the terms after it keep the two
partial sums ordered. An index past the end takes nothing out. -/
theorem sumFloats_eraseIdx_le {xs : List Float} (hxs : ∀ x ∈ xs, x.isFinite = true ∧ 0 ≤ value x)
    (k : ℕ) :
  sumFloats (xs.eraseIdx k) ≤ sumFloats xs
  := by
  have hpre : NonnegOrInf (sumFloats (xs.take k)) :=
    NonnegOrInf.sumFloats fun x hx => hxs x (List.mem_of_mem_take hx)
  have hpost : ∀ x ∈ xs.drop k, x.isFinite = true ∧ 0 ≤ value x :=
    fun x hx => hxs x (List.mem_of_mem_drop hx)
  rw [List.eraseIdx_eq_take_drop_succ, ← List.tail_drop]
  conv_rhs => rw [← List.take_append_drop k xs]
  rw [sumFloats_append, sumFloats_append]
  cases hdrop : xs.drop k with
  | nil => exact hpre.le_refl
  | cons x rest =>
    rw [hdrop] at hpost
    obtain ⟨hx, hx0⟩ := hpost x (List.mem_cons_self ..)
    exact NonnegOrInf.foldl_add_le hpre (hpre.add hx hx0) (hpre.le_add hx hx0)
      fun y hy => hpost y (List.mem_cons_of_mem _ hy)

end Payout.Double

namespace Payout

open Double

/-- Removing one row of a distribution, whichever it is, never raises the sum of the
percentages, as long as they are finite and nonnegative. -/
theorem totalPercentage_eraseIdx_le (rows : List Detail) (k : ℕ)
    (hrows : ∀ r ∈ rows, r.percentage.isFinite = true ∧ 0.0 ≤ r.percentage) :
  totalPercentage (rows.eraseIdx k) ≤ totalPercentage rows
  := by
  unfold totalPercentage
  rw [← List.eraseIdx_map]
  apply sumFloats_eraseIdx_le
  intro x hx
  obtain ⟨r, hr, rfl⟩ := List.mem_map.mp hx
  obtain ⟨hfin, hnonneg⟩ := hrows r hr
  exact ⟨hfin, value_nonneg_of_le hfin hnonneg⟩

/-- Three rows whose sum rounds at every step: `0.1 + 0.2` is already above `0.3`. -/
def roundingRows : List Detail :=
  [⟨some 1, 1, 1, 0.1, 10⟩, ⟨some 2, 1, 2, 0.2, 20⟩, ⟨some 3, 1, 3, 0.3, 30⟩]

theorem totalPercentage_eraseIdx_le_roundingRows :
  (∀ r ∈ roundingRows, r.percentage.isFinite = true ∧ 0.0 ≤ r.percentage)
    ∧ totalPercentage (roundingRows.eraseIdx 0) ≤ totalPercentage roundingRows
  := by
  have hrows : ∀ r ∈ roundingRows, r.percentage.isFinite = true ∧ 0.0 ≤ r.percentage := by
    decide +kernel
  exact ⟨hrows, totalPercentage_eraseIdx_le roundingRows 0 hrows⟩

end Payout
