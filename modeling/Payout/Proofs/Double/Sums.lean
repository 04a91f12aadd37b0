import Mathlib.Algebra.Order.Ring.Pow
import Payout.Proofs.Double.Arithmetic

/-!
# Sums of doubles

`sumFloats` adds doubles from the left. Its rational model `roundedSum` rounds each partial sum
to a double; a finite sum of doubles is its model (`value_foldl_add`), and a sum of
nonnegative doubles is finite as soon as its model stays below `2 ^ 1024`
(`isFinite_foldl_add`). On the model, for nonnegative terms:

* the sum never decreases, and dropping terms never increases it (`roundedSum_le_of_sublist`);
* zeros change nothing (`roundedSum_filter_ne_zero`);
* whole numbers add exactly below `2 ^ 53` (`roundedSum_natCast`);
* the sum is within the factors `(1 ± 2 ^ -53) ^ n` of the exact sum of `n` terms
  (`roundedSum_le_mul_pow`, `mul_pow_le_roundedSum`);
* what each term adds to the sum falls short of the term by at most the sum over `2 ^ 53 - 1`
  (`sum_map_le_roundedSum`).
-/

namespace Payout.Double

/-- Adds rationals from the left to a start, rounding every partial sum to a double. -/
def roundedSum : ℚ → List ℚ → ℚ
  | s, [] => s
  | s, x :: xs => roundedSum (roundDouble (s + x)) xs

@[simp]
theorem roundedSum_nil (s : ℚ) :
  roundedSum s [] = s
  := rfl

@[simp]
theorem roundedSum_cons (s x : ℚ) (xs : List ℚ) :
  roundedSum s (x :: xs) = roundedSum (roundDouble (s + x)) xs
  := rfl

/-- A sum over two lists runs the second from where the first stopped. -/
theorem roundedSum_append (s : ℚ) (xs ys : List ℚ) :
  roundedSum s (xs ++ ys) = roundedSum (roundedSum s xs) ys
  := by
  induction xs generalizing s with
  | nil => rfl
  | cons x xs ih => exact ih _

/-! ### Finite sums are their model -/

/-- A finite left sum of doubles has finite terms and start, and rounds like its model. -/
theorem value_foldl_add {a : Float} {xs : List Float} (h : (xs.foldl (· + ·) a).isFinite = true) :
  a.isFinite = true ∧ (∀ x ∈ xs, x.isFinite = true) ∧
    value (xs.foldl (· + ·) a) = roundedSum (value a) (xs.map value)
  := by
  induction xs generalizing a with
  | nil => exact ⟨h, by simp, rfl⟩
  | cons x xs ih =>
    obtain ⟨hax, hxs, hval⟩ := ih h
    obtain ⟨ha, hx⟩ := isFinite_of_isFinite_add hax
    refine ⟨ha, ?_, ?_⟩
    · intro y hy
      rcases List.mem_cons.mp hy with rfl | hy
      · exact hx
      · exact hxs y hy
    · rw [List.foldl_cons, hval, value_add ha hx hax]
      rfl

/-! ### Nonnegative terms -/

section Nonneg

variable {s t : ℚ} {xs ys : List ℚ}

/-- Every partial sum is a double. -/
theorem roundDouble_roundedSum (hs : roundDouble s = s) :
  roundDouble (roundedSum s xs) = roundedSum s xs
  := by
  induction xs generalizing s with
  | nil => exact hs
  | cons x xs ih => exact ih (roundDouble_roundDouble _)

theorem roundedSum_mono (h : s ≤ t) :
  roundedSum s xs ≤ roundedSum t xs
  := by
  induction xs generalizing s t with
  | nil => exact h
  | cons x xs ih => exact ih (roundDouble_mono (by linarith))

/-- Adding a nonnegative term to a double never lowers it. -/
theorem le_roundDouble_add (hs : roundDouble s = s) {x : ℚ} (hx : 0 ≤ x) :
  s ≤ roundDouble (s + x)
  := by
  calc s = roundDouble s := hs.symm
    _ ≤ roundDouble (s + x) := roundDouble_mono (by linarith)

/-- Nonnegative terms never lower a sum that starts at a double. -/
theorem le_roundedSum (hs : roundDouble s = s) (hxs : ∀ x ∈ xs, 0 ≤ x) :
  s ≤ roundedSum s xs
  := by
  induction xs generalizing s with
  | nil => exact le_refl s
  | cons x xs ih =>
    have hx := hxs x (List.mem_cons_self ..)
    calc s ≤ roundDouble (s + x) := le_roundDouble_add hs hx
      _ ≤ _ := ih (roundDouble_roundDouble _) fun y hy => hxs y (List.mem_cons_of_mem _ hy)

/-- Dropping nonnegative terms, from a start no greater, never gives a greater sum. The
induction follows the sublist: a dropped term only raises the longer sum, and a kept term is
added to two ordered partial sums. -/
theorem roundedSum_le_of_sublist (hsub : xs.Sublist ys) (hys : ∀ y ∈ ys, 0 ≤ y) (h : s ≤ t)
    (ht : roundDouble t = t) :
  roundedSum s xs ≤ roundedSum t ys
  := by
  induction hsub generalizing s t with
  | slnil => exact h
  | cons y _ ih =>
    have hy := hys y (List.mem_cons_self ..)
    exact ih (fun z hz => hys z (List.mem_cons_of_mem _ hz))
      (h.trans (le_roundDouble_add ht hy)) (roundDouble_roundDouble _)
  | cons_cons y _ ih =>
    exact ih (fun z hz => hys z (List.mem_cons_of_mem _ hz)) (roundDouble_mono (by linarith))
      (roundDouble_roundDouble _)

/-- Zero terms change nothing. -/
theorem roundedSum_filter_ne_zero (hs : roundDouble s = s) :
  roundedSum s (xs.filter (· ≠ 0)) = roundedSum s xs
  := by
  induction xs generalizing s with
  | nil => rfl
  | cons x xs ih =>
    by_cases hx : x = 0
    · subst hx
      simp only [ne_eq, not_true_eq_false, decide_false, Bool.false_eq_true,
        not_false_eq_true, List.filter_cons_of_neg, roundedSum_cons, add_zero]
      rw [hs]
      exact ih hs
    · rw [List.filter_cons_of_pos (by simpa using hx), roundedSum_cons, roundedSum_cons]
      exact ih (roundDouble_roundDouble _)

end Nonneg

/-- A left sum of nonnegative doubles, from a nonnegative double, is finite when its model
stays below `2 ^ 1024`: every partial sum is at most the whole. -/
theorem isFinite_foldl_add {a : Float} {xs : List Float} (ha : a.isFinite = true)
    (ha0 : 0 ≤ value a) (hxs : ∀ x ∈ xs, x.isFinite = true ∧ 0 ≤ value x)
    (hb : roundedSum (value a) (xs.map value) < 2 ^ (1024 : ℤ)) :
  (xs.foldl (· + ·) a).isFinite = true
  := by
  induction xs generalizing a with
  | nil => exact ha
  | cons x xs ih =>
    obtain ⟨hx, hx0⟩ := hxs x (List.mem_cons_self ..)
    have hrest : ∀ y ∈ xs, y.isFinite = true ∧ 0 ≤ value y :=
      fun y hy => hxs y (List.mem_cons_of_mem _ hy)
    have hnonneg : 0 ≤ roundDouble (value a + value x) := roundDouble_nonneg (by linarith)
    have hpartial : roundDouble (value a + value x) ≤ roundedSum (value a) ((x :: xs).map value) :=
      le_roundedSum (roundDouble_roundDouble _) (by simpa using fun y hy => (hrest y hy).2)
    have hax : (a + x).isFinite = true := by
      apply isFinite_add ha hx
      rw [abs_of_nonneg hnonneg]
      exact hpartial.trans_lt hb
    have hval := value_add ha hx hax
    rw [List.foldl_cons]
    exact ih hax (by rw [hval]; exact hnonneg) hrest (by rwa [hval])

/-! ### `sumFloats` -/

/-- Negative zero, where `sumFloats` starts, is a finite double of value zero (one evaluation
by the kernel for both facts). -/
theorem negZero_exact :
  (-0.0 : Float).isFinite = true ∧ value (-0.0) = 0
  := by decide +kernel

theorem isFinite_negZero :
  (-0.0 : Float).isFinite = true
  := negZero_exact.1

theorem value_negZero :
  value (-0.0) = 0
  := negZero_exact.2

/-- A finite `sumFloats` has finite terms and is its model from zero. -/
theorem value_sumFloats {xs : List Float} (h : (sumFloats xs).isFinite = true) :
  (∀ x ∈ xs, x.isFinite = true) ∧ value (sumFloats xs) = roundedSum 0 (xs.map value)
  := by
  obtain ⟨-, hxs, hval⟩ := value_foldl_add h
  exact ⟨hxs, by rw [← value_negZero]; exact hval⟩

/-- `sumFloats` of nonnegative doubles is finite when its model stays below `2 ^ 1024`. -/
theorem isFinite_sumFloats {xs : List Float} (hxs : ∀ x ∈ xs, x.isFinite = true ∧ 0 ≤ value x)
    (hb : roundedSum 0 (xs.map value) < 2 ^ (1024 : ℤ)) :
  (sumFloats xs).isFinite = true
  := isFinite_foldl_add isFinite_negZero (by rw [value_negZero]) hxs (by rwa [value_negZero])

/-- One more term is one more addition at the end. -/
theorem sumFloats_append_singleton (xs : List Float) (x : Float) :
  sumFloats (xs ++ [x]) = sumFloats xs + x
  := by
  simp [sumFloats, List.foldl_append]

/-! ### Whole numbers -/

/-- Whole numbers add exactly while the sum stays below `2 ^ 53`. -/
theorem roundedSum_natCast (s : ℕ) (ns : List ℕ) (h : s + ns.sum < 2 ^ 53) :
  roundedSum s (ns.map (↑)) = ((s + ns.sum : ℕ) : ℚ)
  := by
  induction ns generalizing s with
  | nil => simp
  | cons n ns ih =>
    have hexact : roundDouble ((s : ℚ) + n) = ((s + n : ℕ) : ℚ) := by
      rw [← Nat.cast_add]
      exact roundDouble_natCast (by simp only [List.sum_cons] at h; omega)
    rw [List.map_cons, roundedSum_cons, hexact, ih _ (by simp only [List.sum_cons] at h; omega)]
    simp [Nat.add_assoc]

/-! ### Error bounds -/

section Bounds

variable {s : ℚ} {xs : List ℚ}

/-- The relative error of one rounding on the grid, from above. -/
theorem roundDouble_le_mul {y : ℚ} (hy : 0 ≤ y) (hg : OnGrid y) :
  roundDouble y ≤ y * (1 + 1 / 2 ^ 53)
  := by
  have h := abs_roundDouble_sub_le_of_onGrid hg
  rw [abs_of_nonneg hy] at h
  obtain ⟨-, hhi⟩ := abs_le.mp h
  linarith

/-- The relative error of one rounding on the grid, from below. -/
theorem mul_le_roundDouble {y : ℚ} (hy : 0 ≤ y) (hg : OnGrid y) :
  y * (1 - 1 / 2 ^ 53) ≤ roundDouble y
  := by
  have h := abs_roundDouble_sub_le_of_onGrid hg
  rw [abs_of_nonneg hy] at h
  obtain ⟨hlo, -⟩ := abs_le.mp h
  linarith

/-- A sum of `n` nonnegative terms on the grid is at most the exact sum times
`(1 + 2 ^ -53) ^ n`. -/
theorem roundedSum_le_mul_pow (hs : 0 ≤ s) (hsg : OnGrid s) (hxs : ∀ x ∈ xs, 0 ≤ x ∧ OnGrid x) :
  roundedSum s xs ≤ (s + xs.sum) * (1 + 1 / 2 ^ 53) ^ xs.length
  := by
  induction xs generalizing s with
  | nil => simp
  | cons x xs ih =>
    obtain ⟨hx, hxg⟩ := hxs x (List.mem_cons_self ..)
    have hrest : ∀ y ∈ xs, 0 ≤ y ∧ OnGrid y := fun y hy => hxs y (List.mem_cons_of_mem _ hy)
    have hsum : 0 ≤ xs.sum := List.sum_nonneg fun y hy => (hrest y hy).1
    have hstep := roundDouble_le_mul (by linarith) (hsg.add hxg)
    have hpow : (1 : ℚ) ≤ (1 + 1 / 2 ^ 53) ^ xs.length := one_le_pow₀ (by norm_num)
    calc roundedSum s (x :: xs)
        ≤ (roundDouble (s + x) + xs.sum) * (1 + 1 / 2 ^ 53) ^ xs.length :=
          ih (roundDouble_nonneg (by linarith)) (roundDouble_onGrid _) hrest
      _ ≤ ((s + x) * (1 + 1 / 2 ^ 53) + xs.sum * (1 + 1 / 2 ^ 53)) *
            (1 + 1 / 2 ^ 53) ^ xs.length := by
          gcongr
          nlinarith
      _ = (s + (x :: xs).sum) * (1 + 1 / 2 ^ 53) ^ (x :: xs).length := by
          simp only [List.sum_cons, List.length_cons, pow_succ]
          ring

/-- A sum of `n` nonnegative terms on the grid is at least the exact sum times
`(1 - 2 ^ -53) ^ n`. -/
theorem mul_pow_le_roundedSum (hs : 0 ≤ s) (hsg : OnGrid s) (hxs : ∀ x ∈ xs, 0 ≤ x ∧ OnGrid x) :
  (s + xs.sum) * (1 - 1 / 2 ^ 53) ^ xs.length ≤ roundedSum s xs
  := by
  induction xs generalizing s with
  | nil => simp
  | cons x xs ih =>
    obtain ⟨hx, hxg⟩ := hxs x (List.mem_cons_self ..)
    have hrest : ∀ y ∈ xs, 0 ≤ y ∧ OnGrid y := fun y hy => hxs y (List.mem_cons_of_mem _ hy)
    have hsum : 0 ≤ xs.sum := List.sum_nonneg fun y hy => (hrest y hy).1
    have hstep := mul_le_roundDouble (by linarith) (hsg.add hxg)
    have hpow : (0 : ℚ) ≤ (1 - 1 / 2 ^ 53) ^ xs.length := pow_nonneg (by norm_num) _
    calc (s + (x :: xs).sum) * (1 - 1 / 2 ^ 53) ^ (x :: xs).length
        = ((s + x) * (1 - 1 / 2 ^ 53) + xs.sum * (1 - 1 / 2 ^ 53)) *
            (1 - 1 / 2 ^ 53) ^ xs.length := by
          simp only [List.sum_cons, List.length_cons, pow_succ]
          ring
      _ ≤ (roundDouble (s + x) + xs.sum) * (1 - 1 / 2 ^ 53) ^ xs.length := by
          gcongr
          nlinarith
      _ ≤ roundedSum s (x :: xs) :=
          ih (roundDouble_nonneg (by linarith)) (roundDouble_onGrid _) hrest

/-- For a moderate number of roundings the upper factor is at most linear. -/
theorem one_add_pow_le (n : ℕ) (hn : 2 * n * (1 / 2 ^ 53 : ℚ) ≤ 1) :
  (1 + 1 / 2 ^ 53 : ℚ) ^ n ≤ 1 + 2 * n * (1 / 2 ^ 53)
  := by
  induction n with
  | zero => simp
  | succ n ih =>
    have ih' := ih (by push_cast at hn; nlinarith)
    push_cast at hn ⊢
    calc (1 + 1 / 2 ^ 53 : ℚ) ^ (n + 1) = (1 + 1 / 2 ^ 53) ^ n * (1 + 1 / 2 ^ 53) :=
          pow_succ _ _
      _ ≤ (1 + 2 * n * (1 / 2 ^ 53)) * (1 + 1 / 2 ^ 53) := by gcongr
      _ ≤ 1 + 2 * (n + 1) * (1 / 2 ^ 53) := by nlinarith

/-- What each term adds to a sum: a term exceeds its rise of the partial sum by at most the
whole sum over `2 ^ 53 - 1`. So a bound `g x ≤ K * d`, for every term `x` and every rise `d`
it could have, bounds the sum of `g` over the terms by `K` times the rise of the whole sum.
The induction runs along the terms with the whole sum fixed. -/
theorem sum_map_le_roundedSum (g : ℚ → ℚ) (K : ℚ) (hs : 0 ≤ s) (hsd : roundDouble s = s)
    (hxs : ∀ x ∈ xs, 0 ≤ x ∧ OnGrid x)
    (hg : ∀ x ∈ xs, ∀ d, 0 ≤ d → x ≤ d + roundedSum s xs / (2 ^ 53 - 1) → g x ≤ K * d) :
  (xs.map g).sum ≤ K * (roundedSum s xs - s)
  := by
  induction xs generalizing s with
  | nil => simp
  | cons x xs ih =>
    obtain ⟨hx, hxg⟩ := hxs x (List.mem_cons_self ..)
    have hrest : ∀ y ∈ xs, 0 ≤ y ∧ OnGrid y := fun y hy => hxs y (List.mem_cons_of_mem _ hy)
    have hsg : OnGrid s := hsd ▸ roundDouble_onGrid s
    set r := roundDouble (s + x) with hr
    have hrs : roundedSum s (x :: xs) = roundedSum r xs := rfl
    have hrise : s ≤ r := le_roundDouble_add hsd hx
    have hwhole : r ≤ roundedSum r xs :=
      le_roundedSum (roundDouble_roundDouble _) fun y hy => (hrest y hy).1
    have hlow := mul_le_roundDouble (by linarith) (hsg.add hxg)
    have hterm : x ≤ (r - s) + roundedSum s (x :: xs) / (2 ^ 53 - 1) := by
      rw [hrs]
      have hr0 : 0 ≤ r := le_trans hs hrise
      have key : x ≤ (r - s) + r / (2 ^ 53 - 1) := by
        rw [show (r - s) + r / (2 ^ 53 - 1) = r * 2 ^ 53 / (2 ^ 53 - 1) - s by field_simp; ring]
        rw [le_sub_iff_add_le, le_div_iff₀ (by norm_num)]
        nlinarith
      calc x ≤ (r - s) + r / (2 ^ 53 - 1) := key
        _ ≤ (r - s) + roundedSum r xs / (2 ^ 53 - 1) := by gcongr
    have hd : 0 ≤ r - s := by linarith
    have hgx := hg x (List.mem_cons_self ..) (r - s) hd hterm
    have ihx := ih (roundDouble_nonneg (by linarith : (0 : ℚ) ≤ s + x)) (roundDouble_roundDouble _)
      hrest
      (fun y hy d hd hyd => hg y (List.mem_cons_of_mem _ hy) d hd (by rwa [hrs]))
    calc ((x :: xs).map g).sum = g x + (xs.map g).sum := by simp
      _ ≤ K * (r - s) + K * (roundedSum r xs - r) := add_le_add hgx ihx
      _ = K * (roundedSum s (x :: xs) - s) := by rw [hrs]; ring

end Bounds

end Payout.Double
