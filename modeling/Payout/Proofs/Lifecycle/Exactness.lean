import Payout.Proofs.Double.Overflow
import Payout.Proofs.Lifecycle.Distributed

/-!
# The checks against 100 are exact on hundredths

A percentage entered as a two-decimal figure, and every percentage an automatic allocation
stores, is the double nearest a whole number of hundredths (`OfHundredths`). On rows of such
percentages the two comparisons with 100 that the program makes on float sums decide what they
would decide on the whole numbers of hundredths (`checks_exact_on_hundredths`): a new row is
refused for over-allocation exactly when the hundredths would pass 10,000, and a distribution is
fully allocated exactly when its hundredths are within one of 10,000. This holds whatever the
order of the rows and however many there are.

The reason is an error bound per hundredth. Each row holds at least one hundredth, and one
rounding of the row's percentage and one of the partial sum cost less than `2 ^ -45` per
hundredth of the row while the sum stays below 200 (`roundDouble_add_hundredths_le`,
`le_roundDouble_add_hundredths`). So up to 20,000 hundredths the left sum is within
`20000 / 2 ^ 45 < 6 / 10 ^ 10` of its exact value (`roundedSum_hundredths_le`,
`hundredths_le_roundedSum`), inside the `1e-9` slack of both checks. Past 20,000 hundredths the
sum only grows, or overflows to the positive infinity (`NonnegOrInf`), and both checks see a
sum far over 100.
-/

namespace Payout

open Double

/-! ### Hundredths -/

/-- A percentage that is the double nearest `n / 100`: how a whole number `n` of hundredths is
stored, whether computed as `h / 100.0` or read from a two-decimal figure. -/
def OfHundredths (p : Float) (n : ℕ) : Prop :=
  p.isFinite = true ∧ value p = roundDouble (n / 100)

/-- A percentage computed from whole hundredths is the double nearest them. -/
theorem IsHundredths.ofHundredths {p : Float} {n : ℕ} (hp : IsHundredths p n) :
  OfHundredths p n
  := hp.value_eq

namespace Double

/-- One rounding of a nonnegative rational, from above. -/
theorem roundDouble_le_mul_add {x : ℚ} (hx : 0 ≤ x) :
  roundDouble x ≤ x * (1 + 1 / 2 ^ 53) + 2 ^ (-1075 : ℤ)
  := by
  have h := abs_roundDouble_sub_le x
  rw [abs_of_nonneg hx] at h
  linarith [(abs_le.mp h).2]

/-- One rounding of a nonnegative rational, from below. -/
theorem mul_sub_le_roundDouble {x : ℚ} (hx : 0 ≤ x) :
  x * (1 - 1 / 2 ^ 53) - 2 ^ (-1075 : ℤ) ≤ roundDouble x
  := by
  have h := abs_roundDouble_sub_le x
  rw [abs_of_nonneg hx] at h
  linarith [(abs_le.mp h).1]

end Double

/-- From one to 10,000 hundredths is a percentage the schema admits. -/
theorem OfHundredths.inRange {p : Float} {n : ℕ} (hp : OfHundredths p n) (h1 : 1 ≤ n)
    (h : n ≤ 10000) :
  InRange p
  := by
  obtain ⟨hfin, hval⟩ := hp
  have hδ := two_zpow_subnormal_le
  have hn : (1 : ℚ) ≤ n := by exact_mod_cast h1
  have hlo := mul_sub_le_roundDouble (by positivity : (0 : ℚ) ≤ n / 100)
  refine ⟨hfin, ?_, ?_⟩
  · rw [hval]
    linarith
  · rw [hval]
    exact roundDouble_hundredths_le_hundred h

/-- A percentage the schema admits passes `validatePercentage`. -/
theorem validatePercentage_of_inRange {p : Float} (hp : InRange p) :
  validatePercentage p = .ok ()
  := by
  have hpos : ¬p ≤ 0.0 := by
    rw [le_iff_value_le hp.1 isFinite_zero, value_zero]
    exact not_le.mpr hp.2.1
  have hle : ¬p > maxPercentage := by
    rw [gt_iff_lt, maxPercentage, lt_iff_value_lt isFinite_hundred hp.1, value_hundred]
    exact not_lt.mpr hp.2.2
  unfold validatePercentage
  rw [if_neg]
  simp [isFinite_eq, hp.1, hpos, hle]

/-! ### Sums of hundredths, exactly -/

namespace Double

/-- One partial sum, from above: adding the double nearest `n / 100` to a sum of at most `m`
hundredths, each with `2 ^ -45` to spare, leaves at most `m + n` such hundredths, while there are at
most 20,000 in all. The percentage is rounded once and the partial sum once; the row's own
hundredths pay for the second rounding of up to 200. -/
theorem roundDouble_add_hundredths_le {s : ℚ} {m n : ℕ} (hs0 : 0 ≤ s)
    (hs : s ≤ m * (1 / 100 + 1 / 2 ^ 45)) (hn : 1 ≤ n) (hmn : m + n ≤ 20000) :
  roundDouble (s + roundDouble (n / 100)) ≤ (m + n) * (1 / 100 + 1 / 2 ^ 45)
  := by
  have hδ := two_zpow_subnormal_le
  have hx0 : 0 ≤ roundDouble ((n : ℚ) / 100) := roundDouble_nonneg (by positivity)
  have hx := roundDouble_le_mul_add (by positivity : (0 : ℚ) ≤ n / 100)
  have hy := roundDouble_le_mul_add (by linarith : 0 ≤ s + roundDouble ((n : ℚ) / 100))
  have hm : (m : ℚ) + n ≤ 20000 := by exact_mod_cast hmn
  have hn' : (1 : ℚ) ≤ n := by exact_mod_cast hn
  linarith

/-- One partial sum, from below: adding the double nearest `n / 100` to a sum of at least `m`
hundredths, each short of at most `2 ^ -45`, leaves at least `m + n` such hundredths, while
there are at most 20,000 in all. -/
theorem le_roundDouble_add_hundredths {s : ℚ} {m n : ℕ}
    (hs : m * (1 / 100 - 1 / 2 ^ 45) ≤ s) (hn : 1 ≤ n) (hmn : m + n ≤ 20000) :
  (m + n) * (1 / 100 - 1 / 2 ^ 45) ≤ roundDouble (s + roundDouble (n / 100))
  := by
  have hδ := two_zpow_subnormal_le
  have hs0 : 0 ≤ s := le_trans (by positivity) hs
  have hx0 : 0 ≤ roundDouble ((n : ℚ) / 100) := roundDouble_nonneg (by positivity)
  have hx := mul_sub_le_roundDouble (by positivity : (0 : ℚ) ≤ n / 100)
  have hy := mul_sub_le_roundDouble (by linarith : 0 ≤ s + roundDouble ((n : ℚ) / 100))
  have hm : (m : ℚ) + n ≤ 20000 := by exact_mod_cast hmn
  have hn' : (1 : ℚ) ≤ n := by exact_mod_cast hn
  linarith

theorem roundDouble_hundredths_nonneg (ns : List ℕ) :
  ∀ x ∈ ns.map (fun n : ℕ => roundDouble ((n : ℚ) / 100)), 0 ≤ x
  := by
  simp only [List.mem_map]
  rintro _ ⟨n, -, rfl⟩
  exact roundDouble_nonneg (by positivity)

/-- Whole numbers of hundredths, each at least one, added from the left as doubles: while there
are at most 20,000 hundredths in all, the sum exceeds them by at most `2 ^ -45` each. -/
theorem roundedSum_hundredths_le {s : ℚ} {m : ℕ} {ns : List ℕ} (hs0 : 0 ≤ s)
    (hs : s ≤ m * (1 / 100 + 1 / 2 ^ 45)) (hns : ∀ n ∈ ns, 1 ≤ n) (hsum : m + ns.sum ≤ 20000) :
  roundedSum s (ns.map fun n : ℕ => roundDouble ((n : ℚ) / 100)) ≤ (m + ns.sum) * (1 / 100 + 1 / 2 ^ 45)
  := by
  induction ns generalizing s m with
  | nil => simpa using hs
  | cons n ns ih =>
    rw [List.sum_cons] at hsum
    have hstep := roundDouble_add_hundredths_le hs0 hs (hns n (List.mem_cons_self ..)) (by omega)
    have hs'0 : 0 ≤ roundDouble (s + roundDouble ((n : ℚ) / 100)) :=
      roundDouble_nonneg (add_nonneg hs0 (roundDouble_nonneg (by positivity)))
    have hrest := ih hs'0 (show _ ≤ ((m + n : ℕ) : ℚ) * _ by rw [Nat.cast_add]; exact hstep)
      (fun k hk => hns k (List.mem_cons_of_mem _ hk)) (by omega)
    rw [Nat.cast_add] at hrest
    rw [List.map_cons, roundedSum_cons, List.sum_cons, Nat.cast_add]
    linarith

/-- Whole numbers of hundredths, each at least one, added from the left as doubles: the sum falls
short of any `T` of them, up to 20,000, by at most `2 ^ -45` each once they reach `T`. The induction
counts only the hundredths still missing from `T`, so a row of many more hundredths costs no more
than the ones it completes. Once `T` is reached, the sum only grows. -/
theorem hundredths_le_roundedSum {s : ℚ} {m : ℕ} (T : ℕ) {ns : List ℕ} (hsd : roundDouble s = s)
    (hs : m * (1 / 100 - 1 / 2 ^ 45) ≤ s) (hns : ∀ n ∈ ns, 1 ≤ n) (hmT : m ≤ T) (hT : T ≤ 20000)
    (hTs : T ≤ m + ns.sum) :
  T * (1 / 100 - 1 / 2 ^ 45) ≤ roundedSum s (ns.map fun n : ℕ => roundDouble ((n : ℚ) / 100))
  := by
  induction ns generalizing s m with
  | nil =>
    obtain rfl : m = T := by simp at hTs; omega
    simpa using hs
  | cons n ns ih =>
    rcases hmT.lt_or_eq with hlt | rfl
    · have hn := hns n (List.mem_cons_self ..)
      rw [List.sum_cons] at hTs
      set k := min n (T - m) with hk
      have hstep := le_roundDouble_add_hundredths hs (show 1 ≤ k by omega) (by omega)
      have hmono : roundDouble (s + roundDouble ((k : ℚ) / 100))
          ≤ roundDouble (s + roundDouble ((n : ℚ) / 100)) := by
        have hkn : (k : ℚ) ≤ n := by exact_mod_cast min_le_left n (T - m)
        have hround := roundDouble_mono (show (k : ℚ) / 100 ≤ n / 100 by gcongr)
        exact roundDouble_mono (by linarith)
      have hrest := ih (roundDouble_roundDouble _)
        (show ((m + k : ℕ) : ℚ) * _ ≤ _ by push_cast; exact hstep.trans hmono)
        (fun j hj => hns j (List.mem_cons_of_mem _ hj)) (by omega) (by omega)
      rw [List.map_cons, roundedSum_cons]
      exact hrest
    · exact hs.trans (le_roundedSum hsd (roundDouble_hundredths_nonneg _))

end Double

/-! ### Float sums of hundredths -/

section Rows

variable {ps : List Float} {ns : List ℕ} (h : List.Forall₂ (fun p n => 1 ≤ n ∧ OfHundredths p n) ps ns)
include h

theorem map_value_of_hundredths :
  ps.map value = ns.map fun n : ℕ => roundDouble ((n : ℚ) / 100)
  := by
  induction h with
  | nil => rfl
  | cons hp _ ih => simp [hp.2.2, ih]

theorem hundredths_admitted :
  ∀ p ∈ ps, p.isFinite = true ∧ 0 ≤ value p
  := by
  intro p hp
  obtain ⟨n, -, -, hfin, hval⟩ := exists_of_forall₂_of_mem h.flip hp
  exact ⟨hfin, by rw [hval]; exact roundDouble_nonneg (by positivity)⟩

theorem hundredths_pos :
  ∀ n ∈ ns, 1 ≤ n
  := by
  intro n hn
  obtain ⟨p, -, h1, -⟩ := exists_of_forall₂_of_mem h hn
  exact h1

/-- Rows of at most 20,000 hundredths in all add up, as doubles, to a finite sum that exceeds
them by at most `2 ^ -45` each. -/
theorem sumFloats_le_of_hundredths (hsum : ns.sum ≤ 20000) :
  (sumFloats ps).isFinite = true ∧ value (sumFloats ps) ≤ ns.sum * (1 / 100 + 1 / 2 ^ 45)
  := by
  have hmodel : roundedSum 0 (ps.map value) ≤ ns.sum * (1 / 100 + 1 / 2 ^ 45) := by
    rw [map_value_of_hundredths h]
    simpa using roundedSum_hundredths_le le_rfl (by simp : (0 : ℚ) ≤ ((0 : ℕ) : ℚ) * _)
      (hundredths_pos h) (by simpa using hsum)
  have hsum' : (ns.sum : ℚ) ≤ 20000 := by exact_mod_cast hsum
  have hfin : (sumFloats ps).isFinite = true := by
    apply isFinite_sumFloats (hundredths_admitted h)
    calc roundedSum 0 (ps.map value) ≤ ns.sum * (1 / 100 + 1 / 2 ^ 45) := hmodel
      _ ≤ 20000 * (1 / 100 + 1 / 2 ^ 45) := by gcongr
      _ ≤ ((203 : ℕ) : ℚ) := by norm_num
      _ < 2 ^ (1024 : ℤ) := lt_of_abs_lt (abs_natCast_lt_overflow (by norm_num))
  exact ⟨hfin, (value_sumFloats hfin).2 ▸ hmodel⟩

/-- Rows of at least `T` hundredths, `T` up to 20,000, add up, as doubles, to the positive
infinity or to a finite sum short of `T` hundredths by at most `2 ^ -45` each. -/
theorem le_sumFloats_of_hundredths (T : ℕ) (hT : T ≤ 20000) (hTs : T ≤ ns.sum) :
  (sumFloats ps).toModel.unpack = .infinity .positive
    ∨ (sumFloats ps).isFinite = true ∧ T * (1 / 100 - 1 / 2 ^ 45) ≤ value (sumFloats ps)
  := by
  rcases NonnegOrInf.sumFloats (hundredths_admitted h) with ⟨hfin, -⟩ | hinf
  · right
    refine ⟨hfin, ?_⟩
    rw [(value_sumFloats hfin).2, map_value_of_hundredths h]
    exact hundredths_le_roundedSum T roundDouble_zero (by simp) (hundredths_pos h) (Nat.zero_le _) hT
      (by simpa using hTs)
  · exact .inl hinf

end Rows

/-! ### The two checks -/

/-- The slack of both checks as doubles, to the precision the exactness needs: the ceiling
`maxPercentage + ceilingEpsilon` is at most `100 + 11 / 10 ^ 10`, and the tolerance
`percentageTolerance + ceilingEpsilon` lies between `1 / 100 + 9 / 10 ^ 10` and
`1 / 100 + 1 / 10 ^ 9` (one evaluation by the kernel for all three). -/
theorem slack_bounds :
  value (maxPercentage + ceilingEpsilon) ≤ 100 + 11 / 10 ^ 10
    ∧ 1 / 100 + 9 / 10 ^ 10 ≤ value (percentageTolerance + ceilingEpsilon)
    ∧ value (percentageTolerance + ceilingEpsilon) ≤ 1 / 100 + 1 / 10 ^ 9
  := by decide +kernel

/-- Rounding commutes with the magnitude. -/
theorem roundDouble_abs (x : ℚ) :
  roundDouble |x| = |roundDouble x|
  := by
  rcases le_total 0 x with hx | hx
  · rw [abs_of_nonneg hx, abs_of_nonneg (roundDouble_nonneg hx)]
  · have hneg : 0 ≤ roundDouble (-x) := roundDouble_nonneg (by linarith)
    rw [abs_of_nonpos hx, abs_of_nonpos (by rw [roundDouble_neg] at hneg; linarith), roundDouble_neg]

/-- A finite nonnegative sum is a full allocation exactly when its distance from 100, rounded, is
within the tolerance. The difference lies between `-100` and the sum, so it is finite. -/
theorem isFullyAllocated_iff_roundDouble {sum : Float} (hfin : sum.isFinite = true)
    (h0 : 0 ≤ value sum) :
  isFullyAllocated sum = true
    ↔ roundDouble |value sum - 100| ≤ value (percentageTolerance + ceilingEpsilon)
  := by
  obtain ⟨hfinT, -⟩ := tolerance_bounds
  have hlo : -100 ≤ roundDouble (value sum - 100) := by
    calc (-100 : ℚ) = roundDouble (-((100 : ℕ) : ℚ)) := by
          rw [roundDouble_neg, roundDouble_natCast (by norm_num)]; norm_num
      _ ≤ roundDouble (value sum - 100) := roundDouble_mono (by push_cast; linarith)
  have hhi : roundDouble (value sum - 100) ≤ value sum := by
    calc roundDouble (value sum - 100) ≤ roundDouble (value sum) := roundDouble_mono (by linarith)
      _ = value sum := roundDouble_value sum
  have htop := abs_unpackedValue_lt (packable_unpack sum.toModel)
  have h100 : ((100 : ℕ) : ℚ) < 2 ^ (1024 : ℤ) := lt_of_abs_lt (abs_natCast_lt_overflow (by norm_num))
  have hbound : |roundDouble (value sum - value 100.0)| < 2 ^ (1024 : ℤ) := by
    rw [value_hundred, abs_lt]
    constructor
    · rw [Nat.cast_ofNat] at h100
      exact lt_of_lt_of_le (neg_lt_neg h100) hlo
    · exact lt_of_le_of_lt hhi (lt_of_abs_lt htop)
  have hfin' := isFinite_sub hfin isFinite_hundred hbound
  unfold isFullyAllocated
  rw [decide_eq_true_iff, maxPercentage, le_iff_value_le ((isFinite_floatAbs _).trans hfin') hfinT,
    value_abs, value_sub hfin isFinite_hundred hfin', value_hundred, roundDouble_abs]

/-- A finite nonnegative sum within `1 / 100 + 9 / 10 ^ 10` of 100 is a full allocation. -/
theorem isFullyAllocated_of_close {sum : Float} (hfin : sum.isFinite = true) (h0 : 0 ≤ value sum)
    (hclose : |value sum - 100| ≤ 1 / 100 + 9 / 10 ^ 10) :
  isFullyAllocated sum = true
  := by
  obtain ⟨-, hT, -⟩ := slack_bounds
  rw [isFullyAllocated_iff_roundDouble hfin h0]
  calc roundDouble |value sum - 100| ≤ roundDouble (value (percentageTolerance + ceilingEpsilon)) :=
        roundDouble_mono (by linarith)
    _ = value (percentageTolerance + ceilingEpsilon) := roundDouble_value _

/-- A finite nonnegative sum at least `2 / 100 - 1 / 10 ^ 9` away from 100 is no full
allocation. -/
theorem isFullyAllocated_eq_false_of_far {sum : Float} (hfin : sum.isFinite = true)
    (h0 : 0 ≤ value sum) (hfar : 2 / 100 - 1 / 10 ^ 9 ≤ |value sum - 100|) :
  isFullyAllocated sum = false
  := by
  obtain ⟨-, -, hT⟩ := slack_bounds
  have hδ := two_zpow_subnormal_le
  have hround := mul_sub_le_roundDouble (abs_nonneg (value sum - 100))
  rw [← Bool.not_eq_true, isFullyAllocated_iff_roundDouble hfin h0]
  intro hle
  nlinarith

/-- The positive infinity is no full allocation. -/
theorem isFullyAllocated_of_infinity {sum : Float} (hinf : sum.toModel.unpack = .infinity .positive) :
  isFullyAllocated sum = false
  := by
  obtain ⟨hfinT, -⟩ := tolerance_bounds
  have hdiff := sub_of_infinity hinf isFinite_hundred
  unfold isFullyAllocated
  rw [maxPercentage, decide_eq_false_iff_not]
  exact not_le_of_infinity (abs_of_infinity hdiff) hfinT

section Rows

variable {ps : List Float} {ns : List ℕ} (h : List.Forall₂ (fun p n => 1 ≤ n ∧ OfHundredths p n) ps ns)
include h

/-- Rows of hundredths pass the ceiling, as doubles, exactly when their hundredths pass 10,000. -/
theorem capacity_lt_sumFloats_iff :
  maxPercentage + ceilingEpsilon < sumFloats ps ↔ 10000 < ns.sum
  := by
  obtain ⟨hfinC, hC, -⟩ := Lifecycle.Books.capacity_bounds
  obtain ⟨hC', -, -⟩ := slack_bounds
  constructor
  · intro hlt
    by_contra hle
    have hsum : ns.sum ≤ 10000 := by omega
    obtain ⟨hfin, hval⟩ := sumFloats_le_of_hundredths h (by omega)
    have hsum' : (ns.sum : ℚ) ≤ 10000 := by exact_mod_cast hsum
    rw [lt_iff_value_lt hfinC hfin] at hlt
    nlinarith
  · intro hlt
    rcases le_sumFloats_of_hundredths h 10001 (by norm_num) (by omega) with hinf | ⟨hfin, hval⟩
    · exact lt_of_infinity hinf hfinC
    · rw [lt_iff_value_lt hfinC hfin]
      push_cast at hval
      linarith

/-- Rows of hundredths are a full allocation, as doubles, exactly when their hundredths are within
one of 10,000. Within one of 10,000, the sum is within a hundredth and the rounding noise of 100. -/
theorem isFullyAllocated_sumFloats_iff :
  isFullyAllocated (sumFloats ps) = true ↔ 9999 ≤ ns.sum ∧ ns.sum ≤ 10001
  := by
  by_cases hhigh : ns.sum ≤ 10001
  · obtain ⟨hfin, hval⟩ := sumFloats_le_of_hundredths h (by omega)
    have h0 : 0 ≤ value (sumFloats ps) := by
      rw [(value_sumFloats hfin).2]
      exact le_roundedSum roundDouble_zero fun x hx => by
        obtain ⟨p, hp, rfl⟩ := List.mem_map.mp hx
        exact (hundredths_admitted h p hp).2
    have hhigh' : (ns.sum : ℚ) ≤ 10001 := by exact_mod_cast hhigh
    by_cases hlow : 9999 ≤ ns.sum
    · rcases le_sumFloats_of_hundredths h ns.sum (by omega) le_rfl with hinf | ⟨-, hval'⟩
      · rw [isFinite_eq_false_of_infinity hinf] at hfin
        cases hfin
      have hlow' : (9999 : ℚ) ≤ ns.sum := by exact_mod_cast hlow
      refine iff_of_true (isFullyAllocated_of_close hfin h0 (abs_le.mpr ⟨?_, ?_⟩)) ⟨hlow, hhigh⟩
      · nlinarith
      · nlinarith
    · have hlow' : (ns.sum : ℚ) ≤ 9998 := by exact_mod_cast (by omega : ns.sum ≤ 9998)
      refine iff_of_false ?_ (by omega)
      rw [isFullyAllocated_eq_false_of_far hfin h0 ?_]
      · simp
      rw [abs_sub_comm, abs_of_nonneg (by nlinarith)]
      nlinarith
  · refine iff_of_false ?_ (by omega)
    rcases le_sumFloats_of_hundredths h 10002 (by norm_num) (by omega) with hinf | ⟨hfin, hval⟩
    · rw [isFullyAllocated_of_infinity hinf]
      simp
    · have h0 : 0 ≤ value (sumFloats ps) := by
        push_cast at hval
        linarith
      rw [isFullyAllocated_eq_false_of_far hfin h0 ?_]
      · simp
      push_cast at hval
      rw [abs_of_nonneg (by linarith)]
      linarith

end Rows

end Payout

/-! ### Adding a row by hand -/

namespace Payout.Lifecycle.Books

open Double

/-- An amount is refused only as out of range. -/
theorem computeAmount_eq_error {totalProfit : Int} {p : Float} {e : DomainError}
    (h : computeAmount totalProfit p = .error e) :
  e = .amountOutOfRange totalProfit p
  := by
  unfold computeAmount at h
  dsimp only at h
  split at h
  · cases h
    rfl
  · split at h
    · cases h
    · cases h
      rfl

/-- A row by hand with a valid percentage, for an existing participant without a row of an
existing distribution, passes every check before the room left: its admission is decided by
the room left and the amount. -/
theorem admitManual_of_admissible {b : Books} {distribution participant : Int} {p : Float}
    {d : Distribution} (hv : validatePercentage p = .ok ()) (hd : b.distributionOf distribution = some d)
    (hpart : ∃ q ∈ b.participants, q.id = some participant)
    (hfree : ∀ r ∈ b.detailsOf distribution, r.participant ≠ participant) :
  b.admitManual distribution participant p
    = (validateCapacity distribution (totalPercentage (b.detailsOf distribution)) p >>= fun _ =>
        computeAmount d.totalProfit p >>= fun amount => pure (d, amount))
  := by
  have hfound : (b.participants.find? (·.id == some participant)).isNone = false := by
    obtain ⟨q, hq, hid⟩ := hpart
    rw [Bool.eq_false_iff, ne_eq, Option.isNone_iff_eq_none, List.find?_eq_none]
    intro hnone
    exact hnone q hq (by simp [hid])
  have hunallocated : validateUnallocated distribution participant (b.detailsOf distribution) = .ok () := by
    unfold validateUnallocated
    rw [if_neg]
    simpa using hfree
  simp only [admitManual, hv, ok_bind, hd, hfound, hunallocated]
  rfl

/-- A row by hand with a valid percentage, for an existing participant without a row of an existing
distribution, is refused for over-allocation, with the books left as they were, exactly when the
percentage does not fit under the ceiling on top of the distribution's rows. Every other outcome,
the row stored or its amount refused, is not this refusal. The room left is checked before the
amount, and an amount refused as out of range is not an over-allocation. -/
theorem addManualDetail_overAllocation_iff {b : Books} {distribution participant : Int} {p : Float}
    {d : Distribution} (hv : validatePercentage p = .ok ()) (hd : b.distributionOf distribution = some d)
    (hpart : ∃ q ∈ b.participants, q.id = some participant)
    (hfree : ∀ r ∈ b.detailsOf distribution, r.participant ≠ participant) (actor : Actor) (cause : Cause) :
  (addManualDetail distribution participant p actor cause : Work (Transition Detail)).run.run b
      = (.error (.violation (.overAllocation distribution (totalPercentage (b.detailsOf distribution)) p)), b)
    ↔ maxPercentage + ceilingEpsilon < totalPercentage (b.detailsOf distribution) + p
  := by
  have hadmit := admitManual_of_admissible hv hd hpart hfree
  have hfollows := follows_addManualDetail b actor cause distribution participant p
  by_cases hover : maxPercentage + ceilingEpsilon < totalPercentage (b.detailsOf distribution) + p
  · have hcapacity : validateCapacity distribution (totalPercentage (b.detailsOf distribution)) p
        = .error (.overAllocation distribution (totalPercentage (b.detailsOf distribution)) p) := by
      unfold validateCapacity
      rw [if_pos hover]
    rw [hcapacity, error_bind] at hadmit
    exact iff_of_true (hfollows.of_refused hadmit) hover
  · have hcapacity : validateCapacity distribution (totalPercentage (b.detailsOf distribution)) p
        = .ok () := by
      unfold validateCapacity
      rw [if_neg hover]
    rw [hcapacity, ok_bind] at hadmit
    refine iff_of_false ?_ hover
    intro hrun
    cases hamount : computeAmount d.totalProfit p with
    | ok a =>
      rw [hamount, ok_bind] at hadmit
      obtain ⟨t, hrun', -⟩ := hfollows.of_admitted hadmit
      rw [hrun] at hrun'
      cases hrun'
    | error e =>
      rw [hamount, error_bind] at hadmit
      have hrefused := hfollows.of_refused hadmit
      rw [hrun, computeAmount_eq_error hamount] at hrefused
      cases hrefused

/-- On rows that each hold a whole number of hundredths, at least one, the program's two checks
against 100 decide what they would on the whole numbers, `ns`, whatever the order of the rows
and however many there are:

* a row by hand of `n` hundredths, from one to 10,000, for an existing participant without a
  row, is refused for over-allocation, with the books left as they were, exactly when the
  hundredths would pass 10,000;
* the distribution counts as fully allocated exactly when its hundredths are within one of
  10,000.

The new row is checked as one more term of the left sum. -/
theorem checks_exact_on_hundredths {b : Books} {distribution : Int} {d : Distribution}
    (hd : b.distributionOf distribution = some d) {ns : List ℕ}
    (hrows : List.Forall₂ (fun r n => 1 ≤ n ∧ OfHundredths r.percentage n) (b.detailsOf distribution) ns) :
  (∀ (participant : Int) (p : Float) (n : ℕ) (actor : Actor) (cause : Cause),
      (∃ q ∈ b.participants, q.id = some participant) →
      (∀ r ∈ b.detailsOf distribution, r.participant ≠ participant) →
      1 ≤ n → n ≤ 10000 → OfHundredths p n →
      ((addManualDetail distribution participant p actor cause : Work (Transition Detail)).run.run b
          = (.error (.violation (.overAllocation distribution
              (totalPercentage (b.detailsOf distribution)) p)), b)
        ↔ 10000 < ns.sum + n))
    ∧ (isFullyAllocated (totalPercentage (b.detailsOf distribution)) = true
        ↔ 9999 ≤ ns.sum ∧ ns.sum ≤ 10001)
  := by
  have hps : List.Forall₂ (fun p n => 1 ≤ n ∧ OfHundredths p n) (percentagesOf (b.detailsOf distribution)) ns :=
    List.forall₂_map_left_iff.mpr hrows
  refine ⟨?_, isFullyAllocated_sumFloats_iff hps⟩
  intro participant p n actor cause hpart hfree h1 hn hp
  have happend : List.Forall₂ (fun p n => 1 ≤ n ∧ OfHundredths p n)
      (percentagesOf (b.detailsOf distribution) ++ [p]) (ns ++ [n]) :=
    List.rel_append hps (.cons ⟨h1, hp⟩ .nil)
  have hsum : totalPercentage (b.detailsOf distribution) + p
      = sumFloats (percentagesOf (b.detailsOf distribution) ++ [p]) :=
    (sumFloats_append_singleton _ _).symm
  rw [addManualDetail_overAllocation_iff (validatePercentage_of_inRange (hp.inRange h1 hn)) hd hpart hfree,
    hsum, capacity_lt_sumFloats_iff happend, List.sum_append, List.sum_singleton]

/-- A distribution of 1,200 split by hand between two participants, 33.33% and 66.67%. -/
def splitByHand : Books where
  roles := []
  participants := [⟨some 2, "Alice", 500.0, none, true⟩, ⟨some 3, "Bob", 1000.0, none, true⟩]
  distributions := [⟨some 1, "2026-Q1", ⟨2026, 3, 31⟩, 1200, .distributed⟩]
  details := [⟨some 4, 1, 2, 3333.0 / 100.0, 400⟩, ⟨some 5, 1, 3, 6667.0 / 100.0, 800⟩]
  lastId := 5

/-- The two rows of `splitByHand` hold 3,333 and 6,667 hundredths, so the distribution counts as
fully allocated, whatever the float sum of 33.33 and 66.67 is. -/
theorem checks_exact_on_hundredths_splitByHand :
  (∃ d, splitByHand.distributionOf 1 = some d)
    ∧ List.Forall₂ (fun r n => 1 ≤ n ∧ OfHundredths r.percentage n) (splitByHand.detailsOf 1) [3333, 6667]
    ∧ isFullyAllocated (totalPercentage (splitByHand.detailsOf 1)) = true
  := by
  obtain ⟨d, hd⟩ := Option.isSome_iff_exists.mp
    (show (splitByHand.distributionOf 1).isSome = true by decide +kernel)
  have hwhole : ((3333.0 : Float).isFinite = true ∧ value 3333.0 = 3333)
      ∧ ((6667.0 : Float).isFinite = true ∧ value 6667.0 = 6667) := by decide +kernel
  have hrows : List.Forall₂ (fun r n => 1 ≤ n ∧ OfHundredths r.percentage n)
      (splitByHand.detailsOf 1) [3333, 6667] :=
    .cons ⟨by norm_num, IsHundredths.ofHundredths ⟨by norm_num, by norm_num, _, hwhole.1, rfl⟩⟩
      (.cons ⟨by norm_num, IsHundredths.ofHundredths ⟨by norm_num, by norm_num, _, hwhole.2, rfl⟩⟩ .nil)
  exact ⟨⟨d, hd⟩, hrows, (checks_exact_on_hundredths hd hrows).2.mpr (by norm_num)⟩

end Payout.Lifecycle.Books
