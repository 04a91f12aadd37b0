import Payout.Proofs.Lifecycle.Exactness

/-!
# Amounts are the exact shares rounded half up, but at ties

`computeAmount t p` converts the total to a double, multiplies it by the percentage, divides by
100, each step rounded to a double, and rounds the result to a whole number, halves away from
zero (`computeAmount_eq_round`; for any nonnegative total, with the total rounded too,
`eq_round_of_computeAmount_eq_ok`), so a larger percentage never gets a smaller amount
(`computeAmount_le_of_le`). For a percentage of `n` hundredths the exact amount is
`t * n / 10000`, a multiple of a ten-thousandth, and its round half up is
`(t * n + 5000) / 10000`.

* Up to a total of `10 ^ 11` the three roundings move the computed value by less than a
  ten-thousandth (`abs_amount_sub_lt`). A value that close to a multiple of a ten-thousandth
  rounds as that multiple does, unless the multiple is a half: then it may fall on either side
  (`round_near_tick`). So the amount is the exact round half up, or at a tie possibly one less
  (`computeAmount_of_hundredths`). 1250 at 2.28% is a tie that goes down, and past `10 ^ 11`
  amounts leave the exact rounding off ties too (`computeAmount_misses_exact_rounding`).
* Either way each amount lies within half a unit of its exact share
  (`abs_amount_sub_share_le`), and so the residual of an allocation whose hundredths make
  10,000 is at most half a unit per row (`residual_le_half_per_row`): the sums stay far inside
  the 64-bit range, where the saturating sums are plain sums (`foldl_satAdd_eq`,
  `residualOf_eq_sub`).
* A full row of 100% receives the whole total below `2 ^ 51` (`computeAmount_full`), where
  only the roundings of the product and of the quotient count.
-/

namespace Payout

open Double

/-! ### Bounds on the roundings -/

namespace Double

/-- `2 ^ 60` is far below the overflow threshold. -/
theorem two_pow_sixty_lt_overflow :
  (2 : ℚ) ^ 60 < 2 ^ (1024 : ℤ)
  := by
  calc (2 : ℚ) ^ 60 = 2 ^ (60 : ℤ) := by norm_num
    _ < 2 ^ (1024 : ℤ) := zpow_lt_zpow_right₀ (by norm_num) (by norm_num)

/-- Rounding the percentage of `n` hundredths, its product with a total up to `10 ^ 11` and the
hundredth of the product moves the amount by less than a ten-thousandth. The percentage, the product
and the quotient are each rounded once, and the total scales the error of the percentage. -/
theorem abs_amount_sub_lt {τ : ℚ} {n : ℕ} (hτ0 : 0 ≤ τ) (hτ : τ ≤ 10 ^ 11) (hn : n ≤ 10000) :
  |roundDouble (roundDouble (τ * roundDouble (n / 100)) / 100) - τ * n / 10000| < 1 / 10000
  := by
  have hδ := two_zpow_subnormal_le
  have hη0 : (0 : ℚ) ≤ 2 ^ (-1075 : ℤ) := (two_zpow_pos _).le
  have hn' : (n : ℚ) ≤ 10000 := by exact_mod_cast hn
  have hn0 : (0 : ℚ) ≤ n / 100 := by positivity
  have hv0 : 0 ≤ roundDouble ((n : ℚ) / 100) := roundDouble_nonneg hn0
  have hv_hi := roundDouble_le_mul_add hn0
  have hv_lo := mul_sub_le_roundDouble hn0
  have hprod0 := mul_nonneg hτ0 hv0
  have hq0 := roundDouble_nonneg hprod0
  have hq_hi := roundDouble_le_mul_add hprod0
  have hq_lo := mul_sub_le_roundDouble hprod0
  have hquot0 : 0 ≤ roundDouble (τ * roundDouble (n / 100)) / 100 := by positivity
  have hr_hi := roundDouble_le_mul_add hquot0
  have hr_lo := mul_sub_le_roundDouble hquot0
  have htv_hi := mul_le_mul_of_nonneg_left hv_hi hτ0
  have htv_lo := mul_le_mul_of_nonneg_left hv_lo hτ0
  have hτn : τ * n ≤ 10 ^ 11 * 10000 := mul_le_mul hτ hn' (by positivity) (by positivity)
  have hτη : τ * 2 ^ (-1075 : ℤ) ≤ 10 ^ 11 * 2 ^ (-1075 : ℤ) := mul_le_mul_of_nonneg_right hτ hη0
  rw [abs_lt]
  constructor <;> linarith

/-- For the whole total, at 100%, the product and the quotient are rounded and the amount moves
by less than a half below `2 ^ 51`. -/
theorem abs_fullAmount_sub_lt {τ : ℚ} (hτ0 : 0 ≤ τ) (hτ : τ ≤ 2 ^ 51 - 1) :
  |roundDouble (roundDouble (τ * 100) / 100) - τ| < 1 / 2
  := by
  have hδ := two_zpow_subnormal_le
  have hη0 : (0 : ℚ) ≤ 2 ^ (-1075 : ℤ) := (two_zpow_pos _).le
  have hprod0 : 0 ≤ τ * 100 := by positivity
  have hq0 := roundDouble_nonneg hprod0
  have hq_hi := roundDouble_le_mul_add hprod0
  have hq_lo := mul_sub_le_roundDouble hprod0
  have hquot0 : 0 ≤ roundDouble (τ * 100) / 100 := by positivity
  have hr_hi := roundDouble_le_mul_add hquot0
  have hr_lo := mul_sub_le_roundDouble hquot0
  rw [abs_lt]
  constructor <;> linarith

/-- A rational within a ten-thousandth of `k / 10000` rounds, halves up, as `k / 10000` does,
`(k + 5000) / 10000`, except when `k / 10000` is a half: it may then round one lower. The proof
splits `k + 5000` at the ten-thousands. -/
theorem round_near_tick {k : ℤ} {r : ℚ} (h : |r - k / 10000| < 1 / 10000) :
  round r = (k + 5000) / 10000 ∨ (k % 10000 = 5000 ∧ round r = (k + 5000) / 10000 - 1)
  := by
  obtain ⟨hlo, hhi⟩ := abs_lt.mp h
  rw [round_eq]
  have hsplit : ((k : ℚ) + 5000) =
      10000 * (((k + 5000) / 10000 : ℤ) : ℚ) + (((k + 5000) % 10000 : ℤ) : ℚ) := by
    exact_mod_cast (Int.mul_ediv_add_emod (k + 5000) 10000).symm
  have hR0 : (0 : ℚ) ≤ (((k + 5000) % 10000 : ℤ) : ℚ) := by
    exact_mod_cast Int.emod_nonneg _ (by norm_num)
  have hR : (((k + 5000) % 10000 : ℤ) : ℚ) ≤ 9999 := by
    exact_mod_cast (by omega : (k + 5000) % 10000 ≤ 9999)
  rcases lt_or_ge (r + 1 / 2) (((k + 5000) / 10000 : ℤ) : ℚ) with hbelow | habove
  · right
    have htie : (k + 5000) % 10000 = 0 := by
      have : (((k + 5000) % 10000 : ℤ) : ℚ) < 1 := by linarith
      have : (k + 5000) % 10000 < 1 := by exact_mod_cast this
      omega
    refine ⟨by omega, Int.floor_eq_iff.mpr ⟨?_, ?_⟩⟩
    · push_cast
      linarith
    · push_cast
      linarith
  · left
    exact Int.floor_eq_iff.mpr ⟨habove, by linarith⟩

/-- Rounding half up to a whole number is monotone. -/
theorem round_le_round_of_le {x y : ℚ} (h : x ≤ y) :
  round x ≤ round y
  := by
  rw [round_eq, round_eq]
  exact Int.floor_le_floor (by linarith)

/-- The double an amount is rounded from is nonnegative for a nonnegative total and
percentage. -/
theorem roundDouble_amount_nonneg {t : ℤ} {v : ℚ} (ht0 : 0 ≤ t) (hv : 0 ≤ v) :
  0 ≤ roundDouble (roundDouble (roundDouble t * v) / 100)
  := by
  have ht : (0 : ℚ) ≤ t := by exact_mod_cast ht0
  apply roundDouble_nonneg
  exact div_nonneg (roundDouble_nonneg (mul_nonneg (roundDouble_nonneg ht) hv)) (by norm_num)

end Double

/-! ### The amount of a percentage -/

/-- Below `2 ^ 53`, and for a percentage in `[0, 100]`, the amount is the whole number nearest,
halves up, to the double computed: the product rounded, then its hundredth rounded. The product and
the quotient stay below `2 ^ 60`, far from the overflow, and the value rounded to a whole number
converts to an integer. -/
theorem computeAmount_eq_round {t : ℤ} {p : Float} (ht0 : 0 ≤ t) (ht : t < 2 ^ 53)
    (hp : p.isFinite = true) (hp0 : 0 ≤ value p) (hp100 : value p ≤ 100) :
  computeAmount t p = .ok (round (roundDouble (roundDouble (t * value p) / 100)))
  := by
  obtain ⟨hT, hTv⟩ := value_wordToFloat (by rw [abs_of_nonneg ht0]; exact ht)
  have hδ := two_zpow_subnormal_le
  have hover := two_pow_sixty_lt_overflow
  have htq0 : (0 : ℚ) ≤ t := by exact_mod_cast ht0
  have htq : (t : ℚ) ≤ 2 ^ 53 := by exact_mod_cast ht.le
  have hprod0 : 0 ≤ (t : ℚ) * value p := mul_nonneg htq0 hp0
  have hprod : (t : ℚ) * value p ≤ 2 ^ 53 * 100 := mul_le_mul htq hp100 hp0 (by positivity)
  have hq0 := roundDouble_nonneg hprod0
  have hq_hi := roundDouble_le_mul_add hprod0
  have hq60 : roundDouble ((t : ℚ) * value p) ≤ 2 ^ 60 := by linarith
  have hmul : (wordToFloat t * p).isFinite = true :=
    isFinite_mul hT hp (by rw [hTv, abs_of_nonneg hq0]; exact hq60.trans_lt hover)
  have hmulv : value (wordToFloat t * p) = roundDouble (t * value p) := by
    rw [value_mul hT hp hmul, hTv]
  have hquot0 : 0 ≤ roundDouble ((t : ℚ) * value p) / 100 := by positivity
  have hr0 := roundDouble_nonneg hquot0
  have hr_hi := roundDouble_le_mul_add hquot0
  have h100 : value 100.0 ≠ 0 := by rw [value_hundred]; norm_num
  have hraw : (wordToFloat t * p / 100.0).isFinite = true := by
    have hr60 : roundDouble (roundDouble ((t : ℚ) * value p) / 100) ≤ 2 ^ 60 := by linarith
    apply isFinite_div hmul isFinite_hundred h100
    rw [hmulv, value_hundred, abs_of_nonneg hr0]
    exact hr60.trans_lt hover
  have hrawv : value (wordToFloat t * p / 100.0) = roundDouble (roundDouble (t * value p) / 100) := by
    rw [value_div hmul isFinite_hundred h100 hraw, hmulv, value_hundred]
  obtain ⟨hw, hwv⟩ := value_roundToWhole hraw
  rw [hrawv, if_neg (not_lt.mpr hr0)] at hwv
  obtain ⟨hnear_lo, hnear_hi⟩ :=
    abs_le.mp (abs_sub_round (roundDouble (roundDouble ((t : ℚ) * value p) / 100)))
  have hlo : (-1 : ℚ) < round (roundDouble (roundDouble ((t : ℚ) * value p) / 100)) := by linarith
  have hhi : (round (roundDouble (roundDouble ((t : ℚ) * value p) / 100)) : ℚ) < 2 ^ 63 := by
    linarith
  have hlo' : (-1 : ℤ) < round (roundDouble (roundDouble ((t : ℚ) * value p) / 100)) := by
    exact_mod_cast hlo
  unfold computeAmount
  simp only [isFinite_eq, hraw, Bool.not_true, Bool.false_eq_true, ↓reduceIte]
  rw [floatToWord?_of_value_eq hw hwv (by omega) (by exact_mod_cast hhi)]

/-- A computed amount, for a nonnegative total and percentage, is the whole number nearest, halves
up, to the double computed: the total rounded to a double, times the percentage, then its hundredth,
each step rounded. The whole number nearest converts, so it lies in the 64-bit range. -/
theorem eq_round_of_computeAmount_eq_ok {t a : ℤ} {p : Float} (ht0 : 0 ≤ t)
    (hp : p.isFinite = true) (hp0 : 0 ≤ value p) (h : computeAmount t p = .ok a) :
  a = round (roundDouble (roundDouble (roundDouble t * value p) / 100))
  := by
  unfold computeAmount at h
  dsimp only at h
  split at h
  · cases h
  rename_i hcheck
  have hraw : (wordToFloat t * p / 100.0).isFinite = true := by simpa [isFinite_eq] using hcheck
  have hmul := isFinite_of_isFinite_div hraw
  obtain ⟨hT, -⟩ := isFinite_of_isFinite_mul hmul
  have hTv : value (wordToFloat t) = roundDouble t := (delivers_wordToFloat ht0).unpackedValue_eq hT
  have h100 : value 100.0 ≠ 0 := by rw [value_hundred]; norm_num
  have hrawv : value (wordToFloat t * p / 100.0)
      = roundDouble (roundDouble (roundDouble t * value p) / 100) := by
    rw [value_div hmul isFinite_hundred h100 hraw, value_mul hT hp hmul, hTv, value_hundred]
  obtain ⟨hw, hwv⟩ := value_roundToWhole hraw
  rw [hrawv, if_neg (not_lt.mpr (roundDouble_amount_nonneg ht0 hp0))] at hwv
  split at h
  · rename_i a' hword
    cases h
    obtain ⟨-, hlo, hhi⟩ := floatToWord?_isSome_iff.mp (by rw [hword]; rfl)
    rw [hwv] at hlo hhi
    rw [floatToWord?_of_value_eq hw hwv (by exact_mod_cast hlo) (by exact_mod_cast hhi)] at hword
    exact (Option.some.inj hword).symm
  · cases h

/-- A computed amount of a nonnegative total and percentage is nonnegative. -/
theorem computeAmount_nonneg {t a : ℤ} {p : Float} (ht0 : 0 ≤ t) (hp : p.isFinite = true)
    (hp0 : 0 ≤ value p) (h : computeAmount t p = .ok a) :
  0 ≤ a
  := by
  have hr0 := roundDouble_amount_nonneg ht0 hp0
  rw [eq_round_of_computeAmount_eq_ok ht0 hp hp0 h, round_eq]
  exact Int.floor_nonneg.mpr (by linarith)

/-- Of a nonnegative total, a larger percentage never computes a smaller amount. -/
theorem computeAmount_le_of_le {t a a' : ℤ} {p p' : Float} (ht0 : 0 ≤ t) (hp : p.isFinite = true)
    (hp' : p'.isFinite = true) (hp0 : 0 ≤ value p) (hle : value p ≤ value p')
    (h : computeAmount t p = .ok a) (h' : computeAmount t p' = .ok a') :
  a ≤ a'
  := by
  have ht : (0 : ℚ) ≤ roundDouble t := roundDouble_nonneg (by exact_mod_cast ht0)
  rw [eq_round_of_computeAmount_eq_ok ht0 hp hp0 h,
    eq_round_of_computeAmount_eq_ok ht0 hp' (hp0.trans hle) h']
  apply round_le_round_of_le
  apply roundDouble_mono
  apply div_le_div_of_nonneg_right _ (by norm_num)
  exact roundDouble_mono (mul_le_mul_of_nonneg_left hle ht)

/-- The amount of `n` hundredths of a total up to `10 ^ 11` is the exact amount rounded half up,
`(t * n + 5000) / 10000`, or, when the exact amount is a half, possibly one less. -/
theorem computeAmount_of_hundredths {t : ℤ} {p : Float} {n : ℕ} (ht0 : 0 ≤ t) (ht : t ≤ 10 ^ 11)
    (hn : n ≤ 10000) (hp : OfHundredths p n) :
  computeAmount t p = .ok ((t * n + 5000) / 10000)
    ∨ (t * n % 10000 = 5000 ∧ computeAmount t p = .ok ((t * n + 5000) / 10000 - 1))
  := by
  obtain ⟨hfin, hval⟩ := hp
  have hp0 : 0 ≤ value p := hval ▸ roundDouble_nonneg (by positivity)
  have hp100 : value p ≤ 100 := hval ▸ roundDouble_hundredths_le_hundred hn
  have htq0 : (0 : ℚ) ≤ t := by exact_mod_cast ht0
  have htq : (t : ℚ) ≤ 10 ^ 11 := by exact_mod_cast ht
  rw [computeAmount_eq_round ht0 (lt_of_le_of_lt ht (by norm_num)) hfin hp0 hp100, hval]
  have hnear := abs_amount_sub_lt htq0 htq hn
  rw [show (t : ℚ) * n / 10000 = ((t * n : ℤ) : ℚ) / 10000 by push_cast; ring] at hnear
  rcases round_near_tick hnear with h | ⟨htie, h⟩
  · exact .inl (by rw [h])
  · exact .inr ⟨htie, by rw [h]⟩

/-- Such an amount is nonnegative and within half a unit of its exact share `t * n / 10000`. A half
rounded down is still half a unit away. -/
theorem abs_amount_sub_share_le {t a : ℤ} {p : Float} {n : ℕ} (ht0 : 0 ≤ t) (ht : t ≤ 10 ^ 11)
    (hn : n ≤ 10000) (hp : OfHundredths p n) (h : computeAmount t p = .ok a) :
  0 ≤ a ∧ 2 * |10000 * a - t * n| ≤ 10000
  := by
  have htn : 0 ≤ t * n := by positivity
  rcases computeAmount_of_hundredths ht0 ht hn hp with h' | ⟨htie, h'⟩
  · obtain rfl := Except.ok.inj (h.symm.trans h')
    generalize t * n = k at htn ⊢
    have habs : |10000 * ((k + 5000) / 10000) - k| ≤ 5000 := abs_le.mpr ⟨by omega, by omega⟩
    omega
  · obtain rfl := Except.ok.inj (h.symm.trans h')
    generalize t * n = k at htn htie ⊢
    have habs : |10000 * ((k + 5000) / 10000 - 1) - k| ≤ 5000 := abs_le.mpr ⟨by omega, by omega⟩
    omega

/-- A full percentage gives the whole total below `2 ^ 51`. -/
theorem computeAmount_full {t : ℤ} {p : Float} (ht0 : 0 ≤ t) (ht : t < 2 ^ 51)
    (hp : OfHundredths p 10000) :
  computeAmount t p = .ok t
  := by
  obtain ⟨hfin, hval⟩ := hp
  have h100 : value p = 100 := by
    rw [hval, show ((10000 : ℕ) : ℚ) / 100 = ((100 : ℕ) : ℚ) by norm_num,
      roundDouble_natCast (by norm_num)]
    norm_num
  have htq0 : (0 : ℚ) ≤ t := by exact_mod_cast ht0
  have htq : (t : ℚ) ≤ 2 ^ 51 - 1 := by exact_mod_cast Int.le_sub_one_of_lt ht
  rw [computeAmount_eq_round ht0 (lt_trans ht (by norm_num)) hfin (by rw [h100]; norm_num) h100.le,
    h100]
  obtain ⟨hlo, hhi⟩ := abs_lt.mp (abs_fullAmount_sub_lt htq0 htq)
  have hround : round (roundDouble (roundDouble ((t : ℚ) * 100) / 100)) = t := by
    rw [round_eq, Int.floor_eq_iff]
    constructor <;> linarith
  rw [hround]

/-! ### Saturating sums -/

/-- The ends of the 64-bit range. -/
theorem minWord_maxWord_eq :
  minWord = -9223372036854775808 ∧ maxWord = 9223372036854775807
  := ⟨rfl, rfl⟩

/-- Inside the 64-bit range clamping changes nothing. -/
theorem clampWord_of_fits {x : ℤ} (hlo : minWord ≤ x) (hhi : x ≤ maxWord) :
  clampWord x = x
  := by
  unfold clampWord
  omega

/-- A saturating sum of nonnegative integers is their sum while that fits in 64 bits. -/
theorem foldl_satAdd_eq {s : ℤ} {xs : List ℤ} (hs : 0 ≤ s) (hxs : ∀ x ∈ xs, 0 ≤ x)
    (hsum : s + xs.sum ≤ maxWord) :
  xs.foldl satAdd s = s + xs.sum
  := by
  induction xs generalizing s with
  | nil => simp
  | cons x xs ih =>
    have hx := hxs x (List.mem_cons_self ..)
    have hrest : ∀ y ∈ xs, 0 ≤ y := fun y hy => hxs y (List.mem_cons_of_mem _ hy)
    have hrest0 : 0 ≤ xs.sum := List.sum_nonneg hrest
    obtain ⟨hmin, -⟩ := minWord_maxWord_eq
    rw [List.sum_cons] at hsum
    have hstep : satAdd s x = s + x := clampWord_of_fits (by omega) (by omega)
    rw [List.foldl_cons, hstep, ih (by omega) hrest (by omega), List.sum_cons, add_assoc]

/-- While the amounts are nonnegative and their sum and the total fit in 64 bits, the residual
is the plain difference. -/
theorem residualOf_eq_sub {t : ℤ} {xs : List ℤ} (ht0 : 0 ≤ t) (ht : t ≤ maxWord)
    (hxs : ∀ x ∈ xs, 0 ≤ x) (hsum : xs.sum ≤ maxWord) :
  residualOf t xs = t - xs.sum
  := by
  obtain ⟨hmin, hmax⟩ := minWord_maxWord_eq
  have hS0 := List.sum_nonneg hxs
  unfold residualOf
  rw [foldl_satAdd_eq le_rfl hxs (by omega), zero_add]
  unfold satSub
  rw [clampWord_of_fits (by omega) (by omega)]

/-! ### The residual -/

/-- Amounts each within half a unit of their shares sum to within half a unit per amount of the
sum of the shares. -/
theorem sum_amounts_close {t : ℤ} {as : List ℤ} {ns : List ℕ}
    (h : List.Forall₂ (fun a (n : ℕ) => 2 * |10000 * a - t * n| ≤ 10000) as ns) :
  2 * |10000 * as.sum - t * (ns.sum : ℕ)| ≤ 10000 * as.length
  := by
  induction h with
  | nil => simp
  | @cons a n as ns hhead _ ih =>
    have htri := abs_add_le (10000 * a - t * n) (10000 * as.sum - t * (ns.sum : ℕ))
    rw [List.sum_cons, List.sum_cons, List.length_cons, Nat.cast_add]
    calc 2 * |10000 * (a + as.sum) - t * (n + (ns.sum : ℕ))|
        = 2 * |10000 * a - t * n + (10000 * as.sum - t * (ns.sum : ℕ))| := by ring_nf
      _ ≤ 10000 * ((as.length + 1 : ℕ) : ℤ) := by rw [Nat.cast_succ]; linarith

/-- Rows whose hundredths make 10,000, of a total up to `10 ^ 11`, leave a residual of at most half
a unit per row. Each amount is within half a unit of its share, and with at least one hundredth a
row there are at most 10,000 rows, so the sums stay inside the 64-bit range, where they do not
saturate. -/
theorem residual_le_half_per_row {t : ℤ} (ht0 : 0 ≤ t) (ht : t ≤ 10 ^ 11) {rows : List Allocation}
    {ns : List ℕ} (hamounts : ∀ a ∈ rows, computeAmount t a.percentage = .ok a.amount)
    (hrows : List.Forall₂ (fun a n => IsHundredths a.percentage n) rows ns) (hsum : ns.sum = 10000) :
  2 * |residualOf t (rows.map (·.amount))| ≤ rows.length
  := by
  have hclose : List.Forall₂ (fun a (n : ℕ) => 0 ≤ a ∧ 2 * |10000 * a - t * n| ≤ 10000)
      (rows.map (·.amount)) ns := by
    rw [List.forall₂_map_left_iff]
    apply forall₂_imp_of_mem hrows
    intro a n ha _ hp
    exact abs_amount_sub_share_le ht0 ht hp.2.1 hp.ofHundredths (hamounts a ha)
  have hsum_close := sum_amounts_close (hclose.imp fun _ _ h => h.2)
  have hnonneg : ∀ x ∈ rows.map (·.amount), 0 ≤ x := by
    intro x hx
    obtain ⟨n, -, hxn⟩ := exists_of_forall₂_of_mem hclose.flip hx
    exact hxn.1
  have hlen : rows.length ≤ 10000 := by
    rw [hrows.length_eq, ← hsum]
    exact List.length_le_sum_of_one_le _ fun n hn => by
      obtain ⟨a, -, ha⟩ := exists_of_forall₂_of_mem hrows hn
      exact ha.1
  rw [List.length_map, hsum] at hsum_close
  set S := (rows.map (·.amount)).sum
  have hS0 : 0 ≤ S := List.sum_nonneg hnonneg
  have hdiff : 2 * |S - t| ≤ rows.length := by
    have h10000 : |10000 * S - t * ((10000 : ℕ) : ℤ)| = 10000 * |S - t| := by
      rw [show 10000 * S - t * ((10000 : ℕ) : ℤ) = 10000 * (S - t) by push_cast; ring, abs_mul]
      norm_num
    rw [h10000] at hsum_close
    omega
  obtain ⟨-, hmax⟩ := minWord_maxWord_eq
  have hS : S ≤ t + 5000 := by
    have := le_abs_self (S - t)
    omega
  rw [residualOf_eq_sub ht0 (by omega) hnonneg (by omega), abs_sub_comm]
  exact hdiff

/-! ### Allocated amounts -/

/-- Up to a total of `10 ^ 11`, the amount of `n` hundredths is the exact amount rounded half
up, except at a tie where it may be one less; an allocation whose hundredths make 10,000 leaves
a residual of at most half a unit per row; and below `2 ^ 51` a row of 100% receives the whole
total. -/
theorem allocated_amounts_round_half_up :
  (∀ (t : ℤ) (p : Float) (n : ℕ), 0 ≤ t → t ≤ 10 ^ 11 → n ≤ 10000 → OfHundredths p n →
      computeAmount t p = .ok ((t * n + 5000) / 10000)
        ∨ (t * n % 10000 = 5000 ∧ computeAmount t p = .ok ((t * n + 5000) / 10000 - 1)))
    ∧ (∀ (t : ℤ) (shares : List Share) (rows : List Allocation) (ns : List ℕ),
      0 ≤ t → t ≤ 10 ^ 11 → allocate t shares = .ok rows →
      List.Forall₂ (fun a n => IsHundredths a.percentage n) rows ns → ns.sum = 10000 →
      2 * |residualOf t (rows.map (·.amount))| ≤ rows.length)
    ∧ (∀ (t : ℤ) (shares : List Share) (rows : List Allocation),
      0 ≤ t → t < 2 ^ 51 → allocate t shares = .ok rows →
      ∀ a ∈ rows, IsHundredths a.percentage 10000 → a.amount = t)
  := by
  refine ⟨fun t p n ht0 ht hn hp => computeAmount_of_hundredths ht0 ht hn hp, ?_, ?_⟩
  · intro t shares rows ns ht0 ht hrun hrows hsum
    exact residual_le_half_per_row ht0 ht (allocate_amount hrun) hrows hsum
  · intro t shares rows ht0 ht hrun a ha hp
    exact Except.ok.inj ((allocate_amount hrun a ha).symm.trans (computeAmount_full ht0 ht hp.ofHundredths))

/-- Where the doubles miss the exact rounding. 1250 at 2.28% is exactly 28.5, which rounds half
up to 29, but the double nearest 2.28 lies below it and the amount is 28. Beyond `10 ^ 11` the
roundings move amounts off ties too: 713,152,995,177 at 98.87% is 705,094,366,331.4999 exactly,
and its amount is one more. And above `2 ^ 51` a row of 100% may receive one more than the
total. -/
theorem computeAmount_misses_exact_rounding :
  (computeAmount 1250 2.28 = .ok 28 ∧ ((1250 : ℤ) * 228 + 5000) / 10000 = 29)
    ∧ (computeAmount 713152995177 98.87 = .ok 705094366332
      ∧ ((713152995177 : ℤ) * 9887 + 5000) / 10000 = 705094366331)
    ∧ computeAmount 2882303761517144 100.0 = .ok 2882303761517145
  := ⟨⟨eq_ok_of_toOption (by decide +kernel), by norm_num⟩,
    ⟨eq_ok_of_toOption (by decide +kernel), by norm_num⟩, eq_ok_of_toOption (by decide +kernel)⟩

/-- The three statements at the tie of 1250 at 2.28%; at thirds of 100, rows of 33.34%, 33.33%
and 33.33% that each receive 33 and leave one unit over; and at an allocation of 1000 in one row
of 100%. -/
theorem allocated_amounts_round_half_up_whole :
  (computeAmount 1250 (228.0 / 100.0) = .ok ((1250 * (228 : ℕ) + 5000) / 10000)
      ∨ ((1250 : ℤ) * (228 : ℕ) % 10000 = 5000
        ∧ computeAmount 1250 (228.0 / 100.0) = .ok ((1250 * (228 : ℕ) + 5000) / 10000 - 1)))
    ∧ 2 * |residualOf 100 (([⟨1, 33.333333333333336, 3334.0 / 100.0, 33⟩,
        ⟨2, 33.333333333333336, 3333.0 / 100.0, 33⟩, ⟨3, 33.333333333333336, 3333.0 / 100.0, 33⟩] :
          List Allocation).map (·.amount))| ≤ 3
    ∧ ∀ a ∈ ([⟨1, 100.0, 100.0, 1000⟩] : List Allocation),
      IsHundredths a.percentage 10000 → a.amount = 1000
  := by
  have hthirds : allocate 100 [⟨1, 33.333333333333336⟩, ⟨2, 33.333333333333336⟩,
      ⟨3, 33.333333333333336⟩] = .ok [⟨1, 33.333333333333336, 3334.0 / 100.0, 33⟩,
        ⟨2, 33.333333333333336, 3333.0 / 100.0, 33⟩, ⟨3, 33.333333333333336, 3333.0 / 100.0, 33⟩] :=
    eq_ok_of_toOption (by decide +kernel)
  have hrun : allocate 1000 [⟨1, 100.0⟩] = .ok [⟨1, 100.0, 100.0, 1000⟩] :=
    eq_ok_of_toOption (by decide +kernel)
  obtain ⟨hfin228, hval228, hquot⟩ : (228.0 : Float).isFinite = true
      ∧ value 228.0 = ((228 : ℕ) : ℚ) ∧ (100.0 : Float) = 10000.0 / 100.0 := by
    decide +kernel
  obtain ⟨hfin3334, hval3334, hfin3333, hval3333⟩ : (3334.0 : Float).isFinite = true
      ∧ value 3334.0 = ((3334 : ℕ) : ℚ) ∧ (3333.0 : Float).isFinite = true
      ∧ value 3333.0 = ((3333 : ℕ) : ℚ) := by
    decide +kernel
  have h228 : IsHundredths (228.0 / 100.0) 228 :=
    ⟨by norm_num, by norm_num, 228.0, ⟨hfin228, hval228⟩, rfl⟩
  have h3334 : IsHundredths (3334.0 / 100.0) 3334 :=
    ⟨by norm_num, by norm_num, 3334.0, ⟨hfin3334, hval3334⟩, rfl⟩
  have h3333 : IsHundredths (3333.0 / 100.0) 3333 :=
    ⟨by norm_num, by norm_num, 3333.0, ⟨hfin3333, hval3333⟩, rfl⟩
  have h100 : IsHundredths 100.0 10000 :=
    ⟨by norm_num, le_rfl, 10000.0, ⟨isFinite_tenThousand, by rw [value_tenThousand]; norm_num⟩, hquot⟩
  exact ⟨allocated_amounts_round_half_up.1 1250 _ 228 (by norm_num) (by norm_num) (by norm_num)
      h228.ofHundredths,
    allocated_amounts_round_half_up.2.1 100 _ _ [3334, 3333, 3333] (by norm_num) (by norm_num) hthirds
      (.cons h3334 (.cons h3333 (.cons h3333 .nil))) rfl,
    allocated_amounts_round_half_up.2.2 1000 _ _ (by norm_num) (by norm_num) hrun⟩

end Payout
