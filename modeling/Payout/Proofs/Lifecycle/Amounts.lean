import Payout.Proofs.Books.Run
import Payout.Proofs.Allocation.Pipeline

/-!
# Stored amounts follow stored percentages

Three paths write a row's amount: a row added by hand, an automatic allocation, and a change
of the total profit, which rewrites the amount of every row of the distribution. The total
can change after rows exist. Along every run they agree: every stored row's amount is the
amount of its stored percentage of its distribution's current total profit
(`AmountsFollow`).

Two consequences are stated with it. Resubmitting a distribution's current total profit
changes nothing at all. After any changes of total profit, a distribution's rows are
determined by its last total: the changes keep every row but its amount, and the invariant
fixes the amount.
-/

namespace Payout.Lifecycle.Books

/-- Every row's amount is the amount of its percentage of the distribution's total profit. -/
def AmountsFollow (d : Distribution) (rows : List Detail) : Prop :=
  ∀ r ∈ rows, computeAmount d.totalProfit r.percentage = .ok r.amount

/-- Each operation keeps amounts following percentages. -/
theorem amountsFollow_kept : Kept AmountsFollow where
  create := by
    intro _ _ _ _ _ r hr
    cases hr
  addManual := by
    intro b _ distribution participant percentage d amount hadmit hrows r hr
    obtain ⟨-, -, -, -, -, hamount⟩ := admitManual_eq_ok b hadmit
    rcases List.mem_append.mp hr with hr | hr
    · exact hrows r hr
    · rw [List.mem_singleton.mp hr]
      exact hamount
  allocate := by
    intro b _ distribution d allocations hadmit _ r hr
    obtain ⟨-, -, hcompute⟩ := admitAutomatic_eq_ok b hadmit
    obtain ⟨s, hs, hr, -⟩ := mem_numberFrom hr
    obtain ⟨a, ha, rfl⟩ := List.mem_map.mp hs
    rw [hr]
    exact computeAllocations_amount hcompute a ha
  remove := by
    intro b _ id r d _ hrows s hs
    have hmem := (List.mem_filter.mp hs).1
    split
    · exact hrows s hmem
    · exact hrows s hmem
  retotal := by
    intro b _ distribution total d amounts hadmit _ s hs
    obtain ⟨-, -, hamounts⟩ := admitRetotal_eq_ok b hadmit
    obtain ⟨r, a, hra, rfl⟩ := exists_of_forall₂_of_mem_zipWith hamounts hs
    exact hra

/-! ### Resubmitting the current total -/

/-- Changing a distribution with a function that fixes the stored distributions of its
identifier changes nothing. -/
theorem modifyDistribution_eq_self (b : Books) {id : Int} {f : Distribution → Distribution}
    (hf : ∀ d ∈ b.distributions, d.id = some id → f d = d) :
  b.modifyDistribution id f = b
  := by
  have hmap : b.distributions.map (fun d => if d.id == some id then f d else d) = b.distributions := by
    apply (List.map_congr_left fun d hd => ?_).trans (List.map_id _)
    split
    · rename_i hid
      exact hf d hd (by simpa using hid)
    · rfl
  rw [modifyDistribution, hmap]

/-- The amount updates of rows with the amounts they have: each row with an identifier,
paired with its own amount. -/
theorem amountUpdates_map_amount (rows : List Detail) :
  amountUpdates rows (rows.map (·.amount)) = rows.filterMap fun r => r.id.map fun i => (i, r.amount)
  := by
  induction rows with
  | nil => rfl
  | cons r rows ih =>
    rw [List.map_cons, amountUpdates_cons, ih, List.filterMap_cons]
    cases r.id <;> rfl

/-- Changing the total profit of a stored distribution to the total it has, writing the amounts its
rows have, changes nothing. Every pair names a stored row and writes the amount that row has. -/
theorem Keyed.retotal_eq_self {b : Books} (hk : b.Keyed) {distribution : Int} {d : Distribution}
    (hd : b.distributionOf distribution = some d) :
  b.retotal distribution d.totalProfit ((b.detailsOf distribution).map (·.amount)) = b
  := by
  obtain ⟨hdmem, hdid⟩ := hk.distributionOf_eq_some.mp hd
  have hmod : b.modifyDistribution distribution (fun d' => { d' with totalProfit := d.totalProfit }) = b := by
    apply modifyDistribution_eq_self
    intro d' hd' hid
    rw [hk.distribution_eq hd' hdmem (hid.trans hdid.symm)]
  have hrows : ∀ s ∈ b.details, withAmounts (amountUpdates (b.detailsOf distribution)
      ((b.detailsOf distribution).map (·.amount))) s = s := by
    intro s hs
    apply withAmounts_eq_self
    intro p hp hsp
    rw [amountUpdates_map_amount] at hp
    obtain ⟨r, hr, hrp⟩ := List.mem_filterMap.mp hp
    obtain ⟨i, hri, rfl⟩ := Option.map_eq_some_iff.mp hrp
    rw [hk.row_eq hs (List.mem_filter.mp hr).1 (hsp.trans hri.symm)]
  rw [retotal, hmod, setAmounts_eq, List.map_congr_left hrows, List.map_id']

/-- On reachable books, resubmitting a distribution's current total profit changes nothing. The
amounts recomputed are the amounts already stored. -/
theorem serve_retotal_current_total {b : Books} (hb : Reachable b) {id : Int} {d : Distribution}
    (hd : b.distributionOf id = some d) (actor : Actor) (cause : Cause) :
  b.serve (.retotal id d.totalProfit) actor cause = b
  := by
  rw [serve_retotal, commit_updateTotalProfit]
  split
  · rfl
  · rename_i d' amounts hadmit
    obtain ⟨-, hd', hamounts⟩ := admitRetotal_eq_ok b hadmit
    cases hd.symm.trans hd'
    have hfollow : ∀ r ∈ b.detailsOf id, computeAmount d.totalProfit r.percentage = .ok r.amount :=
      amountsFollow_kept.reachable hb id d hd
    have hsame : amounts = (b.detailsOf id).map (·.amount) := by
      apply eq_map_of_forall₂
      apply ((List.forall₂_and_left _ _).mpr ⟨hfollow, hamounts⟩).imp
      intro r a ⟨hr, ha⟩
      exact Except.ok.inj (ha.symm.trans hr)
    rw [hsame]
    exact hb.keyed.retotal_eq_self hd

/-! ### Rows after changes of total profit -/

/-- A change of total profit of some distribution, served in a transaction. -/
inductive Retotal : Books → Books → Prop where
  | serve (b : Books) (distribution total : Int) (actor : Actor) (cause : Cause) :
      Retotal b (b.serve (.retotal distribution total) actor cause)

/-- A row with its amount left out. -/
def unpriced (r : Detail) : Detail := { r with amount := 0 }

theorem eq_iff_unpriced_eq {r s : Detail} :
  r = s ↔ unpriced r = unpriced s ∧ r.amount = s.amount
  := by
  constructor
  · rintro rfl
    exact ⟨rfl, rfl⟩
  · rintro ⟨h, ha⟩
    cases r
    cases s
    simp only [unpriced, Detail.mk.injEq, and_true] at h ha
    obtain ⟨rfl, rfl, rfl, rfl⟩ := h
    rw [ha]

theorem map_unpriced_zipWith {rows : List Detail} {amounts : List Int}
    (hlen : amounts.length = rows.length) :
  (List.zipWith (fun r a => { r with amount := a }) rows amounts).map unpriced = rows.map unpriced
  := by
  induction rows generalizing amounts with
  | nil => rfl
  | cons r rows ih =>
    obtain _ | ⟨a, amounts⟩ := amounts
    · simp at hlen
    rw [List.zipWith_cons_cons, List.map_cons, List.map_cons, ih (by simpa using hlen)]
    rfl

/-- A change of total profit keeps every row of every distribution but its amount. -/
theorem Retotal.map_unpriced {b b' : Books} (hk : b.Keyed) (h : Retotal b b') (id : Int) :
  (b'.detailsOf id).map unpriced = (b.detailsOf id).map unpriced
  := by
  cases h with
  | serve distribution total actor cause =>
    rw [serve_retotal, commit_updateTotalProfit]
    split
    · rfl
    · rename_i d amounts hadmit
      obtain ⟨-, hd, hamounts⟩ := admitRetotal_eq_ok b hadmit
      obtain ⟨-, hrows, hframe⟩ := hk.retotal_views total hd hamounts.length_eq.symm
      by_cases hid : id = distribution
      · subst hid
        rw [hrows, map_unpriced_zipWith hamounts.length_eq.symm]
      · rw [hframe.detailsOf_ne id hid]

/-- Changes of total profit from reachable books reach books whose rows are the same but for
their amounts. -/
theorem retotals_map_unpriced {b b' : Books} (hb : Reachable b) (h : Relation.ReflTransGen Retotal b b') :
  Reachable b' ∧ ∀ id, (b'.detailsOf id).map unpriced = (b.detailsOf id).map unpriced
  := by
  induction h with
  | refl => exact ⟨hb, fun _ => rfl⟩
  | @tail b₁ b₂ _ hstep ih =>
    obtain ⟨hreach, hrows⟩ := ih
    have hnext : Reachable b₂ := by
      cases hstep with
      | serve distribution total actor cause => exact hreach.tail (Step.serve _ _ actor cause)
    exact ⟨hnext, fun id => (hstep.map_unpriced hreach.keyed id).trans (hrows id)⟩

/-- Rows that agree but for their amounts, whose amounts follow one total, are equal. -/
theorem eq_of_map_unpriced_eq {total : Int} {rows₁ rows₂ : List Detail}
    (h : rows₁.map unpriced = rows₂.map unpriced)
    (h₁ : ∀ r ∈ rows₁, computeAmount total r.percentage = .ok r.amount)
    (h₂ : ∀ r ∈ rows₂, computeAmount total r.percentage = .ok r.amount) :
  rows₁ = rows₂
  := by
  induction rows₁ generalizing rows₂ with
  | nil => exact (List.map_eq_nil_iff.mp h.symm).symm
  | cons r rows₁ ih =>
    obtain _ | ⟨s, rows₂⟩ := rows₂
    · cases h
    obtain ⟨hrs, hrows⟩ := List.cons.inj h
    have hpercentage : r.percentage = s.percentage :=
      show (unpriced r).percentage = (unpriced s).percentage from congrArg Detail.percentage hrs
    have hamount : r.amount = s.amount := by
      have hr := h₁ r List.mem_cons_self
      rw [hpercentage, h₂ s List.mem_cons_self] at hr
      exact (Except.ok.inj hr).symm
    rw [eq_iff_unpriced_eq.mpr ⟨hrs, hamount⟩,
      ih hrows (fun r hr => h₁ r (List.mem_cons_of_mem _ hr)) (fun r hr => h₂ r (List.mem_cons_of_mem _ hr))]

/-- After changes of total profit from reachable books, a distribution's rows depend only on
its last total. -/
theorem rows_eq_of_retotals {b b₁ b₂ : Books} (hb : Reachable b) (h₁ : Relation.ReflTransGen Retotal b b₁)
    (h₂ : Relation.ReflTransGen Retotal b b₂) {id : Int}
    (htotal : (b₁.distributionOf id).map (·.totalProfit) = (b₂.distributionOf id).map (·.totalProfit)) :
  b₁.detailsOf id = b₂.detailsOf id
  := by
  obtain ⟨hreach₁, hrows₁⟩ := retotals_map_unpriced hb h₁
  obtain ⟨hreach₂, hrows₂⟩ := retotals_map_unpriced hb h₂
  cases hd₁ : b₁.distributionOf id with
  | none =>
    rw [hd₁] at htotal
    have hd₂ : b₂.distributionOf id = none := Option.map_eq_none_iff.mp htotal.symm
    rw [hreach₁.keyed.detailsOf_eq_nil_of_distributionOf hd₁,
      hreach₂.keyed.detailsOf_eq_nil_of_distributionOf hd₂]
  | some d₁ =>
    rw [hd₁] at htotal
    obtain ⟨d₂, hd₂, hsame⟩ := Option.map_eq_some_iff.mp htotal.symm
    have htotal' : d₂.totalProfit = d₁.totalProfit := hsame
    apply eq_of_map_unpriced_eq ((hrows₁ id).trans (hrows₂ id).symm)
      (amountsFollow_kept.reachable hreach₁ id d₁ hd₁)
    rw [← htotal']
    exact amountsFollow_kept.reachable hreach₂ id d₂ hd₂

/-- Stored amounts follow stored percentages on every reachable state; resubmitting a
distribution's current total changes nothing; and after changes of total profit a
distribution's rows depend only on its last total. -/
theorem amounts_follow_percentages {b : Books} (hb : Reachable b) :
  Everywhere AmountsFollow b
    ∧ (∀ id d actor cause, b.distributionOf id = some d →
        b.serve (.retotal id d.totalProfit) actor cause = b)
    ∧ (∀ b₁ b₂, Relation.ReflTransGen Retotal b b₁ → Relation.ReflTransGen Retotal b b₂ → ∀ id,
        (b₁.distributionOf id).map (·.totalProfit) = (b₂.distributionOf id).map (·.totalProfit) →
        b₁.detailsOf id = b₂.detailsOf id)
  := by
  refine ⟨amountsFollow_kept.reachable hb, ?_, ?_⟩
  · intro id d actor cause hd
    exact serve_retotal_current_total hb hd actor cause
  · intro b₁ b₂ h₁ h₂ id htotal
    exact rows_eq_of_retotals hb h₁ h₂ htotal

theorem amounts_follow_percentages_sampleRun :
  Reachable sampleRun
    ∧ Everywhere AmountsFollow sampleRun
    ∧ (∀ id d actor cause, sampleRun.distributionOf id = some d →
        sampleRun.serve (.retotal id d.totalProfit) actor cause = sampleRun)
    ∧ (∀ b₁ b₂, Relation.ReflTransGen Retotal sampleRun b₁ → Relation.ReflTransGen Retotal sampleRun b₂ →
        ∀ id, (b₁.distributionOf id).map (·.totalProfit) = (b₂.distributionOf id).map (·.totalProfit) →
        b₁.detailsOf id = b₂.detailsOf id)
  := ⟨reachable_sampleRun, amounts_follow_percentages reachable_sampleRun⟩

end Payout.Lifecycle.Books
