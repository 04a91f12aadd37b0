import Payout.Proofs.Books.Operations

/-!
# Identifiers on the books

The store hands out identifiers as the database's `AUTOINCREMENT` keys do: every stored row
and distribution has one, none is above the last one given, a new record gets a larger one
than every record before it, and records are listed in the order of their identifiers. A
row belongs to a distribution that is stored. `Keyed` says all this of a state of the books;
it holds of the empty books and every write of the lifecycle keeps it.

Two consequences carry the later proofs: an identifier names at most one row and at most
one distribution, and a distribution's rows are listed in increasing identifier order.
-/

namespace Payout.Lifecycle.Books

/-- The identifier a row is stored under, `0` for a row not yet stored. -/
def rowKey (r : Detail) : Int := r.id.getD 0

/-- The identifier a distribution is stored under, `0` for one not yet stored. -/
def distKey (d : Distribution) : Int := d.id.getD 0

/-- Identifiers as the store hands them out: each stored row and distribution has one, at
most the last one given; each list is in increasing order of them; and every row belongs to
a stored distribution. -/
structure Keyed (b : Books) : Prop where
  row_id : ∀ r ∈ b.details, r.id = some (rowKey r) ∧ rowKey r ≤ b.lastId
  row_order : b.details.Pairwise fun r s => rowKey r < rowKey s
  distribution_id : ∀ d ∈ b.distributions, d.id = some (distKey d) ∧ distKey d ≤ b.lastId
  distribution_order : b.distributions.Pairwise fun d e => distKey d < distKey e
  owner : ∀ r ∈ b.details, ∃ d ∈ b.distributions, d.id = some r.distribution

theorem keyed_empty :
  Keyed empty
  := ⟨by simp [empty], .nil, by simp [empty], .nil, by simp [empty]⟩

/-- In a list in strictly increasing order of a key, the key picks out one element. -/
theorem eq_of_key_eq {α : Type} {key : α → Int} {l : List α}
    (hl : l.Pairwise fun x y => key x < key y) {x y : α} (hx : x ∈ l) (hy : y ∈ l)
    (he : key x = key y) :
  x = y
  := by
  induction l with
  | nil => simp at hx
  | cons z l ih =>
    rw [List.pairwise_cons] at hl
    rcases List.mem_cons.mp hx with rfl | hx' <;> rcases List.mem_cons.mp hy with rfl | hy'
    · rfl
    · exact absurd (hl.1 y hy') (by omega)
    · exact absurd (hl.1 x hx') (by omega)
    · exact ih hl.2 hx' hy'

/-- The distribution of an identifier is a stored distribution that has it. -/
theorem mem_of_distributionOf {b : Books} {d : Distribution} {id : Int}
    (h : b.distributionOf id = some d) :
  d ∈ b.distributions ∧ d.id = some id
  := ⟨List.mem_of_find?_eq_some h, by simpa using List.find?_some h⟩

section Keyed

variable {b : Books} (hk : b.Keyed)
include hk

/-- Two stored rows under one identifier are the same row. -/
theorem Keyed.row_eq {r s : Detail} (hr : r ∈ b.details) (hs : s ∈ b.details)
    (he : r.id = s.id) :
  r = s
  := by
  apply eq_of_key_eq hk.row_order hr hs
  have h := (hk.row_id r hr).1.symm.trans (he.trans (hk.row_id s hs).1)
  exact Option.some.inj h

/-- Two stored distributions under one identifier are the same distribution. -/
theorem Keyed.distribution_eq {d e : Distribution} (hd : d ∈ b.distributions)
    (he : e ∈ b.distributions) (hde : d.id = e.id) :
  d = e
  := by
  apply eq_of_key_eq hk.distribution_order hd he
  have h := (hk.distribution_id d hd).1.symm.trans (hde.trans (hk.distribution_id e he).1)
  exact Option.some.inj h

/-- The distribution of an identifier is the stored distribution that has it. -/
theorem Keyed.distributionOf_eq_some {d : Distribution} {id : Int} :
  b.distributionOf id = some d ↔ d ∈ b.distributions ∧ d.id = some id
  := by
  constructor
  · exact mem_of_distributionOf
  · rintro ⟨hd, hid⟩
    have hs : (b.distributionOf id).isSome := List.find?_isSome.mpr ⟨d, hd, by simpa using hid⟩
    obtain ⟨e, he⟩ := Option.isSome_iff_exists.mp hs
    have hem : e ∈ b.distributions := List.mem_of_find?_eq_some he
    have heid : e.id = some id := by simpa using List.find?_some he
    rw [he, hk.distribution_eq hem hd (heid.trans hid.symm)]

/-- No distribution and no row is stored under an identifier above the last one given. -/
theorem Keyed.distributionOf_eq_none {id : Int} (hid : b.lastId < id) :
  b.distributionOf id = none
  := by
  rw [distributionOf, List.find?_eq_none]
  intro d hd
  have h := hk.distribution_id d hd
  rw [h.1]
  simp only [Option.some.injEq, beq_iff_eq]
  omega

theorem Keyed.detailsOf_eq_nil {id : Int} (hid : b.lastId < id) :
  b.detailsOf id = []
  := by
  rw [detailsOf, List.filter_eq_nil_iff]
  intro r hr
  obtain ⟨d, hd, hdr⟩ := hk.owner r hr
  have h := hk.distribution_id d hd
  rw [h.1, Option.some.injEq] at hdr
  simp only [beq_iff_eq]
  omega

/-- A distribution that is not stored has no rows. -/
theorem Keyed.detailsOf_eq_nil_of_distributionOf {id : Int} (h : b.distributionOf id = none) :
  b.detailsOf id = []
  := by
  rw [detailsOf, List.filter_eq_nil_iff]
  intro r hr hrid
  obtain ⟨d, hd, hdid⟩ := hk.owner r hr
  have hrd : r.distribution = id := by simpa using hrid
  rw [hrd] at hdid
  have hsome := hk.distributionOf_eq_some.mpr ⟨hd, hdid⟩
  rw [h] at hsome
  cases hsome

end Keyed

/-! ### Numbered rows -/

/-- A numbered row is a given row under an identifier in the range numbered. -/
theorem mem_numberFrom {start : Int} {rows : List Detail} {r' : Detail}
    (h : r' ∈ numberFrom start rows) :
  ∃ r ∈ rows, r' = { r with id := some (rowKey r') } ∧ start ≤ rowKey r'
    ∧ rowKey r' < start + rows.length
  := by
  induction rows generalizing start with
  | nil => simp [numberFrom] at h
  | cons r rows ih =>
    rcases List.mem_cons.mp h with rfl | h
    · refine ⟨r, List.mem_cons_self, rfl, by simp [rowKey], ?_⟩
      simp only [rowKey, Option.getD_some, List.length_cons]
      omega
    · obtain ⟨s, hs, he, hlo, hhi⟩ := ih h
      refine ⟨s, List.mem_cons_of_mem r hs, he, by omega, ?_⟩
      simp only [List.length_cons]
      omega

theorem numberFrom_order (start : Int) (rows : List Detail) :
  (numberFrom start rows).Pairwise fun r s => rowKey r < rowKey s
  := by
  induction rows generalizing start with
  | nil => exact .nil
  | cons r rows ih =>
    refine List.Pairwise.cons ?_ (ih (start + 1))
    intro s hs
    obtain ⟨_, _, _, h, _⟩ := mem_numberFrom hs
    change start < rowKey s
    omega

/-- Numbering rows changes nothing a function reads when it does not read identifiers. -/
theorem numberFrom_map {β : Type} (f : Detail → β) (hf : ∀ r k, f { r with id := some k } = f r)
    (start : Int) (rows : List Detail) :
  (numberFrom start rows).map f = rows.map f
  := by
  induction rows generalizing start with
  | nil => rfl
  | cons r rows ih => simp only [numberFrom, List.map_cons, hf, ih]

/-! ### The writes keep identifiers as the store hands them out -/

section Writes

variable {b : Books} (hk : b.Keyed)
include hk

theorem Keyed.addDistribution (d : Distribution) :
  (b.addDistribution d).Keyed
  := by
  refine ⟨fun r hr => ?_, hk.row_order, fun e he => ?_, ?_, fun r hr => ?_⟩
  · have h := hk.row_id r hr
    exact ⟨h.1, by simp only [Books.addDistribution]; omega⟩
  · rcases List.mem_append.mp he with he | he
    · have h := hk.distribution_id e he
      exact ⟨h.1, by simp only [Books.addDistribution]; omega⟩
    · rw [List.mem_singleton.mp he]
      simp [distKey, Books.addDistribution]
  · refine List.pairwise_append.mpr ⟨hk.distribution_order, List.pairwise_singleton _ _, ?_⟩
    intro e he d' hd'
    rw [List.mem_singleton.mp hd']
    have h := hk.distribution_id e he
    simp only [distKey, Option.getD_some] at h ⊢
    omega
  · obtain ⟨d', hd', hid⟩ := hk.owner r hr
    exact ⟨d', List.mem_append_left _ hd', hid⟩

/-- Storing a row of a stored distribution keeps identifiers as the store hands them out. -/
theorem Keyed.storeDetail (r : Detail) (hr : ∃ d ∈ b.distributions, d.id = some r.distribution) :
  (b.storeDetail r).2.Keyed
  := by
  rw [storeDetail_eq]
  refine ⟨fun s hs => ?_, ?_, fun d hd => ?_, hk.distribution_order, fun s hs => ?_⟩
  · rcases List.mem_append.mp hs with hs | hs
    · have h := hk.row_id s hs
      exact ⟨h.1, by dsimp only; omega⟩
    · rw [List.mem_singleton.mp hs]
      simp [rowKey]
  · refine List.pairwise_append.mpr ⟨hk.row_order, List.pairwise_singleton _ _, ?_⟩
    intro s hs s' hs'
    rw [List.mem_singleton.mp hs']
    have h := hk.row_id s hs
    simp only [rowKey, Option.getD_some] at h ⊢
    omega
  · have h := hk.distribution_id d hd
    exact ⟨h.1, by dsimp only; omega⟩
  · rcases List.mem_append.mp hs with hs | hs
    · exact hk.owner s hs
    · rw [List.mem_singleton.mp hs]
      exact hr

/-- Changing a distribution without touching identifiers keeps them as the store hands
them out. -/
theorem Keyed.modifyDistribution (id : Int) (f : Distribution → Distribution)
    (hf : ∀ d, (f d).id = d.id) :
  (b.modifyDistribution id f).Keyed
  := by
  have hg : ∀ d : Distribution, (if d.id == some id then f d else d).id = d.id := by
    intro d
    split <;> simp [hf]
  have hkey : ∀ d : Distribution, distKey (if d.id == some id then f d else d) = distKey d := by
    intro d
    simp only [distKey, hg]
  refine ⟨hk.row_id, hk.row_order, fun e he => ?_, ?_, fun r hr => ?_⟩
  · obtain ⟨d, hd, rfl⟩ := List.mem_map.mp he
    rw [hg, hkey]
    exact hk.distribution_id d hd
  · refine List.pairwise_map.mpr (hk.distribution_order.imp ?_)
    intro d e hde
    rw [hkey, hkey]
    exact hde
  · obtain ⟨d, hd, hid⟩ := hk.owner r hr
    exact ⟨_, List.mem_map_of_mem hd, (hg d).trans hid⟩

/-- Dropping rows keeps identifiers as the store hands them out. -/
theorem Keyed.filterDetails (p : Detail → Bool) :
  ({ b with details := b.details.filter p } : Books).Keyed
  := by
  refine ⟨fun r hr => hk.row_id r (List.mem_filter.mp hr).1, hk.row_order.filter p,
    hk.distribution_id, hk.distribution_order, fun r hr => hk.owner r (List.mem_filter.mp hr).1⟩

/-- Storing rows of a stored distribution one after the other keeps identifiers as the store
hands them out. -/
theorem Keyed.storeDetails (rows : List Detail)
    (hrows : ∀ r ∈ rows, ∃ d ∈ b.distributions, d.id = some r.distribution) :
  (b.storeDetails rows).2.Keyed
  := by
  rw [storeDetails_eq]
  refine ⟨fun s hs => ?_, ?_, fun d hd => ?_, hk.distribution_order, fun s hs => ?_⟩
  · rcases List.mem_append.mp hs with hs | hs
    · have h := hk.row_id s hs
      exact ⟨h.1, by dsimp only; omega⟩
    · obtain ⟨r, _, he, _, hhi⟩ := mem_numberFrom hs
      refine ⟨by rw [he]; rfl, ?_⟩
      dsimp only
      omega
  · refine List.pairwise_append.mpr ⟨hk.row_order, numberFrom_order _ _, ?_⟩
    intro s hs s' hs'
    obtain ⟨_, _, _, hlo, _⟩ := mem_numberFrom hs'
    have h := (hk.row_id s hs).2
    omega
  · have h := hk.distribution_id d hd
    exact ⟨h.1, by dsimp only; omega⟩
  · rcases List.mem_append.mp hs with hs | hs
    · exact hk.owner s hs
    · obtain ⟨r, hr, he, _, _⟩ := mem_numberFrom hs
      rw [he]
      exact hrows r hr

/-- Writing amounts keeps identifiers as the store hands them out. -/
theorem Keyed.setAmounts (pairs : List (Int × Int)) :
  (pairs.foldl setAmount b).Keyed
  := by
  induction pairs generalizing b with
  | nil => exact hk
  | cons p pairs ih =>
    apply ih
    have hg : ∀ d : Detail, (if d.id == some p.1 then { d with amount := p.2 } else d).id = d.id
        ∧ (if d.id == some p.1 then { d with amount := p.2 } else d).distribution = d.distribution := by
      intro d
      split <;> simp
    have hkey : ∀ d : Detail, rowKey (if d.id == some p.1 then { d with amount := p.2 } else d)
        = rowKey d := by
      intro d
      simp only [rowKey, (hg d).1]
    refine ⟨fun r hr => ?_, ?_, hk.distribution_id, hk.distribution_order, fun r hr => ?_⟩
    · obtain ⟨d, hd, rfl⟩ := List.mem_map.mp hr
      rw [(hg d).1, hkey]
      exact hk.row_id d hd
    · refine List.pairwise_map.mpr (hk.row_order.imp ?_)
      intro d e hde
      rw [hkey, hkey]
      exact hde
    · obtain ⟨d, hd, rfl⟩ := List.mem_map.mp hr
      rw [(hg d).2]
      exact hk.owner d hd

end Writes

end Payout.Lifecycle.Books
