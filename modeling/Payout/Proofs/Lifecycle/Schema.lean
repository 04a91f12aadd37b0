import Payout.Proofs.Books.Outcomes
import Payout.Proofs.Allocation.Percentages

/-!
# Lifecycle writes fit the schema

The table of detail rows has three kinds of constraint: a percentage in `(0, 100]` (a CHECK),
a stored distribution and a stored participant (FOREIGN KEYs), and at most one row of a
distribution for a participant (a UNIQUE key). The lifecycle never relies on the table to
refuse a row: its own checks admit only rows that fit (`Fits`).

* A row added by hand fits the books it is added to (`fits_of_admitManual`): its percentage,
  distribution and participant are checked, and `validateUnallocated` finds no row of the
  participant in the distribution.
* The rows of an automatic allocation fit one after another, once the distribution's old rows
  are gone (`fitsInOrder_of_admitAutomatic`): each percentage is whole hundredths from 1 to
  10,000 over 100, each participant comes from the standings, and the standings name each
  participant once, as the store lists them (`Registered`).

Hence along every run of registered books each distribution has at most one row per
participant (`lifecycle_writes_fit_schema`).
-/

namespace Payout.Lifecycle.Books

/-! ### Rows the table accepts -/

/-- The key of the table's UNIQUE constraint: a row's distribution and participant. -/
def uniqueKey (r : Detail) : Int × Int := (r.distribution, r.participant)

/-- A row the CHECK and FOREIGN KEY constraints accept next to the books' records. -/
structure Allowed (b : Books) (r : Detail) : Prop where
  percentage_pos : 0.0 < r.percentage
  percentage_le : r.percentage ≤ 100.0
  distribution : ∃ d ∈ b.distributions, d.id = some r.distribution
  participant : ∃ p ∈ b.participants, p.id = some r.participant

/-- A row the table accepts next to the books' records: allowed, and no stored row has its
distribution and participant. -/
structure Fits (b : Books) (r : Detail) : Prop extends Allowed b r where
  unique : ∀ s ∈ b.details, uniqueKey s ≠ uniqueKey r

/-- Rows the table accepts when they are inserted one after another. -/
def FitsInOrder : Books → List Detail → Prop
  | _, [] => True
  | b, r :: rows => b.Fits r ∧ FitsInOrder (b.storeDetail r).2 rows

/-- At most one row of a distribution for a participant. -/
def OneRowEach (b : Books) : Prop := (b.details.map uniqueKey).Nodup

/-- Participants as the store keeps them: each under an identifier, no identifier twice. -/
structure Registered (b : Books) : Prop where
  keyed : ∀ p ∈ b.participants, p.id = some (p.id.getD 0)
  distinct : (b.participants.map (·.id)).Nodup

/-! ### Inserting rows -/

theorem Allowed.storeDetail {b : Books} {r : Detail} (h : Allowed b r) (s : Detail) :
  Allowed (b.storeDetail s).2 r
  := ⟨h.percentage_pos, h.percentage_le, h.distribution, h.participant⟩

/-- Storing a row that fits keeps one row for each key. -/
theorem Fits.oneRowEach {b : Books} {r : Detail} (hfit : b.Fits r) (h : OneRowEach b) :
  OneRowEach (b.storeDetail r).2
  := by
  rw [OneRowEach, storeDetail_eq, List.map_append, List.map_singleton]
  refine List.nodup_append.mpr ⟨h, List.nodup_singleton _, ?_⟩
  intro k hk k' hk' hkk'
  obtain ⟨s, hs, rfl⟩ := List.mem_map.mp hk
  rw [List.mem_singleton.mp hk'] at hkk'
  exact hfit.unique s hs hkk'

/-- Rows each allowed, with keys that no stored row has and that differ from each other, fit
when inserted one after another. The induction follows the insertions. -/
theorem fitsInOrder_of_fresh {b : Books} {rows : List Detail} (hallowed : ∀ r ∈ rows, Allowed b r)
    (hfresh : ∀ r ∈ rows, ∀ s ∈ b.details, uniqueKey s ≠ uniqueKey r)
    (hnodup : (rows.map uniqueKey).Nodup) :
  FitsInOrder b rows
  := by
  induction rows generalizing b with
  | nil => trivial
  | cons r rows ih =>
    rw [List.map_cons, List.nodup_cons] at hnodup
    refine ⟨⟨hallowed r List.mem_cons_self, hfresh r List.mem_cons_self⟩, ih ?_ ?_ hnodup.2⟩
    · intro r' hr'
      exact (hallowed r' (List.mem_cons_of_mem _ hr')).storeDetail r
    · intro r' hr' s hs
      rw [storeDetail_eq] at hs
      rcases List.mem_append.mp hs with hs | hs
      · exact hfresh r' (List.mem_cons_of_mem _ hr') s hs
      · rw [List.mem_singleton.mp hs]
        intro hkey
        exact hnodup.1 (hkey ▸ List.mem_map_of_mem hr')

/-- Storing rows that fit one after another keeps one row for each key. -/
theorem FitsInOrder.oneRowEach {b : Books} {rows : List Detail} (hfit : FitsInOrder b rows)
    (h : OneRowEach b) :
  OneRowEach (b.storeDetails rows).2
  := by
  induction rows generalizing b with
  | nil => exact h
  | cons r rows ih =>
    obtain ⟨hr, hrows⟩ := hfit
    exact ih hrows (hr.oneRowEach h)

/-! ### What the lifecycle asks the store to insert -/

/-- A row added by hand fits the books it is added to. A stored row with this key would be a row of
the distribution held by the participant. -/
theorem fits_of_admitManual {b : Books} {distribution participant : Int} {percentage : Float}
    {d : Distribution} {amount : Int}
    (h : b.admitManual distribution participant percentage = .ok (d, amount)) (id : Option Int) :
  b.Fits ⟨id, distribution, participant, percentage, amount⟩
  := by
  obtain ⟨hvalid, hd, hparticipant, hunallocated, -, -⟩ := admitManual_eq_ok b h
  have hrange := validatePercentage_eq_ok hvalid
  refine ⟨⟨hrange.pos, hrange.le_hundred, ?_, hparticipant⟩, ?_⟩
  · exact ⟨d, mem_of_distributionOf hd⟩
  · intro s hs hkey
    simp only [uniqueKey, Prod.mk.injEq] at hkey
    unfold validateUnallocated at hunallocated
    split at hunallocated
    · cases hunallocated
    rename_i hnone
    apply hnone
    apply List.any_eq_true.mpr
    refine ⟨s, List.mem_filter.mpr ⟨hs, by simp [hkey.1]⟩, by simp [hkey.2]⟩

/-- The participants of the standings of registered books are stored, each once. -/
theorem Registered.standings {b : Books} (hreg : b.Registered) :
  ((b.participants.map b.standingOf).map (·.participant)).Nodup
    ∧ ∀ k ∈ (b.participants.map b.standingOf).map (·.participant), ∃ p ∈ b.participants, p.id = some k
  := by
  have hmap : (b.participants.map b.standingOf).map (·.participant)
      = (b.participants.map (·.id)).map (·.getD 0) := by
    rw [List.map_map, List.map_map]
    rfl
  rw [hmap]
  refine ⟨?_, ?_⟩
  · apply List.Nodup.map_on _ hreg.distinct
    intro x hx y hy hxy
    obtain ⟨p, hp, rfl⟩ := List.mem_map.mp hx
    obtain ⟨q, hq, rfl⟩ := List.mem_map.mp hy
    rw [hreg.keyed p hp, hreg.keyed q hq, hxy]
  · intro k hk
    obtain ⟨x, hx, rfl⟩ := List.mem_map.mp hk
    obtain ⟨p, hp, rfl⟩ := List.mem_map.mp hx
    exact ⟨p, hp, hreg.keyed p hp⟩

/-- The rows of an automatic allocation fit one after another into the books without the
distribution's old rows. The old rows of the distribution are gone. -/
theorem fitsInOrder_of_admitAutomatic {b : Books} (hreg : b.Registered) {distribution : Int}
    {d : Distribution} {allocations : List Allocation}
    (h : b.admitAutomatic distribution = .ok (d, allocations)) :
  FitsInOrder { b with details := b.details.filter (·.distribution != distribution) }
    (allocationRows distribution allocations)
  := by
  obtain ⟨hd, -, hcompute⟩ := admitAutomatic_eq_ok b h
  obtain ⟨ns, hns, -⟩ := computeAllocations_hundredths hcompute
  have hparticipants := computeAllocations_participants hcompute
  obtain ⟨hdistinct, hstored⟩ := hreg.standings
  apply fitsInOrder_of_fresh
  · intro r hr
    obtain ⟨a, ha, rfl⟩ := List.mem_map.mp hr
    obtain ⟨n, -, hn⟩ := exists_of_forall₂_of_mem hns.flip ha
    have hrange := IsHundredths.inRange hn
    refine ⟨hrange.pos, hrange.le_hundred, ?_, ?_⟩
    · exact ⟨d, mem_of_distributionOf hd⟩
    · exact hstored a.participant (hparticipants.subset (List.mem_map_of_mem ha))
  · intro r hr s hs hkey
    obtain ⟨a, -, rfl⟩ := List.mem_map.mp hr
    have hother := (List.mem_filter.mp hs).2
    simp only [uniqueKey, Prod.mk.injEq] at hkey
    simp [hkey.1] at hother
  · rw [allocationRows, List.map_map]
    have hkeys : (uniqueKey ∘ fun a : Allocation => (⟨none, distribution, a.participant,
        a.percentage, a.amount⟩ : Detail)) = (fun k => (distribution, k)) ∘ (·.participant) := rfl
    rw [hkeys, ← List.map_map]
    exact (hdistinct.sublist hparticipants).map fun k k' h => (Prod.mk.inj h).2

/-! ### Every run -/

/-- Serving a call changes no participant. -/
theorem participants_serve (b : Books) (req : Request) (actor : Actor) (cause : Cause) :
  (b.serve req actor cause).participants = b.participants
  := by
  obtain ⟨ds, rows, n, hserve⟩ := serve_eq_with b actor cause req
  rw [hserve]

theorem registered_empty :
  Registered empty
  := by
  refine ⟨?_, List.nodup_nil⟩
  intro p hp
  cases hp

theorem Registered.serve {b : Books} (hreg : b.Registered) (req : Request) (actor : Actor)
    (cause : Cause) :
  (b.serve req actor cause).Registered
  := by
  refine ⟨?_, ?_⟩
  · rw [participants_serve]
    exact hreg.keyed
  · rw [participants_serve]
    exact hreg.distinct

/-- A participant registered under a fresh identifier keeps the participants registered. -/
theorem Registered.addParticipant {b : Books} (hreg : b.Registered)
    (hfresh : ∀ p ∈ b.participants, p.id ≠ some (b.lastId + 1)) (name : String)
    (investment : Float) (role : Option Int) (active : Bool) :
  (b.addParticipant name investment role active).2.Registered
  := by
  refine ⟨fun p hp => ?_, ?_⟩
  · rcases List.mem_append.mp hp with hp | hp
    · exact hreg.keyed p hp
    · rw [List.mem_singleton.mp hp]
      rfl
  · show ((b.participants ++ [(⟨some (b.lastId + 1), name, investment, role, active⟩ : Participant)]).map
      (·.id)).Nodup
    rw [List.map_append, List.map_singleton]
    refine List.nodup_append.mpr ⟨hreg.distinct, List.nodup_singleton _, ?_⟩
    intro k hk k' hk' hkk'
    obtain ⟨p, hp, rfl⟩ := List.mem_map.mp hk
    rw [List.mem_singleton.mp hk'] at hkk'
    exact hfresh p hp hkk'

/-- Serving a call keeps one row for each key: the rows it inserts fit, and removing rows or
writing amounts changes no key. -/
theorem OneRowEach.serve {b : Books} (h : OneRowEach b) (hreg : b.Registered) (req : Request)
    (actor : Actor) (cause : Cause) :
  OneRowEach (b.serve req actor cause)
  := by
  cases req with
  | create period date totalProfit =>
    rw [serve_create, commit_createDistribution]
    split
    · exact h
    · exact h
  | addManual distribution participant percentage =>
    rw [serve_addManual, commit_addManualDetail]
    split
    · exact h
    · rename_i d amount hadmit
      have hstored := (fits_of_admitManual hadmit none).oneRowEach h
      unfold addManual
      dsimp only
      split
      · exact hstored
      · exact hstored
  | allocate distribution =>
    rw [serve_allocate, commit_runAutomaticAllocation]
    split
    · exact h
    · rename_i d allocations hadmit
      have hcleared : OneRowEach { b with details := b.details.filter (·.distribution != distribution) } :=
        (List.filter_sublist.map uniqueKey).nodup h
      exact (fitsInOrder_of_admitAutomatic hreg hadmit).oneRowEach hcleared
  | remove id =>
    rw [serve_remove, commit_removeDetail]
    split
    · exact h
    · have hremoved : OneRowEach { b with details := b.details.filter (·.id != some id) } :=
        (List.filter_sublist.map uniqueKey).nodup h
      unfold removeRow
      dsimp only
      split
      · exact hremoved
      · exact hremoved
  | retotal distribution total =>
    rw [serve_retotal, commit_updateTotalProfit]
    split
    · exact h
    · rename_i d amounts hadmit
      have hkeys : uniqueKey ∘ withAmounts (amountUpdates (b.detailsOf distribution) amounts)
          = uniqueKey := by
        funext r
        rw [Function.comp_apply, withAmounts_eq]
        rfl
      rw [OneRowEach, retotal, details_setAmounts, List.map_map, hkeys]
      exact h

/-- The books some run from empty books reaches with its participants registered all along,
as the store keeps them. -/
def RegisteredReachable (b : Books) : Prop :=
  Relation.ReflTransGen (fun b b' => Step b b' ∧ b'.Registered) empty b

/-- The run lemma: books reached with registered participants are reachable, registered, and
hold one row for each key. -/
theorem RegisteredReachable.oneRowEach {b : Books} (hb : RegisteredReachable b) :
  Reachable b ∧ b.Registered ∧ OneRowEach b
  := by
  induction hb with
  | refl => exact ⟨.refl, registered_empty, List.nodup_nil⟩
  | tail _ hstep ih =>
    obtain ⟨hreach, hreg, hone⟩ := ih
    obtain ⟨hstep, hreg'⟩ := hstep
    refine ⟨hreach.tail hstep, hreg', ?_⟩
    cases hstep with
    | serve req actor cause => exact hone.serve hreg req actor cause
    | bookkeeping _ hdetails _ =>
      rw [OneRowEach, hdetails]
      exact hone

theorem RegisteredReachable.serve {b : Books} (hb : RegisteredReachable b) (req : Request)
    (actor : Actor) (cause : Cause) :
  RegisteredReachable (b.serve req actor cause)
  := hb.tail ⟨.serve b req actor cause, hb.oneRowEach.2.1.serve req actor cause⟩

/-- Every row the lifecycle asks the store to insert fits the table's constraints where it is
inserted, so no operation is refused by the table; and on every state reached with registered
participants each distribution has at most one row per participant. -/
theorem lifecycle_writes_fit_schema {b : Books} (hb : RegisteredReachable b) :
  (∀ distribution participant percentage d amount,
      b.admitManual distribution participant percentage = .ok (d, amount) →
        b.Fits ⟨none, distribution, participant, percentage, amount⟩)
    ∧ (∀ distribution d allocations, b.admitAutomatic distribution = .ok (d, allocations) →
        FitsInOrder { b with details := b.details.filter (·.distribution != distribution) }
          (allocationRows distribution allocations))
    ∧ OneRowEach b
  := by
  obtain ⟨-, hreg, hone⟩ := hb.oneRowEach
  refine ⟨?_, ?_, hone⟩
  · intro distribution participant percentage d amount hadmit
    exact fits_of_admitManual hadmit none
  · intro distribution d allocations hadmit
    exact fitsInOrder_of_admitAutomatic hreg hadmit

theorem registeredReachable_sampleRun :
  RegisteredReachable sampleRun
  := by
  have hempty : RegisteredReachable empty := .refl
  have hopened := hempty.serve (.create "2026-Q1" ⟨2026, 3, 31⟩ 120000)
    ⟨"admin", "user"⟩ ⟨"r1", "open the quarter"⟩
  have hregistered : RegisteredReachable _ := hopened.tail ⟨.addParticipant _ "Alice" 50000.0 none true,
    hopened.oneRowEach.2.1.addParticipant (by rw [participants_serve]; intro p hp; cases hp)
      "Alice" 50000.0 none true⟩
  exact hregistered.serve (.addManual 1 2 40.0) ⟨"admin", "user"⟩ ⟨"r2", "allocate by hand"⟩

theorem lifecycle_writes_fit_schema_sampleRun :
  RegisteredReachable sampleRun
    ∧ (∀ distribution participant percentage d amount,
        sampleRun.admitManual distribution participant percentage = .ok (d, amount) →
          sampleRun.Fits ⟨none, distribution, participant, percentage, amount⟩)
    ∧ (∀ distribution d allocations, sampleRun.admitAutomatic distribution = .ok (d, allocations) →
        FitsInOrder { sampleRun with details := sampleRun.details.filter (·.distribution != distribution) }
          (allocationRows distribution allocations))
    ∧ OneRowEach sampleRun
  := ⟨registeredReachable_sampleRun, lifecycle_writes_fit_schema registeredReachable_sampleRun⟩

end Payout.Lifecycle.Books
