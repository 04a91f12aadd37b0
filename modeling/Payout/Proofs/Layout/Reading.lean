import Payout.Proofs.Layout.Expected

/-!
# Layouts read from a database are well formed

The reading of a layout (`layoutOf`) puts every part it reads into a sorted list by
`insertSorted`, which keeps a list increasing in a key: an element of a new key goes before
the first larger one, and one of a key already present takes that element's place
(`pairwise_insertSorted`). So whatever rows the database answers, the tables of a layout read
back are in increasing order of name, and in each of them the columns are in increasing order
of name and the primary key's columns in increasing order (`layoutOf_wellFormed`).

Such a layout is the kind on which the check is exact: it passes exactly when the layout read
has the expected shape (`check_layoutOf_iff`).
-/

namespace Payout.Layout

open Database (Handle)

/-! ### Sorted insertion -/

section Insert

variable {α : Type}

/-- An element of a list after an insertion is the inserted one or was there before. -/
theorem mem_insertSorted {lt : α → α → Bool} {x y : α} {l : List α}
    (h : y ∈ insertSorted lt x l) :
  y = x ∨ y ∈ l
  := by
  induction l with
  | nil => simpa [insertSorted] using h
  | cons z zs ih =>
    unfold insertSorted at h
    split_ifs at h
    · simpa using h
    · rcases List.mem_cons.mp h with rfl | h
      · exact .inr List.mem_cons_self
      · exact (ih h).imp_right (List.mem_cons_of_mem _)
    · rcases List.mem_cons.mp h with rfl | h
      · exact .inl rfl
      · exact .inr (List.mem_cons_of_mem _ h)

/-- Inserting by the order of a key keeps a list increasing in that key. Two elements neither
of whose keys is below the other's have the same key, so an element that replaces another
stands below everything the replaced one stood below. -/
theorem pairwise_insertSorted (key : α → String) (x : α) {l : List α}
    (hl : l.Pairwise fun a b => key a < key b) :
  (insertSorted (fun a b => nameLt (key a) (key b)) x l).Pairwise fun a b => key a < key b
  := by
  induction l with
  | nil => exact List.pairwise_singleton _ x
  | cons y ys ih =>
    obtain ⟨hy, hys⟩ := List.pairwise_cons.mp hl
    unfold insertSorted
    split_ifs with hxy hyx
    · have hxy : key x < key y := of_decide_eq_true hxy
      refine List.pairwise_cons.mpr ⟨fun z hz => ?_, hl⟩
      rcases List.mem_cons.mp hz with rfl | hz
      · exact hxy
      · exact String.lt_trans hxy (hy z hz)
    · have hyx : key y < key x := of_decide_eq_true hyx
      refine List.pairwise_cons.mpr ⟨fun z hz => ?_, ih hys⟩
      rcases mem_insertSorted hz with rfl | hz
      · exact hyx
      · exact hy z hz
    · have hsame : key x = key y :=
        String.le_antisymm (String.not_lt.mp (by simpa [nameLt] using hyx))
          (String.not_lt.mp (by simpa [nameLt] using hxy))
      exact List.pairwise_cons.mpr ⟨fun z hz => hsame ▸ hy z hz, hys⟩

/-- A list increasing in a key has distinct keys. -/
theorem nodup_map_of_pairwise (key : α → String) {l : List α}
    (hl : l.Pairwise fun a b => key a < key b) :
  (l.map key).Nodup
  := by
  apply List.pairwise_map.mpr
  exact hl.imp fun {a b} (hlt : key a < key b) (heq : key a = key b) =>
    String.lt_irrefl (key b) (heq ▸ hlt)

end Insert

/-! ### Tables -/

/-- The columns of a table in increasing order of name, and its primary key's columns in
increasing order. -/
def TableShape.Sorted (t : TableShape) : Prop :=
  (t.columns.Pairwise fun a b => a.name < b.name) ∧ t.primaryKeys.Pairwise (· < ·)

theorem TableShape.Sorted.empty :
  TableShape.empty.Sorted
  := ⟨.nil, .nil⟩

theorem TableShape.Sorted.addColumn {t : TableShape} (ht : t.Sorted) (c : ColumnShape) :
  (t.addColumn c).Sorted
  := ⟨pairwise_insertSorted ColumnShape.name c ht.1, ht.2⟩

theorem TableShape.Sorted.addPrimaryKey {t : TableShape} (ht : t.Sorted) (c : String) :
  (t.addPrimaryKey c).Sorted
  := ⟨ht.1, pairwise_insertSorted id c ht.2⟩

/-- The columns and the primary key of a table read so far, with its foreign keys, its
uniqueness constraints and its indexes added. -/
theorem TableShape.Sorted.of_columns_eq {t s : TableShape} (ht : t.Sorted)
    (hcols : s.columns = t.columns) (hkeys : s.primaryKeys = t.primaryKeys) :
  s.Sorted
  := by
  unfold TableShape.Sorted
  rw [hcols, hkeys]
  exact ht

/-- Adding an index to a table leaves its columns and its primary key as they are. -/
theorem indexPart_sorted {h : Handle} {t s : TableShape} {i : IndexRow} (ht : t.Sorted)
    (hs : indexPart h t i = .ok s) :
  s.Sorted
  := by
  unfold indexPart at hs
  obtain ⟨cols, -, hs⟩ := bind_eq_ok.mp hs
  split_ifs at hs <;> cases hs
  · exact ht.of_columns_eq rfl rfl
  · exact ht
  · exact ht.of_columns_eq rfl rfl

/-- Every table read from a database is sorted, whatever rows describe it. The columns and the
primary key are read first, one row of `table_info` at a time, and the foreign keys read next leave
the columns alone. -/
theorem tableShape_sorted {h : Handle} {n : String} {t : TableShape}
    (ht : tableShape h n = .ok t) :
  t.Sorted
  := by
  unfold tableShape at ht
  obtain ⟨cols, -, ht⟩ := bind_eq_ok.mp ht
  obtain ⟨keys, -, ht⟩ := bind_eq_ok.mp ht
  obtain ⟨indexes, -, ht⟩ := bind_eq_ok.mp ht
  have hcols : (cols.foldl (fun acc c =>
      let acc := acc.addColumn ⟨c.name, kindOfType c.type, c.notNull == 0⟩
      if c.pk > 0 then acc.addPrimaryKey c.name else acc) TableShape.empty).Sorted := by
    refine List.foldlRecOn (motive := TableShape.Sorted) cols _ TableShape.Sorted.empty ?_
    intro acc hacc c _
    dsimp only
    split_ifs
    · exact (hacc.addColumn _).addPrimaryKey _
    · exact hacc.addColumn _
  have hkeys : (keys.foldl TableShape.addForeignKey _).Sorted :=
    List.foldlRecOn (motive := TableShape.Sorted) keys _ hcols fun _ hacc _ _ =>
      hacc.of_columns_eq rfl rfl
  exact foldlM_invariant TableShape.Sorted (fun _ _ _ hb hb' => indexPart_sorted hb hb') hkeys ht

/-! ### Layouts -/

/-- The tables of a layout in increasing order of name, each of them sorted. -/
def Sorted (l : Layout) : Prop :=
  (l.tables.Pairwise fun a b => a.1 < b.1) ∧ ∀ p ∈ l.tables, p.2.Sorted

theorem Sorted.wellFormed {l : Layout} (hl : l.Sorted) :
  l.WellFormed
  where
  sorted := List.pairwise_map.mpr hl.1
  columns := fun p hp => nodup_map_of_pairwise ColumnShape.name (hl.2 p hp).1
  primaryKeys := fun p hp => by
    simpa using nodup_map_of_pairwise id (hl.2 p hp).2

theorem Sorted.addTable {l : Layout} (hl : l.Sorted) {n : String} {t : TableShape}
    (ht : t.Sorted) :
  (l.addTable n t).Sorted
  := by
  refine ⟨pairwise_insertSorted Prod.fst (n, t) hl.1, fun p hp => ?_⟩
  rcases mem_insertSorted hp with rfl | hp
  · exact ht
  · exact hl.2 p hp

/-- Every layout read from a database is well formed, whatever the database answers. Each table is
read and added in turn, starting from no tables. -/
theorem layoutOf_wellFormed {h : Handle} {l : Layout} (hl : layoutOf h = .ok l) :
  l.WellFormed
  := by
  unfold layoutOf at hl
  obtain ⟨names, -, hl⟩ := bind_eq_ok.mp hl
  refine Sorted.wellFormed (foldlM_invariant Sorted (fun l' n l'' hl' hstep => ?_) ⟨.nil, nofun⟩ hl)
  obtain ⟨t, ht, hstep⟩ := bind_eq_ok.mp hstep
  cases hstep
  exact hl'.addTable (tableShape_sorted ht)

/-- On a layout read from a database, the check passes exactly when the layout has the
expected shape. -/
theorem check_layoutOf_iff {h : Handle} {l : Layout} (hl : layoutOf h = .ok l) :
  (∃ notes, check l = .ok notes) ↔ Expected l
  := check_iff_expected (layoutOf_wellFormed hl)

end Payout.Layout
