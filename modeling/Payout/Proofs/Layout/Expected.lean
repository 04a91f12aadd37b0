import Mathlib.Data.List.Nodup
import Mathlib.Data.List.Perm.Subperm
import Payout.Layout.Check
import Payout.Proofs.Except

/-!
# The layout check accepts exactly the expected layout

`check` compares a layout with the expected one, stopping at the first difference. Its table
lookups fall back to an empty table, where the original indexing would have failed; but every
table it looks up is one of the five expected tables, all present once the first comparison,
of the table names, has passed (`check_lookups_present`).

On a layout as a schema holds it (`WellFormed`: table names in increasing order, distinct
column names in each table, a primary key without repeats), the check passes exactly when the
layout has the expected shape (`Expected`): the five tables, each with exactly its expected
columns and its first column alone as primary key, an index on each looked-up column, every
expected foreign key, and one row per participant in a distribution; other indexes, keys and
uniqueness constraints may be there too.

The column check compares counts and then looks each column up by its own name. That gives
exactness only because names are distinct on both sides: a column found by name with the
right kind and nullability is an expected column, distinct names make the columns distinct,
and as many distinct columns as expected ones, all expected, are all of them
(`columns_exact`).
-/

namespace Payout.Layout

/-! ### One table -/

/-- What `checkTable` asks of a table: as many columns as expected, each found among the expected
ones by its own name with the same kind and nullability, and a primary key of the first expected
column alone. Each column's check either goes on or fails, so the table passes exactly when each
column does. -/
theorem checkTable_eq_ok_iff {name : String} {expected : List ExpectedColumn} {t : TableShape} :
  checkTable name expected t = .ok ()
    ↔ t.columns.length = expected.length
      ∧ (∀ c ∈ t.columns, ∃ e, expected.find? (·.name == c.name) = some e
          ∧ c.kind = e.kind ∧ c.nullable = e.nullable)
      ∧ t.primaryKeys = (expected.head?.map (·.name)).toList
  := by
  unfold checkTable
  dsimp only
  split
  · rename_i hlen
    have hne : t.columns.length ≠ expected.length := by simpa using hlen
    simp [hne, throw_except, error_bind]
  · rename_i hlen
    have heq : t.columns.length = expected.length := by simpa using hlen
    rw [unit_bind_eq_ok, forIn_eq_ok_iff]
    · simp only [heq, true_and]
      apply and_congr
      · refine forall₂_congr fun c _ => ?_
        split
        · rename_i hnone
          simp [hnone, throw_except]
        · rename_i e hfound
          rw [show (∃ e', expected.find? (·.name == c.name) = some e' ∧ c.kind = e'.kind
              ∧ c.nullable = e'.nullable) ↔ c.kind = e.kind ∧ c.nullable = e.nullable by simp [hfound]]
          split
          · rename_i hbad
            simp only [Bool.or_eq_true, bne_iff_ne, ne_eq] at hbad
            simp only [throw_except, error_bind, reduceCtorEq, false_iff, not_and]
            tauto
          · rename_i hgood
            simp only [Bool.or_eq_true, bne_iff_ne, ne_eq, not_or, not_not] at hgood
            simp [hgood, pure_except]
      · split <;> simp_all [throw_except, pure_except]
    · intro c r h
      split at h
      · simp [throw_except] at h
      · split at h
        · simp [throw_except] at h
        · cases h
          rfl

/-- The shape an expected column asks for. -/
def ExpectedColumn.shape (e : ExpectedColumn) : ColumnShape := ⟨e.name, e.kind, e.nullable⟩

/-- In a list of distinct keys, looking up the key of a member finds that member. -/
theorem find?_key_eq_some {α : Type} (key : α → String) {l : List α} (hl : (l.map key).Nodup)
    {x : α} (hx : x ∈ l) {k : String} (hk : key x = k) :
  l.find? (fun y => key y == k) = some x
  := by
  have hsome : (l.find? fun y => key y == k).isSome :=
    List.find?_isSome.mpr ⟨x, hx, beq_iff_eq.mpr hk⟩
  obtain ⟨y, hy⟩ := Option.isSome_iff_exists.mp hsome
  have hbeq := List.find?_some hy
  have hkey : key y = key x := (beq_iff_eq.mp hbeq).trans hk.symm
  rw [hy, List.inj_on_of_nodup_map hl (List.mem_of_find?_eq_some hy) hx hkey]

/-- Among columns of distinct names, looking a column's name up finds that column. -/
theorem find?_name_eq_some {expected : List ExpectedColumn}
    (hexpected : (expected.map (·.name)).Nodup) {e : ExpectedColumn} (he : e ∈ expected) :
  expected.find? (·.name == e.name) = some e
  := find?_key_eq_some ExpectedColumn.name hexpected he rfl

/-- With distinct names on both sides, the count and the lookups by name of the column check
say that the columns are exactly the expected ones: a column found by its name with the right
kind and nullability is an expected column, and as many distinct columns as there are
expected ones, all of them expected, are all the expected ones. -/
theorem columns_exact {cols : List ColumnShape} {expected : List ExpectedColumn}
    (hcols : (cols.map (·.name)).Nodup) (hexpected : (expected.map (·.name)).Nodup) :
  (cols.length = expected.length
      ∧ ∀ c ∈ cols, ∃ e, expected.find? (·.name == c.name) = some e
        ∧ c.kind = e.kind ∧ c.nullable = e.nullable)
    ↔ ∀ c, c ∈ cols ↔ c ∈ expected.map ExpectedColumn.shape
  := by
  have hnodup : cols.Nodup := List.Nodup.of_map _ hcols
  have hshapes : (expected.map ExpectedColumn.shape).Nodup := by
    apply List.Nodup.of_map (·.name)
    rw [List.map_map]
    exact hexpected
  constructor
  · rintro ⟨hlen, hfound⟩
    have hsub : cols ⊆ expected.map ExpectedColumn.shape := by
      intro c hc
      obtain ⟨e, he, hkind, hnull⟩ := hfound c hc
      have hbeq := List.find?_some he
      have hname : e.name = c.name := beq_iff_eq.mp hbeq
      refine List.mem_map.mpr ⟨e, List.mem_of_find?_eq_some he, ?_⟩
      rw [ExpectedColumn.shape, hname, ← hkind, ← hnull]
    have hperm : cols.Perm (expected.map ExpectedColumn.shape) :=
      (List.subperm_of_subset hnodup hsub).perm_of_length_le (by simp [hlen])
    exact fun c => hperm.mem_iff
  · intro hmem
    have hperm := (List.perm_ext_iff_of_nodup hnodup hshapes).mpr hmem
    refine ⟨by rw [hperm.length_eq, List.length_map], fun c hc => ?_⟩
    obtain ⟨e, he, rfl⟩ := List.mem_map.mp ((hmem c).mp hc)
    exact ⟨e, find?_name_eq_some hexpected he, rfl, rfl⟩

/-- A list without repeats is an optional element as a list exactly when it holds that
element and nothing else. -/
theorem eq_toList_iff {α : Type} {l : List α} (hl : l.Nodup) (o : Option α) :
  l = o.toList ↔ ∀ k, k ∈ l ↔ o = some k
  := by
  cases o with
  | none => simp [List.eq_nil_iff_forall_not_mem]
  | some x =>
    simp only [Option.toList_some, Option.some.injEq]
    constructor
    · rintro rfl k
      simp [eq_comm]
    · intro hmem
      apply List.perm_singleton.mp
      apply (List.perm_ext_iff_of_nodup hl (List.nodup_singleton x)).mpr
      intro k
      rw [hmem k, List.mem_singleton, eq_comm]

/-! ### Tables by name -/

/-- A table is found by a name exactly when some table is listed under it. -/
theorem table?_isSome_iff {l : Layout} {n : String} :
  (l.table? n).isSome ↔ n ∈ l.tables.map (·.1)
  := by
  rw [Layout.table?, Option.isSome_map, List.find?_isSome]
  simp

/-- Where table names are distinct, a table is found by its name exactly when it is listed
under that name. -/
theorem table?_eq_some_iff {l : Layout} (hnames : (l.tables.map (·.1)).Nodup) {n : String}
    {t : TableShape} :
  l.table? n = some t ↔ (n, t) ∈ l.tables
  := by
  constructor
  · intro h
    obtain ⟨p, hp, rfl⟩ := Option.map_eq_some_iff.mp h
    have hbeq := List.find?_some hp
    have hname : p.1 = n := beq_iff_eq.mp hbeq
    rw [← hname]
    exact List.mem_of_find?_eq_some hp
  · intro hmem
    rw [Layout.table?, find?_key_eq_some Prod.fst hnames hmem rfl]
    rfl

/-! ### What the check asks -/

/-- What `check` asks of a layout, read off its steps: the table names in the expected order, each
expected table passing `checkTable`, a single-column index on each looked-up column, each expected
foreign key, and one row per participant; a table that is not there is read as an empty one. The
tables are settled first, then the indexes, the keys and the uniqueness; each of these checks only
goes on or fails. -/
theorem check_eq_ok_iff (l : Layout) :
  (∃ notes, check l = .ok notes)
    ↔ (expectedTables.map (·.1)).foldr (insertSorted nameLt) [] = l.tables.map (·.1)
      ∧ (∀ p ∈ expectedTables, checkTable p.1 p.2 ((l.table? p.1).getD TableShape.empty) = .ok ())
      ∧ (∀ p ∈ expectedIndexes,
          ∃ i ∈ ((l.table? p.1).getD TableShape.empty).indexes, i.columns = [p.2])
      ∧ (∀ p ∈ expectedKeys, p.2 ∈ ((l.table? p.1).getD TableShape.empty).foreignKeys)
      ∧ onePerParticipant ∈ ((l.table? "distribution_details").getD TableShape.empty).uniques
  := by
  unfold check
  dsimp only
  split
  · rename_i hnames
    have hne : (expectedTables.map (·.1)).foldr (insertSorted nameLt) [] ≠ l.tables.map (·.1) := by
      simpa using hnames
    simp [hne, throw_except, error_bind]
  · rename_i hnames
    have heq : (expectedTables.map (·.1)).foldr (insertSorted nameLt) [] = l.tables.map (·.1) := by
      simpa using hnames
    simp only [heq, true_and, unit_bind_eq_ok]
    simp only [bind_eq_ok, Unique.exists_iff, PUnit.default_eq_unit]
    rw [forIn_eq_ok_iff, forIn_eq_ok_iff]
    · simp only [pure_except, unit_bind_eq_ok, and_true, Prod.forall, throw_except,
        List.contains_eq_mem, Bool.not_eq_eq_eq_not, Bool.not_true, decide_eq_false_iff_not,
        error_bind, ite_not, ite_eq_left_iff, reduceCtorEq, imp_false, Decidable.not_not,
        exists_and_left, and_congr_right_iff]
      intro _
      constructor
      · rintro ⟨notes, found, hfound, hkeys, hunique⟩
        refine ⟨fun n c hmem => ?_, hkeys, ?_⟩
        · obtain ⟨note, hnote⟩ := exists_mapM_eq_ok_iff.mp ⟨found, hfound⟩ (n, c) hmem
          dsimp only at hnote
          split at hnote
          · rename_i i hi
            have hbeq := List.find?_some hi
            exact ⟨i, List.mem_of_find?_eq_some hi, beq_iff_eq.mp hbeq⟩
          · cases hnote
        · split at hunique
          · assumption
          · cases hunique
      · rintro ⟨hindexes, hkeys, hunique⟩
        rw [exists_comm]
        refine Exists.imp (fun found hfound => ⟨found, hfound, hkeys, if_pos hunique⟩)
          (exists_mapM_eq_ok_iff.mpr fun p hp => ?_)
        obtain ⟨i, hi, hcols⟩ := hindexes p.1 p.2 hp
        have hsome : (((l.table? p.1).getD TableShape.empty).indexes.find?
            (·.columns == [p.2])).isSome :=
          List.find?_isSome.mpr ⟨i, hi, beq_iff_eq.mpr hcols⟩
        obtain ⟨j, hj⟩ := Option.isSome_iff_exists.mp hsome
        exact ⟨⟨j.name, p.1, p.2⟩, by simp only [hj]⟩
    · intro p r h
      split at h
      · simp [throw_except] at h
      · cases h
        rfl
    · intro p r h
      obtain ⟨-, h⟩ := unit_bind_eq_ok.mp h
      cases h
      rfl

/-! ### The expected layout -/

/-- The facts of the expected layout the check relies on: its table names, sorted, are the
expected ones in increasing order; each expected table names its columns once; and the tables
of the looked-up columns, of the foreign keys and of the uniqueness constraint are expected
tables. -/
theorem expected_consistent :
  ((expectedTables.map (·.1)).foldr (insertSorted nameLt) []).Pairwise (· < ·)
    ∧ ((expectedTables.map (·.1)).foldr (insertSorted nameLt) []).Perm (expectedTables.map (·.1))
    ∧ (∀ p ∈ expectedTables, (p.2.map (·.name)).Nodup)
    ∧ (∀ n ∈ expectedIndexes.map (·.1) ++ expectedKeys.map (·.1) ++ ["distribution_details"],
        n ∈ expectedTables.map (·.1))
  := by decide

/-- Every table the check looks up is there once the table names have passed: the tables it
reads columns, indexes, keys and the uniqueness constraint from are all expected tables. -/
theorem check_lookups_present (l : Layout)
    (hnames : (expectedTables.map (·.1)).foldr (insertSorted nameLt) [] = l.tables.map (·.1)) :
  ∀ n ∈ expectedTables.map (·.1) ++ expectedIndexes.map (·.1) ++ expectedKeys.map (·.1)
      ++ ["distribution_details"], (l.table? n).isSome
  := by
  obtain ⟨-, hperm, -, hlooked⟩ := expected_consistent
  intro n hn
  rw [table?_isSome_iff, ← hnames, hperm.mem_iff]
  rw [List.append_assoc, List.append_assoc, List.mem_append, ← List.append_assoc] at hn
  rcases hn with hn | hn
  · exact hn
  · exact hlooked n hn

/-- A layout as a schema holds it: table names in increasing order, as the keys of a sorted map
are; in each table distinct column names, as the keys of a map from names to columns are; and
a primary key without repeats, as a set is. -/
structure WellFormed (l : Layout) : Prop where
  sorted : (l.tables.map (·.1)).Pairwise (· < ·)
  columns : ∀ p ∈ l.tables, (p.2.columns.map (·.name)).Nodup
  primaryKeys : ∀ p ∈ l.tables, p.2.primaryKeys.Nodup

instance (l : Layout) : Decidable l.WellFormed :=
  decidable_of_iff ((l.tables.map (·.1)).Pairwise (· < ·)
      ∧ (∀ p ∈ l.tables, (p.2.columns.map (·.name)).Nodup) ∧ ∀ p ∈ l.tables, p.2.primaryKeys.Nodup)
    ⟨fun ⟨h₁, h₂, h₃⟩ => ⟨h₁, h₂, h₃⟩, fun ⟨h₁, h₂, h₃⟩ => ⟨h₁, h₂, h₃⟩⟩

/-- A layout of the expected shape: the five expected tables and no other, each with exactly
its expected columns (name, kind and nullability) and its first column alone as primary key, a
single-column index on each looked-up column, every expected foreign key, and one row per
participant in a distribution. Other indexes, keys and uniqueness constraints are allowed. -/
structure Expected (l : Layout) : Prop where
  tables : ∀ n, n ∈ l.tables.map (·.1) ↔ n ∈ expectedTables.map (·.1)
  columns : ∀ p ∈ expectedTables, ∀ t, l.table? p.1 = some t →
    ∀ c, c ∈ t.columns ↔ c ∈ p.2.map ExpectedColumn.shape
  primaryKey : ∀ p ∈ expectedTables, ∀ t, l.table? p.1 = some t →
    ∀ k, k ∈ t.primaryKeys ↔ p.2.head?.map (·.name) = some k
  indexes : ∀ p ∈ expectedIndexes, ∀ t, l.table? p.1 = some t → ∃ i ∈ t.indexes, i.columns = [p.2]
  keys : ∀ p ∈ expectedKeys, ∀ t, l.table? p.1 = some t → p.2 ∈ t.foreignKeys
  unique : ∀ t, l.table? "distribution_details" = some t → onePerParticipant ∈ t.uniques

/-- Sorted table names are the expected names in order exactly when they are the expected
names: two increasing lists with the same members are equal. -/
theorem names_eq_iff {l : Layout} (hsorted : (l.tables.map (·.1)).Pairwise (· < ·)) :
  (expectedTables.map (·.1)).foldr (insertSorted nameLt) [] = l.tables.map (·.1)
    ↔ ∀ n, n ∈ l.tables.map (·.1) ↔ n ∈ expectedTables.map (·.1)
  := by
  obtain ⟨hexpected, hperm, -, -⟩ := expected_consistent
  constructor
  · intro h n
    rw [← h]
    exact hperm.mem_iff
  · intro hmem
    apply List.Perm.eq_of_pairwise (fun _ _ _ _ hab hba => absurd hba (String.lt_asymm hab))
      hexpected hsorted
    apply (List.perm_ext_iff_of_nodup hexpected.nodup hsorted.nodup).mpr
    intro n
    rw [hperm.mem_iff, hmem]

/-! ### The check decides the expected shape -/

section Check

variable {l : Layout} (hwf : l.WellFormed)
include hwf

/-- A table found in a well-formed layout is one of its tables, with distinct column names and
a primary key without repeats. -/
theorem WellFormed.found {n : String} {t : TableShape} (ht : l.table? n = some t) :
  (t.columns.map (·.name)).Nodup ∧ t.primaryKeys.Nodup
  := by
  have hmem := (table?_eq_some_iff hwf.sorted.nodup).mp ht
  exact ⟨hwf.columns _ hmem, hwf.primaryKeys _ hmem⟩

/-- On a well-formed layout, the check passes exactly when the layout has the expected shape. Every
expected table is there, and so is every table the check looks up. -/
theorem check_iff_expected :
  (∃ notes, check l = .ok notes) ↔ Expected l
  := by
  obtain ⟨-, -, hcolumns, hlooked⟩ := expected_consistent
  rw [check_eq_ok_iff, names_eq_iff hwf.sorted]
  constructor
  · rintro ⟨hnames, htables, hindexes, hkeys, hunique⟩
    refine ⟨hnames, fun p hp t ht => ?_, fun p hp t ht => ?_, fun p hp t ht => ?_,
      fun p hp t ht => ?_, fun t ht => ?_⟩
    · have hcheck := htables p hp
      rw [ht, Option.getD_some, checkTable_eq_ok_iff] at hcheck
      exact (columns_exact (hwf.found ht).1 (hcolumns p hp)).mp ⟨hcheck.1, hcheck.2.1⟩
    · have hcheck := htables p hp
      rw [ht, Option.getD_some, checkTable_eq_ok_iff] at hcheck
      exact (eq_toList_iff (hwf.found ht).2 _).mp hcheck.2.2
    · have hindex := hindexes p hp
      rwa [ht, Option.getD_some] at hindex
    · have hkey := hkeys p hp
      rwa [ht, Option.getD_some] at hkey
    · rwa [ht, Option.getD_some] at hunique
  · rintro ⟨hnames, hcols, hpk, hindexes, hkeys, hunique⟩
    have hpresent : ∀ n ∈ expectedTables.map (·.1), ∃ t, l.table? n = some t :=
      fun n hn => Option.isSome_iff_exists.mp (table?_isSome_iff.mpr ((hnames n).mpr hn))
    have hlookedUp : ∀ n ∈ expectedIndexes.map (·.1) ++ expectedKeys.map (·.1)
        ++ ["distribution_details"], ∃ t, l.table? n = some t :=
      fun n hn => hpresent n (hlooked n hn)
    refine ⟨hnames, fun p hp => ?_, fun p hp => ?_, fun p hp => ?_, ?_⟩
    · obtain ⟨t, ht⟩ := hpresent p.1 (List.mem_map_of_mem hp)
      rw [ht, Option.getD_some, checkTable_eq_ok_iff]
      obtain ⟨hlen, hfound⟩ := (columns_exact (hwf.found ht).1 (hcolumns p hp)).mpr (hcols p hp t ht)
      exact ⟨hlen, hfound, (eq_toList_iff (hwf.found ht).2 _).mpr (hpk p hp t ht)⟩
    · obtain ⟨t, ht⟩ := hlookedUp p.1 (by simp [List.mem_map_of_mem hp])
      rw [ht, Option.getD_some]
      exact hindexes p hp t ht
    · obtain ⟨t, ht⟩ := hlookedUp p.1 (by simp [List.mem_map_of_mem hp])
      rw [ht, Option.getD_some]
      exact hkeys p hp t ht
    · obtain ⟨t, ht⟩ := hlookedUp "distribution_details" (by simp)
      rw [ht, Option.getD_some]
      exact hunique t ht

end Check

/-- The layout check never reads a table that is not there: once the table names pass, every
table it looks up is present. On a layout as a schema holds it, the check passes exactly when
the layout has the expected shape. -/
theorem check_accepts_exactly_expected (l : Layout) :
  ((expectedTables.map (·.1)).foldr (insertSorted nameLt) [] = l.tables.map (·.1) →
      ∀ n ∈ expectedTables.map (·.1) ++ expectedIndexes.map (·.1) ++ expectedKeys.map (·.1)
        ++ ["distribution_details"], (l.table? n).isSome)
    ∧ (l.WellFormed → ((∃ notes, check l = .ok notes) ↔ Expected l))
  := ⟨check_lookups_present l, check_iff_expected⟩

/-- The table the schema script creates under a name with the expected columns: built with the
builders the reading of a layout uses, its first column as primary key, the expected foreign
keys and indexes of the table, and the uniqueness of one row per participant for the detail
rows. -/
def schemaTable (n : String) (cols : List ExpectedColumn) : TableShape :=
  let t := cols.foldl (fun t c => t.addColumn c.shape) TableShape.empty
  let t := (cols.head?.map (·.name)).toList.foldl TableShape.addPrimaryKey t
  let t := (expectedKeys.filter (·.1 == n)).foldl (fun t k => t.addForeignKey k.2) t
  let t := (expectedIndexes.filter (·.1 == n)).foldl
    (fun t i => t.addIndex ⟨"idx_" ++ n ++ "_" ++ i.2, [i.2]⟩) t
  if n == "distribution_details" then t.addUnique onePerParticipant else t

/-- The layout the schema script creates. -/
def schemaLayout : Layout :=
  expectedTables.foldl (fun l p => l.addTable p.1 (schemaTable p.1 p.2)) ⟨[]⟩

theorem check_accepts_exactly_expected_schemaLayout :
  ((expectedTables.map (·.1)).foldr (insertSorted nameLt) [] = schemaLayout.tables.map (·.1)
      ∧ ∀ n ∈ expectedTables.map (·.1) ++ expectedIndexes.map (·.1) ++ expectedKeys.map (·.1)
        ++ ["distribution_details"], (schemaLayout.table? n).isSome)
    ∧ schemaLayout.WellFormed ∧ (∃ notes, check schemaLayout = .ok notes) ∧ Expected schemaLayout
  := by
  have hnames : (expectedTables.map (·.1)).foldr (insertSorted nameLt) []
      = schemaLayout.tables.map (·.1) := by decide
  have hwf : schemaLayout.WellFormed := by decide
  have hpass : (check schemaLayout).toOption.isSome = true := by decide
  obtain ⟨notes, hnotes⟩ := Option.isSome_iff_exists.mp hpass
  have hcheck : ∃ notes, check schemaLayout = .ok notes := ⟨notes, eq_ok_of_toOption hnotes⟩
  exact ⟨⟨hnames, (check_accepts_exactly_expected schemaLayout).1 hnames⟩, hwf, hcheck,
    ((check_accepts_exactly_expected schemaLayout).2 hwf).mp hcheck⟩

end Payout.Layout
