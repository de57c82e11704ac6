import Mathlib.Data.Finmap
import Mathlib.Data.Finset.Sort

namespace SelfConnect.Library

/-! Tables with a primary key. -/

abbrev Table (Key Row : Type) : Type := Finmap fun _ : Key => Row

namespace Table

variable {Key Row Item α β : Type}

section Rows

variable [DecidableEq Key] [LE Key] [DecidableLE Key] [IsTrans Key (· ≤ ·)]
  [Std.Antisymm (α := Key) (· ≤ ·)] [Std.Total (α := Key) (· ≤ ·)]

/-- The rows in the order of their keys. -/
def rowsOf (table : Table Key Row) : List (Key × Row) :=
  (table.keys.sort (· ≤ ·)).filterMap fun key => (table.lookup key).map (Prod.mk key)

theorem rowsOf_empty : rowsOf (∅ : Table Key Row) = [] := by
  unfold rowsOf
  rw [Finmap.keys_empty, Finset.sort_empty]
  rfl

theorem rowsOf_singleton (key : Key) (row : Row) :
    rowsOf ((∅ : Table Key Row).insert key row) = [(key, row)] := by
  have keys : ((∅ : Table Key Row).insert key row).keys = {key} := by
    ext other
    rw [Finmap.mem_keys, Finmap.mem_insert, Finset.mem_singleton]
    exact or_iff_left Finmap.notMem_empty
  unfold rowsOf
  rw [keys, Finset.sort_singleton]
  change ([key].filterMap fun other => (Finmap.lookup other _).map (Prod.mk other)) = _
  rw [List.filterMap_cons, Finmap.lookup_insert]
  rfl

theorem mem_rowsOf {table : Table Key Row} {key : Key} {row : Row} :
    (key, row) ∈ rowsOf table ↔ table.lookup key = some row := by
  unfold rowsOf
  rw [List.mem_filterMap]
  constructor
  · rintro ⟨other, -, found⟩
    obtain ⟨_, isRow, same⟩ := Option.map_eq_some_iff.mp found
    cases same
    exact isRow
  · intro isRow
    refine ⟨key, (Finset.mem_sort _).mpr (Finmap.mem_keys.mpr ?_), ?_⟩
    · exact Finmap.mem_iff.mpr ⟨row, isRow⟩
    · rw [isRow]
      rfl

/-- A key has one row. -/
theorem pairwise_rowsOf (table : Table Key Row) :
    (rowsOf table).Pairwise fun first second => first.1 ≠ second.1 := by
  refine List.pairwise_filterMap.mpr ((Finset.sort_nodup _ _).imp ?_)
  intro key other differs first isFirst second isSecond
  obtain ⟨row, -, rfl⟩ := Option.map_eq_some_iff.mp isFirst
  obtain ⟨row', -, rfl⟩ := Option.map_eq_some_iff.mp isSecond
  exact differs

end Rows

section Insert

variable [DecidableEq Key]

/-- A row of a key that is new. -/
def insertRow (table : Table Key Row) (key : Key) (row : Row) : Option (Table Key Row) :=
  if (table.lookup key).isSome then none else some (table.insert key row)

theorem insertRow_eq_some {table after : Table Key Row} {key : Key} {row : Row} :
    insertRow table key row = some after ↔
      table.lookup key = none ∧ after = table.insert key row := by
  unfold insertRow
  cases table.lookup key with
  | none => simp [eq_comm]
  | some _ => simp

theorem lookup_insertRow {table after : Table Key Row} {key : Key} {row : Row}
    (inserted : insertRow table key row = some after) (other : Key) (found : Row) :
    after.lookup other = some found ↔
      other = key ∧ found = row ∨ table.lookup other = some found := by
  obtain ⟨absent, rfl⟩ := insertRow_eq_some.mp inserted
  by_cases same : other = key
  · rw [same, Finmap.lookup_insert, absent]
    simp [eq_comm]
  · rw [Finmap.lookup_insert_of_ne _ same]
    simp [same]

/-- The rows of items that are inserted one after the other. -/
theorem lookup_foldlM_insertRow {key : Item → Key} {row : Item → Row} {items : List Item}
    {table after : Table Key Row}
    (inserted : items.foldlM (fun rows item => insertRow rows (key item) (row item)) table =
      some after) (other : Key) (found : Row) :
    after.lookup other = some found ↔
      (∃ item ∈ items, key item = other ∧ row item = found) ∨ table.lookup other = some found := by
  induction items generalizing table with
  | nil =>
      cases inserted
      simp
  | cons item rest ih =>
      rw [List.foldlM_cons] at inserted
      obtain ⟨next, isNext, inserted⟩ := Option.bind_eq_some_iff.mp inserted
      rw [ih inserted, lookup_insertRow isNext, List.exists_mem_cons_iff]
      constructor
      · rintro (later | ⟨rfl, rfl⟩ | earlier)
        · exact .inl (.inr later)
        · exact .inl (.inl ⟨rfl, rfl⟩)
        · exact .inr earlier
      · rintro ((⟨rfl, rfl⟩ | later) | earlier)
        · exact .inr (.inl ⟨rfl, rfl⟩)
        · exact .inl later
        · exact .inr (.inr earlier)

end Insert

/-! Rows that are read one after the other. -/

theorem mem_of_mapM {read : α → Option β} {items : List α} {found : List β}
    (isFound : items.mapM read = some found) :
    (∀ item ∈ items, ∃ result ∈ found, read item = some result) ∧
      ∀ result ∈ found, ∃ item ∈ items, read item = some result := by
  induction items generalizing found with
  | nil =>
      cases isFound
      exact ⟨fun _ member => absurd member List.not_mem_nil,
        fun _ member => absurd member List.not_mem_nil⟩
  | cons item rest ih =>
      rw [List.mapM_cons] at isFound
      obtain ⟨result, isResult, isFound⟩ := Option.bind_eq_some_iff.mp isFound
      obtain ⟨results, isRest, isFound⟩ := Option.bind_eq_some_iff.mp isFound
      cases isFound
      obtain ⟨front, back⟩ := ih isRest
      constructor
      · refine List.forall_mem_cons.mpr ⟨⟨result, List.mem_cons_self, isResult⟩, ?_⟩
        intro other member
        obtain ⟨found, isMember, isRead⟩ := front other member
        exact ⟨found, List.mem_cons_of_mem _ isMember, isRead⟩
      · refine List.forall_mem_cons.mpr ⟨⟨item, List.mem_cons_self, isResult⟩, ?_⟩
        intro other member
        obtain ⟨source, isMember, isRead⟩ := back other member
        exact ⟨source, List.mem_cons_of_mem _ isMember, isRead⟩

theorem map_of_mapM {γ : Type} {read : α → Option β} {before : α → γ} {after : β → γ}
    (same : ∀ item result, read item = some result → after result = before item) {items : List α}
    {found : List β} (isFound : items.mapM read = some found) :
    found.map after = items.map before := by
  induction items generalizing found with
  | nil =>
      cases isFound
      rfl
  | cons item rest ih =>
      rw [List.mapM_cons] at isFound
      obtain ⟨result, isResult, isFound⟩ := Option.bind_eq_some_iff.mp isFound
      obtain ⟨results, isRest, isFound⟩ := Option.bind_eq_some_iff.mp isFound
      cases isFound
      rw [List.map_cons, List.map_cons, same item result isResult, ih isRest]

theorem mapM_of_forall {read : α → Option β} {items : List α}
    (reads : ∀ item ∈ items, (read item).isSome = true) :
    ∃ found, items.mapM read = some found := by
  induction items with
  | nil => exact ⟨[], rfl⟩
  | cons item rest ih =>
      obtain ⟨isRead, restRead⟩ := List.forall_mem_cons.mp reads
      obtain ⟨result, isResult⟩ := Option.isSome_iff_exists.mp isRead
      obtain ⟨results, isResults⟩ := ih restRead
      refine ⟨result :: results, ?_⟩
      rw [List.mapM_cons, isResult, isResults]
      rfl

end Table

end SelfConnect.Library
