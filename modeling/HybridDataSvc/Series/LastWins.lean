import HybridDataSvc.Relational.Table
import Mathlib.Data.List.Sort

namespace Series

universe u v w

open Relational

/-!
# Series with repeated keys

A series is a list of rows in the order of their arrival.  Rows may repeat a
key, and then the one that arrived last stands for it.  Normalizing a series
sorts it by key, keeping the order of rows with one key, and drops all but the
last row of each.  What the normalized series shows is thereby a function of
`Table.lastUnder` alone.
-/

variable {Row : Type u} {Key : Type v} [LinearOrder Key] (key : Row -> Key)

/-- A stable sort. -/
def sortBy (rows : List Row) : List Row :=
  rows.insertionSort (fun first second => key first ≤ key second)

/-- Every row that has no later one with its key. -/
def keepLast (rows : List Row) : List Row :=
  rows.pwFilter (fun first second => key first ≠ key second)

/-- One row for each key, in the order of the keys. -/
def normalize (rows : List Row) : List Row := keepLast key (sortBy key rows)

/-- The rows are strictly ascending. -/
def Ascending (rows : List Row) : Prop :=
  rows.Pairwise (fun first second => key first < key second)

variable {key}

/-! ## Sorting -/

theorem filter_orderedInsert (row : Row) (rows : List Row) (k : Key) :
    (rows.orderedInsert (fun first second => key first ≤ key second) row).filter
        (fun other => decide (key other = k)) =
      (row :: rows).filter (fun other => decide (key other = k)) := by
  induction rows with
  | nil => rfl
  | cons head rest ih =>
      by_cases before : key row ≤ key head
      · rw [List.orderedInsert_cons, if_pos before]
      · rw [List.orderedInsert_cons, if_neg before, List.filter_cons, ih]
        by_cases rowHere : key row = k
        · have headElsewhere : key head ≠ k := by
            intro headHere
            exact before (le_of_eq (rowHere.trans headHere.symm))
          simp [rowHere, headElsewhere]
        · simp [List.filter_cons, rowHere]

/-- A stable sort keeps the order of the rows with one key. -/
theorem filter_sortBy (rows : List Row) (k : Key) :
    (sortBy key rows).filter (fun row => decide (key row = k)) =
      rows.filter (fun row => decide (key row = k)) := by
  induction rows with
  | nil => rfl
  | cons row rest ih =>
      rw [sortBy, List.insertionSort_cons, filter_orderedInsert, List.filter_cons, List.filter_cons]
      rw [sortBy] at ih
      rw [ih]

theorem mem_sortBy {rows : List Row} (row : Row) : row ∈ sortBy key rows ↔ row ∈ rows := by
  rw [sortBy, List.mem_insertionSort]

/-- Of rows with different keys. -/
theorem ascending_sortBy {rows : List Row} (unique : (rows.map key).Nodup) : Ascending key (sortBy key rows) := by
  have sorted : (sortBy key rows).Pairwise (fun first second => key first ≤ key second) :=
    List.pairwise_insertionSort _ _
  have distinct : ((sortBy key rows).map key).Nodup :=
    ((List.perm_insertionSort _ rows).map key).nodup_iff.mpr unique
  have different := List.pairwise_map.mp distinct
  exact (sorted.and different).imp (fun both => lt_of_le_of_ne both.1 both.2)

/-! ## Dropping repetitions -/

theorem lastUnder_eq_getLast? (rows : List Row) (k : Key) :
    Table.lastUnder key rows k = (rows.filter (fun row => decide (key row = k))).getLast? := by
  rw [List.getLast?_filter, Table.lastUnder]

theorem lastUnder_cons (row : Row) (rest : List Row) (k : Key) :
    Table.lastUnder key (row :: rest) k =
      (Table.lastUnder key rest k).or (if key row = k then some row else none) := by
  rw [← List.singleton_append, Table.lastUnder_append]
  congr 1
  by_cases here : key row = k
  · simp [Table.lastUnder, here]
  · simp [Table.lastUnder, here]

/-- What is kept of a key is its last row. -/
theorem filter_keepLast (rows : List Row) (k : Key) :
    (keepLast key rows).filter (fun row => decide (key row = k)) =
      (Table.lastUnder key rows k).toList := by
  induction rows with
  | nil => rfl
  | cons row rest ih =>
      rw [lastUnder_cons]
      by_cases fresh : forall later, later ∈ keepLast key rest -> key row ≠ key later
      · rw [keepLast, List.pwFilter_cons_of_pos fresh, List.filter_cons]
        by_cases here : key row = k
        · have nothing : (keepLast key rest).filter (fun other => decide (key other = k)) = [] := by
            rw [List.filter_eq_nil_iff]
            intro later member same
            exact fresh later member (here.trans (of_decide_eq_true same).symm)
          rw [ih, Option.toList_eq_nil_iff] at nothing
          rw [keepLast] at ih
          simp [here, ih, nothing]
        · rw [keepLast] at ih
          simp [here, ih]
      · rw [keepLast, List.pwFilter_cons_of_neg fresh]
        rw [keepLast] at ih
        rw [ih]
        by_cases here : key row = k
        · simp only [not_forall, not_not] at fresh
          rcases fresh with ⟨later, member, same⟩
          have kept : later ∈ (Table.lastUnder key rest k).toList := by
            rw [← ih, List.mem_filter]
            exact ⟨member, decide_eq_true (same.symm.trans here)⟩
          rw [Option.mem_toList] at kept
          rw [kept, Option.some_or]
        · rw [if_neg here, Option.or_none]

/-! ## Normalized series -/

theorem filter_normalize (rows : List Row) (k : Key) :
    (normalize key rows).filter (fun row => decide (key row = k)) =
      (Table.lastUnder key rows k).toList := by
  rw [normalize, filter_keepLast, lastUnder_eq_getLast?, filter_sortBy, ← lastUnder_eq_getLast?]

/-- The rows of a normalized series are those that arrived last. -/
theorem mem_normalize (rows : List Row) (row : Row) :
    row ∈ normalize key rows ↔ Table.lastUnder key rows (key row) = some row := by
  rw [← Option.mem_toList, ← filter_normalize, List.mem_filter]
  exact (and_iff_left (decide_eq_true rfl)).symm

theorem ascending_normalize (rows : List Row) : Ascending key (normalize key rows) := by
  have sorted : (normalize key rows).Pairwise (fun first second => key first ≤ key second) := by
    apply List.Pairwise.sublist (List.pwFilter_sublist _)
    exact List.pairwise_insertionSort _ rows
  have distinct : (normalize key rows).Pairwise (fun first second => key first ≠ key second) :=
    List.pairwise_pwFilter _
  exact (sorted.and distinct).imp (fun both => lt_of_le_of_ne both.1 both.2)

theorem Ascending.nodup {rows : List Row} (ascending : Ascending key rows) : rows.Nodup :=
  ascending.imp (fun before equal => absurd (congrArg key equal) (ne_of_lt before))

/-- Strictly ascending rows are determined by their members. -/
theorem Ascending.eq_of_mem_iff {first second : List Row} (ascending : Ascending key first)
    (ascending' : Ascending key second) (same : forall row, row ∈ first ↔ row ∈ second) :
    first = second := by
  have perm : first.Perm second :=
    (List.perm_ext_iff_of_nodup ascending.nodup ascending'.nodup).mpr same
  exact perm.eq_of_pairwise (fun a b _ _ before after => absurd after (lt_asymm before))
    ascending ascending'

/-- Rows that arrived last are kept in the order of their arrival too. -/
theorem mem_keepLast (rows : List Row) (row : Row) :
    row ∈ keepLast key rows ↔ Table.lastUnder key rows (key row) = some row := by
  rw [← Option.mem_toList, ← filter_keepLast, List.mem_filter]
  exact (and_iff_left (decide_eq_true rfl)).symm

variable (key) in
/-- Normalizing reorders the rows that are kept. -/
theorem normalize_perm_keepLast (rows : List Row) : (normalize key rows).Perm (keepLast key rows) := by
  have ascending : (normalize key rows).Nodup := (ascending_normalize rows).nodup
  have distinct : (keepLast key rows).Nodup := by
    apply List.Pairwise.imp _ (List.pairwise_pwFilter rows)
    intro first second different equal
    exact different (congrArg key equal)
  apply (List.perm_ext_iff_of_nodup ascending distinct).mpr
  intro row
  rw [mem_normalize, mem_keepLast]

/-- A normalized series depends on the last arrivals alone. -/
theorem normalize_congr {first second : List Row}
    (same : forall k, Table.lastUnder key first k = Table.lastUnder key second k) :
    normalize key first = normalize key second := by
  apply (ascending_normalize first).eq_of_mem_iff (ascending_normalize second)
  intro row
  rw [mem_normalize, mem_normalize, same]

/-- A series in strictly ascending order is normalized. -/
theorem normalize_of_ascending {rows : List Row} (ascending : Ascending key rows) :
    normalize key rows = rows := by
  have distinct : (rows.map key).Nodup := by
    rw [List.nodup_iff_pairwise_ne, List.pairwise_map]
    exact ascending.imp ne_of_lt
  apply (ascending_normalize rows).eq_of_mem_iff ascending
  intro row
  rw [mem_normalize, Table.lastUnder_eq_some_iff distinct]
  exact and_iff_left rfl

/-- Rewriting rows without touching their keys commutes with normalizing. -/
theorem normalize_map {Other : Type w} {otherKey : Other -> Key} {rewrite : Row -> Other}
    (sameKey : forall row, otherKey (rewrite row) = key row) (rows : List Row) :
    normalize otherKey (rows.map rewrite) = (normalize key rows).map rewrite := by
  have ascending : Ascending otherKey ((normalize key rows).map rewrite) := by
    rw [Ascending, List.pairwise_map]
    simp only [sameKey]
    exact ascending_normalize rows
  have last : forall k, Table.lastUnder otherKey (rows.map rewrite) k =
      (Table.lastUnder key rows k).map rewrite := by
    intro k
    rw [Table.lastUnder, Table.lastUnder, ← List.map_reverse, List.find?_map]
    simp only [Function.comp_def, sameKey]
  apply (ascending_normalize _).eq_of_mem_iff ascending
  intro other
  rw [mem_normalize, last, Option.map_eq_some_iff, List.mem_map]
  constructor
  · rintro ⟨row, found, rfl⟩
    refine ⟨row, ?_, rfl⟩
    rw [mem_normalize, ← sameKey row]
    exact found
  · rintro ⟨row, member, rfl⟩
    refine ⟨row, ?_, rfl⟩
    rw [sameKey, ← mem_normalize]
    exact member

end Series
