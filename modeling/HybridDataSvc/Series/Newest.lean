import HybridDataSvc.Series.LastWins
import Mathlib.Data.List.DropRight

namespace Series

open Relational

universe u v

/-!
# The newest rows of a series

A query that orders by a column, descending, and takes some rows returns the
end of the ascending series.  Asking again for what comes before the first
returned row reads the series backwards: every row is returned once, and as
each turn leaves fewer rows the reading ends.
-/

section Sorted

variable {Row : Type u} {Key : Type v} [LinearOrder Key] {key : Row -> Key} {rows : List Row}

/-- Of different keys, sorting and selecting commute. -/
theorem sortBy_filter (unique : (rows.map key).Nodup) (condition : Row -> Bool) :
    sortBy key (rows.filter condition) = (sortBy key rows).filter condition := by
  have kept : ((rows.filter condition).map key).Nodup :=
    unique.sublist (List.filter_sublist.map key)
  have sorted : Ascending key ((sortBy key rows).filter condition) :=
    (ascending_sortBy unique).sublist List.filter_sublist
  apply (ascending_sortBy kept).eq_of_mem_iff sorted
  intro row
  rw [mem_sortBy, List.mem_filter, List.mem_filter, mem_sortBy]

end Sorted

/-! ## The end of a list -/

section Suffix

variable {Row : Type u} (rows : List Row) (count : Nat)

theorem rtake_suffix : rows.rtake count <:+ rows := List.drop_suffix _ _

theorem rdrop_append_rtake : rows.rdrop count ++ rows.rtake count = rows :=
  List.take_append_drop _ rows

theorem length_rtake : (rows.rtake count).length = min count rows.length := by
  rw [List.rtake, List.length_drop]
  omega

theorem length_rdrop : (rows.rdrop count).length = rows.length - count := by
  rw [List.rdrop, List.length_take]
  omega

/-- The newest of what the newest rows leave, and those. -/
theorem rtake_rdrop_append {most : Nat} (within : most ≤ count) :
    (rows.rdrop most).rtake (count - most) ++ rows.rtake most = rows.rtake count := by
  rw [List.rdrop, List.rtake, List.rtake, List.rtake, List.length_take, List.drop_take]
  by_cases few : rows.length ≤ count
  · have none_left : min (rows.length - most) rows.length - (count - most) = 0 := by omega
    have all : rows.length - count = 0 := by omega
    rw [none_left, all, Nat.sub_zero, List.drop_zero]
    exact List.take_append_drop _ rows
  · have start : min (rows.length - most) rows.length - (count - most) = rows.length - count := by
      omega
    have split : rows.drop (rows.length - most) =
        (rows.drop (rows.length - count)).drop (count - most) := by
      rw [List.drop_drop]
      congr 1
      omega
    have size : rows.length - most - (rows.length - count) = count - most := by omega
    rw [start, split, size]
    exact List.take_append_drop _ _

theorem rtake_of_length_le {rows : List Row} {count : Nat} (few : rows.length ≤ count) :
    rows.rtake count = rows := by
  rw [List.rtake, Nat.sub_eq_zero_of_le few, List.drop_zero]

end Suffix

/-- `ORDER BY column DESC LIMIT count`, turned round. -/
theorem reverse_take_orderByDesc {Row : Type u} {column : Row -> Int} {rows : List Row}
    (unique : (rows.map column).Nodup) (count : Nat) :
    ((orderByDesc column rows).take count).reverse = (sortBy column rows).rtake count := by
  have turned : (orderByDesc column rows).reverse = sortBy column rows := by
    have distinct : ((orderByDesc column rows).map column).Nodup :=
      ((List.perm_insertionSort _ rows).map column).nodup_iff.mpr unique
    have ascending : Ascending column (orderByDesc column rows).reverse := by
      refine List.pairwise_reverse.mpr ?_
      refine ((orderByDesc_pairwise column rows).and (List.pairwise_map.mp distinct)).imp ?_
      intro first second both
      exact lt_of_le_of_ne both.1 (Ne.symm both.2)
    apply ascending.eq_of_mem_iff (ascending_sortBy unique)
    intro row
    rw [List.mem_reverse, mem_orderByDesc, mem_sortBy]
  rw [List.rtake_eq_reverse_take_reverse, ← turned, List.reverse_reverse]

/-! ## Reading backwards -/

section Backwards

variable {Row : Type u} {Key : Type v} [LinearOrder Key] {key : Row -> Key} {rows : List Row}
  {count : Nat}

/-- What comes before the first of the newest rows is what they leave. -/
theorem filter_before_rtake (ascending : Ascending key rows) {first : Row}
    (head : (rows.rtake count).head? = some first) :
    rows.filter (fun row => decide (key row < key first)) = rows.rdrop count := by
  rcases List.head?_eq_some_iff.mp head with ⟨rest, page⟩
  have split := rdrop_append_rtake rows count
  rw [page] at split
  have parts := ascending
  rw [← split] at parts
  rcases List.pairwise_append.mp parts with ⟨-, pageAscending, before⟩
  have older : (rows.rdrop count).filter (fun row => decide (key row < key first)) =
      rows.rdrop count := by
    rw [List.filter_eq_self]
    intro row member
    exact decide_eq_true (before row member first List.mem_cons_self)
  have newer : (first :: rest).filter (fun row => decide (key row < key first)) = [] := by
    rw [List.filter_eq_nil_iff]
    intro row member earlier
    have strictly := of_decide_eq_true earlier
    rcases List.mem_cons.mp member with rfl | later
    · exact lt_irrefl _ strictly
    · exact lt_asymm strictly (List.rel_of_pairwise_cons pageAscending later)
  calc rows.filter (fun row => decide (key row < key first))
      = (rows.rdrop count ++ first :: rest).filter (fun row => decide (key row < key first)) := by
        rw [split]
    _ = rows.rdrop count := by rw [List.filter_append, older, newer, List.append_nil]

/-- Where something is left there is a first row. -/
theorem exists_head_rtake (positive : 0 < count) (more : count < rows.length) :
    exists first, (rows.rtake count).head? = some first := by
  have nonempty : (rows.rtake count) ≠ [] := by
    apply List.ne_nil_of_length_pos
    rw [length_rtake]
    omega
  exact ⟨_, List.head?_eq_some_head nonempty⟩

end Backwards

end Series
