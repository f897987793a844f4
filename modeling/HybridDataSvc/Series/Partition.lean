import HybridDataSvc.Series.Derived
import Mathlib.Algebra.BigOperators.Group.List.Basic

namespace Series

universe u v w x y

/-!
# The buckets partition a series

The derived rows come in the order of their buckets, and what is added up over
the rows of every bucket is what is added up over the series: each row is in
exactly one bucket.
-/

variable {Row : Type u} {Key : Type v} {Bucket : Type w} {Out : Type x} {M : Type y}
  [LinearOrder Key] [LinearOrder Bucket]

/-- Of the terms of a sum only the one of a given name counts. -/
theorem sum_map_single [AddCommMonoid M] {names : List Bucket} (nodup : names.Nodup)
    {name : Bucket} (member : name ∈ names) (value : M) :
    (names.map (fun other => if name = other then value else 0)).sum = value := by
  induction names with
  | nil => cases member
  | cons head rest ih =>
      rw [List.nodup_cons] at nodup
      rw [List.map_cons, List.sum_cons]
      rcases List.mem_cons.mp member with here | later
      · have others : rest.map (fun other => if name = other then value else 0) =
            rest.map (fun _ => 0) := by
          apply List.map_congr_left
          intro other otherMem
          rw [if_neg]
          rintro rfl
          exact nodup.1 (here ▸ otherMem)
        rw [if_pos here, others, List.map_const', List.sum_replicate, nsmul_zero, add_zero]
      · have elsewhere : name ≠ head := by
          rintro rfl
          exact nodup.1 later
        rw [if_neg elsewhere, zero_add, ih nodup.2 later]

namespace Derivation

variable (d : Derivation Row Key Bucket Out)

omit [LinearOrder Key] in
/-- The buckets come in strictly ascending order. -/
theorem pairwise_buckets (rows : List Row) :
    (d.buckets rows).Pairwise (fun first second => first < second) := by
  have sorted : (d.buckets rows).Pairwise (fun first second => first ≤ second) :=
    List.pairwise_insertionSort _ _
  exact (sorted.and (d.nodup_buckets rows)).imp (fun both => lt_of_le_of_ne both.1 both.2)

/-- The derived rows come in the order of their buckets. -/
theorem pairwise_derive (rows : List Row) :
    (d.derive rows).Pairwise (fun first second => d.outKey first < d.outKey second) := by
  have ordered := d.pairwise_buckets (normalize d.key rows)
  rw [← map_outKey_derive] at ordered
  exact List.pairwise_map.mp ordered

omit [LinearOrder Key] in
theorem group_cons (row : Row) (rest : List Row) (bucket : Bucket) :
    d.group (row :: rest) bucket =
      if d.bucket (d.key row) = bucket then row :: d.group rest bucket
      else d.group rest bucket := by
  rw [group, List.filter_cons]
  by_cases here : d.bucket (d.key row) = bucket
  · rw [if_pos (decide_eq_true here), if_pos here, group]
  · rw [if_neg (by simp [here]), if_neg here, group]

omit [LinearOrder Key] in
/-- Each row counts in the bucket it is in. -/
theorem sum_map_group [AddCommMonoid M] (value : Row -> M) {names : List Bucket}
    (nodup : names.Nodup) (rows : List Row)
    (covered : forall row, row ∈ rows -> d.bucket (d.key row) ∈ names) :
    (names.map (fun bucket => ((d.group rows bucket).map value).sum)).sum =
      (rows.map value).sum := by
  induction rows with
  | nil => simp [group]
  | cons row rest ih =>
      have split : forall bucket, ((d.group (row :: rest) bucket).map value).sum =
          (if d.bucket (d.key row) = bucket then value row else 0) +
            ((d.group rest bucket).map value).sum := by
        intro bucket
        rw [group_cons]
        by_cases here : d.bucket (d.key row) = bucket
        · rw [if_pos here, if_pos here, List.map_cons, List.sum_cons]
        · rw [if_neg here, if_neg here, zero_add]
      have first := covered row List.mem_cons_self
      have others : forall other, other ∈ rest -> d.bucket (d.key other) ∈ names := by
        intro other member
        exact covered other (List.mem_cons_of_mem _ member)
      simp only [split]
      rw [List.sum_map_add, sum_map_single nodup first, ih others, List.map_cons, List.sum_cons]

omit [LinearOrder Key] in
theorem mem_buckets_of_mem {rows : List Row} {row : Row} (member : row ∈ rows) :
    d.bucket (d.key row) ∈ d.buckets rows := by
  rw [mem_buckets]
  apply List.ne_nil_of_mem
  exact List.mem_filter.mpr ⟨member, decide_eq_true rfl⟩

omit [LinearOrder Key] in
/-- What is added up bucket by bucket is the sum over all rows. -/
theorem sum_map_buckets [AddCommMonoid M] (value : Row -> M) (rows : List Row) :
    ((d.buckets rows).map (fun bucket => ((d.group rows bucket).map value).sum)).sum =
      (rows.map value).sum :=
  d.sum_map_group value (d.nodup_buckets rows) rows (fun _ member => d.mem_buckets_of_mem member)

end Derivation

end Series
