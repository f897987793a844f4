import HybridDataSvc.Relational.Table
import Mathlib.Order.Defs.LinearOrder
import Mathlib.Data.Set.Basic

namespace Series

universe u v w x

open Relational

/-!
# Rows named by the first key of their group

A derivation that runs over the whole series each time may name a group of
keys by the smallest one the series has in it.  Then the name of a group is
not fixed: a key that arrives before the others renames the group, and the
row under the old name stays in a table that is only upserted into.

`upserts_perm_iff` says when upserting batches leaves exactly the last one,
and `leaders_kept_iff` when the names of a growing series stay.
-/

/-! ## Upserting batches one after the other -/

section Batches

variable {Row : Type u} {Key : Type v} {key : Row -> Key} [DecidableEq Key]

/-- Every key of a batch stays. -/
theorem lookup_upserts_ne_none_iff (batches : List (List Row)) (table : Table key) (k : Key) :
    (batches.foldl Table.upsertAll table).lookup k ≠ none ↔
      table.lookup k ≠ none ∨ exists batch, batch ∈ batches ∧ k ∈ batch.map key := by
  induction batches generalizing table with
  | nil => simp
  | cons batch rest ih =>
      have head : (table.upsertAll batch).lookup k ≠ none ↔
          table.lookup k ≠ none ∨ k ∈ batch.map key := by
        rw [Table.lookup_upsertAll, ne_eq, Option.or_eq_none_iff, not_and_or, or_comm,
          ← ne_eq, ← ne_eq, Option.ne_none_iff_isSome (o := Table.lastUnder key batch k),
          Table.lastUnder_isSome_iff, List.mem_map]
      rw [List.foldl_cons, ih, head, or_assoc]
      simp only [List.mem_cons, exists_eq_or_imp]

/-- Upserting batches leaves exactly the last one if and only if it has every
key of those before. -/
theorem upserts_perm_iff (earlier : List (List Row)) {last : List Row}
    (unique : (last.map key).Nodup) :
    (((earlier ++ [last]).foldl Table.upsertAll (Table.empty : Table key)).rows.Perm last) ↔
      forall batch, batch ∈ earlier -> forall k, k ∈ batch.map key -> k ∈ last.map key := by
  have keys := lookup_upserts_ne_none_iff earlier (Table.empty : Table key)
  rw [List.foldl_append, List.foldl_cons, List.foldl_nil]
  generalize earlier.foldl Table.upsertAll (Table.empty : Table key) = table at keys
  simp only [Table.lookup_empty, ne_eq, not_true_eq_false, false_or] at keys
  constructor
  · intro perm batch member k inBatch
    have present := (keys k).mpr ⟨batch, member, inBatch⟩
    rw [← (perm.map key).mem_iff]
    cases found : (table.upsertAll last).lookup k with
    | some row =>
        rw [Table.lookup_eq_some_iff] at found
        exact List.mem_map.mpr ⟨row, found⟩
    | none =>
        rw [Table.lookup_upsertAll, Option.or_eq_none_iff] at found
        exact absurd found.2 present
  · intro covered
    apply Table.rows_perm_of_lookup unique
    intro k
    rw [Table.lookup_upsertAll]
    cases lastRow : Table.lastUnder key last k with
    | some row => rfl
    | none =>
        rw [Option.none_or]
        by_contra stale
        rcases (keys k).mp stale with ⟨batch, member, inBatch⟩
        have present := (Table.lastUnder_isSome_iff last k).mpr
          (List.mem_map.mp (covered batch member k inBatch))
        rw [lastRow] at present
        cases present

end Batches

/-! ## The first key of each group -/

section Leaders

variable {Key : Type v} {Group : Type w} [LinearOrder Key] (group : Key -> Group)

/-- A key is the first of its group. -/
def Leads (keys : Set Key) (k : Key) : Prop :=
  k ∈ keys ∧ forall other, other ∈ keys -> group other = group k -> k ≤ other

/-- No group gets a key before its first one. -/
def KeepsLeaders (before after : Set Key) : Prop :=
  forall k, Leads group before k -> forall other, other ∈ after -> group other = group k -> k ≤ other

variable {group}

theorem Leads.kept {before after : Set Key} {k : Key} (grows : before ⊆ after)
    (keeps : KeepsLeaders group before after) (leads : Leads group before k) :
    Leads group after k :=
  ⟨grows leads.1, keeps k leads⟩

variable {Series : Type x} {keys : Series -> Set Key}

omit [LinearOrder Key] in
theorem subset_last (first : Series) (later : List Series)
    (grows : (first :: later).IsChain (fun before after => keys before ⊆ keys after)) :
    keys first ⊆ keys (later.getLastD first) := by
  induction later generalizing first with
  | nil => exact subset_rfl
  | cons next rest ih =>
      rw [List.isChain_cons_cons] at grows
      rw [List.getLastD_cons]
      exact grows.1.trans (ih next grows.2)

/-- In a growing chain every first key stays one to the end if and only if
every step keeps the first keys. -/
theorem leaders_kept_iff (first : Series) (later : List Series)
    (grows : (first :: later).IsChain (fun before after => keys before ⊆ keys after)) :
    (forall series, series ∈ first :: later -> forall k, Leads group (keys series) k ->
        Leads group (keys (later.getLastD first)) k) ↔
      (first :: later).IsChain (fun before after => KeepsLeaders group (keys before) (keys after)) := by
  induction later generalizing first with
  | nil => simp
  | cons next rest ih =>
      have toLast := subset_last next rest (List.isChain_cons_cons.mp grows).2
      rw [List.isChain_cons_cons] at grows
      rw [List.isChain_cons_cons, ← ih next grows.2, List.getLastD_cons]
      constructor
      · intro kept
        constructor
        · intro k leads other member same
          exact (kept first List.mem_cons_self k leads).2 other (toLast member) same
        · intro series member
          exact kept series (List.mem_cons_of_mem _ member)
      · rintro ⟨head, tail⟩ series member k leads
        rcases List.mem_cons.mp member with rfl | later
        · exact tail next List.mem_cons_self k (leads.kept grows.1 head)
        · exact tail series later k leads

end Leaders

end Series
