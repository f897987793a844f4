import HybridDataSvc.Series.LastWins
import Mathlib.Data.List.Pairwise

namespace Relational

universe u v

open Series

/-!
# Pages by key

A page is the first rows beyond a cursor in the order of their keys, and the
next cursor is the key of its last row.  One row more than the page holds is
read, to see whether there is another page.

The rows may change between two pages.  `Progress` is what a walk has returned
by the time it asks for its next page, `Covered` says that it has passed a key
and not missed it, and each page keeps both.
-/

namespace Keyset

variable {Item : Type u} {Key : Type v} [LinearOrder Key] (key : Item -> Key)

/-- A key that comes after a cursor. -/
def isBeyond (cursor : Option Key) (k : Key) : Bool :=
  match cursor with
  | none => true
  | some last => decide (last < k)

/-- The items beyond a cursor, in order. -/
def remaining (cursor : Option Key) (items : List Item) : List Item :=
  sortBy key (items.filter (fun item => isBeyond cursor (key item)))

/-- The first `limit + 1` items are read; if there are so many, the last of
them is left to the next page. -/
def page (limit : Nat) (cursor : Option Key) (items : List Item) : List Item × Option Key :=
  let rows := (remaining key cursor items).take (limit + 1)
  if limit < rows.length then (rows.take limit, (rows.take limit).getLast?.map key)
  else (rows, none)

theorem mem_remaining (cursor : Option Key) (items : List Item) (item : Item) :
    item ∈ remaining key cursor items ↔ item ∈ items ∧ isBeyond cursor (key item) = true := by
  rw [remaining, mem_sortBy, List.mem_filter]

variable {key}

theorem ascending_remaining {items : List Item} (unique : (items.map key).Nodup)
    (cursor : Option Key) : Ascending key (remaining key cursor items) := by
  have kept : ((items.filter (fun item => isBeyond cursor (key item))).map key).Nodup :=
    unique.sublist (List.filter_sublist.map key)
  exact ascending_sortBy kept

/-- In ascending items, what comes before an item of the first ones is one of
the first ones. -/
theorem mem_take_of_le {items : List Item} (ascending : Ascending key items) {count : Nat}
    {last item : Item} (lastMem : last ∈ items.take count) (member : item ∈ items)
    (before : key item ≤ key last) : item ∈ items.take count := by
  rw [← List.take_append_drop count items] at member ascending
  rcases List.mem_append.mp member with taken | dropped
  · exact taken
  · have after := (List.pairwise_append.mp ascending).2.2 last lastMem item dropped
    exact absurd after (not_lt.mpr before)

variable (key) in
/-- What a page holds. -/
structure IsPage (limit : Nat) (cursor : Option Key) (items rows : List Item)
    (next : Option Key) : Prop where
  ascending : Ascending key rows
  stored : forall row, row ∈ rows -> row ∈ items ∧ isBeyond cursor (key row) = true
  -- without a next page nothing is left
  complete : next = none -> forall item, item ∈ items -> isBeyond cursor (key item) = true ->
    item ∈ rows
  full : forall last, next = some last -> rows.length = limit
  bounded : forall last, next = some last -> (forall row, row ∈ rows -> key row ≤ last) ∧
    exists row, row ∈ rows ∧ key row = last
  -- with a next page nothing before the cursor is left
  passed : forall last, next = some last -> forall item, item ∈ items ->
    isBeyond cursor (key item) = true -> key item ≤ last -> item ∈ rows

/-- A page that is followed by another one. -/
theorem page_of_lt {limit : Nat} {cursor : Option Key} {items : List Item}
    (more : limit < (remaining key cursor items).length) :
    page key limit cursor items =
      ((remaining key cursor items).take limit,
        ((remaining key cursor items).take limit).getLast?.map key) := by
  have length : limit < ((remaining key cursor items).take (limit + 1)).length := by
    rw [List.length_take]
    omega
  have same : ((remaining key cursor items).take (limit + 1)).take limit =
      (remaining key cursor items).take limit := by
    rw [List.take_take, Nat.min_eq_left (Nat.le_succ limit)]
  rw [page, if_pos length, same]

/-- The last page. -/
theorem page_of_le {limit : Nat} {cursor : Option Key} {items : List Item}
    (rest : (remaining key cursor items).length ≤ limit) :
    page key limit cursor items = (remaining key cursor items, none) := by
  have all : (remaining key cursor items).take (limit + 1) = remaining key cursor items :=
    List.take_of_length_le (rest.trans (Nat.le_succ limit))
  rw [page, all, if_neg (not_lt.mpr rest)]

theorem isPage_of_le {limit : Nat} {items : List Item} (unique : (items.map key).Nodup)
    (cursor : Option Key) :
    IsPage key limit cursor items (remaining key cursor items) none where
  ascending := ascending_remaining unique cursor
  stored := fun row member => (mem_remaining key cursor items row).mp member
  complete := fun _ item stored beyond => (mem_remaining key cursor items item).mpr ⟨stored, beyond⟩
  full := by
    intro last impossible
    cases impossible
  bounded := by
    intro last impossible
    cases impossible
  passed := by
    intro last impossible
    cases impossible

variable (key) in
theorem isPage_page {limit : Nat} (positive : 0 < limit) {items : List Item}
    (unique : (items.map key).Nodup) (cursor : Option Key) :
    IsPage key limit cursor items (page key limit cursor items).1
      (page key limit cursor items).2 := by
  by_cases more : limit < (remaining key cursor items).length
  · have ascending := ascending_remaining unique cursor
    have members := mem_remaining key cursor items
    rw [page_of_lt more]
    generalize remaining key cursor items = left at more ascending members
    have length : (left.take limit).length = limit := by
      rw [List.length_take]
      omega
    have nonempty : left.take limit ≠ [] := List.ne_nil_of_length_pos (length.symm ▸ positive)
    rw [List.getLast?_eq_some_getLast nonempty, Option.map_some]
    have sorted : Ascending key (left.take limit) := ascending.sublist (List.take_sublist _ _)
    have weak : (left.take limit).Pairwise (fun first second => key first ≤ key second) :=
      sorted.imp le_of_lt
    have reflexive : Std.Refl (fun first second : Item => key first ≤ key second) :=
      ⟨fun item => le_refl (key item)⟩
    exact
      { ascending := sorted
        stored := fun row member => (members row).mp (List.mem_of_mem_take member)
        complete := by
          intro impossible
          cases impossible
        full := fun _ _ => length
        bounded := by
          intro last equal
          rw [← Option.some_inj.mp equal]
          exact ⟨fun row member => weak.rel_getLast member, _, List.getLast_mem nonempty, rfl⟩
        passed := by
          intro last equal item stored beyond before
          rw [← Option.some_inj.mp equal] at before
          exact mem_take_of_le ascending (List.getLast_mem nonempty)
            ((members item).mpr ⟨stored, beyond⟩) before }
  · rw [page_of_le (not_lt.mp more)]
    exact isPage_of_le unique cursor

/-! ## Walks -/

variable (key) in
/-- What a walk has returned when it asks for the page after a cursor. -/
structure Progress (limit : Nat) (cursor : Option Key) (pages : List (List Item)) : Prop where
  ascending : Ascending key pages.flatten
  passed : forall item, item ∈ pages.flatten -> exists last, cursor = some last ∧ key item ≤ last
  full : forall rows, rows ∈ pages -> rows.length = limit

variable (key) in
/-- The cursor has passed a key only by returning an item that has it. -/
def Covered (cursor : Option Key) (pages : List (List Item)) (k : Key) : Prop :=
  isBeyond cursor k = true ∨ exists item, item ∈ pages.flatten ∧ key item = k

variable (key) in
theorem progress_start (limit : Nat) : Progress key limit none [] where
  ascending := List.Pairwise.nil
  passed := by
    intro item member
    cases member
  full := by
    intro rows member
    cases member

variable (key) in
theorem covered_start (k : Key) : Covered key none [] k := Or.inl rfl

variable {limit : Nat} {cursor next : Option Key} {pages : List (List Item)}
  {items rows : List Item}

/-- The rows of the next page come after those before. -/
theorem Progress.ascending_append (progress : Progress key limit cursor pages)
    (isPage : IsPage key limit cursor items rows next) :
    Ascending key (pages ++ [rows]).flatten := by
  rw [List.flatten_append, List.flatten_singleton]
  refine List.pairwise_append.mpr ⟨progress.ascending, isPage.ascending, ?_⟩
  intro item returned row member
  rcases progress.passed item returned with ⟨last, equal, before⟩
  have beyond := (isPage.stored row member).2
  rw [equal] at beyond
  exact lt_of_le_of_lt before (of_decide_eq_true beyond)

/-- A page that is followed by another one. -/
theorem Progress.step {last : Key} (progress : Progress key limit cursor pages)
    (isPage : IsPage key limit cursor items rows (some last)) :
    Progress key limit (some last) (pages ++ [rows]) where
  ascending := progress.ascending_append isPage
  passed := by
    intro item member
    refine ⟨last, rfl, ?_⟩
    have bounded := isPage.bounded last rfl
    rw [List.flatten_append, List.flatten_singleton] at member
    rcases List.mem_append.mp member with returned | new
    · rcases progress.passed item returned with ⟨before, equal, passed⟩
      rcases bounded.2 with ⟨row, rowMem, rowKey⟩
      have beyond := (isPage.stored row rowMem).2
      rw [equal] at beyond
      exact passed.trans ((of_decide_eq_true beyond).le.trans (bounded.1 row rowMem))
    · exact bounded.1 item new
  full := by
    intro other member
    rcases List.mem_append.mp member with earlier | new
    · exact progress.full other earlier
    · rw [List.mem_singleton.mp new]
      exact isPage.full last rfl

/-- A key that the items have is passed only by returning it. -/
theorem Covered.step {k last : Key} (covered : Covered key cursor pages k)
    (isPage : IsPage key limit cursor items rows (some last))
    (present : exists item, item ∈ items ∧ key item = k) :
    Covered key (some last) (pages ++ [rows]) k := by
  rw [Covered, List.flatten_append, List.flatten_singleton]
  rcases covered with beyond | ⟨item, returned, here⟩
  · rcases present with ⟨item, stored, rfl⟩
    by_cases ahead : last < key item
    · exact Or.inl (decide_eq_true ahead)
    · have taken := isPage.passed last rfl item stored beyond (not_lt.mp ahead)
      exact Or.inr ⟨item, List.mem_append_right _ taken, rfl⟩
  · exact Or.inr ⟨item, List.mem_append_left _ returned, here⟩

/-- By the last page it is returned. -/
theorem Covered.finish {k : Key} (covered : Covered key cursor pages k)
    (isPage : IsPage key limit cursor items rows none)
    (present : exists item, item ∈ items ∧ key item = k) :
    exists item, item ∈ (pages ++ [rows]).flatten ∧ key item = k := by
  rw [List.flatten_append, List.flatten_singleton]
  rcases covered with beyond | ⟨item, returned, here⟩
  · rcases present with ⟨item, stored, rfl⟩
    exact ⟨item, List.mem_append_right _ (isPage.complete rfl item stored beyond), rfl⟩
  · exact ⟨item, List.mem_append_left _ returned, here⟩

/-- The returned items fill the pages. -/
theorem Progress.length (progress : Progress key limit cursor pages) :
    pages.flatten.length = pages.length * limit := by
  rw [List.length_flatten, List.map_congr_left progress.full, List.map_const',
    List.sum_replicate_nat]

end Keyset

end Relational
