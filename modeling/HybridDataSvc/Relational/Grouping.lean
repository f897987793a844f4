import HybridDataSvc.Relational.Statements
import Mathlib.Algebra.Ring.Nat

namespace Relational

universe u v w x

/-!
# `GROUP BY` over joins

A query that joins a table with others and groups by the columns of the first
one has a group for each of its rows, however many rows the joins make of it.
-/

section GroupBy

variable {Row : Type u} {Name : Type v} [DecidableEq Name]

/-- The rows of each name, in the order the names appear in. -/
def groupBy (name : Row -> Name) (rows : List Row) : List (Name × List Row) :=
  (rows.map name).eraseDups.map (fun group =>
    (group, rows.filter (fun row => decide (name row = group))))

theorem mem_groupBy {name : Row -> Name} {rows : List Row} {group : Name × List Row} :
    group ∈ groupBy name rows ↔
      group.1 ∈ rows.map name ∧ group.2 = rows.filter (fun row => decide (name row = group.1)) := by
  rw [groupBy, List.mem_map]
  constructor
  · rintro ⟨first, named, rfl⟩
    exact ⟨List.mem_eraseDups.mp named, rfl⟩
  · rintro ⟨named, same⟩
    exact ⟨group.1, List.mem_eraseDups.mpr named, Prod.ext rfl same.symm⟩

/-- There is a group where there is a row. -/
theorem groupBy_eq_nil_iff {name : Row -> Name} {rows : List Row} :
    groupBy name rows = [] ↔ rows = [] := by
  constructor
  · intro noGroup
    apply List.eq_nil_iff_forall_not_mem.mpr
    intro row member
    have group : (name row, rows.filter (fun other => decide (name other = name row))) ∈
        groupBy name rows := mem_groupBy.mpr ⟨List.mem_map_of_mem member, rfl⟩
    rw [noGroup] at group
    cases group
  · rintro rfl
    rfl

/-- The group of the first row, and the groups of the rows with other names. -/
theorem groupBy_cons (name : Row -> Name) (row : Row) (rest : List Row) :
    groupBy name (row :: rest) =
      (name row, row :: rest.filter (fun other => decide (name other = name row))) ::
        groupBy name (rest.filter (fun other => decide (name other ≠ name row))) := by
  have names : ((rest.map name).filter (fun other => !(other == name row))) =
      (rest.filter (fun other => decide (name other ≠ name row))).map name := by
    rw [List.filter_map]
    congr 1
    apply List.filter_congr
    intro other _
    rw [Bool.eq_iff_iff]
    simp
  rw [groupBy, List.map_cons, List.eraseDups_cons, names, List.map_cons, List.filter_cons,
    if_pos (decide_eq_true rfl)]
  congr 1
  apply List.map_congr_left
  intro group member
  rcases List.mem_map.mp (List.mem_eraseDups.mp member) with ⟨other, otherMem, rfl⟩
  have different : name other ≠ name row := of_decide_eq_true (List.mem_filter.mp otherMem).2
  rw [List.filter_cons, if_neg (by simpa using Ne.symm different), List.filter_filter]
  refine congrArg (Prod.mk (name other)) (List.filter_congr ?_)
  intro last _
  rw [Bool.eq_iff_iff, Bool.and_eq_true, decide_eq_true_eq, decide_eq_true_eq]
  exact ⟨fun same => ⟨same, fun again => different (same.symm.trans again)⟩, And.left⟩

/-- The groups have different names. -/
theorem nodup_groupBy (name : Row -> Name) (rows : List Row) :
    ((groupBy name rows).map Prod.fst).Nodup := by
  have names : (groupBy name rows).map Prod.fst = (rows.map name).eraseDups := by
    rw [groupBy, List.map_map]
    exact List.map_id _
  rw [names]
  exact nodup_eraseDups _

/-- Every row is in one group. -/
theorem sum_length_groupBy (name : Row -> Name) (rows : List Row) :
    ((groupBy name rows).map (fun group => group.2.length)).sum = rows.length := by
  induction size : rows.length using Nat.strong_induction_on generalizing rows with
  | _ length ih =>
      cases rows with
      | nil => exact size
      | cons row rest =>
          have parts := List.length_eq_length_filter_add
            (fun other => decide (name other = name row)) (l := rest)
          have negated : (fun other => !decide (name other = name row)) =
              fun other => decide (name other ≠ name row) := by
            funext other
            exact (decide_not).symm
          rw [negated] at parts
          rw [List.length_cons] at size
          have others := ih _ (by omega) _ (rfl : (rest.filter (fun other =>
            decide (name other ≠ name row))).length = _)
          rw [groupBy_cons, List.map_cons, List.sum_cons, others, List.length_cons]
          omega

end GroupBy

/-- The entries of a `VALUES` list under one key. -/
theorem filter_key_eq_lookup {Key : Type u} {Value : Type v} [DecidableEq Key]
    {entries : List (Key × Value)} (unique : (entries.map Prod.fst).Nodup) (key : Key) :
    entries.filter (fun entry => decide (entry.1 = key)) =
      ((entries.lookup key).map (fun value => (key, value))).toList := by
  induction entries with
  | nil => rfl
  | cons entry rest ih =>
      rw [List.map_cons, List.nodup_cons] at unique
      rcases entry with ⟨first, value⟩
      by_cases here : first = key
      · subst here
        rw [List.filter_cons, if_pos (decide_eq_true rfl), List.lookup_cons_self,
          List.filter_eq_nil_iff.mpr]
        · rfl
        · intro other member same
          exact unique.1 (List.mem_map.mpr ⟨other, member, of_decide_eq_true same⟩)
      · have elsewhere : (key == first) = false := beq_false_of_ne (Ne.symm here)
        rw [List.filter_cons, if_neg (by simpa using here), ih unique.2, List.lookup_cons, elsewhere]

section Expand

variable {Left : Type u} {Out : Type v} {Name : Type w} [DecidableEq Name]
  {expand : Left -> List Out} {origin : Out -> Left}

omit [DecidableEq Name] in
/-- A condition on the rows a join starts from. -/
theorem filter_flatMap_origin (own : forall row out, out ∈ expand row -> origin out = row)
    (condition : Left -> Bool) (left : List Left) :
    (left.flatMap expand).filter (fun out => condition (origin out)) =
      (left.filter condition).flatMap expand := by
  induction left with
  | nil => rfl
  | cons row rest ih =>
      have here : forall out, out ∈ expand row -> condition (origin out) = condition row := by
        intro out member
        rw [own row out member]
      rw [List.flatMap_cons, List.filter_append, ih, List.filter_cons]
      by_cases met : condition row = true
      · rw [if_pos met, List.flatMap_cons, List.filter_eq_self.mpr]
        intro out member
        rw [here out member, met]
      · rw [if_neg met, List.filter_eq_nil_iff.mpr, List.nil_append]
        intro out member
        rw [here out member]
        exact met

/-- Where no two rows have the same name, one row has the name of a row. -/
theorem filter_name_of_mem {name : Left -> Name} {left : List Left}
    (unique : (left.map name).Nodup) {row : Left} (member : row ∈ left) :
    left.filter (fun other => decide (name other = name row)) = [row] := by
  induction left with
  | nil => cases member
  | cons head rest ih =>
      rw [List.map_cons, List.nodup_cons] at unique
      rcases List.mem_cons.mp member with rfl | later
      · rw [List.filter_cons, if_pos (decide_eq_true rfl), List.filter_eq_nil_iff.mpr]
        intro other otherMem same
        exact unique.1 (List.mem_map.mpr ⟨other, otherMem, of_decide_eq_true same⟩)
      · rw [List.filter_cons, if_neg, ih unique.2 later]
        intro same
        exact unique.1 (List.mem_map.mpr ⟨row, later, (of_decide_eq_true same).symm⟩)

/-- The rows made of one row are those that carry its name. -/
theorem filter_flatMap_name (own : forall row out, out ∈ expand row -> origin out = row)
    (name : Left -> Name) {left : List Left} (unique : (left.map name).Nodup) {row : Left}
    (member : row ∈ left) :
    (left.flatMap expand).filter (fun out => decide (name (origin out) = name row)) =
      expand row := by
  rw [filter_flatMap_origin own (fun other => decide (name other = name row)) left,
    filter_name_of_mem unique member, List.flatMap_singleton]

theorem eraseDups_of_all_eq {names : List Name} {name : Name} (nonempty : names ≠ [])
    (all : forall other, other ∈ names -> other = name) : names.eraseDups = [name] := by
  cases names with
  | nil => exact absurd rfl nonempty
  | cons head rest =>
      have first : head = name := all head List.mem_cons_self
      subst first
      rw [List.eraseDups_cons, List.filter_eq_nil_iff.mpr, List.eraseDups_nil]
      intro other member
      simp [all other (List.mem_cons_of_mem _ member)]

/-- The names appear in the order of the rows the join starts from. -/
theorem eraseDups_names (own : forall row out, out ∈ expand row -> origin out = row)
    (nonempty : forall row, expand row ≠ []) (name : Left -> Name) {left : List Left}
    (unique : (left.map name).Nodup) :
    ((left.flatMap expand).map (fun out => name (origin out))).eraseDups = left.map name := by
  induction left with
  | nil => rfl
  | cons row rest ih =>
      rw [List.map_cons, List.nodup_cons] at unique
      have head : ((expand row).map (fun out => name (origin out))).eraseDups = [name row] := by
        apply eraseDups_of_all_eq
        · simpa using nonempty row
        · intro other member
          rcases List.mem_map.mp member with ⟨out, outMem, rfl⟩
          rw [own row out outMem]
      have apart : ((rest.flatMap expand).map (fun out => name (origin out))).removeAll
          ((expand row).map (fun out => name (origin out))) =
          (rest.flatMap expand).map (fun out => name (origin out)) := by
        rw [List.removeAll, List.filter_eq_self]
        intro other member
        rcases List.mem_map.mp member with ⟨out, outMem, rfl⟩
        rcases List.mem_flatMap.mp outMem with ⟨later, laterMem, made⟩
        rw [own later out made, Bool.not_eq_true', List.elem_eq_contains, List.contains_eq_mem,
          decide_eq_false_iff_not]
        intro again
        rcases List.mem_map.mp again with ⟨first, firstMem, same⟩
        rw [own row first firstMem] at same
        exact unique.1 (List.mem_map.mpr ⟨later, laterMem, same.symm⟩)
      rw [List.flatMap_cons, List.map_append, List.eraseDups_append, head, apart, ih unique.2]
      rfl

/-- One group for each row the join starts from. -/
theorem groupBy_flatMap (own : forall row out, out ∈ expand row -> origin out = row)
    (nonempty : forall row, expand row ≠ []) (name : Left -> Name) {left : List Left}
    (unique : (left.map name).Nodup) :
    groupBy (fun out => name (origin out)) (left.flatMap expand) =
      left.map (fun row => (name row, expand row)) := by
  rw [groupBy, eraseDups_names own nonempty name unique, List.map_map]
  apply List.map_congr_left
  intro row member
  exact congrArg (Prod.mk (name row)) (filter_flatMap_name own name unique member)

end Expand

/-! ## Joins as expansions -/

section LeftJoin

variable {Left : Type u} {Right : Type v} {Last : Type w} {Other : Type x}

theorem leftJoin_append (first second : List Left) (matching : Left -> List Right) :
    leftJoin (first ++ second) matching = leftJoin first matching ++ leftJoin second matching := by
  rw [leftJoin, List.flatMap_append]
  rfl

/-- Two joins, row by row. -/
theorem leftJoin_leftJoin (left : List Left) (matching : Left -> List Right)
    (again : Left × Option Right -> List Last) :
    leftJoin (leftJoin left matching) again =
      left.flatMap (fun row => leftJoin (leftJoin [row] matching) again) := by
  induction left with
  | nil => rfl
  | cons row rest ih =>
      rw [List.flatMap_cons, ← ih, ← leftJoin_append, ← leftJoin_append, List.singleton_append]

theorem leftJoin_ne_nil {left : List Left} (nonempty : left ≠ []) (matching : Left -> List Right) :
    leftJoin left matching ≠ [] := by
  rcases List.exists_mem_of_ne_nil left nonempty with ⟨row, member⟩
  rcases exists_mem_leftJoin member matching with ⟨other, joined⟩
  exact List.ne_nil_of_mem joined

/-- Renaming the rows on the left. -/
theorem leftJoin_map (rename : Other -> Left) (matching : Left -> List Right) (rows : List Other) :
    leftJoin (rows.map rename) matching =
      (leftJoin rows (fun row => matching (rename row))).map (fun pair =>
        (rename pair.1, pair.2)) := by
  induction rows with
  | nil => rfl
  | cons row rest ih =>
      rw [← List.singleton_append, List.map_append, leftJoin_append, leftJoin_append,
        List.map_append, ih]
      congr 1
      simp only [leftJoin, List.map_singleton, List.flatMap_singleton]
      by_cases empty : (matching (rename row)).isEmpty = true
      · simp [empty]
      · simp [empty]

theorem leftJoin_congr {left : List Left} {matching other : Left -> List Right}
    (same : forall row, row ∈ left -> matching row = other row) :
    leftJoin left matching = leftJoin left other := by
  induction left with
  | nil => rfl
  | cons row rest ih =>
      have later := ih (fun next member => same next (List.mem_cons_of_mem _ member))
      have head : leftJoin [row] matching = leftJoin [row] other := by
        simp only [leftJoin, List.flatMap_singleton, same row List.mem_cons_self]
      rw [← List.singleton_append, leftJoin_append, leftJoin_append, head, later]

end LeftJoin

end Relational
