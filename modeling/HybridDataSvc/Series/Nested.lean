import HybridDataSvc.Series.Partition

namespace Series

universe u v w x

/-!
# Series derived from derived series

Over rows in the order of their buckets, the groups of a derivation laid one
after the other are the rows again.  So a column that picks one value of a
group, such as the first or the greatest one, may be picked from what was
picked before, and a coarser series may be derived from a finer one.
-/

/-! ## Picking one value -/

/-- A value picked of a list is picked of what is picked of its parts. -/
structure Picks {Value : Type u} (pick : List Value -> Option Value)
    (combine : Option Value -> Option Value -> Option Value) : Prop where
  none : pick [] = Option.none
  one : forall value, pick [value] = some value
  append : forall first second, pick (first ++ second) = combine (pick first) (pick second)

namespace Picks

variable {Value : Type u} {Name : Type v} {pick : List Value -> Option Value}
  {combine : Option Value -> Option Value -> Option Value}

theorem toList (picks : Picks pick combine) (picked : Option Value) :
    pick picked.toList = picked := by
  cases picked with
  | none => exact picks.none
  | some value => exact picks.one value

/-- Picking from what the parts offer is picking from all of them. -/
theorem filterMap (picks : Picks pick combine) (names : List Name)
    (values : Name -> List Value) :
    pick (names.filterMap (fun name => pick (values name))) = pick (names.flatMap values) := by
  induction names with
  | nil => rfl
  | cons name rest ih =>
      have offered : (name :: rest).filterMap (fun name => pick (values name)) =
          (pick (values name)).toList ++ rest.filterMap (fun name => pick (values name)) := by
        cases picked : pick (values name) with
        | none => simp [picked]
        | some value => simp [picked]
      rw [offered, picks.append, picks.toList, ih, List.flatMap_cons, picks.append]

theorem head? : Picks (@List.head? Value) Option.or where
  none := rfl
  one := fun _ => rfl
  append := fun _ _ => List.head?_append

theorem getLast? : Picks (@List.getLast? Value) (fun first second => second.or first) where
  none := rfl
  one := fun _ => rfl
  append := fun _ _ => List.getLast?_append

theorem max? [LinearOrder Value] : Picks (@List.max? Value _) (Option.merge max) where
  none := rfl
  one := fun _ => rfl
  append := by
    intro first second
    induction first with
    | nil => simp
    | cons value rest ih =>
        rw [List.cons_append, List.max?_cons, List.max?_cons, ih]
        cases rest.max? with
        | none => cases second.max? <;> simp
        | some left => cases second.max? <;> simp [max_assoc]

theorem min? [LinearOrder Value] : Picks (@List.min? Value _) (Option.merge min) where
  none := rfl
  one := fun _ => rfl
  append := by
    intro first second
    induction first with
    | nil => simp
    | cons value rest ih =>
        rw [List.cons_append, List.min?_cons, List.min?_cons, ih]
        cases rest.min? with
        | none => cases second.min? <;> simp
        | some left => cases second.min? <;> simp [min_assoc]

end Picks

/-! ## Groups one after the other -/

section Groups

variable {Row : Type u} {Name : Type v} [LinearOrder Name] {name : Row -> Name}

theorem eq_of_same_names {first second : List Name}
    (ascending : first.Pairwise (fun before after => before < after))
    (ascending' : second.Pairwise (fun before after => before < after))
    (same : forall own, own ∈ first ↔ own ∈ second) : first = second := by
  have left : Ascending id first := ascending
  exact left.eq_of_mem_iff ascending' same

/-- In rows sorted by name those of the least name come first. -/
theorem filter_append_filter {rows : List Row} {least : Name}
    (sorted : rows.Pairwise (fun first second => name first ≤ name second))
    (bound : forall row, row ∈ rows -> least ≤ name row) :
    rows.filter (fun row => decide (name row = least)) ++
      rows.filter (fun row => decide (name row ≠ least)) = rows := by
  induction rows with
  | nil => rfl
  | cons row rest ih =>
      rcases List.pairwise_cons.mp sorted with ⟨before, later⟩
      by_cases here : name row = least
      · rw [List.filter_cons_of_pos (by simpa using here), List.filter_cons_of_neg (by simpa using here),
          List.cons_append, ih later (fun other member => bound other (List.mem_cons_of_mem _ member))]
      · have above : least < name row :=
          lt_of_le_of_ne (bound row List.mem_cons_self) (Ne.symm here)
        have others : forall other, other ∈ row :: rest -> name other ≠ least := by
          intro other member
          rcases List.mem_cons.mp member with rfl | tail
          · exact here
          · exact ne_of_gt (lt_of_lt_of_le above (before other tail))
        have none : (row :: rest).filter (fun other => decide (name other = least)) = [] := by
          rw [List.filter_eq_nil_iff]
          intro other member
          simpa using others other member
        have all : (row :: rest).filter (fun other => decide (name other ≠ least)) = row :: rest := by
          rw [List.filter_eq_self]
          intro other member
          simpa using others other member
        rw [none, all, List.nil_append]

/-- Rows sorted by name are the rows of each name, one name after the other. -/
theorem flatMap_filter {names : List Name} {rows : List Row}
    (ascending : names.Pairwise (fun first second => first < second))
    (sorted : rows.Pairwise (fun first second => name first ≤ name second))
    (covered : forall row, row ∈ rows -> name row ∈ names) :
    names.flatMap (fun own => rows.filter (fun row => decide (name row = own))) = rows := by
  induction names generalizing rows with
  | nil =>
      cases rows with
      | nil => rfl
      | cons row rest => cases covered row List.mem_cons_self
  | cons least others ih =>
      rcases List.pairwise_cons.mp ascending with ⟨before, later⟩
      have bound : forall row, row ∈ rows -> least ≤ name row := by
        intro row member
        rcases List.mem_cons.mp (covered row member) with here | listed
        · exact le_of_eq here.symm
        · exact le_of_lt (before _ listed)
      have remaining := ih later (List.Pairwise.filter (fun row => decide (name row ≠ least)) sorted) (by
        intro row member
        rw [List.mem_filter, decide_eq_true_iff] at member
        exact (List.mem_cons.mp (covered row member.1)).resolve_left member.2)
      have same : forall own, own ∈ others ->
          (rows.filter (fun row => decide (name row ≠ least))).filter
            (fun row => decide (name row = own)) = rows.filter (fun row => decide (name row = own)) := by
        intro own member
        rw [List.filter_filter]
        apply List.filter_congr
        intro row _
        by_cases here : name row = own
        · simp [here, ne_of_gt (before own member)]
        · simp [here]
      rw [List.flatMap_cons, ← List.flatMap_congr same, remaining]
      exact filter_append_filter sorted bound

end Groups

namespace Derivation

variable {Row : Type u} {Key : Type v} {Bucket : Type w} {Out : Type x}
  [LinearOrder Key] [LinearOrder Bucket] (d : Derivation Row Key Bucket Out)

omit [LinearOrder Key] in
/-- The groups of rows in the order of their buckets, laid one after the other. -/
theorem flatMap_group {rows : List Row}
    (sorted : rows.Pairwise (fun first second =>
      d.bucket (d.key first) ≤ d.bucket (d.key second))) :
    (d.buckets rows).flatMap (d.group rows) = rows :=
  flatMap_filter (d.pairwise_buckets rows) sorted (fun _ member => d.mem_buckets_of_mem member)

omit [LinearOrder Key] in
theorem ofNormalized_eq_nil_iff (rows : List Row) : d.ofNormalized rows = [] ↔ rows = [] := by
  rw [ofNormalized, List.map_eq_nil_iff]
  constructor
  · intro none
    rw [List.eq_nil_iff_forall_not_mem]
    intro row member
    have bucket := d.mem_buckets_of_mem member
    rw [none] at bucket
    cases bucket
  · rintro rfl
    rfl

end Derivation

/-! ## Segments -/

section Segments

variable {Row : Type u} {Name : Type v} [LinearOrder Name]

/-- The rows with their names. -/
def segmentation (name : Row -> Name) : Derivation Row Name Name (Name × List Row) where
  key := name
  bucket := id
  make := Prod.mk
  outKey := Prod.fst
  outKey_make := fun _ _ => rfl

/-- The rows of each name, in the order of the names. -/
def segments (name : Row -> Name) (rows : List Row) : List (List Row) :=
  ((segmentation name).buckets rows).map ((segmentation name).group rows)

variable {name : Row -> Name} {rows : List Row}

theorem mem_segments (part : List Row) :
    part ∈ segments name rows ↔
      exists row, row ∈ rows ∧ rows.filter (fun other => decide (name other = name row)) = part := by
  rw [segments, List.mem_map]
  constructor
  · rintro ⟨own, named, rfl⟩
    rw [Derivation.mem_buckets] at named
    rcases List.exists_mem_of_ne_nil _ named with ⟨row, member⟩
    rcases List.mem_filter.mp member with ⟨inRows, here⟩
    have same : name row = own := of_decide_eq_true here
    subst same
    exact ⟨row, inRows, rfl⟩
  · rintro ⟨row, member, rfl⟩
    exact ⟨name row, (segmentation name).mem_buckets_of_mem member, rfl⟩

/-- Sorted rows are their segments one after the other. -/
theorem flatten_segments
    (sorted : rows.Pairwise (fun first second => name first ≤ name second)) :
    (segments name rows).flatten = rows := by
  rw [segments, ← List.flatMap_def]
  exact (segmentation name).flatMap_group sorted

/-- A segment is before the ones after it. -/
theorem pairwise_segments :
    (segments name rows).Pairwise (fun before after =>
      forall row, row ∈ before -> forall other, other ∈ after -> name row < name other) := by
  rw [segments, List.pairwise_map]
  apply ((segmentation name).pairwise_buckets rows).imp
  intro own other less row member later laterMem
  have here : name row = own := of_decide_eq_true (List.mem_filter.mp member).2
  have there : name later = other := of_decide_eq_true (List.mem_filter.mp laterMem).2
  rw [here, there]
  exact less

end Segments

/-! ## A coarser series from a finer one -/

variable {Row : Type u} {Key : Type v} {Bucket : Type w} {Out : Type x}
  [LinearOrder Key] [LinearOrder Bucket]
  {fine : Derivation Row Key Key Row} {coarse : Derivation Row Key Bucket Out}

/-- The buckets of a derivation are made of the buckets of a finer one, whose rows
are named by their buckets; and a row made of finer rows is the one made of the
rows below them. -/
structure Nested (fine : Derivation Row Key Key Row) (coarse : Derivation Row Key Bucket Out) :
    Prop where
  sameKey : forall row, coarse.key row = fine.key row
  named : forall row, coarse.key row = fine.outKey row
  within : forall k, coarse.bucket (fine.bucket k) = coarse.bucket k
  make : forall bucket rows, Ascending fine.key rows ->
    coarse.make bucket (fine.ofNormalized rows) = coarse.make bucket rows

namespace Nested

/-- The finer rows in a bucket are those of the rows in it. -/
theorem group_ofNormalized (nested : Nested fine coarse) (rows : List Row) (bucket : Bucket) :
    coarse.group (fine.ofNormalized rows) bucket = fine.ofNormalized (coarse.group rows bucket) := by
  have names : fine.buckets (coarse.group rows bucket) =
      (fine.buckets rows).filter (fun name => decide (coarse.bucket name = bucket)) := by
    apply eq_of_same_names (fine.pairwise_buckets _)
      (List.Pairwise.filter _ (fine.pairwise_buckets rows))
    intro name
    rw [List.mem_filter, decide_eq_true_iff, Derivation.mem_buckets, Derivation.mem_buckets]
    simp only [Derivation.group, ne_eq, List.filter_eq_nil_iff, List.mem_filter, decide_eq_true_eq,
      not_forall, not_not]
    constructor
    · rintro ⟨row, ⟨member, inBucket⟩, here⟩
      refine ⟨⟨row, member, here⟩, ?_⟩
      rw [← here, nested.within, ← nested.sameKey]
      exact inBucket
    · rintro ⟨⟨row, member, here⟩, inBucket⟩
      refine ⟨row, ⟨member, ?_⟩, here⟩
      rw [nested.sameKey, ← nested.within, here]
      exact inBucket
  rw [Derivation.ofNormalized, Derivation.ofNormalized, names, Derivation.group, List.filter_map]
  have sameName : forall name, name ∈ fine.buckets rows ->
      ((fun row => decide (coarse.bucket (coarse.key row) = bucket)) ∘
        fun name => fine.make name (fine.group rows name)) name =
          decide (coarse.bucket name = bucket) := by
    intro name _
    rw [Function.comp_apply, nested.named, fine.outKey_make]
  rw [List.filter_congr sameName]
  apply List.map_congr_left
  intro name member
  rw [List.mem_filter, decide_eq_true_iff] at member
  congr 1
  rw [Derivation.group, Derivation.group, Derivation.group, List.filter_filter]
  apply List.filter_congr
  intro row _
  by_cases here : fine.bucket (fine.key row) = name
  · have inBucket : coarse.bucket (coarse.key row) = bucket := by
      rw [nested.sameKey, ← nested.within, here]
      exact member.2
    simp [here, inBucket]
  · simp [here]

/-- Deriving from the finer series is deriving from the base series. -/
theorem ofNormalized_ofNormalized (nested : Nested fine coarse) {rows : List Row}
    (ascending : Ascending fine.key rows) :
    coarse.ofNormalized (fine.ofNormalized rows) = coarse.ofNormalized rows := by
  have names : coarse.buckets (fine.ofNormalized rows) = coarse.buckets rows := by
    apply eq_of_same_names (coarse.pairwise_buckets _) (coarse.pairwise_buckets _)
    intro bucket
    rw [Derivation.mem_buckets, Derivation.mem_buckets, nested.group_ofNormalized, ne_eq,
      Derivation.ofNormalized_eq_nil_iff]
  change (coarse.buckets (fine.ofNormalized rows)).map (fun bucket =>
    coarse.make bucket (coarse.group (fine.ofNormalized rows) bucket)) = _
  rw [names]
  apply List.map_congr_left
  intro bucket _
  rw [nested.group_ofNormalized]
  apply nested.make
  exact List.Pairwise.sublist List.filter_sublist ascending

end Nested

end Series
