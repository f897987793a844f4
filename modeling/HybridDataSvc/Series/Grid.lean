import Mathlib.Data.List.Dedup
import Mathlib.Data.List.Nodup
import Mathlib.Order.Bounds.Basic
import Mathlib.Algebra.Order.Group.Int

namespace Series

/-!
# Series on a grid

A series of integers at a fixed distance is known from its first member, its
last one and how many there are, as long as no member comes twice.  Where
members may come twice, their number tells only that as many come again as
slots are vacant.
-/

/-- The slots from `first` to `last`. -/
def slots (step first last : Int) : List Int :=
  (List.range ((last - first) / step + 1).toNat).map (fun (k : Nat) => first + k * step)

/-- The members that are there already when they come. -/
def repeated (times : List Int) : Nat := times.length - times.dedup.length

/-- The slots that no member is in. -/
def vacant (step first last : Int) (times : List Int) : Nat :=
  ((slots step first last).filter (fun slot => !decide (slot ∈ times))).length

/-- The members are those of the grid from the least one to the greatest one. -/
def Contiguous (step : Int) (times : Set Int) : Prop :=
  forall first last, IsLeast times first -> IsGreatest times last ->
    forall ts, ts ∈ times ↔ exists k : Nat, ts = first + k * step ∧ ts ≤ last

/-- All members are on one grid, and as many come again as slots are vacant. -/
def Balanced (step : Int) (times : List Int) : Prop :=
  forall first last, IsLeast { ts | ts ∈ times } first -> IsGreatest { ts | ts ∈ times } last ->
    (forall ts, ts ∈ times -> step ∣ ts - first) ∧ repeated times = vacant step first last times

section Slots

variable {step first last : Int}

theorem mem_slots (positive : 0 < step) (ts : Int) :
    ts ∈ slots step first last ↔ exists k : Nat, ts = first + k * step ∧ ts ≤ last := by
  rw [slots, List.mem_map]
  apply exists_congr
  intro k
  rw [List.mem_range, Int.lt_toNat, Int.lt_add_one_iff, Int.le_ediv_iff_mul_le positive]
  constructor
  · rintro ⟨below, rfl⟩
    exact ⟨rfl, by omega⟩
  · rintro ⟨rfl, below⟩
    exact ⟨by omega, rfl⟩

theorem mem_slots_of_dvd (positive : 0 < step) {ts : Int} (above : first ≤ ts) (below : ts ≤ last)
    (onGrid : step ∣ ts - first) : ts ∈ slots step first last := by
  rw [mem_slots positive]
  rcases onGrid with ⟨k, steps⟩
  have nonneg : 0 ≤ k := by
    have product : 0 ≤ step * k := by omega
    exact Int.nonneg_of_mul_nonneg_right product positive
  refine ⟨k.toNat, ?_, below⟩
  rw [Int.toNat_of_nonneg nonneg, Int.mul_comm, ← steps]
  omega

theorem nodup_slots (positive : 0 < step) : (slots step first last).Nodup := by
  apply List.nodup_range.map
  intro k other same
  have product : (k : Int) * step = other * step := by simpa using same
  exact_mod_cast Int.eq_of_mul_eq_mul_right (by omega) product

theorem length_slots (positive : 0 < step) (ordered : first ≤ last) :
    ((slots step first last).length : Int) = (last - first) / step + 1 := by
  have nonneg : 0 ≤ (last - first) / step := Int.ediv_nonneg (by omega) (by omega)
  rw [slots, List.length_map, List.length_range, Int.toNat_of_nonneg (by omega)]

end Slots

section Counting

variable {step first last : Int} {times : List Int}

theorem length_dedup_le (times : List Int) : times.dedup.length ≤ times.length :=
  (List.dedup_sublist times).length_le

/-- The slots that are taken are as many as the different members. -/
theorem length_taken (positive : 0 < step)
    (inside : forall ts, ts ∈ times -> ts ∈ slots step first last) :
    ((slots step first last).filter (fun slot => decide (slot ∈ times))).length =
      times.dedup.length := by
  apply List.Perm.length_eq
  rw [List.perm_ext_iff_of_nodup ((nodup_slots positive).filter _) (List.nodup_dedup times)]
  intro ts
  rw [List.mem_filter, List.mem_dedup, decide_eq_true_iff]
  constructor
  · intro both
    exact both.2
  · intro member
    exact ⟨inside ts member, member⟩

/-- There are as many members as slots exactly when as many come again as slots
are vacant. -/
theorem length_eq_iff (positive : 0 < step)
    (inside : forall ts, ts ∈ times -> ts ∈ slots step first last) :
    times.length = (slots step first last).length ↔
      repeated times = vacant step first last times := by
  have split := List.length_eq_length_filter_add (l := slots step first last)
    (fun slot => decide (slot ∈ times))
  rw [length_taken positive inside] at split
  have different := length_dedup_le times
  rw [repeated, vacant]
  omega

theorem repeated_eq_zero (nodup : times.Nodup) : repeated times = 0 := by
  rw [repeated, nodup.dedup, Nat.sub_self]

theorem vacant_eq_zero_iff :
    vacant step first last times = 0 ↔
      forall ts, ts ∈ slots step first last -> ts ∈ times := by
  rw [vacant, List.length_eq_zero_iff, List.filter_eq_nil_iff]
  simp

end Counting

section Series

variable {step : Int} {times : List Int}

/-- A series balances exactly when it is on one grid and has as many members as
its first and last one make expect. -/
theorem balanced_iff_length (positive : 0 < step) {first last : Int}
    (least : IsLeast { ts | ts ∈ times } first) (greatest : IsGreatest { ts | ts ∈ times } last) :
    Balanced step times ↔
      (forall ts, ts ∈ times -> step ∣ ts - first) ∧
        (times.length : Int) = (last - first) / step + 1 := by
  have here : Balanced step times ↔
      (forall ts, ts ∈ times -> step ∣ ts - first) ∧
        repeated times = vacant step first last times := by
    constructor
    · intro balanced
      exact balanced first last least greatest
    · intro both other end_ otherLeast otherGreatest
      rw [otherLeast.unique least, otherGreatest.unique greatest]
      exact both
  rw [here]
  apply and_congr_right
  intro onGrid
  rw [← length_slots positive (greatest.2 least.1), Int.natCast_inj, length_eq_iff positive]
  intro ts member
  exact mem_slots_of_dvd positive (least.2 member) (greatest.2 member) (onGrid ts member)

/-- A series without repetitions has no vacant slot exactly when it balances. -/
theorem balanced_iff_contiguous (positive : 0 < step) (nodup : times.Nodup) :
    Balanced step times ↔ Contiguous step { ts | ts ∈ times } := by
  apply forall_congr'
  intro first
  apply forall_congr'
  intro last
  apply imp_congr_right
  intro least
  apply imp_congr_right
  intro greatest
  rw [repeated_eq_zero nodup, eq_comm, vacant_eq_zero_iff]
  constructor
  · rintro ⟨onGrid, full⟩ ts
    rw [← mem_slots positive]
    constructor
    · intro member
      exact mem_slots_of_dvd positive (least.2 member) (greatest.2 member) (onGrid ts member)
    · exact full ts
  · intro exact'
    constructor
    · intro ts member
      rcases (exact' ts).mp member with ⟨k, rfl, _⟩
      exact ⟨k, by rw [Int.mul_comm]; omega⟩
    · intro ts member
      exact (exact' ts).mpr ((mem_slots positive ts).mp member)

end Series

end Series
