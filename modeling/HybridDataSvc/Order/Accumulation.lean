import Mathlib.Data.Set.Basic
import Mathlib.Order.Bounds.Basic
import Mathlib.Tactic.Linarith

namespace Accumulation

universe u

/-!
# Accumulating a set from its most recent elements

A collector asks, again and again, for the `n` largest elements of a set `S`
below a moving bound and keeps what it is given.  `MostRecent` is one such
answer.  `Filled S T` says that `T` is an interval of `S`: no element of `S`
between two elements of `T` is missing from `T`.  The rules below say when an
answer extends an interval, and, for sets of integers whose elements keep a
distance, how large `n` has to be for the answer to reach back far enough.
-/

section LinearOrder

variable {Element : Type u} [LinearOrder Element]

/-- `window` lists, ascending, the `n` largest elements of `S` up to `bound`,
or all of them when there are fewer. -/
structure MostRecent (S : Set Element) (bound : Element) (n : Nat) (window : List Element) :
    Prop where
  ascending : window.Pairwise (fun first second => first < second)
  elements : forall x, x ∈ window -> x ∈ S ∧ x ≤ bound
  atMost : window.length ≤ n
  missing : forall x, x ∈ S -> x ≤ bound -> x ∉ window ->
    window.length = n ∧ forall y, y ∈ window -> x < y

/-- An answer is an upper segment of the set it is taken from. -/
theorem MostRecent.upward {S : Set Element} {bound : Element} {n : Nat} {window : List Element}
    (recent : MostRecent S bound n window) {x y : Element} (yMem : y ∈ window) (xMem : x ∈ S)
    (above : y ≤ x) (below : x ≤ bound) : x ∈ window := by
  by_contra absent
  have later := (recent.missing x xMem below absent).2 y yMem
  exact absurd later (not_lt_of_ge above)

/-- For a listed set the conditions on an answer can be evaluated. -/
instance (listed : List Element) (bound : Element) (n : Nat) (window : List Element) :
    Decidable (MostRecent { x | x ∈ listed } bound n window) :=
  decidable_of_iff
    (window.Pairwise (fun first second => first < second) ∧
      (forall x, x ∈ window -> x ∈ listed ∧ x ≤ bound) ∧ window.length ≤ n ∧
      forall x, x ∈ listed -> x ≤ bound -> x ∉ window ->
        window.length = n ∧ forall y, y ∈ window -> x < y)
    ⟨fun parts => ⟨parts.1, parts.2.1, parts.2.2.1, parts.2.2.2⟩,
      fun recent => ⟨recent.ascending, recent.elements, recent.atMost, recent.missing⟩⟩

/-- The end of an ascending list is such an answer. -/
theorem mostRecent_drop {listed : List Element} {bound : Element}
    (ascending : listed.Pairwise (fun first second => first < second))
    (bounded : forall x, x ∈ listed -> x ≤ bound) (n : Nat) :
    MostRecent { x | x ∈ listed } bound n (listed.drop (listed.length - n)) where
  ascending := List.Pairwise.sublist (List.drop_sublist _ _) ascending
  elements := fun x member => ⟨List.mem_of_mem_drop member, bounded x (List.mem_of_mem_drop member)⟩
  atMost := by rw [List.length_drop]; omega
  missing := by
    intro x member _ absent
    rw [← List.take_append_drop (listed.length - n) listed] at ascending
    have parts := List.mem_append.mp
      ((List.take_append_drop (listed.length - n) listed).symm ▸ member)
    have early := parts.resolve_right absent
    constructor
    · have taken := List.length_pos_of_mem early
      rw [List.length_take] at taken
      rw [List.length_drop]
      omega
    · intro y later
      exact (List.pairwise_append.mp ascending).2.2 x early y later

/-- `T` is an interval of `S`. -/
structure Filled (S T : Set Element) : Prop where
  subset : T ⊆ S
  between : forall a, a ∈ T -> forall c, c ∈ T -> forall x, x ∈ S -> a ≤ x -> x ≤ c -> x ∈ T

theorem filled_empty (S : Set Element) : Filled S ∅ where
  subset := Set.empty_subset S
  between := by
    intro a impossible
    cases impossible

/-- The part of an answer below a cut is an interval. -/
theorem MostRecent.filled_below {S : Set Element} {bound : Element} {n : Nat}
    {window : List Element} (recent : MostRecent S bound n window) {kept : Element -> Prop}
    (downward : forall x y, x ≤ y -> kept y -> kept x) :
    Filled S { x | x ∈ window ∧ kept x } where
  subset := by
    rintro x ⟨member, _⟩
    exact (recent.elements x member).1
  between := by
    rintro a ⟨aMem, _⟩ c ⟨cMem, cKept⟩ x xMem above below
    have bounded := le_trans below (recent.elements c cMem).2
    exact ⟨recent.upward aMem xMem above bounded, downward x c below cKept⟩

/-- An interval with a greatest element stays one when it takes in elements
that leave nothing out between themselves and that greatest element. -/
theorem Filled.union {S T added : Set Element} (filled : Filled S T) {newest : Element}
    (greatest : IsGreatest T newest) (subset : added ⊆ S)
    (above : forall c, c ∈ added -> forall x, x ∈ S -> newest < x -> x ≤ c -> x ∈ added)
    (below : forall a, a ∈ added -> forall x, x ∈ S -> a ≤ x -> x ≤ newest -> x ∈ T ∪ added) :
    Filled S (T ∪ added) where
  subset := Set.union_subset filled.subset subset
  between := by
    intro a aMem c cMem x xMem ax xc
    rcases le_or_gt x newest with old | new
    · rcases aMem with aOld | aNew
      · exact Or.inl (filled.between a aOld newest greatest.1 x xMem ax old)
      · exact below a aNew x xMem ax old
    · rcases cMem with cOld | cNew
      · exact absurd (le_trans xc (greatest.2 cOld)) (not_le_of_gt new)
      · exact Or.inr (above c cNew x xMem new xc)

/-! ### Answers that are read from an interval -/

section Read

variable {S T : Set Element} {low bound : Element} {n : Nat} {window : List Element}

/-- An answer depends on what the set has up to the bound. -/
theorem MostRecent.congr (recent : MostRecent S bound n window)
    (same : forall x, x ≤ bound -> (x ∈ S ↔ x ∈ T)) : MostRecent T bound n window where
  ascending := recent.ascending
  elements := by
    intro x member
    have parts := recent.elements x member
    exact ⟨(same x parts.2).mp parts.1, parts.2⟩
  atMost := recent.atMost
  missing := fun x xMem bounded absent => recent.missing x ((same x bounded).mpr xMem) bounded absent

/-- An answer from an interval is one, wherever it starts. -/
theorem Filled.of_answer (filled : Filled S T)
    (recent : MostRecent { x | x ∈ T ∧ low ≤ x } bound n window) :
    Filled S { x | x ∈ window } where
  subset := fun x member => filled.subset (recent.elements x member).1.1
  between := by
    intro a aMem c cMem x xMem above below
    have start := recent.elements a aMem
    have stop := recent.elements c cMem
    have held := filled.between a start.1.1 c stop.1.1 x xMem above below
    exact recent.upward aMem ⟨held, le_trans start.1.2 above⟩ above (le_trans below stop.2)

/-- Where the interval starts early enough, its answer is the answer of the
set itself up to the newest element. -/
theorem Filled.answer_of_set (filled : Filled S T) {first last : Element} (firstMem : first ∈ T)
    (early : first ≤ low) (greatest : IsGreatest T last)
    (recent : MostRecent { x | x ∈ T ∧ low ≤ x } bound n window) :
    MostRecent { x | x ∈ S ∧ low ≤ x } (min bound last) n window where
  ascending := recent.ascending
  elements := by
    intro x member
    have parts := recent.elements x member
    exact ⟨⟨filled.subset parts.1.1, parts.1.2⟩, le_min parts.2 (greatest.2 parts.1.1)⟩
  atMost := recent.atMost
  missing := by
    intro x xMem bounded absent
    have limits := le_min_iff.mp bounded
    have held := filled.between first firstMem last greatest.1 x xMem.1 (le_trans early xMem.2)
      limits.2
    exact recent.missing x ⟨held, xMem.2⟩ limits.1 absent

end Read

/-! ### Taking in an answer that reaches back to the newest element -/

section Absorb

variable {S T : Set Element} {newest bound : Element} {n : Nat} {window : List Element}
  {kept : Element -> Prop}

/-- All kept elements of an answer may be taken in. -/
theorem Filled.absorb_window (filled : Filled S T) (greatest : IsGreatest T newest)
    (recent : MostRecent S bound n window)
    (downward : forall x y, x ≤ y -> kept y -> kept x) (keptNewest : kept newest)
    (bounded : newest ≤ bound)
    (reaches : forall x, x ∈ S -> newest < x -> x ≤ bound -> x ∈ window) :
    Filled S (T ∪ { x | x ∈ window ∧ kept x }) := by
  refine filled.union greatest ?_ ?_ ?_
  · rintro x ⟨member, _⟩
    exact (recent.elements x member).1
  · rintro c ⟨cMem, cKept⟩ x xMem later below
    exact ⟨reaches x xMem later (le_trans below (recent.elements c cMem).2),
      downward x c below cKept⟩
  · rintro a ⟨aMem, _⟩ x xMem above earlier
    exact Or.inr ⟨recent.upward aMem xMem above (le_trans earlier bounded),
      downward x newest earlier keptNewest⟩

/-- So may the kept elements that are newer than everything held so far. -/
theorem Filled.absorb_newer (filled : Filled S T) (greatest : IsGreatest T newest)
    (recent : MostRecent S bound n window)
    (downward : forall x y, x ≤ y -> kept y -> kept x)
    (reaches : forall x, x ∈ S -> newest < x -> x ≤ bound -> x ∈ window) :
    Filled S (T ∪ { x | (x ∈ window ∧ newest < x) ∧ kept x }) := by
  refine filled.union greatest ?_ ?_ ?_
  · rintro x ⟨⟨member, _⟩, _⟩
    exact (recent.elements x member).1
  · rintro c ⟨⟨cMem, _⟩, cKept⟩ x xMem later below
    exact ⟨⟨reaches x xMem later (le_trans below (recent.elements c cMem).2), later⟩,
      downward x c below cKept⟩
  · rintro a ⟨⟨_, aLater⟩, _⟩ x _ above earlier
    exact absurd (le_trans above earlier) (not_le_of_gt aLater)

/-- What is taken in is not older than the newest element, unless it has
that element too. -/
theorem isGreatest_union_of_reaches {added : Set Element} {latest : Element}
    (greatest : IsGreatest T newest) (latestAdded : IsGreatest added latest)
    (notOlder : newest ≤ latest) : IsGreatest (T ∪ added) latest := by
  refine ⟨Or.inr latestAdded.1, ?_⟩
  rintro x (old | new)
  · exact le_trans (greatest.2 old) notOlder
  · exact latestAdded.2 new

end Absorb

end LinearOrder

/-! ## Counting on a grid -/

/-- A list of integers at mutual distance `d` has no more elements than fit. -/
theorem length_mul_le {d : Int} {elements : List Int}
    (spaced : elements.Pairwise (fun first second => first + d ≤ second))
    {lower upper : Int} (ordered : lower ≤ upper)
    (above : forall y, y ∈ elements -> lower + d ≤ y)
    (below : forall y, y ∈ elements -> y ≤ upper) :
    (elements.length : Int) * d ≤ upper - lower := by
  induction elements generalizing lower with
  | nil =>
      simp only [List.length_nil, Nat.cast_zero, Int.zero_mul]
      exact Int.sub_nonneg_of_le ordered
  | cons head tail ih =>
      have parts := List.pairwise_cons.mp spaced
      have headAbove := above head List.mem_cons_self
      have counted := ih parts.2 (below head List.mem_cons_self) parts.1
        (fun y member => below y (List.mem_cons_of_mem _ member))
      rw [List.length_cons, Nat.cast_succ, Int.add_mul, Int.one_mul]
      linarith

/-- Asking for as many elements as fit between a known element and the bound
leaves no later element out. -/
theorem MostRecent.reaches {S : Set Int} {d known bound : Int} {n : Nat} {window : List Int}
    (positive : 0 < d)
    (spaced : forall x, x ∈ S -> forall y, y ∈ S -> x < y -> x + d ≤ y)
    (recent : MostRecent S bound n window) (member : known ∈ S)
    (enough : (bound - known) / d ≤ n) {x : Int} (xMem : x ∈ S) (later : known < x)
    (bounded : x ≤ bound) : x ∈ window := by
  by_contra absent
  have short := recent.missing x xMem bounded absent
  have windowSpaced : window.Pairwise (fun first second => first + d ≤ second) := by
    refine List.Pairwise.imp_of_mem ?_ recent.ascending
    intro first second firstMem secondMem less
    exact spaced first (recent.elements first firstMem).1 second
      (recent.elements second secondMem).1 less
  have counted := length_mul_le windowSpaced bounded
    (fun y yMem => spaced x xMem y (recent.elements y yMem).1 (short.2 y yMem))
    (fun y yMem => (recent.elements y yMem).2)
  rw [short.1] at counted
  have gap := spaced known member x xMem later
  have fits : ((n : Int) + 1) * d ≤ bound - known := by
    rw [Int.add_mul, Int.one_mul]
    linarith
  have quotient := (Int.le_ediv_iff_mul_le positive).mpr fits
  linarith

end Accumulation
