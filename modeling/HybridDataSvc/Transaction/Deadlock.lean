import Mathlib.Order.Basic
import Mathlib.Order.WellFounded
import Mathlib.Data.Fintype.EquivFin
import Mathlib.Logic.Relation

namespace Deadlock

universe u v w

/-!
# Waiting for locks

An agent holds keys and may want one more.  It waits for an agent that holds
that key.  A cycle of waiting agents is a deadlock: nobody in it can go on.

Where agents take their keys in a common order there is no deadlock.
-/

variable {Agent : Type u} {Key : Type v} {Rank : Type w}

/-- The key that the first agent wants is held by the second one. -/
def waitsFor (wants : Agent -> Option Key) (holds : Agent -> Key -> Bool) (p q : Agent) : Bool :=
  match wants p with
  | some key => holds q key
  | none => false

/-- Each agent of the list waits for the next one, and the last one for the
target. -/
def leadsTo (waits : Agent -> Agent -> Bool) (target : Agent) : Agent -> List Agent -> Bool
  | p, [] => waits p target
  | p, q :: rest => waits p q && leadsTo waits target q rest

/-- The agent and the others wait for each other in a circle. -/
def isCycle (waits : Agent -> Agent -> Bool) (p : Agent) (others : List Agent) : Bool :=
  leadsTo waits p p others

variable {wants : Agent -> Option Key} {holds : Agent -> Key -> Bool}

theorem waitsFor_eq_true_iff {p q : Agent} :
    waitsFor wants holds p q = true ↔ exists key, wants p = some key ∧ holds q key = true := by
  unfold waitsFor
  cases wants p with
  | none => simp
  | some key => simp

theorem waitsFor_of_none (holds : Agent -> Key -> Bool) {p : Agent} (idle : wants p = none)
    (q : Agent) : waitsFor wants holds p q = false := by
  unfold waitsFor
  rw [idle]

/-- Without waiting there is no cycle. -/
theorem isCycle_of_free {p : Agent} (free : forall q, waitsFor wants holds p q = false)
    (others : List Agent) : isCycle (waitsFor wants holds) p others = false := by
  unfold isCycle
  cases others with
  | nil => exact free p
  | cons q rest => rw [leadsTo, free q, Bool.false_and]

/-- A chain of waiting agents is a path of the relation. -/
theorem exists_leadsTo_of_transGen {waits : Agent -> Agent -> Bool} {p target : Agent}
    (path : Relation.TransGen (fun q r => waits q r = true) p target) :
    exists others, leadsTo waits target p others = true := by
  induction path using Relation.TransGen.head_induction_on with
  | single last => exact ⟨[], last⟩
  | head first _ ih =>
      rcases ih with ⟨others, chain⟩
      exact ⟨_ :: others, by rw [leadsTo, first, chain]; rfl⟩

/-- Where nobody is deadlocked, every agent is free or waits, through others,
for one that is. -/
theorem exists_free [Finite Agent] {waits : Agent -> Agent -> Bool}
    (acyclic : forall p others, isCycle waits p others = false) (p : Agent) :
    exists q, Relation.ReflTransGen (fun q r => waits q r = true) p q ∧
      forall r, waits q r = false := by
  have irreflexive : Std.Irrefl (Relation.TransGen (fun q r : Agent => waits r q = true)) := by
    refine ⟨fun q path => ?_⟩
    rcases exists_leadsTo_of_transGen (Relation.transGen_swap.mp path) with ⟨others, circle⟩
    have none_there := acyclic q others
    rw [isCycle, circle] at none_there
    cases none_there
  have founded := Finite.wellFounded_of_trans_of_irrefl
    (Relation.TransGen (fun q r : Agent => waits r q = true))
  induction p using founded.induction with
  | _ p ih =>
      by_cases free : forall r, waits p r = false
      · exact ⟨p, Relation.ReflTransGen.refl, free⟩
      · rcases not_forall.mp free with ⟨r, waiting⟩
        rw [Bool.not_eq_false] at waiting
        rcases ih r (Relation.TransGen.single waiting) with ⟨q, path, free⟩
        exact ⟨q, Relation.ReflTransGen.head waiting path, free⟩

section Order

variable [Preorder Rank] (rank : Key -> Rank)

/-- Whoever waits at the end of a chain is waited for with a key not below the
one at its beginning.  By induction on the chain. -/
theorem exists_held_of_leadsTo
    (ordered : forall p key held, wants p = some key -> holds p held = true -> rank held < rank key)
    {target p : Agent} {key : Key} {others : List Agent} (wanted : wants p = some key)
    (chain : leadsTo (waitsFor wants holds) target p others = true) :
    exists held, holds target held = true ∧ rank key ≤ rank held := by
  induction others generalizing p key with
  | nil =>
      rcases waitsFor_eq_true_iff.mp chain with ⟨other, same, held⟩
      rw [wanted] at same
      cases same
      exact ⟨key, held, le_refl _⟩
  | cons q rest ih =>
      rw [leadsTo, Bool.and_eq_true] at chain
      rcases chain with ⟨first, later⟩
      rcases waitsFor_eq_true_iff.mp first with ⟨other, same, held⟩
      rw [wanted] at same
      cases same
      cases next : wants q with
      | none =>
          have idle := waitsFor_of_none holds next
          cases rest with
          | nil =>
              rw [leadsTo, idle target] at later
              cases later
          | cons r others =>
              rw [leadsTo, idle r, Bool.false_and] at later
              cases later
      | some key' =>
          rcases ih next later with ⟨last, lastHeld, above⟩
          exact ⟨last, lastHeld, le_trans (le_of_lt (ordered q key' key next held)) above⟩

/-- Agents that want only keys above those they hold are never deadlocked. -/
theorem isCycle_of_ordered
    (ordered : forall p key held, wants p = some key -> holds p held = true -> rank held < rank key)
    (p : Agent) (others : List Agent) : isCycle (waitsFor wants holds) p others = false := by
  cases wanted : wants p with
  | none => exact isCycle_of_free (waitsFor_of_none holds wanted) others
  | some key =>
      cases cycle : isCycle (waitsFor wants holds) p others with
      | false => rfl
      | true =>
          rcases exists_held_of_leadsTo rank ordered wanted cycle with ⟨held, own, above⟩
          exact absurd (ordered p key held wanted own) (not_lt_of_ge above)

end Order

end Deadlock
