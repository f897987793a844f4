import HybridDataSvc.Text.Truncation

namespace JsonText

/-!
# One text in two dialects

What a reader accepts is read as the same value by a reader of another dialect,
or refused for one of its limits.  Only the constants `NaN` and `Infinity` are
known to one dialect and malformed in another.
-/

/-- A limit of the dialect, as the fault that it leads to. -/
def Dialect.Limits (dialect : Dialect) (fault : Fault) : Prop :=
  (fault = .tooManyDigits ∧ dialect.maxDigits ≠ none) ∨
    (fault = .tooDeep ∧ dialect.maxDepth ≠ none)

mutual

/-- There is no constant in the value. -/
def Json.isStandard : Json -> Bool
  | .constant _ => false
  | .array items => areStandard items
  | .object members => memberValuesAreStandard members
  | _ => true

def areStandard : List Json -> Bool
  | [] => true
  | item :: rest => item.isStandard && areStandard rest

def memberValuesAreStandard : List (CodePoints × Json) -> Bool
  | [] => true
  | (_, value) :: rest => value.isStandard && memberValuesAreStandard rest

end

/-- The dialect knows what is in the value. -/
def Dialect.Knows (dialect : Dialect) (standard : Bool) : Prop :=
  dialect.constants = true ∨ standard = true

theorem Dialect.Knows.left {dialect : Dialect} {one other : Bool}
    (knows : dialect.Knows (one && other)) : dialect.Knows one :=
  knows.imp_right (fun both => (Bool.and_eq_true_iff.mp both).1)

theorem Dialect.Knows.right {dialect : Dialect} {one other : Bool}
    (knows : dialect.Knows (one && other)) : dialect.Knows other :=
  knows.imp_right (fun both => (Bool.and_eq_true_iff.mp both).2)

section Carried

variable {α β : Type} {dialect : Dialect}

/-- This result, or a limit of the dialect. -/
def Carried (dialect : Dialect) (result : Except Fault α) (value : α) : Prop :=
  result = .ok value ∨ exists fault, dialect.Limits fault ∧ result = .error fault

theorem Carried.map {result : Except Fault α} {value : α} (carried : Carried dialect result value)
    (convert : α -> β) : Carried dialect (result.map convert) (convert value) := by
  rcases carried with rfl | ⟨fault, limits, rfl⟩
  · exact Or.inl rfl
  · exact Or.inr ⟨fault, limits, rfl⟩

/-- Without limits it is this result. -/
theorem Carried.eq_ok {result : Except Fault α} {value : α} (carried : Carried dialect result value)
    (digits : dialect.maxDigits = none) (depth : dialect.maxDepth = none) : result = .ok value := by
  rcases carried with same | ⟨fault, limits, -⟩
  · exact same
  · rcases limits with ⟨-, limited⟩ | ⟨-, limited⟩
    · exact absurd digits limited
    · exact absurd depth limited

end Carried

/-! ## Scalars -/

section Scalars

variable {first second : Dialect}

theorem readUnsigned_carried {negative : Bool} {text rest : List Char} {value : Json}
    (read : readUnsigned first negative text = .ok (value, rest)) :
    Carried second (readUnsigned second negative text) (value, rest) := by
  unfold readUnsigned at read ⊢
  cases whole : wholePart text with
  | none =>
      rw [whole] at read
      cases read
  | some parts =>
      rw [whole] at read
      dsimp only at read ⊢
      split at read
      · cases read
      · split
        · rename_i many
          have limited : second.maxDigits ≠ none := by
            intro unlimited
            rw [unlimited, Option.any_none, Bool.and_false] at many
            cases many
          exact Or.inr ⟨_, Or.inl ⟨rfl, limited⟩, rfl⟩
        · exact Or.inl read

/-- Without a constant in it, what is read does not depend on whether the dialect knows
any. -/
theorem readScalar_carried {text rest : List Char} {value : Json}
    (read : readScalar first text = .ok (value, rest)) (knows : second.Knows value.isStandard) :
    Carried second (readScalar second text) (value, rest) := by
  have constant : forall {word : List Char} {name : Constant},
      expect word (.constant name) text = .ok (value, rest) -> second.constants = true := by
    intro word name expected
    unfold expect at expected
    split at expected
    · cases expected
      rcases knows with known | standard
      · exact known
      · cases standard
    · cases expected
  unfold readScalar at read ⊢
  split at read
  · exact Or.inl read
  · exact Or.inl read
  · exact Or.inl read
  · split at read
    · rw [if_pos (constant read)]
      exact Or.inl read
    · cases read
  · split at read
    · rw [if_pos (constant read)]
      exact Or.inl read
    · cases read
  · rename_i digits
    split at read
    · rename_i named
      have known := constant read
      rw [known, Bool.true_and, if_pos (Bool.and_eq_true_iff.mp named).2]
      exact Or.inl read
    · split
      · rename_i unnamed named
        -- no number begins with this word
        have word := (Bool.and_eq_true_iff.mp named).2
        exfalso
        rcases List.isPrefixOf_iff_prefix.mp word with ⟨after, same⟩
        rw [← same] at read
        simp [readUnsigned, wholePart] at read
      · exact readUnsigned_carried read
  · exact readUnsigned_carried read

end Scalars

/-! ## Values -/

/-- What is a scalar in one dialect is read as one in the other. -/
theorem readValue_of_readScalar {first second : Dialect} {fuel depth : Nat} {text : List Char}
    {result : Json × List Char} (read : readScalar first text = .ok result) :
    readValue second (fuel + 1) depth text = readScalar second text := by
  unfold readValue
  split
  · cases read
  · cases read
  · cases read
  · rfl

/-- With this fuel each of the three readers of the second dialect reads what the first
one has read, or meets a limit. -/
structure ReadersCarry (first second : Dialect) (fuel : Nat) : Prop where
  value : forall {depth text rest} {value : Json},
    JsonText.readValue first fuel depth text = .ok (value, rest) ->
      second.Knows value.isStandard ->
        Carried second (JsonText.readValue second fuel depth text) (value, rest)
  items : forall {depth text rest items},
    JsonText.readItems first fuel depth text = .ok (items, rest) ->
      second.Knows (areStandard items) ->
        Carried second (JsonText.readItems second fuel depth text) (items, rest)
  members : forall {depth text rest members},
    JsonText.readMembers first fuel depth text = .ok (members, rest) ->
      second.Knows (memberValuesAreStandard members) ->
        Carried second (JsonText.readMembers second fuel depth text) (members, rest)

namespace ReadersCarry

variable {first second : Dialect} {fuel depth : Nat} {text rest : List Char}

/-- A value in brackets, which are not nested too deep or meet the limit. -/
theorem bracketed {value : Json} {c : Char} {body : List Char} (bracket : c = '[' ∨ c = '\x7b')
    (inside : Shallow second depth ->
      Carried second (JsonText.readValue second (fuel + 1) depth (c :: body)) (value, rest)) :
    Carried second (JsonText.readValue second (fuel + 1) depth (c :: body)) (value, rest) := by
  by_cases shallow : Shallow second depth
  · exact inside shallow
  · have limited : second.maxDepth ≠ none := by
      intro unlimited
      apply shallow
      rw [Shallow, unlimited, Option.any_none]
    exact Or.inr ⟨.tooDeep, Or.inr ⟨rfl, limited⟩, readValue_deep shallow bracket⟩

theorem readValue (readers : ReadersCarry first second fuel) {value : Json}
    (read : JsonText.readValue first (fuel + 1) depth text = .ok (value, rest))
    (knows : second.Knows value.isStandard) :
    Carried second (JsonText.readValue second (fuel + 1) depth text) (value, rest) := by
  rcases readValue_cases read with ⟨quoted, name, rfl, named, rfl⟩ | ⟨body, items, rfl, rfl, inside⟩ |
    ⟨body, members, rfl, rfl, inside⟩ | scalar
  · refine Or.inl ?_
    simp only [JsonText.readValue, named]
  · apply bracketed (Or.inl rfl)
    intro shallow
    rcases inside with ⟨closed, rfl⟩ | inside
    · exact Or.inl (readValue_emptyArray shallow closed)
    · rcases readItems_opens inside with ⟨c, after, opens, open_⟩
      rw [readValue_array shallow (fun later closed => open_ (List.cons.inj (opens.symm.trans closed)).1)]
      exact (readers.items inside knows).map (fun r => (Json.array r.1, r.2))
  · apply bracketed (Or.inr rfl)
    intro shallow
    rcases inside with ⟨closed, rfl⟩ | inside
    · exact Or.inl (readValue_emptyObject shallow closed)
    · rcases readMembers_opens inside with ⟨quoted, opens⟩
      rw [readValue_object shallow
        (fun later closed => absurd (List.cons.inj (opens.symm.trans closed)).1 (by decide))]
      exact (readers.members inside knows).map (fun r => (Json.object r.1, r.2))
  · rw [readValue_of_readScalar scalar]
    exact readScalar_carried scalar knows

theorem readItems (readers : ReadersCarry first second fuel) {items : List Json}
    (read : JsonText.readItems first (fuel + 1) depth text = .ok (items, rest))
    (knows : second.Knows (areStandard items)) :
    Carried second (JsonText.readItems second (fuel + 1) depth text) (items, rest) := by
  rcases readItems_cases read with ⟨item, after, head, tail⟩
  have own : second.Knows item.isStandard := by
    rcases tail with ⟨later, others, -, -, rfl⟩ | ⟨-, rfl⟩
    · exact knows.left
    · exact knows.left
  rcases readers.value head own with head | ⟨fault, limits, failed⟩
  · rcases tail with ⟨later, others, separated, inside, rfl⟩ | ⟨closed, rfl⟩
    · rw [readItems_more head separated]
      exact (readers.items inside knows.right).map (fun r => (item :: r.1, r.2))
    · exact Or.inl (readItems_last head closed)
  · refine Or.inr ⟨fault, limits, ?_⟩
    simp only [JsonText.readItems, failed]

theorem readMembers (readers : ReadersCarry first second fuel) {members : List (CodePoints × Json)}
    (read : JsonText.readMembers first (fuel + 1) depth text = .ok (members, rest))
    (knows : second.Knows (memberValuesAreStandard members)) :
    Carried second (JsonText.readMembers second (fuel + 1) depth text) (members, rest) := by
  rcases readMembers_cases read with
    ⟨quoted, name, afterName, afterColon, value, after, opened, named, coloned, head, tail⟩
  have own : second.Knows value.isStandard := by
    rcases tail with ⟨later, others, -, -, rfl⟩ | ⟨-, rfl⟩
    · exact knows.left
    · exact knows.left
  rcases readers.value head own with head | ⟨fault, limits, failed⟩
  · rcases tail with ⟨later, others, separated, inside, rfl⟩ | ⟨closed, rfl⟩
    · rw [readMembers_more opened named coloned head separated]
      exact (readers.members inside knows.right).map (fun r => ((name, value) :: r.1, r.2))
    · exact Or.inl (readMembers_last opened named coloned head closed)
  · refine Or.inr ⟨fault, limits, ?_⟩
    simp only [JsonText.readMembers, opened, named, coloned, failed]

end ReadersCarry

/-- By induction on the fuel. -/
theorem readers_carry (first second : Dialect) (fuel : Nat) : ReadersCarry first second fuel := by
  induction fuel with
  | zero =>
      refine ⟨?_, ?_, ?_⟩
      · intro depth text rest value read
        cases read
      · intro depth text rest items read
        cases read
      · intro depth text rest members read
        cases read
  | succ fuel ih => exact ⟨ih.readValue, ih.readItems, ih.readMembers⟩

/-- A text that is read in one dialect is read alike in the other. -/
theorem parse_carried {first second : Dialect} {text : List Char} {value : Json}
    (read : parse first text = .ok value) (knows : second.Knows value.isStandard) :
    Carried second (parse second text) value := by
  unfold parse at read ⊢
  cases head : readValue first (2 * text.length + 2) 0 (skip text) with
  | error fault =>
      rw [head] at read
      cases read
  | ok found =>
      rcases found with ⟨known, after⟩
      simp only [head] at read
      split at read
      · rename_i ended
        cases read
        rcases (readers_carry first second _).value head knows with same | ⟨fault, limits, failed⟩
        · rw [same]
          exact Or.inl (if_pos ended)
        · rw [failed]
          exact Or.inr ⟨fault, limits, rfl⟩
      · cases read

end JsonText
