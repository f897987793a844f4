import HybridDataSvc.Text.JsonDump

namespace JsonText

open NumberText

/-!
# Texts that go on, and texts that break off

A reader that has come to the end of a value does not look further: the same
value is read whatever stands after it.  Only a number needs a character that
ends it.  It follows that a text which is read to its end, and is not a
number, is not read at all when it breaks off early.
-/

/-- A character that ends a number. -/
def isDelimiter (c : Char) : Bool := isBlank c || c == ',' || c == ']' || c == '\x7d'

def Delimited (text : List Char) : Prop :=
  exists c rest, text = c :: rest ∧ isDelimiter c = true

theorem Delimited.ne_nil {text : List Char} (delimited : Delimited text) : text ≠ [] := by
  rcases delimited with ⟨c, rest, rfl, -⟩
  exact List.cons_ne_nil c rest

/-- A character that is no delimiter does not begin such a text. -/
theorem Delimited.ne_cons {text : List Char} {c : Char} (delimited : Delimited text)
    (other : isDelimiter c = false) (rest : List Char) : text ≠ c :: rest := by
  rcases delimited with ⟨d, after, rfl, delimiter⟩
  intro same
  rw [(List.cons.inj same).1, other] at delimiter
  cases delimiter

/-- After a value and blanks there is a comma or a closing bracket. -/
theorem delimited_of_skip {text rest : List Char} {c : Char} (skipped : skip text = c :: rest)
    (delimiter : isDelimiter c = true) : Delimited text := by
  cases text with
  | nil => cases skipped
  | cons d after =>
      cases blank : isBlank d with
      | true => exact ⟨d, after, rfl, by rw [isDelimiter, blank]; rfl⟩
      | false =>
          have same : skip (d :: after) = d :: after :=
            List.dropWhile_cons_of_neg (by rw [blank]; exact Bool.false_ne_true)
          rw [same] at skipped
          cases skipped
          exact ⟨c, rest, rfl, delimiter⟩

/-- The end of a value has been seen: it is not a number, or something that
is not part of a number stands after it. -/
def Settled (value : Json) (rest : List Char) : Prop :=
  (forall numeral, value ≠ .number numeral) ∨ Delimited rest

/-! ## Parts of a number -/

theorem skip_append {text : List Char} (more : List Char) (left : skip text ≠ []) :
    skip (text ++ more) = skip text ++ more := by
  unfold skip at left ⊢
  rw [List.dropWhile_append]
  simp [List.isEmpty_eq_false_iff.mpr left]

theorem skip_append_cons {text rest : List Char} {c : Char} (skipped : skip text = c :: rest)
    (more : List Char) : skip (text ++ more) = c :: (rest ++ more) := by
  rw [skip_append more (by rw [skipped]; exact List.cons_ne_nil c rest), skipped, List.cons_append]

theorem span_append {kind : Char -> Bool} {text : List Char} (more : List Char)
    (left : (text.span kind).2 ≠ []) :
    (text ++ more).span kind = ((text.span kind).1, (text.span kind).2 ++ more) := by
  simp only [List.span_eq_takeWhile_dropWhile] at left ⊢
  induction text with
  | nil => exact absurd rfl left
  | cons c rest ih =>
      cases known : kind c with
      | true =>
          rw [List.dropWhile_cons_of_pos known] at left
          have inner := Prod.ext_iff.mp (ih left)
          simp only [List.cons_append, List.takeWhile_cons_of_pos known,
            List.dropWhile_cons_of_pos known]
          exact Prod.ext (congrArg (List.cons c) inner.1) inner.2
      | false => simp [known]

theorem wholePart_append {text whole rest : List Char} (more : List Char)
    (read : wholePart text = some (whole, rest)) (left : rest ≠ []) :
    wholePart (text ++ more) = some (whole, rest ++ more) := by
  cases text with
  | nil => cases read
  | cons c after =>
      simp only [wholePart, List.cons_append] at read ⊢
      by_cases zero : c = '0'
      · rw [if_pos zero] at read ⊢
        cases read
        rfl
      · rw [if_neg zero] at read ⊢
        by_cases digit : c.isDigit = true
        · rw [if_pos digit] at read ⊢
          have parts := Prod.ext_iff.mp (Option.some.inj read)
          dsimp only at parts
          rw [← List.cons_append, span_append more (by rw [parts.2]; exact left), parts.1, parts.2]
        · rw [if_neg digit] at read
          cases read

/-- A fraction goes on only at the end of the text or at a point. -/
theorem fractionPart_append (text more : List Char)
    (left : (fractionPart text).2 ≠ [])
    (noPoint : forall rest, (fractionPart text).2 ≠ '.' :: rest) :
    fractionPart (text ++ more) = ((fractionPart text).1, (fractionPart text).2 ++ more) := by
  cases text with
  | nil => exact absurd rfl left
  | cons c rest =>
      by_cases point : c = '.'
      · subst point
        have none : (rest.span Char.isDigit).1 ≠ [] := by
          intro empty
          exact noPoint rest (by simp only [fractionPart, empty, if_true])
        simp only [fractionPart, if_neg none] at left
        simp only [fractionPart, List.cons_append, span_append more left, if_neg none]
      · have plain : forall after, fractionPart (c :: after) = ([], c :: after) := by
          intro after
          unfold fractionPart
          split
          · rename_i same
            exact absurd (List.cons.inj same).1 point
          · rfl
        simp only [List.cons_append, plain]

theorem signPart_append {text : List Char} (more : List Char) (left : text ≠ []) :
    signPart (text ++ more) = ((signPart text).1, (signPart text).2 ++ more) := by
  cases text with
  | nil => exact absurd rfl left
  | cons c rest =>
      by_cases minus : c = '-'
      · subst minus
        rfl
      · by_cases plus : c = '+'
        · subst plus
          rfl
        · have plain : forall after, signPart (c :: after) = (false, c :: after) := by
            intro after
            unfold signPart
            split
            · rename_i same
              exact absurd (List.cons.inj same).1 minus
            · rename_i same
              exact absurd (List.cons.inj same).1 plus
            · rfl
          simp only [List.cons_append, plain]

theorem exponentPart_append {text : List Char} (more : List Char)
    (ends : Delimited (exponentPart text).2) :
    exponentPart (text ++ more) = ((exponentPart text).1, (exponentPart text).2 ++ more) := by
  cases text with
  | nil => exact absurd rfl ends.ne_nil
  | cons e rest =>
      by_cases letter : e = 'e' ∨ e = 'E'
      · have noDelimiter : isDelimiter e = false := by
          rcases letter with rfl | rfl
          · rfl
          · rfl
        have some : ((signPart rest).2.span Char.isDigit).1 ≠ [] := by
          intro empty
          refine ends.ne_cons noDelimiter rest ?_
          simp only [exponentPart, letter, if_true, empty]
        simp only [exponentPart, letter, if_true, if_neg some] at ends
        have inside : (signPart rest).2 ≠ [] := by
          intro empty
          rw [empty] at some
          exact some rfl
        have after : rest ≠ [] := by
          intro empty
          rw [empty] at inside
          exact inside rfl
        simp only [exponentPart, List.cons_append, letter, if_true, signPart_append more after,
          span_append more ends.ne_nil, if_neg some]
      · simp only [exponentPart, List.cons_append, letter, if_false]

theorem readUnsigned_append {dialect : Dialect} {negative : Bool} {text rest : List Char}
    {value : Json} (more : List Char)
    (read : readUnsigned dialect negative text = .ok (value, rest)) (ends : Delimited rest) :
    readUnsigned dialect negative (text ++ more) = .ok (value, rest ++ more) := by
  unfold readUnsigned at read ⊢
  cases first : wholePart text with
  | none =>
      rw [first] at read
      cases read
  | some parts =>
      rcases parts with ⟨whole, afterWhole⟩
      rw [first] at read
      dsimp only at read
      split at read
      · cases read
      · rename_i digitsFit
        have left : (exponentPart (fractionPart afterWhole).2).2 = rest := by
          cases read
          rfl
        rw [← left] at ends
        have exponent := exponentPart_append more ends
        -- an empty fraction rest, or a point, would be the rest of the number
        have fraction := fractionPart_append afterWhole more
          (by intro empty; rw [empty] at ends; exact ends.ne_nil rfl)
          (by
            intro after point
            rw [point] at ends
            exact ends.ne_cons (by rfl) after rfl)
        have whole' := wholePart_append more first
          (by intro empty; subst empty; exact ends.ne_nil rfl)
        rw [whole']
        dsimp only
        rw [fraction]
        dsimp only
        rw [exponent, if_neg digitsFit]
        cases read
        rfl

/-! ## Strings and words -/

theorem readUnits_append {text : List Char} (more : List Char) :
    forall {units : List Nat} {rest : List Char}, readUnits text = some (units, rest) ->
      readUnits (text ++ more) = some (units, rest ++ more) := by
  fun_induction readUnits text with
  | case1 => intro units rest read; cases read
  | case2 after =>
      intro units rest read
      cases read
      rfl
  | case3 a b c d after unit found rest' inner hex ih =>
      intro units rest read
      cases read
      simp only [List.cons_append]
      rw [readUnits.eq_def]
      simp only [hex, ih inner]
  | case4 => intro units rest read; cases read
  | case5 c after other unit found rest' inner letter ih =>
      intro units rest read
      cases read
      have plain : c ≠ 'u' := by
        rintro rfl
        cases letter
      rw [List.cons_append, List.cons_append, readUnits_escape letter plain, ih inner]
      rfl
  | case6 => intro units rest read; cases read
  | case7 => intro units rest read; cases read
  | case8 c after quote unicode slash control ih =>
      intro units rest read
      rw [Option.map_eq_some_iff] at read
      rcases read with ⟨found, inner, same⟩
      cases same
      have backslash : c ≠ '\\' := by
        rintro rfl
        -- a backslash that begins no escape stands at the end
        cases after with
        | nil => cases inner
        | cons letter later => exact slash letter later rfl rfl
      rw [List.cons_append, readUnits_printable quote backslash
        (Nat.not_lt.mp control), ih inner]
      rfl

theorem readString_append {text rest : List Char} {value : CodePoints} (more : List Char)
    (read : readString text = some (value, rest)) :
    readString (text ++ more) = some (value, rest ++ more) := by
  rcases exists_of_readString read with ⟨units, inner, same⟩
  subst same
  unfold readString
  rw [readUnits_append more inner]
  rfl

theorem expect_append {word text rest : List Char} {constant value : Json} (more : List Char)
    (read : expect word constant text = .ok (value, rest)) :
    expect word constant (text ++ more) = .ok (value, rest ++ more) := by
  unfold expect at read ⊢
  split at read
  · rename_i here
    cases read
    rcases List.isPrefixOf_iff_prefix.mp here with ⟨after, rfl⟩
    rw [if_pos (List.isPrefixOf_iff_prefix.mpr ⟨after ++ more, (List.append_assoc ..).symm⟩),
      List.append_assoc, List.drop_left, List.drop_left]
  · cases read

/-- A word is no number. -/
theorem eq_of_expect {word text rest : List Char} {constant value : Json}
    (read : expect word constant text = .ok (value, rest)) : value = constant := by
  unfold expect at read
  split at read
  · cases read
    rfl
  · cases read

theorem isDigit_of_readUnsigned {dialect : Dialect} {negative : Bool} {text rest : List Char}
    {value : Json} (read : readUnsigned dialect negative text = .ok (value, rest)) :
    (exists numeral, value = .number numeral) ∧
      exists c after, text = c :: after ∧ c.isDigit = true := by
  unfold readUnsigned at read
  cases text with
  | nil => cases read
  | cons c after =>
      cases first : wholePart (c :: after) with
      | none =>
          rw [first] at read
          cases read
      | some parts =>
          rw [first] at read
          dsimp only at read
          split at read
          · cases read
          · cases read
            refine ⟨⟨_, rfl⟩, c, after, rfl, ?_⟩
            simp only [wholePart] at first
            split_ifs at first with zero digit
            · rw [zero]
              rfl
            · exact digit

theorem readScalar_of_isDigit (dialect : Dialect) {c : Char} (digit : c.isDigit = true)
    (rest : List Char) :
    readScalar dialect (c :: rest) = readUnsigned dialect false (c :: rest) := by
  unfold readScalar
  split <;> try rfl
  all_goals
    rename_i same
    exact absurd (List.cons.inj same).1 (ne_of_isDigit digit (by decide))

theorem readScalar_append {dialect : Dialect} {text rest : List Char} {value : Json}
    (more : List Char) (read : readScalar dialect text = .ok (value, rest))
    (settled : Settled value rest) :
    readScalar dialect (text ++ more) = .ok (value, rest ++ more) := by
  have ends : forall {negative : Bool} {body : List Char},
      readUnsigned dialect negative body = .ok (value, rest) -> Delimited rest := by
    intro negative body number
    rcases (isDigit_of_readUnsigned number).1 with ⟨numeral, known⟩
    exact settled.resolve_left (fun other => other numeral known)
  unfold readScalar at read
  split at read
  · exact expect_append more read
  · exact expect_append more read
  · exact expect_append more read
  · split at read
    · rename_i known
      have longer := expect_append more read
      simp only [List.cons_append, readScalar, known, if_true] at longer ⊢
      exact longer
    · cases read
  · split at read
    · rename_i known
      have longer := expect_append more read
      simp only [List.cons_append, readScalar, known, if_true] at longer ⊢
      exact longer
    · cases read
  · rename_i body
    split at read
    · rename_i named
      have longer := expect_append more read
      rcases Bool.and_eq_true_iff.mp named with ⟨known, here⟩
      have still : "Infinity".toList.isPrefixOf (body ++ more) = true := by
        rcases List.isPrefixOf_iff_prefix.mp here with ⟨after, rfl⟩
        exact List.isPrefixOf_iff_prefix.mpr ⟨after ++ more, (List.append_assoc ..).symm⟩
      simp only [List.cons_append, readScalar, known, still, Bool.and_self, if_true] at longer ⊢
      exact longer
    · have longer := readUnsigned_append more read (ends read)
      rcases (isDigit_of_readUnsigned read).2 with ⟨c, after, rfl, digit⟩
      have number := readValue_minus dialect 0 0 digit (after ++ more)
      rw [List.cons_append] at longer ⊢
      rw [← longer, ← List.cons_append, ← number]
      rfl
  · have longer := readUnsigned_append more read (ends read)
    rcases (isDigit_of_readUnsigned read).2 with ⟨c, after, rfl, digit⟩
    rw [List.cons_append] at longer ⊢
    rw [← longer, ← List.cons_append]
    exact readScalar_of_isDigit dialect digit (after ++ more)

/-! ## The steps of the readers -/

section Steps

variable {dialect : Dialect} {fuel depth : Nat} {text body rest after later : List Char}

/-- There is room for one more level of nesting. -/
def Shallow (dialect : Dialect) (depth : Nat) : Prop :=
  dialect.maxDepth.any (fun limit => decide (limit ≤ depth)) = false

theorem readValue_array (shallow : Shallow dialect depth)
    (open_ : forall after, skip body ≠ ']' :: after) :
    readValue dialect (fuel + 1) depth ('[' :: body) =
      (readItems dialect fuel (depth + 1) body).map (fun r => (.array r.1, r.2)) := by
  unfold Shallow at shallow
  simp only [readValue, shallow, Bool.false_eq_true, if_false]

theorem readValue_emptyArray (shallow : Shallow dialect depth) (closed : skip body = ']' :: rest) :
    readValue dialect (fuel + 1) depth ('[' :: body) = .ok (.array [], rest) := by
  unfold Shallow at shallow
  simp only [readValue, shallow, closed, Bool.false_eq_true, if_false]

theorem readValue_object (shallow : Shallow dialect depth)
    (open_ : forall after, skip body ≠ '\x7d' :: after) :
    readValue dialect (fuel + 1) depth ('\x7b' :: body) =
      (readMembers dialect fuel (depth + 1) body).map (fun r => (.object r.1, r.2)) := by
  unfold Shallow at shallow
  simp only [readValue, shallow, Bool.false_eq_true, if_false]

theorem readValue_emptyObject (shallow : Shallow dialect depth)
    (closed : skip body = '\x7d' :: rest) :
    readValue dialect (fuel + 1) depth ('\x7b' :: body) = .ok (.object [], rest) := by
  unfold Shallow at shallow
  simp only [readValue, shallow, closed, Bool.false_eq_true, if_false]

theorem readValue_deep (deep : ¬ Shallow dialect depth) {c : Char} (bracket : c = '[' ∨ c = '\x7b') :
    readValue dialect (fuel + 1) depth (c :: body) = .error .tooDeep := by
  have known := Bool.eq_true_of_not_eq_false deep
  rcases bracket with rfl | rfl
  · simp only [readValue, known, if_true]
  · simp only [readValue, known, if_true]

/-- What is read in brackets is not nested too deep. -/
theorem shallow_of_readValue {result : Json × List Char} {c : Char}
    (read : readValue dialect (fuel + 1) depth (c :: body) = .ok result)
    (bracket : c = '[' ∨ c = '\x7b') : Shallow dialect depth := by
  refine Classical.byContradiction (fun deep => ?_)
  rw [readValue_deep deep bracket] at read
  cases read

theorem readValue_eq_readScalar {result : Json × List Char}
    (read : readScalar dialect text = .ok result) :
    readValue dialect (fuel + 1) depth text = readScalar dialect text := by
  unfold readValue
  split
  · cases read
  · cases read
  · cases read
  · rfl

theorem readItems_more {item : Json}
    (first : readValue dialect fuel depth (skip text) = .ok (item, after))
    (separated : skip after = ',' :: later) :
    readItems dialect (fuel + 1) depth text =
      (readItems dialect fuel depth later).map (fun r => (item :: r.1, r.2)) := by
  simp only [readItems, first, separated]

theorem readItems_last {item : Json}
    (first : readValue dialect fuel depth (skip text) = .ok (item, after))
    (closed : skip after = ']' :: rest) :
    readItems dialect (fuel + 1) depth text = .ok ([item], rest) := by
  simp only [readItems, first, closed]

variable {quoted afterName afterColon : List Char} {name : CodePoints}

theorem readMembers_more {value : Json} (opened : skip text = '"' :: quoted)
    (named : readString quoted = some (name, afterName))
    (coloned : skip afterName = ':' :: afterColon)
    (first : readValue dialect fuel depth (skip afterColon) = .ok (value, after))
    (separated : skip after = ',' :: later) :
    readMembers dialect (fuel + 1) depth text =
      (readMembers dialect fuel depth later).map (fun r => ((name, value) :: r.1, r.2)) := by
  simp only [readMembers, opened, named, coloned, first, separated]

theorem readMembers_last {value : Json} (opened : skip text = '"' :: quoted)
    (named : readString quoted = some (name, afterName))
    (coloned : skip afterName = ':' :: afterColon)
    (first : readValue dialect fuel depth (skip afterColon) = .ok (value, after))
    (closed : skip after = '\x7d' :: rest) :
    readMembers dialect (fuel + 1) depth text = .ok ([(name, value)], rest) := by
  simp only [readMembers, opened, named, coloned, first, closed]

/-- A value does not begin with a closing bracket. -/
theorem exists_cons_of_readValue {value : Json}
    (read : readValue dialect fuel depth text = .ok (value, rest)) :
    exists c after, text = c :: after ∧ c ≠ ']' := by
  cases fuel with
  | zero => cases read
  | succ fuel =>
      cases text with
      | nil => cases read
      | cons c after =>
          refine ⟨c, after, rfl, ?_⟩
          rintro rfl
          cases read

theorem readItems_opens {items : List Json}
    (read : readItems dialect fuel depth text = .ok (items, rest)) :
    exists c after, skip text = c :: after ∧ c ≠ ']' := by
  cases fuel with
  | zero => cases read
  | succ fuel =>
      rcases readItems_cases read with ⟨item, after, first, -⟩
      exact exists_cons_of_readValue first

theorem readMembers_opens {members : List (CodePoints × Json)}
    (read : readMembers dialect fuel depth text = .ok (members, rest)) :
    exists quoted, skip text = '"' :: quoted := by
  cases fuel with
  | zero => cases read
  | succ fuel =>
      obtain ⟨quoted, -, -, -, -, -, opened, -⟩ := readMembers_cases read
      exact ⟨quoted, opened⟩

end Steps

/-! ## A text that goes on -/

/-- With this fuel or more, what the three readers have read they read from a
longer text too. -/
structure ReadersGoOn (dialect : Dialect) (fuel : Nat) : Prop where
  value : forall {depth text rest value} (spare : Nat) (more : List Char),
    readValue dialect fuel depth text = .ok (value, rest) -> Settled value rest ->
      readValue dialect (fuel + spare) depth (text ++ more) = .ok (value, rest ++ more)
  items : forall {depth text rest items} (spare : Nat) (more : List Char),
    readItems dialect fuel depth text = .ok (items, rest) ->
      readItems dialect (fuel + spare) depth (text ++ more) = .ok (items, rest ++ more)
  members : forall {depth text rest members} (spare : Nat) (more : List Char),
    readMembers dialect fuel depth text = .ok (members, rest) ->
      readMembers dialect (fuel + spare) depth (text ++ more) = .ok (members, rest ++ more)

namespace ReadersGoOn

variable {dialect : Dialect} {fuel depth : Nat} {text rest : List Char}

theorem readValue (readers : ReadersGoOn dialect fuel) {value : Json} (spare : Nat)
    (more : List Char)
    (read : JsonText.readValue dialect (fuel + 1) depth text = .ok (value, rest))
    (settled : Settled value rest) :
    JsonText.readValue dialect (fuel + spare + 1) depth (text ++ more) =
      .ok (value, rest ++ more) := by
  rcases readValue_cases read with ⟨quoted, name, rfl, named, rfl⟩ |
    ⟨body, items, rfl, rfl, inner⟩ | ⟨body, members, rfl, rfl, inner⟩ | scalar
  · simp only [List.cons_append, JsonText.readValue, readString_append more named]
  · have shallow := shallow_of_readValue read (Or.inl rfl)
    rw [List.cons_append]
    rcases inner with ⟨closed, rfl⟩ | inner
    · exact readValue_emptyArray shallow (skip_append_cons closed more)
    · rcases readItems_opens inner with ⟨c, after, opens, open_⟩
      have still := skip_append_cons opens more
      rw [readValue_array shallow (fun later closed => open_ (List.cons.inj (still.symm.trans closed)).1),
        readers.items spare more inner]
      rfl
  · have shallow := shallow_of_readValue read (Or.inr rfl)
    rw [List.cons_append]
    rcases inner with ⟨closed, rfl⟩ | inner
    · exact readValue_emptyObject shallow (skip_append_cons closed more)
    · rcases readMembers_opens inner with ⟨quoted, opens⟩
      have still := skip_append_cons opens more
      rw [readValue_object shallow
          (fun later closed => absurd (List.cons.inj (still.symm.trans closed)).1 (by decide)),
        readers.members spare more inner]
      rfl
  · have longer := readScalar_append more scalar settled
    rw [readValue_eq_readScalar longer, longer]

theorem readItems (readers : ReadersGoOn dialect fuel) {items : List Json} (spare : Nat)
    (more : List Char)
    (read : JsonText.readItems dialect (fuel + 1) depth text = .ok (items, rest)) :
    JsonText.readItems dialect (fuel + spare + 1) depth (text ++ more) =
      .ok (items, rest ++ more) := by
  rcases readItems_cases read with ⟨item, after, first, later⟩
  rcases exists_cons_of_readValue first with ⟨c, tail, opens, -⟩
  have begins : skip (text ++ more) = skip text ++ more :=
    skip_append more (by rw [opens]; exact List.cons_ne_nil c tail)
  rcases later with ⟨later, others, separated, inner, rfl⟩ | ⟨closed, rfl⟩
  · have longer := readers.value spare more first (Or.inr (delimited_of_skip separated rfl))
    rw [← begins] at longer
    rw [readItems_more longer (skip_append_cons separated more), readers.items spare more inner]
    rfl
  · have longer := readers.value spare more first (Or.inr (delimited_of_skip closed rfl))
    rw [← begins] at longer
    exact readItems_last longer (skip_append_cons closed more)

theorem readMembers (readers : ReadersGoOn dialect fuel) {members : List (CodePoints × Json)}
    (spare : Nat) (more : List Char)
    (read : JsonText.readMembers dialect (fuel + 1) depth text = .ok (members, rest)) :
    JsonText.readMembers dialect (fuel + spare + 1) depth (text ++ more) =
      .ok (members, rest ++ more) := by
  obtain ⟨quoted, name, afterName, afterColon, value, after, opened, named, coloned, first,
    later⟩ := readMembers_cases read
  have opened' := skip_append_cons opened more
  have named' := readString_append more named
  have coloned' := skip_append_cons coloned more
  rcases exists_cons_of_readValue first with ⟨c, tail, opens, -⟩
  have begins : skip (afterColon ++ more) = skip afterColon ++ more :=
    skip_append more (by rw [opens]; exact List.cons_ne_nil c tail)
  rcases later with ⟨later, others, separated, inner, rfl⟩ | ⟨closed, rfl⟩
  · have longer := readers.value spare more first (Or.inr (delimited_of_skip separated rfl))
    rw [← begins] at longer
    rw [readMembers_more opened' named' coloned' longer (skip_append_cons separated more),
      readers.members spare more inner]
    rfl
  · have longer := readers.value spare more first (Or.inr (delimited_of_skip closed rfl))
    rw [← begins] at longer
    exact readMembers_last opened' named' coloned' longer (skip_append_cons closed more)

end ReadersGoOn

/-- By induction on the fuel. -/
theorem readers_go_on (dialect : Dialect) (fuel : Nat) : ReadersGoOn dialect fuel := by
  induction fuel with
  | zero =>
      refine ⟨?_, ?_, ?_⟩
      · exact fun _ _ read => (nomatch read)
      · exact fun _ _ read => (nomatch read)
      · exact fun _ _ read => (nomatch read)
  | succ fuel ih =>
      refine ⟨?_, ?_, ?_⟩
      · intro depth text rest value spare more read settled
        rw [Nat.succ_add]
        exact ih.readValue spare more read settled
      · intro depth text rest items spare more read
        rw [Nat.succ_add]
        exact ih.readItems spare more read
      · intro depth text rest members spare more read
        rw [Nat.succ_add]
        exact ih.readMembers spare more read

/-- Whatever stands after a value, it is read the same. -/
theorem rawDecode_append {dialect : Dialect} {text rest : List Char} {value : Json}
    (more : List Char) (read : rawDecode dialect text = .ok (value, rest))
    (settled : Settled value rest) :
    rawDecode dialect (text ++ more) = .ok (value, rest ++ more) := by
  have longer := (readers_go_on dialect _).value (2 * more.length) more read settled
  have fuel : 2 * text.length + 2 + 2 * more.length = 2 * (text ++ more).length + 2 := by
    rw [List.length_append]
    omega
  rw [fuel] at longer
  exact longer

/-! ## Faults that stay

A text may be malformed only because it breaks off.  The other faults are
found where they are.
-/

section Faults

variable {dialect : Dialect} {fuel depth : Nat} {text : List Char} {fault : Fault}

theorem readUnsigned_fault {negative : Bool}
    (fails : readUnsigned dialect negative text = .error fault) (other : fault ≠ .malformed) :
    fault = .tooManyDigits ∧ exists limit digits rest, dialect.maxDigits = some limit ∧
      wholePart text = some (digits, rest) ∧ limit < digits.length := by
  unfold readUnsigned at fails
  cases first : wholePart text with
  | none =>
      rw [first] at fails
      cases fails
      exact absurd rfl other
  | some parts =>
      rw [first] at fails
      dsimp only at fails
      split at fails
      · rename_i many
        cases fails
        rcases (Option.any_eq_true _ _).mp (Bool.and_eq_true_iff.mp many).2 with
          ⟨limit, known, longer⟩
        exact ⟨rfl, limit, parts.1, parts.2, known, rfl, of_decide_eq_true longer⟩
      · cases fails

theorem readScalar_fault (fails : readScalar dialect text = .error fault)
    (other : fault ≠ .malformed) :
    exists negative body, body <:+ text ∧ readUnsigned dialect negative body = .error fault := by
  have word : forall {name : List Char} {constant : Json},
      expect name constant text = .error fault -> fault = .malformed := by
    intro name constant failed
    unfold expect at failed
    split at failed
    · cases failed
    · cases failed
      rfl
  unfold readScalar at fails
  split at fails
  · exact absurd (word fails) other
  · exact absurd (word fails) other
  · exact absurd (word fails) other
  · split at fails
    · exact absurd (word fails) other
    · cases fails
      exact absurd rfl other
  · split at fails
    · exact absurd (word fails) other
    · cases fails
      exact absurd rfl other
  · split at fails
    · exact absurd (word fails) other
    · exact ⟨true, _, List.suffix_cons _ _, fails⟩
  · exact ⟨false, text, List.suffix_rfl, fails⟩

/-- Where a value has a fault that stays. -/
theorem readValue_fault (fails : readValue dialect (fuel + 1) depth text = .error fault)
    (other : fault ≠ .malformed) :
    (fault = .tooDeep ∧ exists c body, text = c :: body ∧ (c = '[' ∨ c = '\x7b') ∧
      ¬ Shallow dialect depth) ∨
    (exists body, text = '[' :: body ∧ Shallow dialect depth ∧
      readItems dialect fuel (depth + 1) body = .error fault) ∨
    (exists body, text = '\x7b' :: body ∧ Shallow dialect depth ∧
      readMembers dialect fuel (depth + 1) body = .error fault) ∨
    readScalar dialect text = .error fault := by
  unfold readValue at fails
  split at fails
  · split at fails
    · cases fails
    · cases fails
      exact absurd rfl other
  · rename_i body
    split at fails
    · rename_i deep
      cases fails
      exact Or.inl ⟨rfl, '[', body, rfl, Or.inl rfl, by rw [Shallow, deep]; exact Bool.noConfusion⟩
    · rename_i shallow
      split at fails
      · cases fails
      · cases inner : readItems dialect fuel (depth + 1) body with
        | error found =>
            rw [inner] at fails
            cases fails
            exact Or.inr (Or.inl ⟨body, rfl, Bool.eq_false_of_not_eq_true shallow, inner⟩)
        | ok found =>
            rw [inner] at fails
            cases fails
  · rename_i body
    split at fails
    · rename_i deep
      cases fails
      exact Or.inl ⟨rfl, '\x7b', body, rfl, Or.inr rfl, by rw [Shallow, deep]; exact Bool.noConfusion⟩
    · rename_i shallow
      split at fails
      · cases fails
      · cases inner : readMembers dialect fuel (depth + 1) body with
        | error found =>
            rw [inner] at fails
            cases fails
            exact Or.inr (Or.inr (Or.inl ⟨body, rfl, Bool.eq_false_of_not_eq_true shallow, inner⟩))
        | ok found =>
            rw [inner] at fails
            cases fails
  · exact Or.inr (Or.inr (Or.inr fails))

theorem readItems_fault (fails : readItems dialect (fuel + 1) depth text = .error fault)
    (other : fault ≠ .malformed) :
    readValue dialect fuel depth (skip text) = .error fault ∨
    exists item after later, readValue dialect fuel depth (skip text) = .ok (item, after) ∧
      skip after = ',' :: later ∧ readItems dialect fuel depth later = .error fault := by
  unfold readItems at fails
  cases first : readValue dialect fuel depth (skip text) with
  | error found =>
      simp only [first] at fails
      cases fails
      exact Or.inl rfl
  | ok found =>
      simp only [first] at fails
      split at fails
      · rename_i later separated
        cases inner : readItems dialect fuel depth later with
        | error found' =>
            rw [inner] at fails
            cases fails
            exact Or.inr ⟨found.1, found.2, later, rfl, separated, inner⟩
        | ok others =>
            rw [inner] at fails
            cases fails
      · cases fails
      · cases fails
        exact absurd rfl other

theorem readMembers_fault (fails : readMembers dialect (fuel + 1) depth text = .error fault)
    (other : fault ≠ .malformed) :
    exists quoted name afterName afterColon, skip text = '"' :: quoted ∧
      readString quoted = some (name, afterName) ∧ skip afterName = ':' :: afterColon ∧
      (readValue dialect fuel depth (skip afterColon) = .error fault ∨
        exists value after later, readValue dialect fuel depth (skip afterColon) = .ok (value, after) ∧
          skip after = ',' :: later ∧ readMembers dialect fuel depth later = .error fault) := by
  unfold readMembers at fails
  split at fails
  · rename_i quoted opened
    cases named : readString quoted with
    | none =>
        simp only [named] at fails
        cases fails
        exact absurd rfl other
    | some name =>
        simp only [named] at fails
        split at fails
        · rename_i afterColon coloned
          refine ⟨quoted, name.1, name.2, afterColon, opened, named, coloned, ?_⟩
          cases first : readValue dialect fuel depth (skip afterColon) with
          | error found =>
              simp only [first] at fails
              cases fails
              exact Or.inl rfl
          | ok found =>
              simp only [first] at fails
              split at fails
              · rename_i later separated
                cases inner : readMembers dialect fuel depth later with
                | error found' =>
                    rw [inner] at fails
                    cases fails
                    exact Or.inr ⟨found.1, found.2, later, rfl, separated, inner⟩
                | ok others =>
                    rw [inner] at fails
                    cases fails
              · cases fails
              · cases fails
                exact absurd rfl other
        · cases fails
          exact absurd rfl other
  · cases fails
    exact absurd rfl other

end Faults

/-- With this fuel or more, nesting that is too deep is so in a longer text
too. -/
structure ReadersStayDeep (dialect : Dialect) (fuel : Nat) : Prop where
  value : forall {depth text} (spare : Nat) (more : List Char),
    readValue dialect fuel depth text = .error .tooDeep ->
      readValue dialect (fuel + spare) depth (text ++ more) = .error .tooDeep
  items : forall {depth text} (spare : Nat) (more : List Char),
    readItems dialect fuel depth text = .error .tooDeep ->
      readItems dialect (fuel + spare) depth (text ++ more) = .error .tooDeep
  members : forall {depth text} (spare : Nat) (more : List Char),
    readMembers dialect fuel depth text = .error .tooDeep ->
      readMembers dialect (fuel + spare) depth (text ++ more) = .error .tooDeep

namespace ReadersStayDeep

variable {dialect : Dialect} {fuel depth : Nat} {text : List Char}

theorem exists_cons_of_deep (deep : JsonText.readValue dialect fuel depth text = .error .tooDeep) :
    exists c after, text = c :: after ∧ c ≠ ']' := by
  cases fuel with
  | zero => cases deep
  | succ fuel =>
      cases text with
      | nil => cases deep
      | cons c after =>
          refine ⟨c, after, rfl, ?_⟩
          rintro rfl
          cases deep

theorem exists_cons_of_deepItems
    (deep : JsonText.readItems dialect fuel depth text = .error .tooDeep) :
    exists c after, skip text = c :: after ∧ c ≠ ']' := by
  cases fuel with
  | zero => cases deep
  | succ fuel =>
      rcases readItems_fault deep (by decide) with first | ⟨item, after, later, first, -⟩
      · exact exists_cons_of_deep first
      · exact exists_cons_of_readValue first

theorem readValue (readers : ReadersStayDeep dialect fuel) (spare : Nat) (more : List Char)
    (fails : JsonText.readValue dialect (fuel + 1) depth text = .error .tooDeep) :
    JsonText.readValue dialect (fuel + spare + 1) depth (text ++ more) = .error .tooDeep := by
  rcases readValue_fault fails (by decide) with ⟨-, c, body, rfl, bracket, deep⟩ |
    ⟨body, rfl, shallow, inner⟩ | ⟨body, rfl, shallow, inner⟩ | scalar
  · exact readValue_deep deep bracket
  · rcases exists_cons_of_deepItems inner with ⟨c, after, opens, open_⟩
    have still := skip_append_cons opens more
    rw [List.cons_append, readValue_array shallow
        (fun later closed => open_ (List.cons.inj (still.symm.trans closed)).1),
      readers.items spare more inner]
    rfl
  · have opens : exists quoted, skip body = '"' :: quoted := by
      cases fuel with
      | zero => cases inner
      | succ fuel =>
          obtain ⟨quoted, -, -, -, opened, -⟩ := readMembers_fault inner (by decide)
          exact ⟨quoted, opened⟩
    rcases opens with ⟨quoted, opens⟩
    have still := skip_append_cons opens more
    rw [List.cons_append, readValue_object shallow
        (fun later closed => absurd (List.cons.inj (still.symm.trans closed)).1 (by decide)),
      readers.members spare more inner]
    rfl
  · -- a number is not nested
    rcases readScalar_fault scalar (by decide) with ⟨negative, body, -, number⟩
    exact absurd (readUnsigned_fault number (by decide)).1 (by decide)

theorem readItems (readers : ReadersStayDeep dialect fuel) (spare : Nat) (more : List Char)
    (fails : JsonText.readItems dialect (fuel + 1) depth text = .error .tooDeep) :
    JsonText.readItems dialect (fuel + spare + 1) depth (text ++ more) = .error .tooDeep := by
  rcases readItems_fault fails (by decide) with first | ⟨item, after, later, first, separated, inner⟩
  · rcases exists_cons_of_deep first with ⟨c, tail, opens, -⟩
    have longer := readers.value spare more first
    rw [← skip_append more (by rw [opens]; exact List.cons_ne_nil c tail)] at longer
    simp only [JsonText.readItems, longer]
  · rcases exists_cons_of_readValue first with ⟨c, tail, opens, -⟩
    have longer := (readers_go_on dialect fuel).value spare more first
      (Or.inr (delimited_of_skip separated rfl))
    rw [← skip_append more (by rw [opens]; exact List.cons_ne_nil c tail)] at longer
    rw [readItems_more longer (skip_append_cons separated more), readers.items spare more inner]
    rfl

theorem readMembers (readers : ReadersStayDeep dialect fuel) (spare : Nat) (more : List Char)
    (fails : JsonText.readMembers dialect (fuel + 1) depth text = .error .tooDeep) :
    JsonText.readMembers dialect (fuel + spare + 1) depth (text ++ more) = .error .tooDeep := by
  obtain ⟨quoted, name, afterName, afterColon, opened, named, coloned, found⟩ :=
    readMembers_fault fails (by decide)
  have opened' := skip_append_cons opened more
  have named' := readString_append more named
  have coloned' := skip_append_cons coloned more
  rcases found with first | ⟨value, after, later, first, separated, inner⟩
  · rcases exists_cons_of_deep first with ⟨c, tail, opens, -⟩
    have longer := readers.value spare more first
    rw [← skip_append more (by rw [opens]; exact List.cons_ne_nil c tail)] at longer
    simp only [JsonText.readMembers, opened', named', coloned', longer]
  · rcases exists_cons_of_readValue first with ⟨c, tail, opens, -⟩
    have longer := (readers_go_on dialect fuel).value spare more first
      (Or.inr (delimited_of_skip separated rfl))
    rw [← skip_append more (by rw [opens]; exact List.cons_ne_nil c tail)] at longer
    rw [readMembers_more opened' named' coloned' longer (skip_append_cons separated more),
      readers.members spare more inner]
    rfl

end ReadersStayDeep

theorem readers_stay_deep (dialect : Dialect) (fuel : Nat) : ReadersStayDeep dialect fuel := by
  induction fuel with
  | zero =>
      refine ⟨?_, ?_, ?_⟩
      · exact fun _ _ fails => (nomatch fails)
      · exact fun _ _ fails => (nomatch fails)
      · exact fun _ _ fails => (nomatch fails)
  | succ fuel ih =>
      refine ⟨?_, ?_, ?_⟩
      · intro depth text spare more fails
        rw [Nat.succ_add]
        exact ih.readValue spare more fails
      · intro depth text spare more fails
        rw [Nat.succ_add]
        exact ih.readItems spare more fails
      · intro depth text spare more fails
        rw [Nat.succ_add]
        exact ih.readMembers spare more fails

/-! ### Numbers with too many digits -/

/-- Every run of digits in the text is short enough for a whole number. -/
def DigitsFit (dialect : Dialect) (text : List Char) : Prop :=
  forall limit digits, dialect.maxDigits = some limit -> digits <:+: text ->
    (forall c, c ∈ digits -> c.isDigit = true) -> digits.length ≤ limit

theorem DigitsFit.narrow {dialect : Dialect} {text part : List Char}
    (fits : DigitsFit dialect text) (inside : part <:+: text) : DigitsFit dialect part :=
  fun limit digits limited here => fits limit digits limited (here.trans inside)

theorem prefix_of_wholePart {text digits rest : List Char}
    (read : wholePart text = some (digits, rest)) :
    digits <+: text ∧ forall c, c ∈ digits -> c.isDigit = true := by
  cases text with
  | nil => cases read
  | cons c after =>
      simp only [wholePart] at read
      split_ifs at read with zero digit
      · cases read
        subst zero
        exact ⟨List.prefix_append ['0'] rest, List.forall_mem_singleton.mpr rfl⟩
      · rw [List.span_eq_takeWhile_dropWhile] at read
        cases read
        exact ⟨List.takeWhile_prefix _, fun c here => List.mem_takeWhile_imp here⟩

theorem readUnsigned_ne_tooManyDigits {dialect : Dialect} {negative : Bool} {text : List Char}
    (fits : DigitsFit dialect text) :
    readUnsigned dialect negative text ≠ .error .tooManyDigits := by
  intro fails
  rcases (readUnsigned_fault fails (by decide)).2 with ⟨limit, digits, rest, limited, first, many⟩
  rcases prefix_of_wholePart first with ⟨begins, isRun⟩
  exact Nat.not_lt.mpr (fits limit digits limited begins.isInfix isRun) many

/-- With this fuel the three readers find no number too long. -/
structure ReadersFit (dialect : Dialect) (fuel : Nat) : Prop where
  value : forall {depth text}, DigitsFit dialect text ->
    readValue dialect fuel depth text ≠ .error .tooManyDigits
  items : forall {depth text}, DigitsFit dialect text ->
    readItems dialect fuel depth text ≠ .error .tooManyDigits
  members : forall {depth text}, DigitsFit dialect text ->
    readMembers dialect fuel depth text ≠ .error .tooManyDigits

namespace ReadersFit

variable {dialect : Dialect} {fuel depth : Nat} {text : List Char}

theorem readValue (readers : ReadersFit dialect fuel) (fits : DigitsFit dialect text) :
    JsonText.readValue dialect (fuel + 1) depth text ≠ .error .tooManyDigits := by
  intro fails
  rcases readValue_fault fails (by decide) with ⟨impossible, -⟩ | ⟨body, rfl, -, inner⟩ |
    ⟨body, rfl, -, inner⟩ | scalar
  · cases impossible
  · exact readers.items (fits.narrow (List.suffix_cons _ _).isInfix) inner
  · exact readers.members (fits.narrow (List.suffix_cons _ _).isInfix) inner
  · rcases readScalar_fault scalar (by decide) with ⟨negative, body, part, number⟩
    exact readUnsigned_ne_tooManyDigits (fits.narrow part.isInfix) number

theorem readItems (readers : ReadersFit dialect fuel) (fits : DigitsFit dialect text) :
    JsonText.readItems dialect (fuel + 1) depth text ≠ .error .tooManyDigits := by
  intro fails
  have blanks := skip_suffix text
  rcases readItems_fault fails (by decide) with first | ⟨item, after, later, first, separated, inner⟩
  · exact readers.value (fits.narrow blanks.isInfix) first
  · have left := ((isRest_of_readValue first).widen blanks).narrow (skip_suffix after)
    rw [separated] at left
    exact readers.items (fits.narrow ((List.suffix_cons _ _).trans left.suffix).isInfix) inner

theorem readMembers (readers : ReadersFit dialect fuel) (fits : DigitsFit dialect text) :
    JsonText.readMembers dialect (fuel + 1) depth text ≠ .error .tooManyDigits := by
  intro fails
  obtain ⟨quoted, name, afterName, afterColon, opened, named, coloned, found⟩ :=
    readMembers_fault fails (by decide)
  have quotes := skip_suffix text
  rw [opened] at quotes
  have beforeColon := ((isRest_of_readString named).widen
    ((List.suffix_cons _ _).trans quotes)).narrow (skip_suffix afterName)
  rw [coloned] at beforeColon
  have beforeValue := (beforeColon.narrow (List.suffix_cons _ _)).narrow (skip_suffix afterColon)
  rcases found with first | ⟨value, after, later, first, separated, inner⟩
  · exact readers.value (fits.narrow beforeValue.suffix.isInfix) first
  · have left := ((isRest_of_readValue first).widen beforeValue.suffix).narrow (skip_suffix after)
    rw [separated] at left
    exact readers.members (fits.narrow ((List.suffix_cons _ _).trans left.suffix).isInfix) inner

end ReadersFit

theorem readers_fit (dialect : Dialect) (fuel : Nat) : ReadersFit dialect fuel := by
  induction fuel with
  | zero =>
      refine ⟨?_, ?_, ?_⟩
      · exact fun _ fails => (nomatch fails)
      · exact fun _ fails => (nomatch fails)
      · exact fun _ fails => (nomatch fails)
  | succ fuel ih => exact ⟨ih.readValue, ih.readItems, ih.readMembers⟩

/-! ## A text that breaks off -/

theorem begins_of_number {dialect : Dialect} {fuel depth : Nat} {text rest : List Char}
    {numeral : Numeral} (read : readValue dialect fuel depth text = .ok (.number numeral, rest)) :
    exists c after, c.isDigit = true ∧ (text = c :: after ∨ text = '-' :: c :: after) := by
  cases fuel with
  | zero => cases read
  | succ fuel =>
      rcases readValue_cases read with ⟨_, _, -, -, impossible⟩ | ⟨_, _, -, impossible, -⟩ |
        ⟨_, _, -, impossible, -⟩ | scalar
      · cases impossible
      · cases impossible
      · cases impossible
      · unfold readScalar at scalar
        split at scalar
        · cases eq_of_expect scalar
        · cases eq_of_expect scalar
        · cases eq_of_expect scalar
        · split at scalar
          · cases eq_of_expect scalar
          · cases scalar
        · split at scalar
          · cases eq_of_expect scalar
          · cases scalar
        · split at scalar
          · cases eq_of_expect scalar
          · rcases (isDigit_of_readUnsigned scalar).2 with ⟨c, after, rfl, digit⟩
            exact ⟨c, after, digit, Or.inr rfl⟩
        · rcases (isDigit_of_readUnsigned scalar).2 with ⟨c, after, rfl, digit⟩
          exact ⟨c, after, digit, Or.inl rfl⟩

/-- How a text begins tells whether it is a number. -/
theorem number_of_begins {dialect : Dialect} {fuel depth : Nat} {text rest : List Char}
    {value : Json} {c : Char} {after : List Char} (digit : c.isDigit = true)
    (begins : text = c :: after ∨ text = '-' :: c :: after)
    (read : readValue dialect fuel depth text = .ok (value, rest)) :
    exists numeral, value = .number numeral := by
  cases fuel with
  | zero => cases read
  | succ fuel =>
      rcases begins with rfl | rfl
      · rw [readValue_of_isDigit dialect fuel depth digit] at read
        exact (isDigit_of_readUnsigned read).1
      · rw [readValue_minus dialect fuel depth digit] at read
        exact (isDigit_of_readUnsigned read).1

/-- Where a text breaks off that is read to its end, and is not a number, it
has a fault.  It is malformed, but for a number that has lost its end and has
too many digits without it. -/
theorem rawDecode_truncated {dialect : Dialect} {text cut : List Char} {value : Json}
    (whole : rawDecode dialect text = .ok (value, []))
    (noNumber : forall numeral, value ≠ .number numeral) (begins : cut <+: text)
    (broken : cut ≠ text) :
    rawDecode dialect cut = .error .malformed ∨
      rawDecode dialect cut = .error .tooManyDigits ∧ ¬ DigitsFit dialect text := by
  rcases begins with ⟨more, rfl⟩
  have missing : more ≠ [] := fun none => broken (by rw [none, List.append_nil])
  have enough : 2 * cut.length + 2 + 2 * more.length = 2 * (cut ++ more).length + 2 := by
    rw [List.length_append]
    omega
  cases read : rawDecode dialect cut with
  | ok found =>
      -- otherwise the whole text would be read no further than its part
      rcases found with ⟨other, rest⟩
      have settled : Settled other rest := by
        refine Or.inl (fun numeral number => ?_)
        subst number
        rcases begins_of_number read with ⟨c, after, digit, begins⟩
        have begins' : cut ++ more = c :: (after ++ more) ∨
            cut ++ more = '-' :: c :: (after ++ more) := by
          rcases begins with rfl | rfl
          · exact Or.inl rfl
          · exact Or.inr rfl
        rcases number_of_begins digit begins' whole with ⟨known, same⟩
        exact noNumber known same
      have longer := rawDecode_append more read settled
      rw [whole] at longer
      have none := (Prod.ext_iff.mp (Except.ok.inj longer)).2
      exact absurd (List.append_eq_nil_iff.mp none.symm).2 missing
  | error fault =>
      cases fault with
      | malformed => exact Or.inl rfl
      | tooManyDigits =>
          refine Or.inr ⟨rfl, fun fits => ?_⟩
          exact (readers_fit dialect _).value
            (fits.narrow (List.prefix_append cut more).isInfix) read
      | tooDeep =>
          have deep := (readers_stay_deep dialect _).value (2 * more.length) more read
          rw [enough] at deep
          rw [rawDecode, deep] at whole
          cases whole
      | fuel => exact absurd read (rawDecode_ne_fuel dialect cut)

end JsonText
