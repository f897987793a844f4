import Mathlib.Data.List.TakeDrop

namespace JsonText

/-!
# JSON texts

Reading a JSON text from left to right, the way `json.loads` and `JSON.parse`
do.  The two accept the same grammar but for what a `Dialect` says.  A fault
is the first one in the text.

A `\u` escape may stand for half a surrogate pair, so the texts that are read
are lists of code points and not of characters.
-/

abbrev CodePoints := List Nat

def codePoints (text : String) : CodePoints := text.toList.map Char.toNat

/-- A number as it is written, `mantissa * 10 ^ exponent`.  It is a whole
number when it has neither a fraction nor an exponent. -/
structure Numeral where
  mantissa : Int
  exponent : Int
  isWhole : Bool
  deriving DecidableEq, Repr

inductive Constant
  | nan
  | infinity
  | negativeInfinity
  deriving DecidableEq, Repr

inductive Json
  | null
  | bool (value : Bool)
  | number (numeral : Numeral)
  | constant (name : Constant)
  | string (text : CodePoints)
  | array (items : List Json)
  | object (members : List (CodePoints × Json))
  deriving Repr

/-- The member of a name.  Of several the last one counts. -/
def field (members : List (CodePoints × Json)) (name : String) : Option Json :=
  (members.reverse.find? (fun m => m.1 == codePoints name)).map (fun m => m.2)

/-- Why a text is not read.  `fuel` does not occur, see `parse_ne_fuel`. -/
inductive Fault
  | malformed
  | tooManyDigits
  | tooDeep
  | fuel
  deriving DecidableEq, Repr

/-- What a reader does beyond the common grammar: whether it knows the
constants, and how many digits of a whole number and how many levels of
nesting it can take. -/
structure Dialect where
  constants : Bool
  maxDigits : Option Nat
  maxDepth : Option Nat
  deriving DecidableEq, Repr

def isBlank (c : Char) : Bool := c == ' ' || c == '\t' || c == '\n' || c == '\r'

def skip (text : List Char) : List Char := text.dropWhile isBlank

/-! ## Numbers -/

/-- The value of a run of ASCII digits. -/
def decimal (digits : List Char) : Nat :=
  digits.foldl (fun n c => 10 * n + (c.toNat - '0'.toNat)) 0

/-- The digits before the point: a zero, or digits that begin with another. -/
def wholePart : List Char -> Option (List Char × List Char)
  | [] => none
  | c :: rest =>
    if c = '0' then some (['0'], rest)
    else if c.isDigit then some ((c :: rest).span Char.isDigit)
    else none

/-- A point and digits; without digits the point is not part of the number. -/
def fractionPart : List Char -> List Char × List Char
  | '.' :: rest =>
    let (digits, after) := rest.span Char.isDigit
    if digits = [] then ([], '.' :: rest) else (digits, after)
  | text => ([], text)

def signPart : List Char -> Bool × List Char
  | '-' :: rest => (true, rest)
  | '+' :: rest => (false, rest)
  | text => (false, text)

/-- An `e`, a sign and digits; without digits the `e` is not part of the number. -/
def exponentPart : List Char -> Option Int × List Char
  | [] => (none, [])
  | e :: rest =>
    if e = 'e' ∨ e = 'E' then
      let (negative, unsigned) := signPart rest
      let (digits, after) := unsigned.span Char.isDigit
      if digits = [] then (none, e :: rest)
      else (some (if negative then -(decimal digits : Int) else decimal digits), after)
    else (none, e :: rest)

/-- A number after its minus sign. -/
def readUnsigned (dialect : Dialect) (negative : Bool) (text : List Char) :
    Except Fault (Json × List Char) :=
  match wholePart text with
  | none => .error .malformed
  | some (whole, afterWhole) =>
    let (fraction, afterFraction) := fractionPart afterWhole
    let (exponent, rest) := exponentPart afterFraction
    let isWhole := fraction.isEmpty && exponent.isNone
    let size : Int := decimal (whole ++ fraction)
    if isWhole && dialect.maxDigits.any (fun limit => limit < whole.length) then
      .error .tooManyDigits
    else
      .ok (.number ⟨if negative then -size else size, exponent.getD 0 - fraction.length, isWhole⟩,
        rest)

/-! ## Strings -/

def hexDigit (c : Char) : Option Nat :=
  if c.isDigit then some (c.toNat - '0'.toNat)
  else if 'a' ≤ c ∧ c ≤ 'f' then some (c.toNat - 'a'.toNat + 10)
  else if 'A' ≤ c ∧ c ≤ 'F' then some (c.toNat - 'A'.toNat + 10)
  else none

def hexDigits (digits : List Char) : Option Nat :=
  digits.foldlM (fun n c => (hexDigit c).map (fun d => 16 * n + d)) 0

/-- The escapes of one letter. -/
def escape : Char -> Option Nat
  | '"' => some '"'.toNat
  | '\\' => some '\\'.toNat
  | '/' => some '/'.toNat
  | 'b' => some 8
  | 'f' => some 12
  | 'n' => some 10
  | 'r' => some 13
  | 't' => some 9
  | _ => none

/-- The rest of a string after its opening quote, with one entry for each
escape. -/
def readUnits : List Char -> Option (List Nat × List Char)
  | [] => none
  | '"' :: rest => some ([], rest)
  | '\\' :: 'u' :: a :: b :: c :: d :: rest =>
    match hexDigits [a, b, c, d], readUnits rest with
    | some unit, some (units, after) => some (unit :: units, after)
    | _, _ => none
  | '\\' :: c :: rest =>
    match escape c, readUnits rest with
    | some unit, some (units, after) => some (unit :: units, after)
    | _, _ => none
  | c :: rest =>
    if c.toNat < 32 then none
    else (readUnits rest).map (fun r => (c.toNat :: r.1, r.2))

def isHigh (unit : Nat) : Bool := decide (0xD800 ≤ unit) && decide (unit < 0xDC00)

def isLow (unit : Nat) : Bool := decide (0xDC00 ≤ unit) && decide (unit < 0xE000)

/-- Two escapes that make a pair are one code point. -/
def joinPairs : List Nat -> CodePoints
  | [] => []
  | [unit] => [unit]
  | high :: low :: rest =>
    if isHigh high && isLow low then
      (0x10000 + (high - 0xD800) * 0x400 + (low - 0xDC00)) :: joinPairs rest
    else high :: joinPairs (low :: rest)

def readString (text : List Char) : Option (CodePoints × List Char) :=
  (readUnits text).map (fun r => (joinPairs r.1, r.2))

/-! ## Values -/

/-- A word that must stand at the beginning of the text. -/
def expect (word : List Char) (value : Json) (text : List Char) :
    Except Fault (Json × List Char) :=
  if word.isPrefixOf text then .ok (value, text.drop word.length) else .error .malformed

/-- A value that is neither a string nor nested. -/
def readScalar (dialect : Dialect) (text : List Char) : Except Fault (Json × List Char) :=
  match text with
  | 'n' :: _ => expect "null".toList .null text
  | 't' :: _ => expect "true".toList (.bool true) text
  | 'f' :: _ => expect "false".toList (.bool false) text
  | 'N' :: _ =>
    if dialect.constants then expect "NaN".toList (.constant .nan) text else .error .malformed
  | 'I' :: _ =>
    if dialect.constants then expect "Infinity".toList (.constant .infinity) text
    else .error .malformed
  | '-' :: rest =>
    if dialect.constants && "Infinity".toList.isPrefixOf rest then
      expect "-Infinity".toList (.constant .negativeInfinity) text
    else readUnsigned dialect true rest
  | _ => readUnsigned dialect false text

mutual

/-- A value, with the levels of nesting around it. -/
def readValue (dialect : Dialect) : Nat -> Nat -> List Char -> Except Fault (Json × List Char)
  | 0, _, _ => .error .fuel
  | fuel + 1, depth, text =>
    match text with
    | '"' :: rest =>
      match readString rest with
      | some (value, after) => .ok (.string value, after)
      | none => .error .malformed
    | '[' :: rest =>
      if dialect.maxDepth.any (fun limit => limit ≤ depth) then .error .tooDeep
      else
        match skip rest with
        | ']' :: after => .ok (.array [], after)
        | _ => (readItems dialect fuel (depth + 1) rest).map (fun r => (.array r.1, r.2))
    | '\x7b' :: rest =>
      if dialect.maxDepth.any (fun limit => limit ≤ depth) then .error .tooDeep
      else
        match skip rest with
        | '\x7d' :: after => .ok (.object [], after)
        | _ => (readMembers dialect fuel (depth + 1) rest).map (fun r => (.object r.1, r.2))
    | _ => readScalar dialect text

/-- The items of an array up to its end; there is at least one. -/
def readItems (dialect : Dialect) :
    Nat -> Nat -> List Char -> Except Fault (List Json × List Char)
  | 0, _, _ => .error .fuel
  | fuel + 1, depth, text =>
    match readValue dialect fuel depth (skip text) with
    | .error fault => .error fault
    | .ok (item, after) =>
      match skip after with
      | ',' :: rest =>
        (readItems dialect fuel depth rest).map (fun r => (item :: r.1, r.2))
      | ']' :: rest => .ok ([item], rest)
      | _ => .error .malformed

/-- The members of an object up to its end; there is at least one. -/
def readMembers (dialect : Dialect) :
    Nat -> Nat -> List Char -> Except Fault (List (CodePoints × Json) × List Char)
  | 0, _, _ => .error .fuel
  | fuel + 1, depth, text =>
    match skip text with
    | '"' :: quoted =>
      match readString quoted with
      | none => .error .malformed
      | some (name, afterName) =>
        match skip afterName with
        | ':' :: afterColon =>
          match readValue dialect fuel depth (skip afterColon) with
          | .error fault => .error fault
          | .ok (value, after) =>
            match skip after with
            | ',' :: rest =>
              (readMembers dialect fuel depth rest).map (fun r => ((name, value) :: r.1, r.2))
            | '\x7d' :: rest => .ok ([(name, value)], rest)
            | _ => .error .malformed
        | _ => .error .malformed
    | _ => .error .malformed

end

/-- A whole text. -/
def parse (dialect : Dialect) (text : List Char) : Except Fault Json :=
  match readValue dialect (2 * text.length + 2) 0 (skip text) with
  | .error fault => .error fault
  | .ok (value, after) => if skip after = [] then .ok value else .error .malformed

/-- The value at the beginning of a text, and what is left after it. -/
def rawDecode (dialect : Dialect) (text : List Char) : Except Fault (Json × List Char) :=
  readValue dialect (2 * text.length + 2) 0 text

/-! ## What is left of a text -/

/-- The rest of a text after at least one character. -/
def IsRest (rest text : List Char) : Prop := exists c, c :: rest <:+ text

namespace IsRest

variable {rest text : List Char}

theorem suffix (isRest : IsRest rest text) : rest <:+ text :=
  isRest.elim (fun c whole => (List.suffix_cons c rest).trans whole)

theorem length_lt (isRest : IsRest rest text) : rest.length < text.length :=
  isRest.elim (fun _ whole => whole.length_le)

theorem widen {longer : List Char} (isRest : IsRest rest text) (whole : text <:+ longer) :
    IsRest rest longer :=
  isRest.elim (fun c inside => ⟨c, inside.trans whole⟩)

theorem cons {c : Char} (whole : rest <:+ text) : IsRest rest (c :: text) := by
  rcases whole with ⟨before, split⟩
  rcases List.eq_nil_or_concat before with empty | ⟨front, last, split'⟩
  · subst empty
    have same : rest = text := split
    subst same
    exact ⟨c, List.suffix_rfl⟩
  · refine ⟨last, c :: front, ?_⟩
    rw [← split, split']
    simp

theorem narrow {shorter : List Char} (isRest : IsRest rest text) (part : shorter <:+ rest) :
    IsRest shorter text :=
  isRest.elim (fun c whole => (cons (c := c) part).widen whole)

end IsRest

/-- A part of the text has been read; or the fuel has run out, but only if it
was short. -/
def Advances {α : Type} (text : List Char) (short : Prop) : Except Fault (α × List Char) -> Prop
  | .ok read => IsRest read.2 text
  | .error fault => fault = .fuel -> short

namespace Advances

variable {α β : Type} {text : List Char} {short : Prop}

theorem weaken {longer : List Char} {shorter : Prop} {result : Except Fault (α × List Char)}
    (advances : Advances text short result) (whole : text <:+ longer)
    (implies : short -> shorter) : Advances longer shorter result := by
  cases result with
  | ok read => exact IsRest.widen advances whole
  | error fault => exact fun starved => implies (advances starved)

theorem map {result : Except Fault (α × List Char)} (advances : Advances text short result)
    (value : α -> β) : Advances text short (result.map (fun r => (value r.1, r.2))) := by
  cases result with
  | ok read => exact advances
  | error fault => exact advances

theorem of_fault {fault : Fault} (known : fault ≠ .fuel) :
    Advances text short (.error fault : Except Fault (α × List Char)) :=
  fun starved => absurd starved known

end Advances

theorem skip_suffix (text : List Char) : skip text <:+ text := List.dropWhile_suffix isBlank

theorem span_suffix (kind : Char -> Bool) (text : List Char) : (text.span kind).2 <:+ text := by
  rw [List.span_eq_takeWhile_dropWhile]
  exact List.dropWhile_suffix kind

theorem isRest_of_wholePart {text rest whole : List Char}
    (read : wholePart text = some (whole, rest)) : IsRest rest text := by
  cases text with
  | nil => cases read
  | cons c after =>
      simp only [wholePart] at read
      by_cases zero : c = '0'
      · rw [if_pos zero] at read
        cases read
        exact IsRest.cons List.suffix_rfl
      · rw [if_neg zero] at read
        by_cases digit : c.isDigit = true
        · rw [if_pos digit, List.span_eq_takeWhile_dropWhile, List.dropWhile_cons_of_pos digit] at read
          cases read
          exact IsRest.cons (List.dropWhile_suffix Char.isDigit)
        · rw [if_neg digit] at read
          cases read

theorem fractionPart_suffix (text : List Char) : (fractionPart text).2 <:+ text := by
  unfold fractionPart
  split
  · rename_i rest
    have inside := span_suffix Char.isDigit rest
    split
    rename_i digits after spanned
    rw [spanned] at inside
    split
    · exact List.suffix_rfl
    · exact inside.trans (List.suffix_cons _ _)
  · exact List.suffix_rfl

theorem signPart_suffix (text : List Char) : (signPart text).2 <:+ text := by
  unfold signPart
  split
  · exact List.suffix_cons _ _
  · exact List.suffix_cons _ _
  · exact List.suffix_rfl

theorem exponentPart_suffix (text : List Char) : (exponentPart text).2 <:+ text := by
  cases text with
  | nil => exact List.suffix_rfl
  | cons e rest =>
      unfold exponentPart
      by_cases letter : e = 'e' ∨ e = 'E'
      · have inside := (span_suffix Char.isDigit (signPart rest).2).trans (signPart_suffix rest)
        simp only [letter, if_true]
        split
        · exact List.suffix_rfl
        · exact inside.trans (List.suffix_cons _ _)
      · simp [letter]

theorem readUnsigned_advances (dialect : Dialect) (negative : Bool) (text : List Char)
    (short : Prop) : Advances text short (readUnsigned dialect negative text) := by
  unfold readUnsigned
  cases read : wholePart text with
  | none => exact Advances.of_fault (by decide)
  | some parts =>
      rcases parts with ⟨whole, afterWhole⟩
      dsimp only
      split
      · exact Advances.of_fault (by decide)
      · exact (isRest_of_wholePart read).narrow
          ((exponentPart_suffix _).trans (fractionPart_suffix afterWhole))

theorem isRest_of_readUnits {text : List Char} :
    forall {units : List Nat} {rest : List Char}, readUnits text = some (units, rest) ->
      IsRest rest text := by
  fun_induction readUnits text with
  | case1 => intro units rest read; cases read
  | case2 after =>
      intro units rest read
      cases read
      exact IsRest.cons List.suffix_rfl
  | case3 a b c d after unit units' rest' inner hex ih =>
      intro units rest read
      cases read
      exact (ih inner).widen ⟨['\\', 'u', a, b, c, d], rfl⟩
  | case4 => intro units rest read; cases read
  | case5 c after other unit units' rest' inner letter ih =>
      intro units rest read
      cases read
      exact (ih inner).widen ⟨['\\', c], rfl⟩
  | case6 => intro units rest read; cases read
  | case7 => intro units rest read; cases read
  | case8 c after _ _ _ _ ih =>
      intro units rest read
      cases inner : readUnits after with
      | none =>
          rw [inner] at read
          cases read
      | some found =>
          rw [inner] at read
          cases read
          exact (ih inner).widen (List.suffix_cons c after)

theorem exists_of_readString {text rest : List Char} {value : CodePoints}
    (read : readString text = some (value, rest)) :
    exists units, readUnits text = some (units, rest) ∧ value = joinPairs units := by
  unfold readString at read
  rw [Option.map_eq_some_iff] at read
  rcases read with ⟨found, inner, same⟩
  cases same
  exact ⟨found.1, inner, rfl⟩

theorem isRest_of_readString {text rest : List Char} {value : CodePoints}
    (read : readString text = some (value, rest)) : IsRest rest text := by
  rcases exists_of_readString read with ⟨units, inner, -⟩
  exact isRest_of_readUnits inner

theorem expect_advances {c : Char} (word : List Char) (value : Json) {text : List Char}
    (short : Prop) : Advances text short (expect (c :: word) value text) := by
  unfold expect
  split
  · rename_i here
    rcases List.isPrefixOf_iff_prefix.mp here with ⟨after, split⟩
    show IsRest (text.drop (c :: word).length) text
    rw [← split, List.drop_left]
    exact IsRest.cons (List.suffix_append word after)
  · exact Advances.of_fault (by decide)

theorem readScalar_advances (dialect : Dialect) (text : List Char) (short : Prop) :
    Advances text short (readScalar dialect text) := by
  unfold readScalar
  split
  · exact expect_advances _ _ short
  · exact expect_advances _ _ short
  · exact expect_advances _ _ short
  · split
    · exact expect_advances _ _ short
    · exact Advances.of_fault (by decide)
  · split
    · exact expect_advances _ _ short
    · exact Advances.of_fault (by decide)
  · split
    · exact expect_advances _ _ short
    · exact (readUnsigned_advances dialect true _ short).weaken (List.suffix_cons _ _) id
  · exact readUnsigned_advances dialect false text short

/-- With this fuel each of the three readers reads something, or has a fault;
the fault is the fuel only when there was less than twice the length of the
text. -/
structure ReadersAdvance (dialect : Dialect) (fuel : Nat) : Prop where
  value : forall depth text,
    Advances text (fuel ≤ 2 * text.length) (readValue dialect fuel depth text)
  items : forall depth text,
    Advances text (fuel ≤ 2 * text.length + 1) (readItems dialect fuel depth text)
  members : forall depth text,
    Advances text (fuel ≤ 2 * text.length + 1) (readMembers dialect fuel depth text)

namespace ReadersAdvance

variable {dialect : Dialect} {fuel : Nat}

theorem readValue (readers : ReadersAdvance dialect fuel) (depth : Nat) (text : List Char) :
    Advances text (fuel + 1 ≤ 2 * text.length)
      (JsonText.readValue dialect (fuel + 1) depth text) := by
  have room : forall (c : Char) (rest : List Char), fuel ≤ 2 * rest.length + 1 ->
      fuel + 1 ≤ 2 * (c :: rest).length := by
    intro c rest
    rw [List.length_cons]
    omega
  unfold JsonText.readValue
  split
  · rename_i rest
    cases read : readString rest with
    | none => exact Advances.of_fault (by decide)
    | some found => exact (isRest_of_readString read).widen (List.suffix_cons _ _)
  · rename_i rest
    split
    · exact Advances.of_fault (by decide)
    · split
      · rename_i after closed
        have inside := skip_suffix rest
        rw [closed] at inside
        exact IsRest.cons ((List.suffix_cons _ _).trans inside)
      · exact ((readers.items (depth + 1) rest).map Json.array).weaken (List.suffix_cons _ _)
          (room _ rest)
  · rename_i rest
    split
    · exact Advances.of_fault (by decide)
    · split
      · rename_i after closed
        have inside := skip_suffix rest
        rw [closed] at inside
        exact IsRest.cons ((List.suffix_cons _ _).trans inside)
      · exact ((readers.members (depth + 1) rest).map Json.object).weaken (List.suffix_cons _ _)
          (room _ rest)
  · exact readScalar_advances dialect text _

theorem readItems (readers : ReadersAdvance dialect fuel) (depth : Nat) (text : List Char) :
    Advances text (fuel + 1 ≤ 2 * text.length + 1)
      (JsonText.readItems dialect (fuel + 1) depth text) := by
  unfold JsonText.readItems
  have read := readers.value depth (skip text)
  have blanks := skip_suffix text
  have shorter := blanks.length_le
  split
  · rename_i fault result
    rw [result] at read
    intro starved
    have short := read starved
    omega
  · rename_i item after result
    rw [result] at read
    have left := (IsRest.widen read blanks).narrow (skip_suffix after)
    split
    · rename_i rest separated
      rw [separated] at left
      have fewer := left.length_lt
      rw [List.length_cons] at fewer
      apply ((readers.items depth rest).map _).weaken ((List.suffix_cons _ _).trans left.suffix)
      omega
    · rename_i rest closed
      rw [closed] at left
      exact left.narrow (List.suffix_cons _ _)
    · exact Advances.of_fault (by decide)

theorem readMembers (readers : ReadersAdvance dialect fuel) (depth : Nat) (text : List Char) :
    Advances text (fuel + 1 ≤ 2 * text.length + 1)
      (JsonText.readMembers dialect (fuel + 1) depth text) := by
  unfold JsonText.readMembers
  have blanks := skip_suffix text
  split
  · rename_i quoted opened
    rw [opened] at blanks
    split
    · exact Advances.of_fault (by decide)
    · rename_i name afterName named
      have inside := (isRest_of_readString named).widen ((List.suffix_cons _ _).trans blanks)
      have beforeColon := inside.narrow (skip_suffix afterName)
      split
      · rename_i afterColon coloned
        rw [coloned] at beforeColon
        have read := readers.value depth (skip afterColon)
        have beforeValue := (beforeColon.narrow (List.suffix_cons _ _)).narrow
          (skip_suffix afterColon)
        have shorter := beforeValue.length_lt
        split
        · rename_i fault result
          rw [result] at read
          intro starved
          have short := read starved
          omega
        · rename_i item after result
          rw [result] at read
          have left := (IsRest.widen read beforeValue.suffix).narrow (skip_suffix after)
          split
          · rename_i rest separated
            rw [separated] at left
            have fewer := left.length_lt
            rw [List.length_cons] at fewer
            refine ((readers.members depth rest).map _).weaken
              ((List.suffix_cons _ _).trans left.suffix) ?_
            omega
          · rename_i rest closed
            rw [closed] at left
            exact left.narrow (List.suffix_cons _ _)
          · exact Advances.of_fault (by decide)
      · exact Advances.of_fault (by decide)
  · exact Advances.of_fault (by decide)

end ReadersAdvance

/-- By induction on the fuel. -/
theorem readers_advance (dialect : Dialect) (fuel : Nat) : ReadersAdvance dialect fuel := by
  induction fuel with
  | zero =>
      refine ⟨?_, ?_, ?_⟩
      · exact fun depth text starved => Nat.zero_le _
      · exact fun depth text starved => Nat.zero_le _
      · exact fun depth text starved => Nat.zero_le _
  | succ fuel ih => exact ⟨ih.readValue, ih.readItems, ih.readMembers⟩

/-- The reader never runs out of fuel. -/
theorem parse_ne_fuel (dialect : Dialect) (text : List Char) :
    parse dialect text ≠ .error .fuel := by
  have read := (readers_advance dialect (2 * text.length + 2)).value 0 (skip text)
  have blanks := (skip_suffix text).length_le
  unfold parse
  split
  · rename_i fault result
    rw [result] at read
    intro starved
    cases starved
    have short := read rfl
    omega
  · split
    · intro starved
      cases starved
    · intro starved
      cases starved

theorem rawDecode_ne_fuel (dialect : Dialect) (text : List Char) :
    rawDecode dialect text ≠ .error .fuel := by
  have read := (readers_advance dialect (2 * text.length + 2)).value 0 text
  intro starved
  unfold rawDecode at starved
  rw [starved] at read
  have short := read rfl
  omega

/-! ## Strings of a text without escapes

They stand in the text as they are read.
-/

/-- A string somewhere in a value, or the name of a member. -/
inductive Contains (s : CodePoints) : Json -> Prop
  | string : Contains s (.string s)
  | item {items : List Json} {value : Json} (listed : value ∈ items)
      (inside : Contains s value) : Contains s (.array items)
  | member {members : List (CodePoints × Json)} {name : CodePoints} {value : Json}
      (listed : (name, value) ∈ members) (inside : Contains s value) :
      Contains s (.object members)
  | name {members : List (CodePoints × Json)} {value : Json} (listed : (s, value) ∈ members) :
      Contains s (.object members)

/-- The text has the string in it, without control characters. -/
def StandsIn (s : CodePoints) (text : List Char) : Prop :=
  exists chars, chars <:+: text ∧ s = chars.map Char.toNat ∧ forall c, c ∈ chars -> 32 ≤ c.toNat

theorem StandsIn.widen {s : CodePoints} {text longer : List Char} (stands : StandsIn s text)
    (whole : text <:+ longer) : StandsIn s longer := by
  rcases stands with ⟨chars, inside, same, printable⟩
  exact ⟨chars, inside.trans whole.isInfix, same, printable⟩

theorem mem_of_field {members : List (CodePoints × Json)} {name : String} {value : Json}
    (known : field members name = some value) : (codePoints name, value) ∈ members := by
  unfold field at known
  rw [Option.map_eq_some_iff] at known
  rcases known with ⟨⟨other, found⟩, here, same⟩
  have named := List.find?_some here
  have listed := List.mem_reverse.mp (List.mem_of_find?_eq_some here)
  rw [beq_iff_eq] at named
  subst same
  rwa [← named]

theorem joinPairs_of_not_high {units : List Nat} :
    (forall unit, unit ∈ units -> isHigh unit = false) -> joinPairs units = units := by
  fun_induction joinPairs units with
  | case1 => exact fun _ => rfl
  | case2 unit => exact fun _ => rfl
  | case3 high low rest pair ih =>
      intro single
      rw [single high List.mem_cons_self, Bool.false_and] at pair
      cases pair
  | case4 high low rest pair ih =>
      intro single
      rw [ih (fun unit here => single unit (List.mem_cons_of_mem high here))]

/-- A character is not half of a surrogate pair. -/
theorem isHigh_toNat (c : Char) : isHigh c.toNat = false := by
  have valid := c.valid
  have same : c.toNat = c.val.toNat := rfl
  simp only [isHigh, Bool.and_eq_false_iff, decide_eq_false_iff_not]
  rcases valid with low | high
  · have below : c.val.toNat < 0xd800 := low
    omega
  · have above : 0xdfff < c.val.toNat := high.1
    omega

theorem readUnits_plain {text : List Char} :
    '\\' ∉ text -> forall {units : List Nat} {rest : List Char},
      readUnits text = some (units, rest) -> exists chars, text = chars ++ '"' :: rest ∧
        units = chars.map Char.toNat ∧ forall c, c ∈ chars -> 32 ≤ c.toNat := by
  fun_induction readUnits text with
  | case1 => intro _ units rest read; cases read
  | case2 after =>
      intro _ units rest read
      cases read
      exact ⟨[], rfl, rfl, fun c here => (nomatch here)⟩
  | case3 => intro plain; exact absurd List.mem_cons_self plain
  | case4 => intro plain; exact absurd List.mem_cons_self plain
  | case5 => intro plain; exact absurd List.mem_cons_self plain
  | case6 => intro plain; exact absurd List.mem_cons_self plain
  | case7 => intro _ units rest read; cases read
  | case8 c after _ _ _ control ih =>
      intro plain units rest read
      rw [Option.map_eq_some_iff] at read
      rcases read with ⟨found, inner, same⟩
      cases same
      obtain ⟨chars, split, units, printable⟩ :=
        ih (fun here => plain (List.mem_cons_of_mem c here)) inner
      refine ⟨c :: chars, by rw [split, List.cons_append], by rw [units, List.map_cons], ?_⟩
      intro d here
      rcases List.mem_cons.mp here with rfl | later
      · exact Nat.not_lt.mp control
      · exact printable d later

theorem standsIn_of_readString {text rest : List Char} {value : CodePoints}
    (plain : '\\' ∉ text) (read : readString text = some (value, rest)) :
    StandsIn value text := by
  rcases exists_of_readString read with ⟨units, inner, same⟩
  rcases readUnits_plain plain inner with ⟨chars, split, codes, printable⟩
  refine ⟨chars, ?_, ?_, printable⟩
  · rw [split]
    exact (List.prefix_append chars _).isInfix
  · have single : forall unit, unit ∈ units -> isHigh unit = false := by
      intro unit here
      rw [codes] at here
      rcases List.mem_map.mp here with ⟨c, -, rfl⟩
      exact isHigh_toNat c
    rw [same, joinPairs_of_not_high single, codes]

theorem not_contains_scalar {dialect : Dialect} {text rest : List Char} {value : Json}
    {s : CodePoints} (read : readScalar dialect text = .ok (value, rest)) :
    ¬ Contains s value := by
  have word : forall (name : List Char) (constant : Json), (¬ Contains s constant) ->
      expect name constant text = .ok (value, rest) -> ¬ Contains s value := by
    intro name constant free known
    unfold expect at known
    split at known
    · cases known
      exact free
    · cases known
  have number : forall (negative : Bool) (body : List Char),
      readUnsigned dialect negative body = .ok (value, rest) -> ¬ Contains s value := by
    intro negative body known
    unfold readUnsigned at known
    split at known
    · cases known
    · dsimp only at known
      split at known
      · cases known
      · cases known
        exact nofun
  unfold readScalar at read
  split at read
  · exact word _ _ (by nofun) read
  · exact word _ _ (by nofun) read
  · exact word _ _ (by nofun) read
  · split at read
    · exact word _ _ (by nofun) read
    · cases read
  · split at read
    · exact word _ _ (by nofun) read
    · cases read
  · split at read
    · exact word _ _ (by nofun) read
    · exact number true _ read
  · exact number false text read

/-! ### What a reader has read -/

/-- A value is a string, an array, an object or a scalar. -/
theorem readValue_cases {dialect : Dialect} {fuel depth : Nat} {text rest : List Char}
    {value : Json} (read : readValue dialect (fuel + 1) depth text = .ok (value, rest)) :
    (exists quoted name, text = '"' :: quoted ∧ readString quoted = some (name, rest) ∧
      value = .string name) ∨
    (exists body items, text = '[' :: body ∧ value = .array items ∧
      ((skip body = ']' :: rest ∧ items = []) ∨
        readItems dialect fuel (depth + 1) body = .ok (items, rest))) ∨
    (exists body members, text = '\x7b' :: body ∧ value = .object members ∧
      ((skip body = '\x7d' :: rest ∧ members = []) ∨
        readMembers dialect fuel (depth + 1) body = .ok (members, rest))) ∨
    readScalar dialect text = .ok (value, rest) := by
  unfold readValue at read
  split at read
  · rename_i quoted
    cases named : readString quoted with
    | none =>
        simp only [named] at read
        cases read
    | some found =>
        simp only [named] at read
        cases read
        exact Or.inl ⟨quoted, found.1, rfl, named, rfl⟩
  · rename_i body
    split at read
    · cases read
    · split at read
      · rename_i closed
        cases read
        exact Or.inr (Or.inl ⟨body, [], rfl, rfl, Or.inl ⟨closed, rfl⟩⟩)
      · cases inner : readItems dialect fuel (depth + 1) body with
        | error fault =>
            rw [inner] at read
            cases read
        | ok found =>
            rw [inner] at read
            cases read
            exact Or.inr (Or.inl ⟨body, found.1, rfl, rfl, Or.inr inner⟩)
  · rename_i body
    split at read
    · cases read
    · split at read
      · rename_i closed
        cases read
        exact Or.inr (Or.inr (Or.inl ⟨body, [], rfl, rfl, Or.inl ⟨closed, rfl⟩⟩))
      · cases inner : readMembers dialect fuel (depth + 1) body with
        | error fault =>
            rw [inner] at read
            cases read
        | ok found =>
            rw [inner] at read
            cases read
            exact Or.inr (Or.inr (Or.inl ⟨body, found.1, rfl, rfl, Or.inr inner⟩))
  · exact Or.inr (Or.inr (Or.inr read))

/-- The items are a value, and after a comma further items. -/
theorem readItems_cases {dialect : Dialect} {fuel depth : Nat} {text rest : List Char}
    {items : List Json} (read : readItems dialect (fuel + 1) depth text = .ok (items, rest)) :
    exists item after, readValue dialect fuel depth (skip text) = .ok (item, after) ∧
      ((exists later others, skip after = ',' :: later ∧
          readItems dialect fuel depth later = .ok (others, rest) ∧ items = item :: others) ∨
        (skip after = ']' :: rest ∧ items = [item])) := by
  unfold readItems at read
  cases first : readValue dialect fuel depth (skip text) with
  | error fault =>
      simp only [first] at read
      cases read
  | ok found =>
      simp only [first] at read
      refine ⟨found.1, found.2, rfl, ?_⟩
      split at read
      · rename_i later separated
        cases inner : readItems dialect fuel depth later with
        | error fault =>
            rw [inner] at read
            cases read
        | ok others =>
            rw [inner] at read
            cases read
            exact Or.inl ⟨later, others.1, separated, inner, rfl⟩
      · rename_i closed
        cases read
        exact Or.inr ⟨closed, rfl⟩
      · cases read

/-- The members are a name, a colon and a value, and after a comma further
members. -/
theorem readMembers_cases {dialect : Dialect} {fuel depth : Nat} {text rest : List Char}
    {members : List (CodePoints × Json)}
    (read : readMembers dialect (fuel + 1) depth text = .ok (members, rest)) :
    exists quoted name afterName afterColon value after,
      skip text = '"' :: quoted ∧ readString quoted = some (name, afterName) ∧
      skip afterName = ':' :: afterColon ∧
      readValue dialect fuel depth (skip afterColon) = .ok (value, after) ∧
      ((exists later others, skip after = ',' :: later ∧
          readMembers dialect fuel depth later = .ok (others, rest) ∧
          members = (name, value) :: others) ∨
        (skip after = '\x7d' :: rest ∧ members = [(name, value)])) := by
  unfold readMembers at read
  split at read
  · rename_i quoted opened
    cases named : readString quoted with
    | none =>
        simp only [named] at read
        cases read
    | some name =>
        simp only [named] at read
        split at read
        · rename_i afterColon coloned
          cases first : readValue dialect fuel depth (skip afterColon) with
          | error fault =>
              simp only [first] at read
              cases read
          | ok found =>
              simp only [first] at read
              refine ⟨quoted, name.1, name.2, afterColon, found.1, found.2, opened, named, coloned,
                first, ?_⟩
              split at read
              · rename_i later separated
                cases inner : readMembers dialect fuel depth later with
                | error fault =>
                    rw [inner] at read
                    cases read
                | ok others =>
                    rw [inner] at read
                    cases read
                    exact Or.inl ⟨later, others.1, separated, inner, rfl⟩
              · rename_i closed
                cases read
                exact Or.inr ⟨closed, rfl⟩
              · cases read
        · cases read
  · cases read

/-- What a value has left of its text. -/
theorem isRest_of_readValue {dialect : Dialect} {fuel depth : Nat} {text rest : List Char}
    {value : Json} (read : readValue dialect fuel depth text = .ok (value, rest)) :
    IsRest rest text := by
  have advances := (readers_advance dialect fuel).value depth text
  rwa [read] at advances

/-! ### What stands in the text -/

theorem not_mem_of_suffix {c : Char} {part text : List Char} (plain : c ∉ text)
    (inside : part <:+ text) : c ∉ part := fun here => plain (inside.mem here)

/-- With this fuel, what the three readers read from a text without escapes
stands in it. -/
structure ReadersPlain (dialect : Dialect) (fuel : Nat) : Prop where
  value : forall {depth text value rest s}, '\\' ∉ text ->
    readValue dialect fuel depth text = .ok (value, rest) -> Contains s value -> StandsIn s text
  items : forall {depth text items rest s value}, '\\' ∉ text ->
    readItems dialect fuel depth text = .ok (items, rest) ->
      value ∈ items -> Contains s value -> StandsIn s text
  members : forall {depth text members rest s} {m : CodePoints × Json}, '\\' ∉ text ->
    readMembers dialect fuel depth text = .ok (members, rest) ->
      m ∈ members -> s = m.1 ∨ Contains s m.2 -> StandsIn s text

namespace ReadersPlain

variable {dialect : Dialect} {fuel depth : Nat} {text rest : List Char} {s : CodePoints}

theorem readValue (readers : ReadersPlain dialect fuel) {value : Json} (plain : '\\' ∉ text)
    (read : JsonText.readValue dialect (fuel + 1) depth text = .ok (value, rest))
    (inside : Contains s value) : StandsIn s text := by
  rcases readValue_cases read with ⟨quoted, name, rfl, named, rfl⟩ |
    ⟨body, items, rfl, rfl, ⟨-, rfl⟩ | inner⟩ | ⟨body, members, rfl, rfl, ⟨-, rfl⟩ | inner⟩ | scalar
  · have part := List.suffix_cons '"' quoted
    cases inside
    exact (standsIn_of_readString (not_mem_of_suffix plain part) named).widen part
  · cases inside with
    | item listed _ => cases listed
  · have part := List.suffix_cons '[' body
    cases inside with
    | item listed inside =>
        exact (readers.items (not_mem_of_suffix plain part) inner listed inside).widen part
  · cases inside with
    | member listed _ => cases listed
    | name listed => cases listed
  · have part := List.suffix_cons '\x7b' body
    cases inside with
    | member listed inside =>
        exact (readers.members (not_mem_of_suffix plain part) inner listed (Or.inr inside)).widen part
    | name listed =>
        exact (readers.members (not_mem_of_suffix plain part) inner listed (Or.inl rfl)).widen part
  · exact absurd inside (not_contains_scalar scalar)

theorem readItems (readers : ReadersPlain dialect fuel) {items : List Json} {value : Json}
    (plain : '\\' ∉ text)
    (read : JsonText.readItems dialect (fuel + 1) depth text = .ok (items, rest))
    (listed : value ∈ items) (inside : Contains s value) : StandsIn s text := by
  rcases readItems_cases read with ⟨item, after, first, later⟩
  have blanks := skip_suffix text
  have head : Contains s item -> StandsIn s text := fun here =>
    (readers.value (not_mem_of_suffix plain blanks) first here).widen blanks
  have left := ((isRest_of_readValue first).widen blanks).narrow (skip_suffix after)
  rcases later with ⟨later, others, separated, inner, rfl⟩ | ⟨-, rfl⟩
  · rw [separated] at left
    have part := (List.suffix_cons _ _).trans left.suffix
    rcases List.mem_cons.mp listed with rfl | tail
    · exact head inside
    · exact (readers.items (not_mem_of_suffix plain part) inner tail inside).widen part
  · rw [List.mem_singleton.mp listed] at inside
    exact head inside

theorem readMembers (readers : ReadersPlain dialect fuel) {members : List (CodePoints × Json)}
    {m : CodePoints × Json} (plain : '\\' ∉ text)
    (read : JsonText.readMembers dialect (fuel + 1) depth text = .ok (members, rest))
    (listed : m ∈ members) (inside : s = m.1 ∨ Contains s m.2) : StandsIn s text := by
  obtain ⟨quoted, name, afterName, afterColon, value, after, opened, named, coloned, first,
    later⟩ := readMembers_cases read
  have quotes := skip_suffix text
  rw [opened] at quotes
  have beforeColon := ((isRest_of_readString named).widen
    ((List.suffix_cons _ _).trans quotes)).narrow (skip_suffix afterName)
  rw [coloned] at beforeColon
  have beforeValue := (beforeColon.narrow (List.suffix_cons _ _)).narrow (skip_suffix afterColon)
  have head : s = name ∨ Contains s value -> StandsIn s text := by
    rintro (rfl | here)
    · have part := (List.suffix_cons '"' quoted).trans quotes
      exact (standsIn_of_readString (not_mem_of_suffix plain part) named).widen part
    · exact (readers.value (not_mem_of_suffix plain beforeValue.suffix) first here).widen
        beforeValue.suffix
  have left := ((isRest_of_readValue first).widen beforeValue.suffix).narrow (skip_suffix after)
  rcases later with ⟨later, others, separated, inner, rfl⟩ | ⟨-, rfl⟩
  · rw [separated] at left
    have part := (List.suffix_cons _ _).trans left.suffix
    rcases List.mem_cons.mp listed with rfl | tail
    · exact head inside
    · exact (readers.members (not_mem_of_suffix plain part) inner tail inside).widen part
  · rw [List.mem_singleton.mp listed] at inside
    exact head inside

end ReadersPlain

/-- By induction on the fuel. -/
theorem readers_plain (dialect : Dialect) (fuel : Nat) : ReadersPlain dialect fuel := by
  induction fuel with
  | zero =>
      refine ⟨?_, ?_, ?_⟩
      · exact fun _ read => (nomatch read)
      · exact fun _ read => (nomatch read)
      · exact fun _ read => (nomatch read)
  | succ fuel ih => exact ⟨ih.readValue, ih.readItems, ih.readMembers⟩

/-- A string in the value of a text without escapes stands in the text. -/
theorem standsIn_of_parse {dialect : Dialect} {text : List Char} {value : Json} {s : CodePoints}
    (plain : '\\' ∉ text) (read : parse dialect text = .ok value) (inside : Contains s value) :
    StandsIn s text := by
  unfold parse at read
  cases first : readValue dialect (2 * text.length + 2) 0 (skip text) with
  | error fault =>
      simp only [first] at read
      cases read
  | ok found =>
      simp only [first] at read
      have part := skip_suffix text
      split at read
      · cases read
        exact ((readers_plain dialect _).value (not_mem_of_suffix plain part) first inside).widen
          part
      · cases read

end JsonText
