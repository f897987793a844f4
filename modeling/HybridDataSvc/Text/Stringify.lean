import HybridDataSvc.Text.Truncation

namespace JsonText

open NumberText

/-!
# `JSON.stringify(value, null, indent)`

A JavaScript string is a list of UTF-16 code units, which need not make code
points: half of a surrogate pair is written as an escape, all other code
points but the control characters as they are.  What is not defined is left
out of an object, and is `null` in an array.

A text that is written so is read back by any reader of the common grammar.
-/

/-- A finite number, by the decimal text that JavaScript shows it with. -/
structure JsNumber where
  negative : Bool
  whole : List Char
  fraction : List Char
  exponent : Option Int
  whole_isDigit : forall c, c ∈ whole -> c.isDigit = true
  whole_begins : whole = ['0'] ∨ exists c rest, whole = c :: rest ∧ c ≠ '0'
  whole_short : whole.length ≤ 21
  fraction_isDigit : forall c, c ∈ fraction -> c.isDigit = true

abbrev JsString := List UInt16

/-- What `JSON.stringify` can be given: a tree of plain data. -/
inductive JsValue
  | undefined
  | null
  | bool (value : Bool)
  | nonFinite
  | number (value : JsNumber)
  | string (text : JsString)
  | array (items : List JsValue)
  | object (members : List (JsString × JsValue))

/-- The code points of a string; half of a pair is one of its own. -/
def JsString.codePoints (text : JsString) : CodePoints := joinPairs (text.map UInt16.toNat)

/-- The code units of code points. -/
def JsString.ofCodePoints (text : CodePoints) : JsString := (text.flatMap utf16).map UInt16.ofNat

def JsString.ofText (text : String) : JsString := .ofCodePoints (JsonText.codePoints text)

/-- One code point of a string. -/
def quoteCode (c : Nat) : List Char :=
  if c = '"'.toNat then ['\\', '"']
  else if c = '\\'.toNat then ['\\', '\\']
  else if c = 8 then ['\\', 'b']
  else if c = 9 then ['\\', 't']
  else if c = 10 then ['\\', 'n']
  else if c = 12 then ['\\', 'f']
  else if c = 13 then ['\\', 'r']
  else if c < 32 ∨ isHigh c = true ∨ isLow c = true then unitEscape c
  else [Char.ofNat c]

/-- A string after its opening quote. -/
def JsString.quoteTail (text : JsString) : List Char := text.codePoints.flatMap quoteCode ++ ['"']

namespace JsNumber

def exponentText : Option Int -> List Char
  | none => []
  | some power => 'e' :: (if power < 0 then '-' else '+') :: Nat.toDigits 10 power.natAbs

def fractionText (fraction : List Char) : List Char :=
  if fraction = [] then [] else '.' :: fraction

/-- A number after its minus sign. -/
def unsignedText (n : JsNumber) : List Char :=
  n.whole ++ (fractionText n.fraction ++ exponentText n.exponent)

def text (n : JsNumber) : List Char :=
  if n.negative then '-' :: n.unsignedText else n.unsignedText

/-- The number that the text stands for. -/
def numeral (n : JsNumber) : Numeral :=
  ⟨if n.negative then -(decimal (n.whole ++ n.fraction) : Int) else decimal (n.whole ++ n.fraction),
    n.exponent.getD 0 - n.fraction.length, n.fraction.isEmpty && n.exponent.isNone⟩

/-- A whole number that is shown in full. -/
def ofNat (n : Nat) (small : n < 10 ^ 21) : JsNumber where
  negative := false
  whole := Nat.toDigits 10 n
  fraction := []
  exponent := none
  whole_isDigit := fun _ here => Nat.isDigit_of_mem_toDigits (by decide) (by decide) here
  whole_begins := by
    rcases Nat.eq_zero_or_pos n with rfl | positive
    · exact Or.inl rfl
    · rcases head_toDigits positive with ⟨c, rest, same, plain⟩
      exact Or.inr ⟨c, rest, same, plain⟩
  whole_short := (Nat.length_toDigits_le_iff (by decide) (by decide)).mpr small
  fraction_isDigit := List.forall_mem_nil _

theorem numeral_ofNat (n : Nat) (small : n < 10 ^ 21) : (ofNat n small).numeral = ⟨n, 0, true⟩ := by
  have value : decimal (Nat.toDigits 10 n) = n := Nat.ofDigitChars_ten_toDigits
  simp [numeral, ofNat, value]

end JsNumber

/-- A line break and the indentation of a level; none where nothing is indented. -/
def newline (indent level : Nat) : List Char :=
  if indent = 0 then [] else '\n' :: List.replicate (indent * level) ' '

/-- What stands after the colon of a member. -/
def gap (indent : Nat) : List Char := if indent = 0 then [] else [' ']

/-- The rest of a list of parts after the first. -/
def partsTail (indent level : Nat) (close : Char) : List (List Char) -> List Char
  | [] => newline indent level ++ [close]
  | part :: rest => ',' :: newline indent (level + 1) ++ (part ++ partsTail indent level close rest)

/-- Parts in brackets, one on each line. -/
def bracketed (indent level : Nat) (opening close : Char) : List (List Char) -> List Char
  | [] => [opening, close]
  | part :: rest => opening :: newline indent (level + 1) ++ (part ++ partsTail indent level close rest)

mutual

/-- The text of a value at a level; there is none for `undefined`. -/
def serialize (indent level : Nat) : JsValue -> Option (List Char)
  | .undefined => none
  | .null => some "null".toList
  | .bool true => some "true".toList
  | .bool false => some "false".toList
  | .nonFinite => some "null".toList
  | .number value => some value.text
  | .string text => some ('"' :: text.quoteTail)
  | .array items => some (bracketed indent level '[' ']' (serializeItems indent (level + 1) items))
  | .object members =>
    some (bracketed indent level '\x7b' '\x7d' (serializeMembers indent (level + 1) members))

def serializeItems (indent level : Nat) : List JsValue -> List (List Char)
  | [] => []
  | item :: rest => (serialize indent level item).getD "null".toList :: serializeItems indent level rest

def serializeMembers (indent level : Nat) : List (JsString × JsValue) -> List (List Char)
  | [] => []
  | (name, value) :: rest =>
    match serialize indent level value with
    | none => serializeMembers indent level rest
    | some text =>
      ('"' :: name.quoteTail ++ ':' :: (gap indent ++ text)) :: serializeMembers indent level rest

end

/-- `JSON.stringify(value, null, indent)`, for an indentation of at most ten. -/
def stringify (indent : Nat) (value : JsValue) : Option (List Char) := serialize indent 0 value

mutual

/-- A value as it is read back. -/
def JsValue.readBack : JsValue -> Option Json
  | .undefined => none
  | .null => some .null
  | .bool value => some (.bool value)
  | .nonFinite => some .null
  | .number value => some (.number value.numeral)
  | .string text => some (.string text.codePoints)
  | .array items => some (.array (readBackItems items))
  | .object members => some (.object (readBackMembers members))

def readBackItems : List JsValue -> List Json
  | [] => []
  | item :: rest => item.readBack.getD .null :: readBackItems rest

def readBackMembers : List (JsString × JsValue) -> List (CodePoints × Json)
  | [] => []
  | (name, value) :: rest =>
    match value.readBack with
    | none => readBackMembers rest
    | some known => (name.codePoints, known) :: readBackMembers rest

end

mutual

/-- The levels of nesting in a value. -/
def JsValue.height : JsValue -> Nat
  | .array items => heightItems items + 1
  | .object members => heightMembers members + 1
  | _ => 0

def heightItems : List JsValue -> Nat
  | [] => 0
  | item :: rest => max item.height (heightItems rest)

def heightMembers : List (JsString × JsValue) -> Nat
  | [] => 0
  | (_, value) :: rest => max value.height (heightMembers rest)

end

/-- The reader has digits and levels enough for whatever JavaScript writes at
this height. -/
structure Dialect.Holds (dialect : Dialect) (height : Nat) : Prop where
  digits : forall limit, dialect.maxDigits = some limit -> 21 ≤ limit
  levels : forall limit, dialect.maxDepth = some limit -> height ≤ limit

/-! ## Strings -/

theorem joinPairs_cons_of_single {c : Nat} (single : isHigh c = false) (rest : List Nat) :
    joinPairs (c :: rest) = c :: joinPairs rest := by
  cases rest with
  | nil => rfl
  | cons d later => simp only [joinPairs, single, Bool.false_and, Bool.false_eq_true, if_false]

/-- No half of a pair begins what is joined from something else. -/
theorem isLow_head_joinPairs {low : Nat} {rest : List Nat} (single : isLow low = false) :
    forall {c : Nat} {later : List Nat}, joinPairs (low :: rest) = c :: later -> isLow c = false := by
  intro c later joined
  cases rest with
  | nil =>
      cases joined
      exact single
  | cons d after =>
      simp only [joinPairs] at joined
      split at joined
      · rw [← (List.cons.inj joined).1]
        simp only [isLow, Bool.and_eq_false_iff, decide_eq_false_iff_not]
        omega
      · cases joined
        exact single

theorem joinPairs_bound {units : List Nat} (small : forall unit, unit ∈ units -> unit < 0x10000) :
    forall c, c ∈ joinPairs units -> c < 0x110000 := by
  fun_induction joinPairs units with
  | case1 =>
      intro c here
      cases here
  | case2 unit =>
      intro c here
      have bound := small c here
      exact Nat.lt_trans bound (by decide)
  | case3 high low rest pair ih =>
      intro c here
      rcases List.mem_cons.mp here with same | later
      · simp only [isHigh, isLow, Bool.and_eq_true, decide_eq_true_eq] at pair
        omega
      · exact ih (fun unit inside => small unit (List.mem_cons_of_mem _ (List.mem_cons_of_mem _ inside)))
          c later
  | case4 high low rest pair ih =>
      intro c here
      rcases List.mem_cons.mp here with rfl | later
      · have bound := small c List.mem_cons_self
        omega
      · exact ih (fun unit inside => small unit (List.mem_cons_of_mem _ inside)) c later

/-- A text of code points has no pairs left. -/
theorem joinPairs_joinPairs (units : List Nat) : joinPairs (joinPairs units) = joinPairs units := by
  fun_induction joinPairs units with
  | case1 => rfl
  | case2 unit => rfl
  | case3 high low rest pair ih =>
      rw [joinPairs_cons_of_single _ _, ih]
      simp only [isHigh, Bool.and_eq_false_iff, decide_eq_false_iff_not]
      omega
  | case4 high low rest pair ih =>
      cases isHigh' : isHigh high with
      | false => rw [joinPairs_cons_of_single isHigh', ih]
      | true =>
          -- what follows begins with no second half
          have single : isLow low = false := by
            rw [isHigh', Bool.true_and] at pair
            exact Bool.eq_false_of_not_eq_true pair
          cases joined : joinPairs (low :: rest) with
          | nil => rfl
          | cons c later =>
              have plain := isLow_head_joinPairs single joined
              rw [joined] at ih
              simp only [joinPairs, plain, Bool.and_false, Bool.false_eq_true, if_false]
              rw [ih]

theorem codePoints_bound (text : JsString) : forall c, c ∈ text.codePoints -> c < 0x110000 := by
  apply joinPairs_bound
  intro unit here
  rcases List.mem_map.mp here with ⟨small, -, same⟩
  rw [← same]
  exact small.toNat_lt

/-- What is no half of a pair is a character. -/
theorem valid_of_not_half {c : Nat} (bound : c < 0x110000)
    (whole : ¬ (isHigh c = true ∨ isLow c = true)) : c.isValidChar := by
  simp only [isHigh, isLow, Bool.and_eq_true, decide_eq_true_eq, not_or, not_and, not_lt] at whole
  rcases Nat.lt_or_ge c 0xD800 with low | high
  · exact Or.inl low
  · exact Or.inr ⟨whole.2 (whole.1 high), bound⟩

theorem readUnits_quoteCode {c : Nat} (bound : c < 0x110000) (rest : List Char) :
    readUnits (quoteCode c ++ rest) = (readUnits rest).map (fun r => (c :: r.1, r.2)) := by
  unfold quoteCode
  split_ifs with quote slash back tab newline feed carriage control
  · subst quote
    exact readUnits_escape rfl (by decide) rest
  · subst slash
    exact readUnits_escape rfl (by decide) rest
  · subst back
    exact readUnits_escape rfl (by decide) rest
  · subst tab
    exact readUnits_escape rfl (by decide) rest
  · subst newline
    exact readUnits_escape rfl (by decide) rest
  · subst feed
    exact readUnits_escape rfl (by decide) rest
  · subst carriage
    exact readUnits_escape rfl (by decide) rest
  · refine readUnits_unitEscape ?_ rest
    simp only [isHigh, isLow, Bool.and_eq_true, decide_eq_true_eq] at control
    omega
  · rw [not_or, not_lt] at control
    have valid := valid_of_not_half bound control.2
    have code : (Char.ofNat c).toNat = c := by
      rw [Char.ofNat, dif_pos valid]
      rfl
    have read := readUnits_printable (c := Char.ofNat c)
      (fun same => quote (code ▸ congrArg Char.toNat same))
      (fun same => slash (code ▸ congrArg Char.toNat same)) (by rw [code]; exact control.1) rest
    rw [code] at read
    exact read

/-- A string is read back as its code points. -/
theorem readString_jsQuoteTail (text : JsString) (rest : List Char) :
    readString (text.quoteTail ++ rest) = some (text.codePoints, rest) := by
  have units : forall points : CodePoints, (forall c, c ∈ points -> c < 0x110000) ->
      readUnits (points.flatMap quoteCode ++ ['"'] ++ rest) = some (points, rest) := by
    intro points bound
    induction points with
    | nil => rfl
    | cons c points ih =>
        have inner := ih (fun d here => bound d (List.mem_cons_of_mem c here))
        rw [List.flatMap_cons, List.append_assoc, List.append_assoc,
          readUnits_quoteCode (bound c List.mem_cons_self), ← List.append_assoc, inner]
        rfl
  unfold readString JsString.quoteTail
  rw [units _ (codePoints_bound text)]
  exact congrArg (fun points => some (points, rest)) (joinPairs_joinPairs _)

theorem utf16_bound (c : Nat) : forall unit, unit ∈ utf16 c -> unit < 0x10000 := by
  intro unit here
  unfold utf16 at here
  split at here
  · rw [List.mem_singleton.mp here]
    assumption
  · simp only [List.mem_cons, List.not_mem_nil, or_false] at here
    omega

theorem codePoints_ofCodePoints (text : CodePoints) :
    (JsString.ofCodePoints text).codePoints = rejoined text := by
  have same : forall unit, unit ∈ text.flatMap utf16 ->
      (UInt16.toNat ∘ UInt16.ofNat) unit = id unit := by
    intro unit here
    rcases List.mem_flatMap.mp here with ⟨c, -, inside⟩
    exact UInt16.toNat_ofNat_of_lt' (utf16_bound c unit inside)
  have units : ((text.flatMap utf16).map UInt16.ofNat).map UInt16.toNat = text.flatMap utf16 := by
    rw [List.map_map, List.map_congr_left same, List.map_id]
  rw [JsString.ofCodePoints, JsString.codePoints, units]
  rfl

/-! ## Numbers -/

/-- Nothing stands after a value, or a delimiter does. -/
def Ended (text : List Char) : Prop := forall c rest, text = c :: rest -> isDelimiter c = true

theorem cases_of_isDelimiter {c : Char} (delimiter : isDelimiter c = true) :
    c = ' ' ∨ c = '\t' ∨ c = '\n' ∨ c = '\r' ∨ c = ',' ∨ c = ']' ∨ c = '\x7d' := by
  simpa only [isDelimiter, isBlank, Bool.or_eq_true, beq_iff_eq, or_assoc] using delimiter

/-- A run of digits ends where something else stands. -/
theorem span_isDigit {digits rest : List Char}
    (isRun : forall c, c ∈ digits -> c.isDigit = true)
    (ends : forall c after, rest = c :: after -> c.isDigit = false) :
    (digits ++ rest).span Char.isDigit = (digits, rest) := by
  rw [List.span_eq_takeWhile_dropWhile, List.takeWhile_append_of_pos isRun,
    List.dropWhile_append_of_pos isRun]
  cases rest with
  | nil => simp
  | cons c after => simp [ends c after rfl]

namespace JsNumber

theorem ended_isDigit {rest : List Char} (ended : Ended rest) :
    forall c after, rest = c :: after -> c.isDigit = false := by
  intro c after same
  rcases cases_of_isDelimiter (ended c after same) with rfl | rfl | rfl | rfl | rfl | rfl | rfl <;> rfl

/-- The exponent and what follows it do not go on with a digit or a point. -/
theorem exponentText_begins (power : Option Int) {rest : List Char} (ended : Ended rest) :
    forall c after, exponentText power ++ rest = c :: after -> c.isDigit = false ∧ c ≠ '.' := by
  intro c after same
  cases power with
  | none =>
      refine ⟨ended_isDigit ended c after same, ?_⟩
      rcases cases_of_isDelimiter (ended c after same) with
        rfl | rfl | rfl | rfl | rfl | rfl | rfl <;> decide
  | some power =>
      have letter : 'e' = c := (List.cons.inj same).1
      subst letter
      exact ⟨rfl, by decide⟩

theorem exponentPart_text (power : Option Int) {rest : List Char} (ended : Ended rest) :
    exponentPart (exponentText power ++ rest) = (power, rest) := by
  cases power with
  | none =>
      rw [exponentText, List.nil_append]
      cases rest with
      | nil => rfl
      | cons c after =>
          have other : ¬ (c = 'e' ∨ c = 'E') := by
            rcases cases_of_isDelimiter (ended c after rfl) with
              rfl | rfl | rfl | rfl | rfl | rfl | rfl <;> decide
          simp only [exponentPart, other, if_false]
  | some power =>
      have isRun : forall c, c ∈ Nat.toDigits 10 power.natAbs -> c.isDigit = true :=
        fun c here => Nat.isDigit_of_mem_toDigits (by decide) (by decide) here
      have spanned := span_isDigit isRun (ended_isDigit ended)
      have value : decimal (Nat.toDigits 10 power.natAbs) = power.natAbs :=
        Nat.ofDigitChars_ten_toDigits
      have digits : Nat.toDigits 10 power.natAbs ≠ [] := Nat.toDigits_ne_nil
      by_cases below : power < 0
      · simp only [exponentText, below, if_true, List.cons_append, exponentPart, signPart,
          spanned, if_neg digits, value, true_or, Prod.mk.injEq, Option.some.injEq, and_true]
        omega
      · simp only [exponentText, below, if_false, List.cons_append, exponentPart, signPart,
          spanned, if_neg digits, value, true_or, if_true, Bool.false_eq_true, Prod.mk.injEq,
          Option.some.injEq, and_true]
        omega

theorem fractionPart_text {fraction rest : List Char}
    (isRun : forall c, c ∈ fraction -> c.isDigit = true)
    (ends : forall c after, rest = c :: after -> c.isDigit = false ∧ c ≠ '.') :
    fractionPart (fractionText fraction ++ rest) = (fraction, rest) := by
  by_cases none : fraction = []
  · subst none
    rw [fractionText, if_pos rfl, List.nil_append]
    unfold fractionPart
    split
    · rename_i after
      exact absurd rfl (ends '.' after rfl).2
    · rfl
  · have spanned := span_isDigit isRun (fun c after same => (ends c after same).1)
    simp only [fractionText, if_neg none, List.cons_append, fractionPart, spanned]

theorem wholePart_text (n : JsNumber) {rest : List Char}
    (ends : forall c after, rest = c :: after -> c.isDigit = false) :
    wholePart (n.whole ++ rest) = some (n.whole, rest) := by
  rcases n.whole_begins with zero | ⟨c, digits, begins, plain⟩
  · rw [zero]
    rfl
  · have spanned := span_isDigit n.whole_isDigit ends
    have digit : c.isDigit = true := n.whole_isDigit c (begins ▸ List.mem_cons_self)
    rw [begins] at spanned ⊢
    rw [List.cons_append] at spanned ⊢
    simp only [wholePart, if_neg plain, if_pos digit, spanned]

theorem readUnsigned_text {dialect : Dialect} (n : JsNumber) {rest : List Char}
    (fits : forall limit, dialect.maxDigits = some limit -> 21 ≤ limit) (ended : Ended rest) :
    readUnsigned dialect n.negative (n.unsignedText ++ rest) = .ok (.number n.numeral, rest) := by
  have exponent := exponentPart_text n.exponent ended
  have fraction := fractionPart_text n.fraction_isDigit (exponentText_begins n.exponent ended)
  have whole : wholePart (n.whole ++ (fractionText n.fraction ++ (exponentText n.exponent ++ rest))) =
      some (n.whole, fractionText n.fraction ++ (exponentText n.exponent ++ rest)) := by
    apply n.wholePart_text
    intro c after same
    unfold fractionText at same
    split at same
    · exact (exponentText_begins n.exponent ended c after same).1
    · have point : '.' = c := (List.cons.inj same).1
      subst point
      rfl
  have short : dialect.maxDigits.any (fun limit => decide (limit < n.whole.length)) = false := by
    cases limited : dialect.maxDigits with
    | none => rfl
    | some limit =>
        exact decide_eq_false (Nat.not_lt.mpr (n.whole_short.trans (fits limit limited)))
  unfold readUnsigned unsignedText
  rw [List.append_assoc, List.append_assoc, whole]
  simp only [fraction, exponent, short, Bool.and_false, Bool.false_eq_true, if_false]
  rfl

/-- The digits of a number begin with one. -/
theorem unsignedText_begins (n : JsNumber) :
    exists c rest, n.unsignedText = c :: rest ∧ c.isDigit = true := by
  cases begins : n.whole with
  | nil =>
      rcases n.whole_begins with zero | ⟨c, rest, same, -⟩
      · rw [zero] at begins
        cases begins
      · rw [same] at begins
        cases begins
  | cons c rest =>
      refine ⟨c, rest ++ (fractionText n.fraction ++ exponentText n.exponent), ?_, ?_⟩
      · rw [unsignedText, begins, List.cons_append]
      · exact n.whole_isDigit c (begins ▸ List.mem_cons_self)

theorem readValue_text {dialect : Dialect} (n : JsNumber) (fuel depth : Nat) {rest : List Char}
    (fits : forall limit, dialect.maxDigits = some limit -> 21 ≤ limit) (ended : Ended rest) :
    readValue dialect (fuel + 1) depth (n.text ++ rest) = .ok (.number n.numeral, rest) := by
  have number := n.readUnsigned_text fits ended
  rcases n.unsignedText_begins with ⟨c, digits, begins, digit⟩
  unfold text
  cases negative : n.negative with
  | false =>
      rw [negative, begins, List.cons_append] at number
      simp only [Bool.false_eq_true, if_false, begins, List.cons_append]
      rw [readValue_of_isDigit dialect fuel depth digit, number]
  | true =>
      rw [negative, begins, List.cons_append] at number
      simp only [if_true, begins, List.cons_append]
      rw [readValue_minus dialect fuel depth digit, number]

end JsNumber

/-! ## Lists of parts -/

section Parts

variable {dialect : Dialect} {depth indent : Nat}

/-- A text that does not begin with a blank, and is read as this value
wherever a value may stand. -/
structure ReadsAs (dialect : Dialect) (depth : Nat) (text : List Char) (value : Json) : Prop where
  begins : exists c after, text = c :: after ∧ isBlank c = false
  read : forall {fuel : Nat} {rest : List Char}, text.length < fuel -> Ended rest ->
    readValue dialect fuel depth (text ++ rest) = .ok (value, rest)

/-- A name and the text of a value. -/
def MemberReadsAs (indent : Nat) (dialect : Dialect) (depth : Nat) (part : List Char)
    (member : CodePoints × Json) : Prop :=
  exists (name : JsString) (text : List Char),
    part = '"' :: name.quoteTail ++ ':' :: (gap indent ++ text) ∧ member.1 = name.codePoints ∧ ReadsAs dialect depth text member.2

theorem skip_of_not_blank {c : Char} (printed : isBlank c = false) (rest : List Char) :
    skip (c :: rest) = c :: rest :=
  List.dropWhile_cons_of_neg (by rw [printed]; exact Bool.false_ne_true)

theorem skip_newline (indent level : Nat) (text : List Char) :
    skip (newline indent level ++ text) = skip text := by
  have blanks : forall c, c ∈ newline indent level -> isBlank c = true := by
    intro c here
    unfold newline at here
    split at here
    · cases here
    rcases List.mem_cons.mp here with rfl | inside
    · rfl
    · rw [(List.mem_replicate.mp inside).2]
      rfl
  exact List.dropWhile_append_of_pos blanks

theorem skip_gap (indent : Nat) (text : List Char) : skip (gap indent ++ text) = skip text := by
  unfold gap
  split
  · rfl
  · exact List.dropWhile_cons_of_pos rfl

theorem ended_cons {c : Char} {text : List Char} (delimiter : isDelimiter c = true) :
    Ended (c :: text) := by
  intro d after same
  rw [← (List.cons.inj same).1]
  exact delimiter

theorem ended_partsTail (indent level : Nat) {close : Char} (closes : isDelimiter close = true)
    (parts : List (List Char)) (rest : List Char) :
    Ended (partsTail indent level close parts ++ rest) := by
  cases parts with
  | nil =>
      unfold partsTail newline
      split
      · exact ended_cons closes
      · exact ended_cons rfl
  | cons part others => exact ended_cons rfl

theorem skip_partsTail_nil (indent level : Nat) {close : Char} (printed : isBlank close = false)
    (rest : List Char) : skip (partsTail indent level close [] ++ rest) = close :: rest := by
  rw [partsTail, List.append_assoc, skip_newline]
  exact skip_of_not_blank printed rest

theorem skip_partsTail_cons (indent level : Nat) (close : Char) (part : List Char)
    (others : List (List Char)) (rest : List Char) :
    skip (partsTail indent level close (part :: others) ++ rest) =
      ',' :: (newline indent (level + 1) ++ (part ++ (partsTail indent level close others ++ rest))) := by
  rw [partsTail, List.cons_append, List.cons_append]
  rw [skip_of_not_blank rfl, List.append_assoc, List.append_assoc]

/-- The items are read one after the other; by induction on those after the
first. -/
theorem readItems_parts (level : Nat) (rest : List Char) {parts : List (List Char)} {values : List Json}
    (others : List.Forall₂ (ReadsAs dialect depth) parts values) :
    forall {part : List Char} {value : Json} {fuel : Nat}, ReadsAs dialect depth part value ->
      (part ++ partsTail indent level ']' parts).length < fuel ->
        readItems dialect fuel depth
            (newline indent (level + 1) ++ (part ++ (partsTail indent level ']' parts ++ rest))) =
          .ok (value :: values, rest) := by
  have first : forall {part : List Char} {value : Json} {tail : List Char} {fuel : Nat},
      ReadsAs dialect depth part value -> part.length < fuel -> Ended tail ->
        readValue dialect fuel depth (skip (newline indent (level + 1) ++ (part ++ tail))) =
          .ok (value, tail) := by
    intro part value tail fuel reads enough ended
    rcases reads.begins with ⟨c, after, begins, printed⟩
    have same : skip (part ++ tail) = part ++ tail := by
      rw [begins, List.cons_append]
      exact skip_of_not_blank printed _
    rw [skip_newline, same]
    exact reads.read enough ended
  induction others with
  | nil =>
      intro part value fuel reads enough
      cases fuel with
      | zero => cases enough
      | succ fuel =>
          have enough' : part.length < fuel := by
            simp only [partsTail, List.length_append, List.length_cons] at enough
            omega
          exact readItems_last (first reads enough' (ended_partsTail indent level rfl [] rest))
            (skip_partsTail_nil indent level rfl rest)
  | @cons next value' parts values reads' _ ih =>
      intro part value fuel reads enough
      cases fuel with
      | zero => cases enough
      | succ fuel =>
          simp only [partsTail, List.length_append, List.length_cons] at enough
          have enough' : part.length < fuel := by omega
          have left : (next ++ partsTail indent level ']' parts).length < fuel := by
            rw [List.length_append]
            omega
          rw [readItems_more (first reads enough' (ended_partsTail indent level rfl (next :: parts) rest))
            (skip_partsTail_cons indent level ']' next parts rest), ih reads' left]
          rfl

theorem readsAs_array {level : Nat} {parts : List (List Char)} {values : List Json}
    (shallow : Shallow dialect depth)
    (reads : List.Forall₂ (ReadsAs dialect (depth + 1)) parts values) :
    ReadsAs dialect depth (bracketed indent level '[' ']' parts) (.array values) := by
  cases reads with
  | nil =>
      refine ⟨⟨'[', [']'], rfl, rfl⟩, ?_⟩
      intro fuel rest enough ended
      cases fuel with
      | zero => cases enough
      | succ fuel => exact readValue_emptyArray shallow (skip_of_not_blank rfl rest)
  | @cons part value parts values first others =>
      refine ⟨⟨'[', _, rfl, rfl⟩, ?_⟩
      intro fuel rest enough ended
      cases fuel with
      | zero => cases enough
      | succ fuel =>
          simp only [bracketed, List.cons_append, List.length_cons, List.length_append] at enough
          have enough' : (part ++ partsTail indent level ']' parts).length < fuel := by
            rw [List.length_append]
            omega
          have items := readItems_parts level rest others first enough'
          rcases readItems_opens items with ⟨c, after, opens, open_⟩
          simp only [bracketed, List.cons_append, List.append_assoc]
          rw [readValue_array shallow
            (fun later closed => open_ (List.cons.inj (opens.symm.trans closed)).1), items]
          rfl

theorem readMembers_parts (level : Nat) (rest : List Char) {parts : List (List Char)}
    {members : List (CodePoints × Json)}
    (others : List.Forall₂ (MemberReadsAs indent dialect depth) parts members) :
    forall {part : List Char} {member : CodePoints × Json} {fuel : Nat},
      MemberReadsAs indent dialect depth part member ->
      (part ++ partsTail indent level '\x7d' parts).length < fuel ->
        readMembers dialect fuel depth
            (newline indent (level + 1) ++ (part ++ (partsTail indent level '\x7d' parts ++ rest))) =
          .ok (member :: members, rest) := by
  have opened : forall (name : JsString) (text tail : List Char),
      skip (newline indent (level + 1) ++
          (('"' :: name.quoteTail ++ ':' :: (gap indent ++ text)) ++ tail)) =
        '"' :: (name.quoteTail ++ ':' :: (gap indent ++ (text ++ tail))) := by
    intro name text tail
    rw [skip_newline, List.cons_append, List.cons_append, skip_of_not_blank rfl, List.append_assoc,
      List.cons_append, List.append_assoc]
  have coloned : forall tail : List Char, skip (':' :: tail) = ':' :: tail :=
    fun tail => skip_of_not_blank rfl tail
  have first : forall {text : List Char} {value : Json} {tail : List Char} {fuel : Nat},
      ReadsAs dialect depth text value -> text.length < fuel -> Ended tail ->
        readValue dialect fuel depth (skip (gap indent ++ (text ++ tail))) = .ok (value, tail) := by
    intro text value tail fuel reads enough ended
    rcases reads.begins with ⟨c, after, begins, printed⟩
    have same : skip (gap indent ++ (text ++ tail)) = text ++ tail := by
      rw [skip_gap, begins, List.cons_append]
      exact skip_of_not_blank printed _
    rw [same]
    exact reads.read enough ended
  induction others with
  | nil =>
      rintro part ⟨-, value⟩ fuel ⟨name, text, rfl, rfl, reads⟩ enough
      cases fuel with
      | zero => cases enough
      | succ fuel =>
          simp only [partsTail, List.cons_append, List.length_cons, List.length_append] at enough
          have enough' : text.length < fuel := by omega
          exact readMembers_last (opened name text _) (readString_jsQuoteTail name _) (coloned _)
            (first reads enough' (ended_partsTail indent level rfl [] rest))
            (skip_partsTail_nil indent level rfl rest)
  | @cons next member' parts members reads' _ ih =>
      rintro part ⟨-, value⟩ fuel ⟨name, text, rfl, rfl, reads⟩ enough
      cases fuel with
      | zero => cases enough
      | succ fuel =>
          simp only [partsTail, List.cons_append, List.length_cons, List.length_append] at enough
          have enough' : text.length < fuel := by omega
          have left : (next ++ partsTail indent level '\x7d' parts).length < fuel := by
            rw [List.length_append]
            omega
          rw [readMembers_more (opened name text _) (readString_jsQuoteTail name _) (coloned _)
            (first reads enough' (ended_partsTail indent level rfl (next :: parts) rest))
            (skip_partsTail_cons indent level '\x7d' next parts rest), ih reads' left]
          rfl

theorem readsAs_object {level : Nat} {parts : List (List Char)} {members : List (CodePoints × Json)}
    (shallow : Shallow dialect depth)
    (reads : List.Forall₂ (MemberReadsAs indent dialect (depth + 1)) parts members) :
    ReadsAs dialect depth (bracketed indent level '\x7b' '\x7d' parts) (.object members) := by
  cases reads with
  | nil =>
      refine ⟨⟨'\x7b', ['\x7d'], rfl, rfl⟩, ?_⟩
      intro fuel rest enough ended
      cases fuel with
      | zero => cases enough
      | succ fuel => exact readValue_emptyObject shallow (skip_of_not_blank rfl rest)
  | @cons part member parts members first others =>
      refine ⟨⟨'\x7b', _, rfl, rfl⟩, ?_⟩
      intro fuel rest enough ended
      cases fuel with
      | zero => cases enough
      | succ fuel =>
          simp only [bracketed, List.cons_append, List.length_cons, List.length_append] at enough
          have enough' : (part ++ partsTail indent level '\x7d' parts).length < fuel := by
            rw [List.length_append]
            omega
          have inner := readMembers_parts level rest others first enough'
          rcases readMembers_opens inner with ⟨quoted, opens⟩
          simp only [bracketed, List.cons_append, List.append_assoc]
          rw [readValue_object shallow (fun later closed =>
            absurd (List.cons.inj (opens.symm.trans closed)).1 (by decide)), inner]
          rfl

end Parts

/-! ## Values -/

section Values

variable {dialect : Dialect} {indent : Nat}

theorem Dialect.Holds.narrow {height lower : Nat} (holds : dialect.Holds height)
    (less : lower ≤ height) : dialect.Holds lower :=
  ⟨holds.digits, fun limit limited => less.trans (holds.levels limit limited)⟩

theorem Dialect.Holds.shallow {depth height : Nat} (holds : dialect.Holds (depth + (height + 1))) :
    Shallow dialect depth := by
  unfold Shallow
  cases limited : dialect.maxDepth with
  | none => rfl
  | some limit =>
      have room := holds.levels limit limited
      exact decide_eq_false (by omega)

theorem readsAs_word {word : List Char} {value : Json} {depth : Nat}
    (begins : exists c after, word = c :: after ∧ isBlank c = false)
    (read : forall rest, readScalar dialect (word ++ rest) = .ok (value, rest)) :
    ReadsAs dialect depth word value := by
  refine ⟨begins, ?_⟩
  intro fuel rest enough ended
  cases fuel with
  | zero => cases enough
  | succ fuel => rw [readValue_eq_readScalar (read rest), read rest]

theorem readsAs_null (depth : Nat) : ReadsAs dialect depth "null".toList .null :=
  readsAs_word ⟨'n', "ull".toList, rfl, rfl⟩ (fun _ => rfl)

theorem readsAs_number {depth : Nat} (n : JsNumber)
    (fits : forall limit, dialect.maxDigits = some limit -> 21 ≤ limit) :
    ReadsAs dialect depth n.text (.number n.numeral) := by
  refine ⟨?_, ?_⟩
  · rcases n.unsignedText_begins with ⟨c, digits, begins, digit⟩
    unfold JsNumber.text
    split
    · exact ⟨'-', _, rfl, rfl⟩
    · exact ⟨c, digits, begins, by simp [isBlank, ne_of_isDigit digit]⟩
  · intro fuel rest enough ended
    cases fuel with
    | zero => cases enough
    | succ fuel => exact n.readValue_text fuel depth fits ended

theorem readsAs_string {depth : Nat} (text : JsString) :
    ReadsAs dialect depth ('"' :: text.quoteTail) (.string text.codePoints) := by
  refine ⟨⟨'"', text.quoteTail, rfl, rfl⟩, ?_⟩
  intro fuel rest enough ended
  cases fuel with
  | zero => cases enough
  | succ fuel => simp only [List.cons_append, readValue, readString_jsQuoteTail]

/-- Only what is not defined has no text, and then it is read as nothing. -/
theorem serialize_cases (indent level : Nat) (value : JsValue) :
    (serialize indent level value = none ∧ value.readBack = none) ∨
      exists text known, serialize indent level value = some text ∧ value.readBack = some known := by
  cases value with
  | undefined => exact Or.inl ⟨by simp only [serialize], by simp only [JsValue.readBack]⟩
  | bool value =>
      cases value <;> simp only [serialize, JsValue.readBack] <;> exact Or.inr ⟨_, _, rfl, rfl⟩
  | _ =>
      simp only [serialize, JsValue.readBack]
      exact Or.inr ⟨_, _, rfl, rfl⟩

mutual

theorem readsAs_serialize : forall (value : JsValue) (level depth : Nat),
    dialect.Holds (depth + value.height) ->
      ReadsAs dialect depth ((serialize indent level value).getD "null".toList) (value.readBack.getD .null)
  | .undefined, _, depth, _ => by
    simp only [serialize, JsValue.readBack]
    exact readsAs_null depth
  | .null, _, depth, _ => by
    simp only [serialize, JsValue.readBack]
    exact readsAs_null depth
  | .bool true, _, depth, _ => by
    simp only [serialize, JsValue.readBack]
    exact readsAs_word ⟨'t', "rue".toList, rfl, rfl⟩ (fun _ => rfl)
  | .bool false, _, depth, _ => by
    simp only [serialize, JsValue.readBack]
    exact readsAs_word ⟨'f', "alse".toList, rfl, rfl⟩ (fun _ => rfl)
  | .nonFinite, _, depth, _ => by
    simp only [serialize, JsValue.readBack]
    exact readsAs_null depth
  | .number n, _, depth, holds => by
    simp only [serialize, JsValue.readBack]
    exact readsAs_number n holds.digits
  | .string text, _, depth, _ => by
    simp only [serialize, JsValue.readBack]
    exact readsAs_string text
  | .array items, level, depth, holds => by
    simp only [JsValue.height] at holds
    have parts := readsAs_items items (level + 1) (depth + 1)
      (holds.narrow (by omega))
    simp only [serialize, JsValue.readBack]
    exact readsAs_array holds.shallow parts
  | .object members, level, depth, holds => by
    simp only [JsValue.height] at holds
    have parts := readsAs_members members (level + 1) (depth + 1)
      (holds.narrow (by omega))
    simp only [serialize, JsValue.readBack]
    exact readsAs_object holds.shallow parts

theorem readsAs_items : forall (items : List JsValue) (level depth : Nat),
    dialect.Holds (depth + heightItems items) ->
      List.Forall₂ (ReadsAs dialect depth) (serializeItems indent level items) (readBackItems items)
  | [], _, _, _ => by
    simp only [serializeItems, readBackItems]
    exact List.Forall₂.nil
  | item :: rest, level, depth, holds => by
    simp only [heightItems] at holds
    have first := readsAs_serialize item level depth
      (holds.narrow (by omega))
    have others := readsAs_items rest level depth (holds.narrow (by omega))
    simp only [serializeItems, readBackItems]
    exact List.Forall₂.cons first others

theorem readsAs_members : forall (members : List (JsString × JsValue)) (level depth : Nat),
    dialect.Holds (depth + heightMembers members) ->
      List.Forall₂ (MemberReadsAs indent dialect depth) (serializeMembers indent level members)
        (readBackMembers members)
  | [], _, _, _ => by
    simp only [serializeMembers, readBackMembers]
    exact List.Forall₂.nil
  | (name, value) :: rest, level, depth, holds => by
    simp only [heightMembers] at holds
    have first := readsAs_serialize value level depth
      (holds.narrow (by omega))
    have others := readsAs_members rest level depth (holds.narrow (by omega))
    simp only [serializeMembers, readBackMembers]
    rcases serialize_cases indent level value with ⟨none, unknown⟩ | ⟨text, known, some, back⟩
    · simp only [none, unknown]
      exact others
    · simp only [some, back, Option.getD_some] at first ⊢
      exact List.Forall₂.cons ⟨name, text, rfl, rfl, first⟩ others

end

theorem readsAs_stringify {value : JsValue} {text : List Char}
    (holds : dialect.Holds value.height) (written : stringify indent value = some text) :
    exists known, value.readBack = some known ∧ ReadsAs dialect 0 text known := by
  have reads : ReadsAs dialect 0 ((serialize indent 0 value).getD _) _ :=
    readsAs_serialize value 0 0 (holds.narrow (by omega))
  rcases serialize_cases indent 0 value with ⟨none, -⟩ | ⟨text', known, some, back⟩
  · rw [stringify, none] at written
    cases written
  · rw [stringify, some] at written
    cases written
    rw [some, back, Option.getD_some, Option.getD_some] at reads
    exact ⟨known, back, reads⟩

theorem ReadsAs.whole {text : List Char} {known : Json} (reads : ReadsAs dialect 0 text known) :
    rawDecode dialect text = .ok (known, []) := by
  have enough : text.length < 2 * text.length + 2 := by omega
  have read := reads.read enough (fun c rest (impossible : [] = c :: rest) => by cases impossible)
  rwa [List.append_nil] at read

/-- What is written is read back, and read to its end. -/
theorem rawDecode_stringify {value : JsValue} {text : List Char}
    (holds : dialect.Holds value.height) (written : stringify indent value = some text) :
    exists known, value.readBack = some known ∧ rawDecode dialect text = .ok (known, []) :=
  (readsAs_stringify holds written).imp (fun _ reads => reads.imp_right ReadsAs.whole)

theorem parse_stringify {value : JsValue} {text : List Char}
    (holds : dialect.Holds value.height) (written : stringify indent value = some text) :
    exists known, value.readBack = some known ∧ parse dialect text = .ok known := by
  rcases readsAs_stringify holds written with ⟨known, back, reads⟩
  rcases reads.begins with ⟨c, after, begins, printed⟩
  have unblank : skip text = text := by rw [begins, skip_of_not_blank printed]
  have whole := reads.whole
  refine ⟨known, back, ?_⟩
  rw [rawDecode] at whole
  simp only [parse, unblank, whole]
  rfl

/-- A value that is read back is read from the text that is written. -/
theorem parse_getD_stringify {value : JsValue} {known : Json} (holds : dialect.Holds value.height)
    (back : value.readBack = some known) (indent : Nat) :
    parse dialect ((stringify indent value).getD []) = .ok known := by
  rcases serialize_cases indent 0 value with ⟨-, unread⟩ | ⟨text, known', written, -⟩
  · rw [back] at unread
    cases unread
  · have same : stringify indent value = some text := written
    rcases parse_stringify holds same with ⟨found, back', parsed⟩
    rw [back] at back'
    cases back'
    rw [same, Option.getD_some]
    exact parsed

end Values

/-! ## The characters of a written text -/

/-- Of the control characters a text has line feeds alone. -/
def Legible (text : List Char) : Prop := forall c, c ∈ text -> c = '\n' ∨ 32 ≤ c.toNat

/-- A character of ASCII that shows. -/
def Solid (c : Char) : Prop := 32 < c.toNat ∧ c.toNat < 127

instance : DecidablePred Solid := fun _ => inferInstanceAs (Decidable (_ ∧ _))

/-- A text with such characters at its ends. -/
structure Bounded (text : List Char) : Prop where
  begins : exists c rest, text = c :: rest ∧ Solid c
  ends : exists front c, text = front ++ [c] ∧ Solid c

theorem Legible.append {first second : List Char} (one : Legible first) (other : Legible second) :
    Legible (first ++ second) := by
  intro c here
  rcases List.mem_append.mp here with left | right
  · exact one c left
  · exact other c right

theorem Legible.cons {c : Char} {rest : List Char} (shows : c = '\n' ∨ 32 ≤ c.toNat)
    (legible : Legible rest) : Legible (c :: rest) := by
  intro d here
  rcases List.mem_cons.mp here with rfl | later
  · exact shows
  · exact legible d later

theorem legible_nil : Legible [] := fun _ here => (nomatch here)

theorem legible_of_solid {text : List Char} (solid : forall c, c ∈ text -> Solid c) : Legible text :=
  fun c here => Or.inr (Nat.le_of_lt (solid c here).1)

theorem solid_of_isDigit {c : Char} (digit : c.isDigit = true) : Solid c := by
  have range := toNat_of_isDigit digit
  unfold Solid
  omega

/-- A text of such characters alone. -/
theorem bounded_of_solid {text : List Char} (some : text ≠ [])
    (solid : forall c, c ∈ text -> Solid c) : Bounded text := by
  refine ⟨?_, text.dropLast, text.getLast some, (List.dropLast_concat_getLast some).symm,
    solid _ (List.getLast_mem some)⟩
  cases text with
  | nil => exact absurd rfl some
  | cons c rest => exact ⟨c, rest, rfl, solid c List.mem_cons_self⟩

theorem solid_of_all {word : List Char} (all : word.all (fun c => decide (Solid c)) = true) :
    forall c, c ∈ word -> Solid c :=
  fun c here => of_decide_eq_true (List.all_eq_true.mp all c here)

theorem solid_digitChar : forall n, n < 16 -> Solid (Nat.digitChar n) := by decide

theorem solid_unitEscape {unit : Nat} (small : unit < 0x10000) :
    forall c, c ∈ unitEscape unit -> Solid c := by
  simp only [unitEscape, List.forall_mem_cons]
  exact ⟨by decide, by decide, solid_digitChar _ (by omega), solid_digitChar _ (by omega),
    solid_digitChar _ (by omega), solid_digitChar _ (by omega), List.forall_mem_nil _⟩

theorem legible_quoteCode {c : Nat} (bound : c < 0x110000) : Legible (quoteCode c) := by
  unfold quoteCode
  split_ifs with quote slash back tab newline feed carriage control
  iterate 7 exact legible_of_solid (solid_of_all rfl)
  · refine legible_of_solid (solid_unitEscape ?_)
    simp only [isHigh, isLow, Bool.and_eq_true, decide_eq_true_eq] at control
    omega
  · rw [not_or, not_lt] at control
    have valid := valid_of_not_half bound control.2
    have code : (Char.ofNat c).toNat = c := by
      rw [Char.ofNat, dif_pos valid]
      rfl
    intro d here
    rw [List.mem_singleton.mp here, code]
    exact Or.inr control.1

theorem legible_quoteTail (text : JsString) : Legible text.quoteTail := by
  have points : forall points : CodePoints, (forall c, c ∈ points -> c < 0x110000) ->
      Legible (points.flatMap quoteCode) := by
    intro points bound
    induction points with
    | nil => exact legible_nil
    | cons c points ih =>
        rw [List.flatMap_cons]
        exact (legible_quoteCode (bound c List.mem_cons_self)).append
          (ih (fun d here => bound d (List.mem_cons_of_mem c here)))
  exact (points _ (codePoints_bound text)).append
    (legible_of_solid (List.forall_mem_singleton.mpr (by decide)))

theorem solid_number (n : JsNumber) : forall c, c ∈ n.text -> Solid c := by
  have digits : forall c, c ∈ n.unsignedText -> Solid c := by
    intro c here
    rcases List.mem_append.mp here with whole | later
    · exact solid_of_isDigit (n.whole_isDigit c whole)
    · rcases List.mem_append.mp later with fraction | exponent
      · unfold JsNumber.fractionText at fraction
        split at fraction
        · cases fraction
        · rcases List.mem_cons.mp fraction with rfl | digit
          · decide
          · exact solid_of_isDigit (n.fraction_isDigit c digit)
      · unfold JsNumber.exponentText at exponent
        split at exponent
        · cases exponent
        · rename_i power
          rcases List.mem_cons.mp exponent with rfl | later
          · decide
          · rcases List.mem_cons.mp later with rfl | digit
            · split <;> decide
            · exact solid_of_isDigit (Nat.isDigit_of_mem_toDigits (by decide) (by decide) digit)
  unfold JsNumber.text
  split
  · intro c here
    rcases List.mem_cons.mp here with rfl | later
    · decide
    · exact digits c later
  · exact digits

theorem legible_newline (indent level : Nat) : Legible (newline indent level) := by
  unfold newline
  split
  · exact legible_nil
  · apply Legible.cons (Or.inl rfl)
    intro c here
    rw [(List.mem_replicate.mp here).2]
    exact Or.inr (by decide)

theorem legible_gap (indent : Nat) : Legible (gap indent) := by
  unfold gap
  split
  · exact legible_nil
  · exact Legible.cons (Or.inr (by decide)) legible_nil

theorem legible_partsTail (indent level : Nat) {close : Char} (solid : Solid close) {parts : List (List Char)}
    (legible : forall part, part ∈ parts -> Legible part) : Legible (partsTail indent level close parts) := by
  induction parts with
  | nil =>
      exact (legible_newline indent level).append (legible_of_solid (List.forall_mem_singleton.mpr solid))
  | cons part rest ih =>
      have own := legible part List.mem_cons_self
      have others := ih (fun other here => legible other (List.mem_cons_of_mem part here))
      exact (Legible.cons (Or.inr (by decide)) (legible_newline indent (level + 1))).append (own.append others)

theorem legible_bracketed (indent level : Nat) {opening close : Char} (first : Solid opening)
    (last : Solid close) {parts : List (List Char)} (legible : forall part, part ∈ parts -> Legible part) :
    Legible (bracketed indent level opening close parts) := by
  cases parts with
  | nil =>
      exact legible_of_solid (List.forall_mem_cons.mpr ⟨first, List.forall_mem_singleton.mpr last⟩)
  | cons part rest =>
      have own := legible part List.mem_cons_self
      have others := legible_partsTail indent level last
        (fun other here => legible other (List.mem_cons_of_mem part here))
      exact (Legible.cons (Or.inr (Nat.le_of_lt first.1)) (legible_newline indent (level + 1))).append
        (own.append others)

theorem ends_partsTail (indent level : Nat) (close : Char) (parts : List (List Char)) :
    exists front, partsTail indent level close parts = front ++ [close] := by
  induction parts with
  | nil => exact ⟨newline indent level, rfl⟩
  | cons part rest ih =>
      rcases ih with ⟨front, same⟩
      refine ⟨',' :: newline indent (level + 1) ++ (part ++ front), ?_⟩
      rw [partsTail, same]
      simp only [List.append_assoc]

theorem bounded_bracketed (indent level : Nat) {opening close : Char} (first : Solid opening)
    (last : Solid close) (parts : List (List Char)) :
    Bounded (bracketed indent level opening close parts) := by
  cases parts with
  | nil => exact ⟨⟨opening, [close], rfl, first⟩, [opening], close, rfl, last⟩
  | cons part rest =>
      rcases ends_partsTail indent level close rest with ⟨front, same⟩
      refine ⟨⟨opening, _, rfl, first⟩, opening :: newline indent (level + 1) ++ (part ++ front), close, ?_, last⟩
      rw [bracketed, same]
      simp only [List.append_assoc]

mutual

theorem legible_serialize : forall (value : JsValue) {level : Nat} {text : List Char},
    serialize indent level value = some text -> Legible text
  | .undefined, _, _, known => by simp only [serialize] at known; cases known
  | .null, _, _, known => by
    simp only [serialize] at known
    cases known
    exact legible_of_solid (solid_of_all rfl)
  | .bool true, _, _, known => by
    simp only [serialize] at known
    cases known
    exact legible_of_solid (solid_of_all rfl)
  | .bool false, _, _, known => by
    simp only [serialize] at known
    cases known
    exact legible_of_solid (solid_of_all rfl)
  | .nonFinite, _, _, known => by
    simp only [serialize] at known
    cases known
    exact legible_of_solid (solid_of_all rfl)
  | .number n, _, _, known => by
    simp only [serialize] at known
    cases known
    exact legible_of_solid (solid_number n)
  | .string text, _, _, known => by
    simp only [serialize] at known
    cases known
    exact Legible.cons (Or.inr (by decide)) (legible_quoteTail text)
  | .array items, level, _, known => by
    simp only [serialize] at known
    cases known
    exact legible_bracketed indent level (by decide) (by decide) (legible_items items)
  | .object members, level, _, known => by
    simp only [serialize] at known
    cases known
    exact legible_bracketed indent level (by decide) (by decide) (legible_members members)

theorem legible_items : forall (items : List JsValue) {level : Nat} (part : List Char),
    part ∈ serializeItems indent level items -> Legible part
  | [], _, _, here => by simp only [serializeItems] at here; cases here
  | item :: rest, level, part, here => by
    simp only [serializeItems] at here
    rcases List.mem_cons.mp here with rfl | later
    · cases known : serialize indent level item with
      | none => exact legible_of_solid (solid_of_all rfl)
      | some text => exact legible_serialize item known
    · exact legible_items rest part later

theorem legible_members : forall (members : List (JsString × JsValue)) {level : Nat}
    (part : List Char), part ∈ serializeMembers indent level members -> Legible part
  | [], _, _, here => by simp only [serializeMembers] at here; cases here
  | (name, value) :: rest, level, part, here => by
    simp only [serializeMembers] at here
    cases known : serialize indent level value with
    | none =>
        simp only [known] at here
        exact legible_members rest part here
    | some text =>
        simp only [known] at here
        rcases List.mem_cons.mp here with rfl | later
        · exact (Legible.cons (Or.inr (by decide)) (legible_quoteTail name)).append
            (Legible.cons (Or.inr (by decide)) ((legible_gap indent).append
              (legible_serialize value known)))
        · exact legible_members rest part later

end

theorem bounded_serialize {value : JsValue} {level : Nat} {text : List Char}
    (known : serialize indent level value = some text) : Bounded text := by
  cases value with
  | undefined =>
      simp only [serialize] at known
      cases known
  | bool value =>
      cases value <;> simp only [serialize] at known <;> cases known
      · exact bounded_of_solid (by decide) (solid_of_all rfl)
      · exact bounded_of_solid (by decide) (solid_of_all rfl)
  | number n =>
      simp only [serialize] at known
      cases known
      refine bounded_of_solid ?_ (solid_number n)
      rcases n.unsignedText_begins with ⟨c, rest, begins, -⟩
      unfold JsNumber.text
      rw [begins]
      split <;> exact List.cons_ne_nil _ _
  | string text =>
      simp only [serialize] at known
      cases known
      exact ⟨⟨'"', _, rfl, by decide⟩, '"' :: text.codePoints.flatMap quoteCode, '"', rfl, by decide⟩
  | array items =>
      simp only [serialize] at known
      cases known
      exact bounded_bracketed indent level (by decide) (by decide) _
  | object members =>
      simp only [serialize] at known
      cases known
      exact bounded_bracketed indent level (by decide) (by decide) _
  | _ =>
      simp only [serialize] at known
      cases known
      exact bounded_of_solid (by decide) (solid_of_all rfl)

end JsonText
