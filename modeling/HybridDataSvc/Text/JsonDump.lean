import HybridDataSvc.Text.Numbers

namespace JsonText

open NumberText

/-!
# Writing a JSON text

`json.dump` of an object whose members are strings and whole numbers.  All
that is not printable ASCII is escaped.  What is written is read back, but
that half of a surrogate pair joins with a half next to it.
-/

/-- A code point in UTF-16. -/
def utf16 (c : Nat) : List Nat :=
  if c < 0x10000 then [c]
  else [0xD800 + (c - 0x10000) / 0x400 % 0x400, 0xDC00 + (c - 0x10000) % 0x400]

/-- `\u` and four hexadecimal digits. -/
def unitEscape (unit : Nat) : List Char :=
  ['\\', 'u', Nat.digitChar (unit / 0x1000), Nat.digitChar (unit / 0x100 % 0x10),
    Nat.digitChar (unit / 0x10 % 0x10), Nat.digitChar (unit % 0x10)]

/-- One code point of a string. -/
def quoteChar (c : Nat) : List Char :=
  if c = '"'.toNat then ['\\', '"']
  else if c = '\\'.toNat then ['\\', '\\']
  else if c = 10 then ['\\', 'n']
  else if c = 13 then ['\\', 'r']
  else if c = 9 then ['\\', 't']
  else if c = 12 then ['\\', 'f']
  else if c = 8 then ['\\', 'b']
  else if 32 ≤ c ∧ c < 127 then [Char.ofNat c]
  else (utf16 c).flatMap unitEscape

/-- A string after its opening quote. -/
def quoteTail (text : CodePoints) : List Char := text.flatMap quoteChar ++ ['"']

/-- A whole number in decimal. -/
def intText : Int -> List Char
  | .ofNat n => Nat.toDigits 10 n
  | .negSucc n => '-' :: Nat.toDigits 10 (n + 1)

/-- A value that is not nested. -/
inductive Scalar
  | text (value : CodePoints)
  | whole (value : Int)
  deriving DecidableEq, Repr

def Scalar.dump : Scalar -> List Char
  | .text value => '"' :: quoteTail value
  | .whole value => intText value

/-- The members of an object up to its end; there is at least one. -/
def dumpMembers : List (CodePoints × Scalar) -> List Char
  | [] => []
  | [m] => '"' :: quoteTail m.1 ++ ':' :: ' ' :: (m.2.dump ++ ['\x7d'])
  | m :: rest => '"' :: quoteTail m.1 ++ ':' :: ' ' :: (m.2.dump ++ ',' :: ' ' :: dumpMembers rest)

/-- `json.dump` of an object that is not empty. -/
def dumpObject (members : List (CodePoints × Scalar)) : List Char := '\x7b' :: dumpMembers members

/-- A string as it is read back. -/
def rejoined (text : CodePoints) : CodePoints := joinPairs (text.flatMap utf16)

def Scalar.readBack : Scalar -> Json
  | .text value => .string (rejoined value)
  | .whole value => .number ⟨value, 0, true⟩

/-- The digits of a number are not too many to read. -/
def Scalar.Fits (dialect : Dialect) : Scalar -> Prop
  | .text _ => True
  | .whole value => forall limit, dialect.maxDigits = some limit ->
      (Nat.toDigits 10 value.natAbs).length ≤ limit

/-! ## Strings -/

theorem hexDigit_digitChar : forall d, d < 16 -> hexDigit (Nat.digitChar d) = some d := by decide

theorem hexDigits_unit {unit : Nat} (small : unit < 0x10000) :
    hexDigits [Nat.digitChar (unit / 0x1000), Nat.digitChar (unit / 0x100 % 0x10),
      Nat.digitChar (unit / 0x10 % 0x10), Nat.digitChar (unit % 0x10)] = some unit := by
  have first := hexDigit_digitChar (unit / 0x1000) (by omega)
  have second := hexDigit_digitChar (unit / 0x100 % 0x10) (by omega)
  have third := hexDigit_digitChar (unit / 0x10 % 0x10) (by omega)
  have fourth := hexDigit_digitChar (unit % 0x10) (by omega)
  have value : 16 * (16 * (16 * (16 * 0 + unit / 0x1000) + unit / 0x100 % 0x10) +
      unit / 0x10 % 0x10) + unit % 0x10 = unit := by omega
  simp only [hexDigits, List.foldlM_cons, List.foldlM_nil, first, second, third, fourth,
    Option.map_some, Option.bind_eq_bind, Option.bind_some, Option.pure_def, value]

theorem readUnits_unitEscape {unit : Nat} (small : unit < 0x10000) (rest : List Char) :
    readUnits (unitEscape unit ++ rest) =
      (readUnits rest).map (fun r => (unit :: r.1, r.2)) := by
  have digits := hexDigits_unit small
  simp only [unitEscape, List.cons_append, List.nil_append]
  rw [readUnits.eq_def]
  simp only [digits]
  cases readUnits rest with
  | none => rfl
  | some found => rfl

theorem readUnits_utf16 (c : Nat) (rest : List Char) :
    readUnits ((utf16 c).flatMap unitEscape ++ rest) =
      (readUnits rest).map (fun r => (utf16 c ++ r.1, r.2)) := by
  unfold utf16
  split
  · rename_i small
    rw [List.flatMap_singleton, readUnits_unitEscape small]
    rfl
  · rw [List.flatMap_cons, List.flatMap_singleton, List.append_assoc,
      readUnits_unitEscape (by omega), readUnits_unitEscape (by omega), Option.map_map]
    rfl

theorem readUnits_escape {letter : Char} {unit : Nat} (known : escape letter = some unit)
    (plain : letter ≠ 'u') (rest : List Char) :
    readUnits ('\\' :: letter :: rest) = (readUnits rest).map (fun r => (unit :: r.1, r.2)) := by
  rw [readUnits.eq_def]
  split
  · rename_i absent
    cases absent
  · rename_i opened
    exact absurd (List.cons.inj opened).1 (by decide)
  · rename_i whole
    simp only [List.cons.injEq] at whole
    exact absurd whole.2.1 plain
  · rename_i other after _ whole
    simp only [List.cons.injEq, true_and] at whole
    rcases whole with ⟨rfl, rfl⟩
    rw [known]
    cases readUnits rest with
    | none => rfl
    | some found => rfl
  · rename_i c after _ _ last whole
    exact absurd (List.cons.inj whole).1.symm (fun same => last letter rest same (List.cons.inj whole).2.symm)

/-- A printable character stands for itself. -/
theorem readUnits_printable {c : Char} (quote : c ≠ '"') (slash : c ≠ '\\')
    (printable : 32 ≤ c.toNat) (rest : List Char) :
    readUnits (c :: rest) = (readUnits rest).map (fun r => (c.toNat :: r.1, r.2)) := by
  rw [readUnits.eq_def]
  split
  · rename_i absent
    cases absent
  · rename_i opened
    exact absurd (List.cons.inj opened).1 quote
  · rename_i whole
    exact absurd (List.cons.inj whole).1 slash
  · rename_i whole
    exact absurd (List.cons.inj whole).1 slash
  · rename_i whole
    rcases List.cons.inj whole with ⟨rfl, rfl⟩
    rw [if_neg (Nat.not_lt.mpr printable)]

/-- Each code point is read back in UTF-16. -/
theorem readUnits_quoteChar (c : Nat) (rest : List Char) :
    readUnits (quoteChar c ++ rest) =
      (readUnits rest).map (fun r => (utf16 c ++ r.1, r.2)) := by
  have letter : forall {name : Char} {unit : Nat}, escape name = some unit -> name ≠ 'u' ->
      unit < 0x10000 -> readUnits (['\\', name] ++ rest) =
        (readUnits rest).map (fun r => (utf16 unit ++ r.1, r.2)) := by
    intro name unit known plain small
    have single : utf16 unit = [unit] := if_pos small
    rw [single]
    exact readUnits_escape known plain rest
  unfold quoteChar
  split_ifs with quote slash newline carriage tab feed back printable
  · subst quote
    exact letter rfl (by decide) (by decide)
  · subst slash
    exact letter rfl (by decide) (by decide)
  · subst newline
    exact letter rfl (by decide) (by decide)
  · subst carriage
    exact letter rfl (by decide) (by decide)
  · subst tab
    exact letter rfl (by decide) (by decide)
  · subst feed
    exact letter rfl (by decide) (by decide)
  · subst back
    exact letter rfl (by decide) (by decide)
  · have code : (Char.ofNat c).toNat = c := by
      have valid : c.isValidChar := Or.inl (by omega)
      rw [Char.ofNat, dif_pos valid]
      rfl
    have single : utf16 c = [c] := if_pos (by omega)
    have read := readUnits_printable (c := Char.ofNat c)
      (fun same => quote (code ▸ congrArg Char.toNat same))
      (fun same => slash (code ▸ congrArg Char.toNat same)) (by omega) rest
    rw [code] at read
    rw [single]
    exact read
  · exact readUnits_utf16 c rest

theorem readString_quoteTail (text : CodePoints) (rest : List Char) :
    readString (quoteTail text ++ rest) = some (rejoined text, rest) := by
  have units : readUnits (quoteTail text ++ rest) = some (text.flatMap utf16, rest) := by
    unfold quoteTail
    induction text with
    | nil => rw [List.flatMap_nil]; rfl
    | cons c text ih =>
        rw [List.flatMap_cons, List.append_assoc, List.append_assoc, readUnits_quoteChar,
          ← List.append_assoc, ih]
        rfl
  unfold readString
  rw [units]
  rfl

/-! ## Numbers -/

/-- What follows a value in an object. -/
inductive EndsValue : List Char -> Prop
  | comma (rest : List Char) : EndsValue (',' :: rest)
  | brace (rest : List Char) : EndsValue ('\x7d' :: rest)

theorem head_toDigits {n : Nat} (positive : 0 < n) :
    exists c rest, Nat.toDigits 10 n = c :: rest ∧ c ≠ '0' := by
  induction n using Nat.base_induction 10 (by decide) with
  | single m small =>
      have known : forall d, d < 10 -> 0 < d -> Nat.digitChar d ≠ '0' := by decide
      exact ⟨_, [], Nat.toDigits_of_lt_base small, known m small positive⟩
  | digit m k less above ih =>
      rcases ih above with ⟨c, rest, same, plain⟩
      refine ⟨c, rest ++ Nat.toDigits 10 k, ?_, plain⟩
      rw [← Nat.toDigits_append_toDigits (by decide) above less, same]
      rfl

theorem span_digits {digits rest : List Char}
    (isRun : forall c, c ∈ digits -> c.isDigit = true) (ends : EndsValue rest) :
    (digits ++ rest).span Char.isDigit = (digits, rest) := by
  rw [List.span_eq_takeWhile_dropWhile, List.takeWhile_append_of_pos isRun,
    List.dropWhile_append_of_pos isRun]
  cases ends with
  | comma rest => simp
  | brace rest => simp

theorem wholePart_toDigits (n : Nat) {rest : List Char} (ends : EndsValue rest) :
    wholePart (Nat.toDigits 10 n ++ rest) = some (Nat.toDigits 10 n, rest) := by
  have isRun : forall c, c ∈ Nat.toDigits 10 n -> c.isDigit = true :=
    fun c here => Nat.isDigit_of_mem_toDigits (by decide) (by decide) here
  rcases Nat.eq_zero_or_pos n with rfl | positive
  · rfl
  · rcases head_toDigits positive with ⟨c, digits, same, plain⟩
    have digit : c.isDigit = true := isRun c (same ▸ List.mem_cons_self)
    have spanned := span_digits isRun ends
    rw [same] at spanned ⊢
    rw [List.cons_append] at spanned ⊢
    simp only [wholePart, if_neg plain, if_pos digit, spanned]

/-- After its sign a number is read back as it is. -/
theorem readUnsigned_toDigits {dialect : Dialect} (negative : Bool) {n : Nat} {rest : List Char}
    (fits : forall limit, dialect.maxDigits = some limit -> (Nat.toDigits 10 n).length ≤ limit)
    (ends : EndsValue rest) :
    readUnsigned dialect negative (Nat.toDigits 10 n ++ rest) =
      .ok (.number ⟨if negative then -(n : Int) else n, 0, true⟩, rest) := by
  have value : decimal (Nat.toDigits 10 n) = n := Nat.ofDigitChars_ten_toDigits
  have fraction : fractionPart rest = ([], rest) := by
    cases ends with
    | comma rest => rfl
    | brace rest => rfl
  have exponent : exponentPart rest = (none, rest) := by
    cases ends with
    | comma rest => rfl
    | brace rest => rfl
  have short : dialect.maxDigits.any
      (fun limit => decide (limit < (Nat.toDigits 10 n).length)) = false := by
    cases limited : dialect.maxDigits with
    | none => rfl
    | some limit => exact decide_eq_false (Nat.not_lt.mpr (fits limit limited))
  unfold readUnsigned
  rw [wholePart_toDigits n ends]
  simp only [fraction, exponent, short, value, List.append_nil, List.isEmpty_nil, Bool.and_false,
    Option.isNone_none, Bool.true_and, Bool.false_eq_true, if_false, Option.getD_none,
    List.length_nil]
  rfl

/-- The digits of a number begin with one. -/
theorem exists_toDigits_eq_cons (n : Nat) :
    exists c rest, Nat.toDigits 10 n = c :: rest ∧ c.isDigit = true := by
  cases digits : Nat.toDigits 10 n with
  | nil => exact absurd digits Nat.toDigits_ne_nil
  | cons c rest =>
      have listed : c ∈ Nat.toDigits 10 n := digits ▸ List.mem_cons_self
      exact ⟨c, rest, rfl, Nat.isDigit_of_mem_toDigits (by decide) (by decide) listed⟩

/-- A text that begins with a digit is read as a number. -/
theorem readValue_of_isDigit (dialect : Dialect) (fuel depth : Nat) {c : Char}
    (digit : c.isDigit = true) (rest : List Char) :
    readValue dialect (fuel + 1) depth (c :: rest) = readUnsigned dialect false (c :: rest) := by
  have other : forall letter : Char, letter.isDigit = false -> forall after : List Char,
      c :: rest ≠ letter :: after :=
    fun letter plain after same => ne_of_isDigit digit plain (List.cons.inj same).1
  have scalar : readScalar dialect (c :: rest) = readUnsigned dialect false (c :: rest) := by
    unfold readScalar
    split
    · rename_i whole
      exact absurd whole (other _ (by decide) _)
    · rename_i whole
      exact absurd whole (other _ (by decide) _)
    · rename_i whole
      exact absurd whole (other _ (by decide) _)
    · rename_i whole
      exact absurd whole (other _ (by decide) _)
    · rename_i whole
      exact absurd whole (other _ (by decide) _)
    · rename_i whole
      exact absurd whole (other _ (by decide) _)
    · rfl
  unfold readValue
  split
  · rename_i whole
    exact absurd whole (other _ (by decide) _)
  · rename_i whole
    exact absurd whole (other _ (by decide) _)
  · rename_i whole
    exact absurd whole (other _ (by decide) _)
  · exact scalar

/-- So is one with a minus sign, unless it is `-Infinity`. -/
theorem readValue_minus (dialect : Dialect) (fuel depth : Nat) {c : Char}
    (digit : c.isDigit = true) (rest : List Char) :
    readValue dialect (fuel + 1) depth ('-' :: c :: rest) =
      readUnsigned dialect true (c :: rest) := by
  have name : "Infinity".toList.isPrefixOf (c :: rest) = false := by
    have letter : ('I' == c) = false :=
      beq_eq_false_iff_ne.mpr (Ne.symm (ne_of_isDigit digit (by decide)))
    have word : "Infinity".toList = 'I' :: "nfinity".toList := by decide
    rw [word, List.isPrefixOf_cons_cons, letter, Bool.false_and]
  have scalar : readScalar dialect ('-' :: c :: rest) = readUnsigned dialect true (c :: rest) := by
    simp only [readScalar, name, Bool.and_false, Bool.false_eq_true, if_false]
  exact scalar

/-! ## Objects -/

theorem readValue_scalar (dialect : Dialect) (fuel depth : Nat) {scalar : Scalar}
    {rest : List Char} (fits : scalar.Fits dialect) (ends : EndsValue rest) :
    readValue dialect (fuel + 1) depth (scalar.dump ++ rest) = .ok (scalar.readBack, rest) := by
  cases scalar with
  | text value =>
      simp only [Scalar.dump, List.cons_append, readValue, readString_quoteTail, Scalar.readBack]
  | whole value =>
      cases value with
      | ofNat n =>
          have number := readUnsigned_toDigits false fits ends
          rcases exists_toDigits_eq_cons n with ⟨c, others, digits, digit⟩
          simp only [Scalar.dump, intText, Int.ofNat_eq_natCast, Int.natAbs_natCast, digits,
            List.cons_append] at number ⊢
          rw [readValue_of_isDigit dialect fuel depth digit]
          exact number
      | negSucc n =>
          have number := readUnsigned_toDigits true fits ends
          rcases exists_toDigits_eq_cons (n + 1) with ⟨c, others, digits, digit⟩
          simp only [Scalar.dump, intText, Int.natAbs_negSucc, digits,
            List.cons_append] at number ⊢
          rw [readValue_minus dialect fuel depth digit]
          exact number

theorem skip_quote (rest : List Char) : skip ('"' :: rest) = '"' :: rest := rfl

/-- A value begins with a character that is not blank. -/
theorem skip_dump (scalar : Scalar) (rest : List Char) :
    skip (scalar.dump ++ rest) = scalar.dump ++ rest := by
  cases scalar with
  | text value => rfl
  | whole value =>
      cases value with
      | ofNat n =>
          rcases exists_toDigits_eq_cons n with ⟨c, others, digits, digit⟩
          have printed : isBlank c = false := by
            simp [isBlank, ne_of_isDigit digit]
          simp only [Scalar.dump, intText, digits, List.cons_append, skip]
          exact List.dropWhile_cons_of_neg (by simp [printed])
      | negSucc n => rfl

/-- One member, with what follows it. -/
theorem readMembers_member (dialect : Dialect) (fuel depth : Nat) {m : CodePoints × Scalar}
    {rest : List Char} (fits : m.2.Fits dialect) (ends : EndsValue rest) :
    readMembers dialect (fuel + 1 + 1) depth
        ('"' :: quoteTail m.1 ++ ':' :: ' ' :: (m.2.dump ++ rest)) =
      match rest with
      | ',' :: after => (readMembers dialect (fuel + 1) depth after).map
          (fun r => ((rejoined m.1, m.2.readBack) :: r.1, r.2))
      | _ => .ok ([(rejoined m.1, m.2.readBack)], rest.tail) := by
  have value := readValue_scalar dialect fuel depth fits ends
  have blank : skip (' ' :: (m.2.dump ++ rest)) = m.2.dump ++ rest := skip_dump m.2 rest
  have colon : forall after, skip (':' :: after) = ':' :: after := fun after => rfl
  unfold readMembers
  rw [List.cons_append, skip_quote]
  simp only [readString_quoteTail, colon, blank, value]
  cases ends with
  | comma after => rfl
  | brace after => rfl

/-- The members are read back one after the other. -/
theorem readMembers_dumpMembers (dialect : Dialect) (depth : Nat)
    {members : List (CodePoints × Scalar)} (nonempty : members ≠ [])
    (fits : forall m, m ∈ members -> m.2.Fits dialect) {fuel : Nat}
    (enough : members.length < fuel) :
    readMembers dialect fuel depth (dumpMembers members) =
      .ok (members.map (fun m => (rejoined m.1, m.2.readBack)), []) := by
  induction members generalizing fuel with
  | nil => exact absurd rfl nonempty
  | cons m others ih =>
      obtain ⟨spare, rfl⟩ : exists spare, fuel = spare + 1 + 1 := by
        rw [List.length_cons] at enough
        exact ⟨fuel - 2, by omega⟩
      have own := fits m List.mem_cons_self
      cases others with
      | nil => exact readMembers_member dialect spare depth own (EndsValue.brace [])
      | cons next later =>
          have tail := ih (List.cons_ne_nil next later)
            (fun other here => fits other (List.mem_cons_of_mem m here))
            (Nat.lt_of_succ_lt_succ enough)
          have blank : readMembers dialect (spare + 1) depth
              (' ' :: dumpMembers (next :: later)) =
                readMembers dialect (spare + 1) depth (dumpMembers (next :: later)) := by
            cases later <;> rfl
          simp only [dumpMembers]
          rw [readMembers_member dialect spare depth own (EndsValue.comma _)]
          simp only [blank, tail]
          rfl

theorem length_dumpMembers (members : List (CodePoints × Scalar)) :
    members.length ≤ (dumpMembers members).length := by
  fun_induction dumpMembers members with
  | case1 => exact Nat.le_refl 0
  | case2 m => simp
  | case3 m rest _ ih =>
      simp only [List.length_cons, List.length_append]
      omega

/-- The object that is dumped is read back, by a reader that can nest. -/
theorem parse_dumpObject {dialect : Dialect} {members : List (CodePoints × Scalar)}
    (nonempty : members ≠ []) (fits : forall m, m ∈ members -> m.2.Fits dialect)
    (nests : dialect.maxDepth ≠ some 0) :
    parse dialect (dumpObject members) =
      .ok (.object (members.map (fun m => (rejoined m.1, m.2.readBack)))) := by
  have nestable : dialect.maxDepth.any (fun limit => decide (limit ≤ 0)) = false := by
    cases limited : dialect.maxDepth with
    | none => rfl
    | some limit =>
        have positive : limit ≠ 0 := fun zero => nests (zero ▸ limited)
        simp [positive]
  have quote : exists after, skip (dumpMembers members) = '"' :: after := by
    cases members with
    | nil => exact absurd rfl nonempty
    | cons m rest => cases rest <;> exact ⟨_, rfl⟩
  have brace : forall after, skip ('\x7b' :: after) = '\x7b' :: after := fun after => rfl
  rcases quote with ⟨after, opened⟩
  have room : members.length < 2 * (dumpObject members).length + 1 := by
    have longer := length_dumpMembers members
    rw [dumpObject, List.length_cons]
    omega
  have read := readMembers_dumpMembers dialect 1 nonempty fits room
  unfold parse
  rw [dumpObject, brace, ← dumpObject]
  simp only [readValue, dumpObject, nestable, opened] at read ⊢
  simp only [read]
  rfl

end JsonText
