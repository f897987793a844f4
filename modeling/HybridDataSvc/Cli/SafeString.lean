import HybridDataSvc.Text.Stringify

namespace HybridDataSvc
namespace Connection

open JsonText

/-!
# Texts in evaluated code

`safeString` of `connection.js` makes the literal of a text that is put into an
expression for the chart.  What is written as JSON is read here by the rules of
a script, which has other escapes, takes an escaped letter for itself, and
breaks off at the end of a line.
-/

/-- `safeString(str)`, of a text. -/
def safeString (str : JsString) : List Char := '"' :: str.quoteTail

/-- A line feed, a carriage return, and the two separators of Unicode. -/
def isLineTerminator (c : Char) : Bool :=
  decide (c.toNat = 10) || decide (c.toNat = 13) || decide (c.toNat = 0x2028) ||
    decide (c.toNat = 0x2029)

/-- The escape of one character.  An escape by number is none here, and neither is an octal
one; an escaped end of the line continues the literal. -/
def charEscape (c : Char) : Option (List Nat) :=
  if c = 'b' then some [8]
  else if c = 't' then some [9]
  else if c = 'n' then some [10]
  else if c = 'v' then some [11]
  else if c = 'f' then some [12]
  else if c = 'r' then some [13]
  else if c = 'x' ∨ c = 'u' ∨ c.isDigit = true then none
  else if isLineTerminator c then some []
  else some (utf16 c.toNat)

/-- A literal of a script after its opening quote: its code units, and the code after it. -/
def literalTail : List Char -> Option (List Nat × List Char)
  | [] => none
  | '"' :: rest => some ([], rest)
  | '\\' :: 'u' :: a :: b :: c :: d :: rest =>
    match hexDigits [a, b, c, d], literalTail rest with
    | some unit, some (units, after) => some (unit :: units, after)
    | _, _ => none
  | '\\' :: c :: rest =>
    match charEscape c, literalTail rest with
    | some own, some (units, after) => some (own ++ units, after)
    | _, _ => none
  | c :: rest =>
    if c.toNat = 10 ∨ c.toNat = 13 then none
    else (literalTail rest).map (fun r => (utf16 c.toNat ++ r.1, r.2))

/-- A literal in double quotes at the beginning of the code. -/
def readLiteral : List Char -> Option (JsString × List Char)
  | '"' :: rest => (literalTail rest).map (fun r => (r.1.map UInt16.ofNat, r.2))
  | _ => none

/-! ## What is written is read -/

theorem literalTail_unitEscape {unit : Nat} (small : unit < 0x10000) (rest : List Char) :
    literalTail (unitEscape unit ++ rest) =
      (literalTail rest).map (fun r => ([unit] ++ r.1, r.2)) := by
  have digits := hexDigits_unit small
  simp only [unitEscape, List.cons_append, List.nil_append]
  rw [literalTail.eq_def]
  simp only [digits]
  cases literalTail rest with
  | none => rfl
  | some found => rfl

theorem literalTail_escape {letter : Char} {own : List Nat} (known : charEscape letter = some own)
    (plain : letter ≠ 'u') (rest : List Char) :
    literalTail ('\\' :: letter :: rest) = (literalTail rest).map (fun r => (own ++ r.1, r.2)) := by
  rw [literalTail.eq_def]
  split
  · rename_i absent
    cases absent
  · rename_i opened
    exact absurd (List.cons.inj opened).1 (by decide)
  · rename_i whole
    simp only [List.cons.injEq] at whole
    exact absurd whole.2.1 plain
  · rename_i other after _ whole
    simp only [List.cons.injEq, true_and] at whole
    rcases whole with ⟨rfl, rfl⟩
    rw [known]
    cases literalTail rest with
    | none => rfl
    | some found => rfl
  · rename_i c after _ _ last whole
    exact absurd (List.cons.inj whole).1.symm
      (fun same => last letter rest same (List.cons.inj whole).2.symm)

theorem literalTail_char {c : Char} (quote : c ≠ '"') (slash : c ≠ '\\')
    (inLine : ¬ (c.toNat = 10 ∨ c.toNat = 13)) (rest : List Char) :
    literalTail (c :: rest) = (literalTail rest).map (fun r => (utf16 c.toNat ++ r.1, r.2)) := by
  rw [literalTail.eq_def]
  split
  · rename_i absent
    cases absent
  · rename_i opened
    exact absurd (List.cons.inj opened).1 quote
  · rename_i whole
    exact absurd (List.cons.inj whole).1 slash
  · rename_i whole
    exact absurd (List.cons.inj whole).1 slash
  · rename_i whole
    rcases List.cons.inj whole with ⟨rfl, rfl⟩
    rw [if_neg inLine]

/-- A script reads each code point as its code units. -/
theorem literalTail_quoteCode {c : Nat} (bound : c < 0x110000) (rest : List Char) :
    literalTail (quoteCode c ++ rest) =
      (literalTail rest).map (fun r => (utf16 c ++ r.1, r.2)) := by
  have escaped : forall {letter : Char} {own : List Nat}, charEscape letter = some own ->
      letter ≠ 'u' -> own = utf16 c ->
      literalTail (['\\', letter] ++ rest) =
        (literalTail rest).map (fun r => (utf16 c ++ r.1, r.2)) := by
    intro letter own known plain same
    subst same
    exact literalTail_escape known plain rest
  unfold quoteCode
  split_ifs with quote slash back tab newline feed carriage control
  · subst quote
    exact escaped rfl (by decide) rfl
  · subst slash
    exact escaped rfl (by decide) rfl
  · subst back
    exact escaped rfl (by decide) rfl
  · subst tab
    exact escaped rfl (by decide) rfl
  · subst newline
    exact escaped rfl (by decide) rfl
  · subst feed
    exact escaped rfl (by decide) rfl
  · subst carriage
    exact escaped rfl (by decide) rfl
  · have small : c < 0x10000 := by
      simp only [isHigh, isLow, Bool.and_eq_true, decide_eq_true_eq] at control
      omega
    rw [literalTail_unitEscape small, utf16, if_pos small]
  · rw [not_or, not_lt] at control
    have valid := valid_of_not_half bound control.2
    have code : (Char.ofNat c).toNat = c := by
      rw [Char.ofNat, dif_pos valid]
      rfl
    have read := literalTail_char (c := Char.ofNat c)
      (fun same => quote (code ▸ congrArg Char.toNat same))
      (fun same => slash (code ▸ congrArg Char.toNat same)) (by rw [code]; omega) rest
    rw [code] at read
    exact read

/-- Taken apart into code units again, joined pairs are what they were. -/
theorem flatMap_utf16_joinPairs {units : List Nat} (small : forall unit, unit ∈ units -> unit < 0x10000) :
    (joinPairs units).flatMap utf16 = units := by
  have single : forall {unit : Nat}, unit < 0x10000 -> utf16 unit = [unit] := by
    intro unit below
    rw [utf16, if_pos below]
  induction units using joinPairs.induct with
  | case1 => rfl
  | case2 unit =>
      rw [joinPairs, List.flatMap_singleton, single (small unit List.mem_cons_self)]
  | case3 high low rest pair ih =>
      have later := ih (fun unit here =>
        small unit (List.mem_cons_of_mem high (List.mem_cons_of_mem low here)))
      rw [joinPairs, if_pos pair, List.flatMap_cons, later]
      simp only [isHigh, isLow, Bool.and_eq_true, decide_eq_true_eq] at pair
      have first : 0xD800 + (0x10000 + (high - 0xD800) * 0x400 + (low - 0xDC00) - 0x10000) / 0x400 %
          0x400 = high := by omega
      have second : 0xDC00 + (0x10000 + (high - 0xD800) * 0x400 + (low - 0xDC00) - 0x10000) %
          0x400 = low := by omega
      rw [utf16, if_neg (by omega), first, second]
      rfl
  | case4 high low rest apart ih =>
      have later := ih (fun unit here => small unit (List.mem_cons_of_mem high here))
      rw [joinPairs, if_neg apart, List.flatMap_cons, later, single (small high List.mem_cons_self),
        List.singleton_append]

/-- Wherever the literal of a text stands in evaluated code, the script reads the text and
nothing else, and goes on with the code behind it. -/
theorem readLiteral_safeString (str : JsString) (after : List Char) :
    readLiteral (safeString str ++ after) = some (str, after) := by
  have units : forall points : CodePoints, (forall c, c ∈ points -> c < 0x110000) ->
      literalTail (points.flatMap quoteCode ++ ['"'] ++ after) =
        some (points.flatMap utf16, after) := by
    intro points bound
    induction points with
    | nil => rfl
    | cons c points ih =>
        have inner := ih (fun d here => bound d (List.mem_cons_of_mem c here))
        rw [List.flatMap_cons, List.append_assoc, List.append_assoc,
          literalTail_quoteCode (bound c List.mem_cons_self), ← List.append_assoc, inner]
        rfl
  have small : forall unit, unit ∈ str.map UInt16.toNat -> unit < 0x10000 := by
    intro unit here
    rcases List.mem_map.mp here with ⟨own, -, rfl⟩
    exact own.toNat_lt
  have back : (str.map UInt16.toNat).map UInt16.ofNat = str := by
    rw [List.map_map]
    exact (List.map_congr_left (fun unit _ => UInt16.ofNat_toNat)).trans (List.map_id str)
  rw [safeString, List.cons_append, readLiteral, JsString.quoteTail,
    units _ (codePoints_bound str), JsString.codePoints, flatMap_utf16_joinPairs small,
    Option.map_some, back]

end Connection
end HybridDataSvc
