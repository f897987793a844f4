import HybridDataSvc.Text.Json
import HybridDataSvc.Text.Python
import Mathlib.Algebra.Order.Ring.Rat
import Mathlib.Data.List.TakeWhile

namespace NumberText

open JsonText
open PyText (trim trim_eq_self)

/-!
# Numbers in texts

`int(text)` of Python and `Number(text)` of JavaScript.  They read different
texts as numbers, and a JavaScript number is a binary64 one.
-/

/-! ## Binary64 -/

/-- A binary64 number; the sign of a zero is dropped. -/
inductive Double
  | nan
  | infinite (negative : Bool)
  | finite (value : Rat)
  deriving DecidableEq, Repr

/-- `a / b` to the nearest whole number, a tie to the even one. -/
def roundQuotient (a b : Nat) : Nat :=
  if 2 * (a % b) < b then a / b
  else if b < 2 * (a % b) then a / b + 1
  else a / b + a / b % 2

/-- The largest `e` with `2 ^ e ≤ a / b`. -/
def floorLog (a b : Nat) : Int :=
  let e : Int := (a.log2 : Int) - b.log2
  if (if 0 ≤ e then b * 2 ^ e.toNat ≤ a else b ≤ a * 2 ^ (-e).toNat) then e else e - 1

/-- The exponent of the last bit of the significand of `a / b`. -/
def lastBit (a b : Nat) : Int :=
  if -1074 ≤ floorLog a b - 52 then floorLog a b - 52 else -1074

/-- Numbers from two to this power on are infinite. -/
def maxExponent : Nat := 1024

/-- `a / b` to a binary64 number, if exponents had no upper limit. -/
def roundSize (a b : Nat) : Rat :=
  let u := lastBit a b
  let significand :=
    if 0 ≤ u then roundQuotient a (b * 2 ^ u.toNat) else roundQuotient (a * 2 ^ (-u).toNat) b
  mkRat (significand * 2 ^ u.toNat) (2 ^ (-u).toNat)

/-- The binary64 number nearest to `a / b`, up to the sign. -/
def roundFraction (negative : Bool) (a b : Nat) : Double :=
  let size := roundSize a b
  if ((2 ^ maxExponent : Nat) : Rat) ≤ size then .infinite negative
  else .finite (if negative then -size else size)

/-- The binary64 number nearest to a rational one, if exponents had no upper limit. -/
def nearest (x : Rat) : Rat :=
  if x < 0 then -roundSize x.num.natAbs x.den else roundSize x.num.natAbs x.den

/-- The binary64 number nearest to `size * 10 ^ exponent`, up to the sign. -/
def toDouble (negative : Bool) (size : Nat) (exponent : Int) : Double :=
  if size = 0 then .finite 0
  else roundFraction negative (size * 10 ^ exponent.toNat) (10 ^ (-exponent).toNat)

def ofNumeral (numeral : Numeral) : Double :=
  toDouble (decide (numeral.mantissa < 0)) numeral.mantissa.natAbs numeral.exponent

/-! ## Both -/

/-- The characters of a text that is all ASCII. -/
def ascii (text : CodePoints) : Option (List Char) :=
  if text.all (fun c => decide (c < 128)) then some (text.map Char.ofNat) else none

/-- `\t`, `\n`, `\v`, `\f`, `\r` and the blank. -/
def isAsciiSpace (c : Nat) : Bool := (9 ≤ c && c ≤ 13) || c == 32

/-! ## Python -/

/-- The code points above ASCII for which `str.isspace` holds. -/
def isWideSpace (c : Nat) : Bool :=
  c == 0x85 || c == 0xa0 || c == 0x1680 || (0x2000 ≤ c && c ≤ 0x200a) || c == 0x2028 ||
    c == 0x2029 || c == 0x202f || c == 0x205f || c == 0x3000

/-- The zeros of Unicode above ASCII.  Each is followed by its other nine digits. -/
def zeros : List Nat :=
  [0x660, 0x6f0, 0x7c0, 0x966, 0x9e6, 0xa66, 0xae6, 0xb66, 0xbe6, 0xc66, 0xce6, 0xd66, 0xde6,
    0xe50, 0xed0, 0xf20, 0x1040, 0x1090, 0x17e0, 0x1810, 0x1946, 0x19d0, 0x1a80, 0x1a90, 0x1b50,
    0x1bb0, 0x1c40, 0x1c50, 0xa620, 0xa8d0, 0xa900, 0xa9d0, 0xa9f0, 0xaa50, 0xabf0, 0xff10,
    0x104a0, 0x10d30, 0x11066, 0x110f0, 0x11136, 0x111d0, 0x112f0, 0x11450, 0x114d0, 0x11650,
    0x116c0, 0x11730, 0x118e0, 0x11950, 0x11c50, 0x11d50, 0x11da0, 0x11f50, 0x16a60, 0x16ac0,
    0x16b50, 0x1d7ce, 0x1d7d8, 0x1d7e2, 0x1d7ec, 0x1d7f6, 0x1e140, 0x1e2f0, 0x1e4f0, 0x1e950,
    0x1fbf0]

/-- What `int` makes of a code point: a space, a digit, or something that no
number contains. -/
def toAscii (c : Nat) : Char :=
  if c < 127 then Char.ofNat c
  else if isWideSpace c then ' '
  else
    match zeros.find? (fun first => first ≤ c && c < first + 10) with
    | some first => Char.ofNat ('0'.toNat + (c - first))
    | none => '?'

/-- Digits, with single underscores between them. -/
def digitGroups : List Char -> Option (List Char)
  | [] => none
  | [c] => if c.isDigit then some [c] else none
  | c :: '_' :: rest => if c.isDigit then (digitGroups rest).map (fun r => c :: r) else none
  | c :: rest => if c.isDigit then (digitGroups rest).map (fun r => c :: r) else none

/-- The digits that `int` converts, `sys.get_int_max_str_digits()`. -/
def maxIntDigits : Nat := 4300

/-- `int(text)`; nothing when it raises `ValueError`. -/
def pyInt (text : CodePoints) : Option Int :=
  let (negative, unsigned) := signPart (trim (fun c => isAsciiSpace c.toNat) (text.map toAscii))
  match digitGroups unsigned with
  | none => none
  | some digits =>
    if maxIntDigits < digits.length then none
    else some (if negative then -(decimal digits : Int) else decimal digits)

/-! ## JavaScript -/

/-- White space and line ends of JavaScript. -/
def isJsSpace (c : Nat) : Bool :=
  isAsciiSpace c || c == 0xa0 || c == 0xfeff || c == 0x1680 || (0x2000 ≤ c && c ≤ 0x200a) ||
    c == 0x2028 || c == 0x2029 || c == 0x202f || c == 0x205f || c == 0x3000

/-- Digits of a base up to 16. -/
def radixDigits (base : Nat) (digits : List Char) : Option Nat :=
  if digits = [] then none
  else
    digits.foldlM
      (fun n c => (hexDigit c).bind (fun d => if d < base then some (base * n + d) else none)) 0

def ofRadix (base : Nat) (digits : List Char) : Double :=
  match radixDigits base digits with
  | some n => toDouble false n 0
  | none => .nan

/-- A decimal literal with its sign. -/
def decimalLiteral (text : List Char) : Double :=
  let (negative, unsigned) := signPart text
  if unsigned = "Infinity".toList then .infinite negative
  else
    let (whole, afterWhole) := unsigned.span Char.isDigit
    let (fraction, afterFraction) :=
      match afterWhole with
      | '.' :: rest => rest.span Char.isDigit
      | _ => ([], afterWhole)
    let (exponent, rest) := exponentPart afterFraction
    if whole ++ fraction = [] ∨ rest ≠ [] then .nan
    else toDouble negative (decimal (whole ++ fraction)) (exponent.getD 0 - fraction.length)

/-- `Number(text)`. -/
def jsNumber (text : CodePoints) : Double :=
  match ascii (trim isJsSpace text) with
  | none => .nan
  | some [] => .finite 0
  | some ('0' :: mark :: digits) =>
    if mark = 'x' ∨ mark = 'X' then ofRadix 16 digits
    else if mark = 'o' ∨ mark = 'O' then ofRadix 8 digits
    else if mark = 'b' ∨ mark = 'B' then ofRadix 2 digits
    else decimalLiteral ('0' :: mark :: digits)
  | some literal => decimalLiteral literal

/-! ## Plain decimals

A run of ASCII digits is the same number for both, as far as binary64 is
exact.
-/

theorem toNat_of_isDigit {c : Char} (digit : c.isDigit = true) : 48 ≤ c.toNat ∧ c.toNat ≤ 57 := by
  unfold Char.isDigit at digit
  rw [Bool.and_eq_true, decide_eq_true_eq, decide_eq_true_eq] at digit
  exact ⟨UInt32.le_iff_toNat_le.mp digit.1, UInt32.le_iff_toNat_le.mp digit.2⟩

/-- A character that is no digit. -/
theorem ne_of_isDigit {c other : Char} (digit : c.isDigit = true)
    (letter : other.isDigit = false) : c ≠ other := by
  rintro rfl
  rw [digit] at letter
  cases letter

theorem isAsciiSpace_of_isDigit {c : Char} (digit : c.isDigit = true) :
    isAsciiSpace c.toNat = false := by
  have range := toNat_of_isDigit digit
  simp only [isAsciiSpace, Bool.or_eq_false_iff, Bool.and_eq_false_iff, decide_eq_false_iff_not,
    beq_eq_false_iff_ne]
  omega

theorem isJsSpace_of_isDigit {c : Char} (digit : c.isDigit = true) :
    isJsSpace c.toNat = false := by
  have range := toNat_of_isDigit digit
  simp only [isJsSpace, isAsciiSpace, Bool.or_eq_false_iff, Bool.and_eq_false_iff,
    decide_eq_false_iff_not, beq_eq_false_iff_ne]
  omega

/-- A run of digits. -/
def IsRun (run : List Char) : Prop := run ≠ [] ∧ forall c, c ∈ run -> c.isDigit = true

theorem ascii_of_digits {run : List Char} (digits : forall c, c ∈ run -> c.isDigit = true) :
    ascii (run.map Char.toNat) = some run := by
  have small : (run.map Char.toNat).all (fun c => decide (c < 128)) = true := by
    rw [List.all_map, List.all_eq_true]
    intro c here
    have range := toNat_of_isDigit (digits c here)
    simp only [Function.comp, decide_eq_true_eq]
    omega
  have back : (run.map Char.toNat).map Char.ofNat = run := by
    rw [List.map_map]
    exact List.map_id'' (fun c => Char.ofNat_toNat c) run
  unfold ascii
  rw [if_pos small, back]

theorem signPart_of_digits {run : List Char} (digits : forall c, c ∈ run -> c.isDigit = true) :
    signPart run = (false, run) := by
  unfold signPart
  split
  · exact absurd (digits '-' List.mem_cons_self) (by decide)
  · exact absurd (digits '+' List.mem_cons_self) (by decide)
  · rfl

theorem digitGroups_of_digits {run : List Char} (isRun : IsRun run) :
    digitGroups run = some run := by
  rcases isRun with ⟨nonempty, digits⟩
  fun_induction digitGroups run with
  | case1 => exact absurd rfl nonempty
  | case2 c digit => rfl
  | case3 c other => exact absurd (digits c List.mem_cons_self) other
  | case4 c rest digit ih =>
      exact absurd (digits '_' (List.mem_cons_of_mem c List.mem_cons_self)) (by decide)
  | case5 c rest other => exact absurd (digits c List.mem_cons_self) other
  | case6 c rest single _ digit ih =>
      rw [ih single (fun d here => digits d (List.mem_cons_of_mem c here))]
      rfl
  | case7 c rest _ _ other => exact absurd (digits c List.mem_cons_self) other

theorem pyInt_of_run {run : List Char} (isRun : IsRun run) (short : run.length ≤ maxIntDigits) :
    pyInt (run.map Char.toNat) = some (decimal run : Int) := by
  have chars : (run.map Char.toNat).map toAscii = run := by
    rw [List.map_map]
    conv_rhs => rw [← List.map_id run]
    refine List.map_congr_left (fun c here => ?_)
    have range := toNat_of_isDigit (isRun.2 c here)
    have low : c.toNat < 127 := by omega
    simp only [Function.comp, toAscii, if_pos low, Char.ofNat_toNat, id]
  have trimmed : trim (fun c : Char => isAsciiSpace c.toNat) run = run :=
    trim_eq_self (fun c here => isAsciiSpace_of_isDigit (isRun.2 c here))
  unfold pyInt
  rw [chars, trimmed, signPart_of_digits isRun.2]
  simp only [digitGroups_of_digits isRun]
  rw [if_neg (Nat.not_lt.mpr short)]
  rfl

theorem roundQuotient_one (a : Nat) : roundQuotient a 1 = a := by
  simp [roundQuotient, Nat.mod_one]

/-- Whole numbers below `2 ^ 53` are exact. -/
theorem toDouble_of_lt {n : Nat} (small : n < 2 ^ 53) : toDouble false n 0 = .finite n := by
  by_cases zero : n = 0
  · subst zero
    rfl
  · have bits : n.log2 < 53 := (Nat.log2_lt zero).mpr small
    have floor : floorLog n 1 = n.log2 := by
      have self := Nat.log2_self_le zero
      have one : Nat.log2 1 = 0 := by decide
      simp [floorLog, one, self]
    have last : lastBit n 1 = (n.log2 : Int) - 52 := by
      unfold lastBit
      rw [floor, if_pos (by omega)]
    obtain ⟨k, bound⟩ : exists k : Nat, lastBit n 1 = -(k : Int) := ⟨52 - n.log2, by omega⟩
    have significand : (if 0 ≤ lastBit n 1 then roundQuotient n (1 * 2 ^ (lastBit n 1).toNat)
        else roundQuotient (n * 2 ^ (-lastBit n 1).toNat) 1) = n * 2 ^ k := by
      rw [bound]
      by_cases top : k = 0
      · subst top
        simp [roundQuotient_one]
      · rw [if_neg (by omega), roundQuotient_one]
        simp
    have size : mkRat (((n * 2 ^ k : Nat) : Int) * 2 ^ (lastBit n 1).toNat)
        (2 ^ (-lastBit n 1).toNat) = (n : Rat) := by
      have positive : 0 < 2 ^ k := Nat.two_pow_pos k
      rw [bound]
      simp only [Int.neg_neg, Int.toNat_natCast, Int.toNat_neg_natCast, Int.pow_zero, Int.mul_one]
      calc
        mkRat ((n * 2 ^ k : Nat) : Int) (2 ^ k) = mkRat ((n : Int) * (2 ^ k : Nat)) (1 * 2 ^ k) := by
          rw [Int.natCast_mul, Nat.one_mul]
        _ = mkRat n 1 := Rat.mkRat_mul_right (Nat.ne_of_gt positive)
        _ = n := Rat.mkRat_one n
    have below : ¬ ((2 ^ maxExponent : Nat) : Rat) ≤ (n : Rat) := by
      rw [Rat.natCast_le_natCast, Nat.not_le]
      exact Nat.lt_of_lt_of_le small (Nat.pow_le_pow_right (by decide) (by decide))
    have fraction : toDouble false n 0 = roundFraction false n 1 := by
      simp [toDouble, zero]
    rw [fraction]
    have rounded : roundSize n 1 = (n : Rat) := by
      simp only [roundSize]
      rw [significand, size]
    simp only [roundFraction]
    rw [rounded, if_neg below]
    rfl

theorem jsNumber_of_run {run : List Char} (isRun : IsRun run) (small : decimal run < 2 ^ 53) :
    jsNumber (run.map Char.toNat) = .finite (decimal run) := by
  rcases isRun with ⟨nonempty, digits⟩
  have trimmed : trim isJsSpace (run.map Char.toNat) = run.map Char.toNat := by
    refine trim_eq_self (fun n here => ?_)
    rcases List.mem_map.mp here with ⟨c, listed, rfl⟩
    exact isJsSpace_of_isDigit (digits c listed)
  have literal : decimalLiteral run = .finite (decimal run) := by
    have word : run ≠ "Infinity".toList := by
      rintro rfl
      exact absurd (digits 'I' List.mem_cons_self) (by decide)
    have spanned : run.span Char.isDigit = (run, []) := by
      rw [List.span_eq_takeWhile_dropWhile, List.takeWhile_eq_self_iff.mpr digits,
        List.dropWhile_eq_nil_iff.mpr digits]
    unfold decimalLiteral
    rw [signPart_of_digits digits]
    simp only [word, if_false, spanned, List.append_nil, exponentPart, nonempty, ne_eq,
      not_true_eq_false, or_self, Option.getD_none, List.length_nil]
    exact toDouble_of_lt small
  unfold jsNumber
  rw [trimmed, ascii_of_digits digits]
  split
  · rename_i absent
    cases absent
  · rename_i empty
    cases empty
    exact absurd rfl nonempty
  · rename_i mark rest split
    cases split
    have second : mark.isDigit = true :=
      digits mark (List.mem_cons_of_mem '0' List.mem_cons_self)
    have letters : forall other : Char, other.isDigit = false -> mark ≠ other :=
      fun other letter => ne_of_isDigit second letter
    simp only [letters 'x' (by decide), letters 'X' (by decide), letters 'o' (by decide),
      letters 'O' (by decide), letters 'b' (by decide), letters 'B' (by decide), or_self, if_false]
    exact literal
  · rename_i other split
    cases split
    exact literal

end NumberText
