import Mathlib.Data.List.DropRight

namespace PyText

/-!
# Texts as Python reads them

`str.strip`, `str.split` and `int` on a text, over the code points of the
text.  White space and decimal digits are those of Unicode, as in Python, and
not those of ASCII.
-/

/-- `str.isspace` for one character. -/
def isSpace (c : Char) : Bool :=
  let n := c.toNat
  (9 ≤ n && n ≤ 13) || (28 ≤ n && n ≤ 32) || n == 0x85 || n == 0xa0 || n == 0x1680 ||
    (0x2000 ≤ n && n ≤ 0x200a) || n == 0x2028 || n == 0x2029 || n == 0x202f || n == 0x205f ||
    n == 0x3000

/-- A text without what is of a kind at its ends. -/
def trim {α : Type} (kind : α -> Bool) (text : List α) : List α :=
  ((text.dropWhile kind).reverse.dropWhile kind).reverse

/-- `text.strip()`. -/
def strip (text : String) : String := String.ofList (trim isSpace text.toList)

/-- `text.split(separator)`. -/
def split (text : String) (separator : Char) : List String :=
  (text.toList.splitOn separator).map String.ofList

/-! ## What `strip` takes off -/

section Trim

variable {α : Type} {kind : α -> Bool}

theorem dropWhile_append_of_kept {first : List α} (rest : List α) (nonempty : first ≠ [])
    (kept : first.dropWhile kind = first) : (first ++ rest).dropWhile kind = first ++ rest := by
  rw [List.dropWhile_append, kept, List.isEmpty_eq_false_iff.mpr nonempty]
  simp

theorem dropWhile_eq_of_trim_eq {text : List α} (trimmed : trim kind text = text) :
    text.dropWhile kind = text ∧ text.reverse.dropWhile kind = text.reverse := by
  -- neither side gives anything up, since the lengths agree
  have start : (text.dropWhile kind).length ≤ text.length := List.length_dropWhile_le kind text
  have stop := List.length_dropWhile_le kind (text.dropWhile kind).reverse
  have both := congrArg List.length trimmed
  rw [trim, List.length_reverse] at both
  rw [List.length_reverse] at stop
  have front : text.dropWhile kind = text :=
    (List.dropWhile_suffix kind).eq_of_length (by omega)
  refine ⟨front, ?_⟩
  rw [trim, front] at trimmed
  rw [← List.reverse_eq_iff]
  exact trimmed

theorem trim_eq_self {text : List α} (plain : forall c, c ∈ text -> kind c = false) :
    trim kind text = text := by
  have kept : forall run : List α, (forall c, c ∈ run -> kind c = false) ->
      run.dropWhile kind = run := by
    intro run none
    cases run with
    | nil => rfl
    | cons c rest => exact List.dropWhile_cons_of_neg (by simp [none c List.mem_cons_self])
  unfold trim
  rw [kept text plain, kept text.reverse (fun c here => plain c (List.mem_reverse.mp here)),
    List.reverse_reverse]

/-- What is of the kind around a text comes off with the rest. -/
theorem trim_pad {lead trail : List α} (text : List α)
    (leading : forall c, c ∈ lead -> kind c = true)
    (trailing : forall c, c ∈ trail -> kind c = true) :
    trim kind (lead ++ text ++ trail) = trim kind text := by
  have reversed : forall c, c ∈ trail.reverse -> kind c = true :=
    fun c member => trailing c (List.mem_reverse.mp member)
  rw [trim, trim, List.append_assoc, List.dropWhile_append_of_pos leading, List.dropWhile_append]
  by_cases all : (text.dropWhile kind).isEmpty = true
  · rw [if_pos all, List.isEmpty_iff.mp all, List.dropWhile_eq_nil_iff.mpr trailing]
  · rw [if_neg all, List.reverse_append, List.dropWhile_append_of_pos reversed]

/-- Nothing comes off a text that begins and ends with trimmed ones. -/
theorem trim_between {first last : List α} (middle : List α) (firstSome : first ≠ [])
    (firstTrimmed : trim kind first = first) (lastSome : last ≠ [])
    (lastTrimmed : trim kind last = last) :
    trim kind (first ++ middle ++ last) = first ++ middle ++ last := by
  have start := (dropWhile_eq_of_trim_eq firstTrimmed).1
  have stop := (dropWhile_eq_of_trim_eq lastTrimmed).2
  rw [trim, List.append_assoc, dropWhile_append_of_kept _ firstSome start, List.reverse_append,
    List.reverse_append, List.append_assoc,
    dropWhile_append_of_kept _ (by simpa using lastSome) stop]
  simp

theorem dropWhile_of_prefix {first text : List α} (begins : first <+: text)
    (kept : text.dropWhile kind = text) : first.dropWhile kind = first := by
  rcases begins with ⟨rest, rfl⟩
  cases first with
  | nil => rfl
  | cons c run =>
      cases spaced : kind c with
      | false => exact List.dropWhile_cons_of_neg (by simp [spaced])
      | true =>
          -- the text would have lost its first character
          rw [List.cons_append, List.dropWhile_cons_of_pos spaced] at kept
          have shorter := List.length_dropWhile_le kind (run ++ rest)
          rw [kept, List.length_cons] at shorter
          omega

theorem trim_trim (text : List α) : trim kind (trim kind text) = trim kind text := by
  have begins : trim kind text <+: text.dropWhile kind := by
    rw [trim, ← List.reverse_suffix, List.reverse_reverse]
    exact List.dropWhile_suffix kind
  have front : (trim kind text).dropWhile kind = trim kind text :=
    dropWhile_of_prefix begins (List.dropWhile_idempotent kind text)
  conv_lhs => rw [trim, front]
  rw [trim, List.reverse_reverse, List.dropWhile_idempotent]

theorem trim_eq_nil_iff (text : List α) :
    trim kind text = [] ↔ forall c, c ∈ text -> kind c = true := by
  constructor
  · intro none
    rw [trim, List.reverse_eq_nil_iff, List.dropWhile_eq_nil_iff] at none
    -- what the front keeps would begin with a character that is not of the kind
    have front : text.dropWhile kind = [] := by
      cases kept : text.dropWhile kind with
      | nil => rfl
      | cons c rest =>
          have stays := List.head_dropWhile_not kind (l := text) (by simp [kept])
          simp only [kept, List.head_cons] at stays
          rw [none c (by rw [kept]; simp)] at stays
          cases stays
    exact List.dropWhile_eq_nil_iff.mp front
  · intro all
    rw [trim, List.dropWhile_eq_nil_iff.mpr all]
    rfl

end Trim

theorem strip_eq_empty_iff (text : String) :
    strip text = "" ↔ forall c, c ∈ text.toList -> isSpace c = true := by
  rw [strip, ← String.toList_inj, String.toList_ofList, ← trim_eq_nil_iff]
  rfl

theorem strip_strip (text : String) : strip (strip text) = strip text := by
  rw [strip, strip, String.toList_ofList, trim_trim]

end PyText
