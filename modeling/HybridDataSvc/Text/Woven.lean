import Mathlib.Data.List.TakeWhile
import HybridDataSvc.Text.Json

namespace JsonText

/-!
# Where a word of a JSON text stands

Outside its strings a JSON text has blanks, punctuation, numbers and a few fixed
words.  A word with a letter of none of these stands inside one of the strings.
-/

/-- The marks and letters that stand outside strings, besides blanks and digits. -/
def bareMarks : List Char := "+-.,:[]\x7b\x7dnulltruefalseNaNInfinityE".toList

def isBare (c : Char) : Bool := isBlank c || c.isDigit || bareMarks.contains c

theorem isBare_of_isDigit {c : Char} (digit : c.isDigit = true) : isBare c = true := by
  rw [isBare, digit, Bool.or_true, Bool.true_or]

theorem isBare_of_isBlank {c : Char} (blank : isBlank c = true) : isBare c = true := by
  rw [isBare, blank, Bool.true_or, Bool.true_or]

def Bare (run : List Char) : Prop := forall c, c ∈ run -> isBare c = true

theorem bare_of_all {run : List Char} (all : run.all isBare = true) : Bare run :=
  List.all_eq_true.mp all

theorem bare_nil : Bare [] := List.forall_mem_nil _

theorem Bare.append {first second : List Char} (one : Bare first) (other : Bare second) :
    Bare (first ++ second) := List.forall_mem_append.mpr ⟨one, other⟩

theorem Bare.cons {c : Char} {run : List Char} (head : isBare c = true) (tail : Bare run) :
    Bare (c :: run) := List.forall_mem_cons.mpr ⟨head, tail⟩

/-- A text of bare characters and of strings of a kind in their quotes. -/
inductive Woven (kind : List Char -> Prop) : List Char -> Prop
  | bare {run : List Char} (all : Bare run) : Woven kind run
  | quoted {run chars rest : List Char} (all : Bare run) (known : kind chars)
      (later : Woven kind rest) : Woven kind (run ++ '"' :: (chars ++ '"' :: rest))

namespace Woven

variable {kind : List Char -> Prop} {text : List Char}

theorem mono {wider : List Char -> Prop} (woven : Woven kind text)
    (implies : forall chars, kind chars -> wider chars) : Woven wider text := by
  induction woven with
  | bare all => exact .bare all
  | quoted all known _ ih => exact .quoted all (implies _ known) ih

theorem prepend {run : List Char} (all : Bare run) (woven : Woven kind text) :
    Woven kind (run ++ text) := by
  cases woven with
  | bare more => exact .bare (all.append more)
  | quoted more known later =>
      rw [← List.append_assoc]
      exact .quoted (all.append more) known later

theorem append {more : List Char} (woven : Woven kind text) (other : Woven kind more) :
    Woven kind (text ++ more) := by
  induction woven with
  | bare all => exact other.prepend all
  | quoted all known _ ih =>
      rw [List.append_assoc, List.cons_append, List.append_assoc, List.cons_append]
      exact .quoted all known ih

theorem cons {c : Char} (head : isBare c = true) (woven : Woven kind text) :
    Woven kind (c :: text) := woven.prepend (Bare.cons head bare_nil)

end Woven

/-- A part of a list without a separator is on one side of it. -/
theorem infix_of_infix_append_cons {α : Type} {word before after : List α} {mark : α}
    (unmarked : mark ∉ word) (inside : word <:+: before ++ mark :: after) :
    word <:+: before ∨ word <:+: after := by
  rcases inside with ⟨front, back, split⟩
  rcases List.append_eq_append_iff.mp split with ⟨rest, whole, -⟩ | ⟨rest, whole, tail⟩
  · exact Or.inl ⟨front, rest, whole.symm⟩
  · cases rest with
    | nil =>
        rw [List.append_nil] at whole
        exact Or.inl ⟨front, [], by rw [List.append_nil]; exact whole⟩
    | cons c later =>
        cases tail
        rcases List.append_eq_append_iff.mp whole with ⟨part, -, own⟩ | ⟨part, -, own⟩
        · exact absurd (own ▸ List.mem_append_right part List.mem_cons_self) unmarked
        · cases part with
          | nil => exact absurd ((List.nil_append word ▸ own) ▸ List.mem_cons_self) unmarked
          | cons d gap =>
              cases own
              exact Or.inr ⟨gap, back, rfl⟩

/-- A word that cannot stand outside the strings stands in one of them. -/
theorem Woven.exists_infix {kind : List Char -> Prop} {text word : List Char} {f : Char -> Char}
    (woven : Woven kind text) (unquoted : f '"' ∉ word)
    (strange : exists k, k ∈ word ∧ forall c, isBare c = true -> f c ≠ k)
    (inside : word <:+: text.map f) :
    exists chars, kind chars ∧ chars <:+: text ∧ word <:+: chars.map f := by
  have never : forall run, Bare run -> ¬ word <:+: run.map f := by
    intro run all here
    rcases strange with ⟨k, letter, other⟩
    rcases List.mem_map.mp (here.mem letter) with ⟨c, listed, same⟩
    exact other c (all c listed) same
  induction woven with
  | bare all => exact absurd inside (never _ all)
  | @quoted run chars rest all known later ih =>
      rw [List.map_append, List.map_cons] at inside
      rcases infix_of_infix_append_cons unquoted inside with outside | inside
      · exact absurd outside (never run all)
      · rw [List.map_append, List.map_cons] at inside
        rcases infix_of_infix_append_cons unquoted inside with found | further
        · exact ⟨chars, known, ⟨run ++ ['"'], '"' :: rest, by simp⟩, found⟩
        · rcases ih further with ⟨own, known', part, found⟩
          exact ⟨own, known', part.trans ⟨run ++ '"' :: (chars ++ ['"']), [], by simp⟩, found⟩

theorem Woven.forall_mem {kind : List Char -> Prop} {text : List Char} {p : Char -> Prop}
    (woven : Woven kind text) (bare : forall c, isBare c = true -> p c) (quote : p '"')
    (inner : forall chars, kind chars -> forall c, c ∈ chars -> p c) :
    forall c, c ∈ text -> p c := by
  induction woven with
  | bare all => exact fun c here => bare c (all c here)
  | quoted all known _ ih =>
      exact List.forall_mem_append.mpr ⟨fun c here => bare c (all c here),
        List.forall_mem_cons.mpr ⟨quote, List.forall_mem_append.mpr ⟨inner _ known,
          List.forall_mem_cons.mpr ⟨quote, ih⟩⟩⟩⟩

/-! ## Scalars -/

theorem exists_skip (text : List Char) : exists run, text = run ++ skip text ∧ Bare run := by
  refine ⟨text.takeWhile isBlank, (List.takeWhile_append_dropWhile).symm, ?_⟩
  intro c here
  exact isBare_of_isBlank (List.mem_takeWhile_imp here)

theorem exists_span_isDigit (text : List Char) :
    text = (text.span Char.isDigit).1 ++ (text.span Char.isDigit).2 ∧
      Bare (text.span Char.isDigit).1 := by
  rw [List.span_eq_takeWhile_dropWhile]
  refine ⟨(List.takeWhile_append_dropWhile).symm, ?_⟩
  intro c here
  exact isBare_of_isDigit (List.mem_takeWhile_imp here)

theorem exists_wholePart {text whole rest : List Char}
    (read : wholePart text = some (whole, rest)) : text = whole ++ rest ∧ Bare whole := by
  cases text with
  | nil => cases read
  | cons c after =>
      simp only [wholePart] at read
      split at read
      · rename_i zero
        cases read
        subst zero
        exact ⟨rfl, bare_of_all rfl⟩
      · split at read
        · have parts := exists_span_isDigit (c :: after)
          rw [Option.some.inj read] at parts
          exact parts
        · cases read

theorem exists_fractionPart (text : List Char) :
    exists run, text = run ++ (fractionPart text).2 ∧ Bare run := by
  unfold fractionPart
  split
  · rename_i rest
    rcases exists_span_isDigit rest with ⟨parts, digits⟩
    dsimp only
    split
    · exact ⟨[], rfl, bare_nil⟩
    · refine ⟨'.' :: (rest.span Char.isDigit).1, ?_, digits.cons (by decide)⟩
      rw [List.cons_append, ← parts]
  · exact ⟨[], rfl, bare_nil⟩

theorem exists_signPart (text : List Char) :
    exists run, text = run ++ (signPart text).2 ∧ Bare run := by
  unfold signPart
  split
  · exact ⟨['-'], rfl, bare_of_all rfl⟩
  · exact ⟨['+'], rfl, bare_of_all rfl⟩
  · exact ⟨[], rfl, bare_nil⟩

theorem exists_exponentPart (text : List Char) :
    exists run, text = run ++ (exponentPart text).2 ∧ Bare run := by
  cases text with
  | nil => exact ⟨[], rfl, bare_nil⟩
  | cons e rest =>
      unfold exponentPart
      by_cases letter : e = 'e' ∨ e = 'E'
      · simp only [letter, if_true]
        rcases exists_signPart rest with ⟨sign, signed, bareSign⟩
        rcases exists_span_isDigit (signPart rest).2 with ⟨parts, digits⟩
        split
        · exact ⟨[], rfl, bare_nil⟩
        · refine ⟨e :: (sign ++ ((signPart rest).2.span Char.isDigit).1), ?_, ?_⟩
          · rw [List.cons_append, List.append_assoc, ← parts, ← signed]
          · refine Bare.cons ?_ (bareSign.append digits)
            rcases letter with rfl | rfl
            · decide
            · decide
      · simp only [letter, if_false]
        exact ⟨[], rfl, bare_nil⟩

theorem exists_readUnsigned {dialect : Dialect} {negative : Bool} {text rest : List Char}
    {value : Json} (read : readUnsigned dialect negative text = .ok (value, rest)) :
    exists run, text = run ++ rest ∧ Bare run := by
  unfold readUnsigned at read
  split at read
  · cases read
  · rename_i whole afterWhole found
    rcases exists_wholePart found with ⟨parts, bareWhole⟩
    rcases exists_fractionPart afterWhole with ⟨fraction, parts', bareFraction⟩
    rcases exists_exponentPart (fractionPart afterWhole).2 with ⟨exponent, parts'', bareExponent⟩
    dsimp only at read
    split at read
    · cases read
    · cases read
      refine ⟨whole ++ (fraction ++ exponent), ?_,
        bareWhole.append (bareFraction.append bareExponent)⟩
      rw [List.append_assoc, List.append_assoc, ← parts'', ← parts', ← parts]

theorem exists_expect {word text rest : List Char} {constant value : Json} (bare : Bare word)
    (read : expect word constant text = .ok (value, rest)) :
    exists run, text = run ++ rest ∧ Bare run := by
  unfold expect at read
  split at read
  · rename_i here
    rcases List.isPrefixOf_iff_prefix.mp here with ⟨after, split⟩
    cases read
    refine ⟨word, ?_, bare⟩
    rw [← split, List.drop_left]
  · cases read

/-- A scalar has no quotes. -/
theorem exists_readScalar {dialect : Dialect} {text rest : List Char} {value : Json}
    (read : readScalar dialect text = .ok (value, rest)) :
    exists run, text = run ++ rest ∧ Bare run := by
  unfold readScalar at read
  split at read
  · exact exists_expect (bare_of_all rfl) read
  · exact exists_expect (bare_of_all rfl) read
  · exact exists_expect (bare_of_all rfl) read
  · split at read
    · exact exists_expect (bare_of_all rfl) read
    · cases read
  · split at read
    · exact exists_expect (bare_of_all rfl) read
    · cases read
  · split at read
    · exact exists_expect (bare_of_all rfl) read
    · rcases exists_readUnsigned read with ⟨run, rfl, bare⟩
      exact ⟨'-' :: run, rfl, bare.cons (by decide)⟩
  · exact exists_readUnsigned read

/-! ## Values -/

/-- The characters of a string or of a name in the value, none of them a control character. -/
def Spelled (value : Json) (chars : List Char) : Prop :=
  Contains (chars.map Char.toNat) value ∧ forall c, c ∈ chars -> 32 ≤ c.toNat

theorem exists_readString {text rest : List Char} {value : CodePoints} (plain : '\\' ∉ text)
    (read : readString text = some (value, rest)) :
    exists chars, text = chars ++ '"' :: rest ∧ value = chars.map Char.toNat ∧
      forall c, c ∈ chars -> 32 ≤ c.toNat := by
  rcases exists_of_readString read with ⟨units, inner, same⟩
  rcases readUnits_plain plain inner with ⟨chars, split, codes, printable⟩
  have single : forall unit, unit ∈ units -> isHigh unit = false := by
    intro unit here
    rw [codes] at here
    rcases List.mem_map.mp here with ⟨c, -, rfl⟩
    exact isHigh_toNat c
  exact ⟨chars, split, by rw [same, joinPairs_of_not_high single, codes], printable⟩

/-- With this fuel, what the three readers read from a text without escapes is woven of the
strings of the value. -/
structure ReadersWeave (dialect : Dialect) (fuel : Nat) : Prop where
  value : forall {depth text value rest}, '\\' ∉ text ->
    readValue dialect fuel depth text = .ok (value, rest) ->
      exists part, text = part ++ rest ∧ Woven (Spelled value) part
  items : forall {depth text items rest}, '\\' ∉ text ->
    readItems dialect fuel depth text = .ok (items, rest) ->
      exists part, text = part ++ rest ∧ Woven (Spelled (.array items)) part
  members : forall {depth text members rest}, '\\' ∉ text ->
    readMembers dialect fuel depth text = .ok (members, rest) ->
      exists part, text = part ++ rest ∧ Woven (Spelled (.object members)) part

theorem Spelled.item {items : List Json} {value : Json} (listed : value ∈ items)
    {chars : List Char} (spelled : Spelled value chars) : Spelled (.array items) chars :=
  ⟨Contains.item listed spelled.1, spelled.2⟩

theorem Spelled.member {members : List (CodePoints × Json)} {m : CodePoints × Json}
    (listed : m ∈ members) {chars : List Char} (spelled : Spelled m.2 chars) :
    Spelled (.object members) chars :=
  ⟨Contains.member listed spelled.1, spelled.2⟩

theorem Spelled.later_items {items : List Json} {value : Json} {chars : List Char}
    (spelled : Spelled (.array items) chars) : Spelled (.array (value :: items)) chars := by
  rcases spelled with ⟨inside, printable⟩
  refine ⟨?_, printable⟩
  cases inside with
  | item listed inside => exact Contains.item (List.mem_cons_of_mem value listed) inside

theorem Spelled.later_members {members : List (CodePoints × Json)} {m : CodePoints × Json}
    {chars : List Char} (spelled : Spelled (.object members) chars) :
    Spelled (.object (m :: members)) chars := by
  rcases spelled with ⟨inside, printable⟩
  refine ⟨?_, printable⟩
  cases inside with
  | member listed inside => exact Contains.member (List.mem_cons_of_mem m listed) inside
  | name listed => exact Contains.name (List.mem_cons_of_mem m listed)

namespace ReadersWeave

variable {dialect : Dialect} {fuel depth : Nat} {text rest : List Char}

theorem readValue (readers : ReadersWeave dialect fuel) {value : Json} (plain : '\\' ∉ text)
    (read : JsonText.readValue dialect (fuel + 1) depth text = .ok (value, rest)) :
    exists part, text = part ++ rest ∧ Woven (Spelled value) part := by
  rcases readValue_cases read with ⟨quoted, name, rfl, named, rfl⟩ |
    ⟨body, items, rfl, rfl, ⟨closed, rfl⟩ | inner⟩ |
    ⟨body, members, rfl, rfl, ⟨closed, rfl⟩ | inner⟩ | scalar
  · rcases exists_readString (List.not_mem_of_not_mem_cons plain) named with
      ⟨chars, rfl, rfl, printable⟩
    refine ⟨'"' :: (chars ++ ['"']), by simp, ?_⟩
    exact @Woven.quoted (Spelled (.string _)) [] chars [] bare_nil ⟨Contains.string, printable⟩
      (.bare bare_nil)
  · rcases exists_skip body with ⟨run, parts, bare⟩
    refine ⟨'[' :: (run ++ [']']), ?_,
      .bare ((bare.append (bare_of_all rfl)).cons (by decide))⟩
    rw [List.cons_append, List.append_assoc, List.singleton_append, ← closed, ← parts]
  · rcases readers.items (List.not_mem_of_not_mem_cons plain) inner with ⟨part, rfl, woven⟩
    exact ⟨'[' :: part, rfl, woven.cons (by decide)⟩
  · rcases exists_skip body with ⟨run, parts, bare⟩
    refine ⟨'\x7b' :: (run ++ ['\x7d']), ?_,
      .bare ((bare.append (bare_of_all rfl)).cons (by decide))⟩
    rw [List.cons_append, List.append_assoc, List.singleton_append, ← closed, ← parts]
  · rcases readers.members (List.not_mem_of_not_mem_cons plain) inner with ⟨part, rfl, woven⟩
    exact ⟨'\x7b' :: part, rfl, woven.cons (by decide)⟩
  · rcases exists_readScalar scalar with ⟨run, parts, bare⟩
    exact ⟨run, parts, .bare bare⟩

theorem readItems (readers : ReadersWeave dialect fuel) {items : List Json} (plain : '\\' ∉ text)
    (read : JsonText.readItems dialect (fuel + 1) depth text = .ok (items, rest)) :
    exists part, text = part ++ rest ∧ Woven (Spelled (.array items)) part := by
  rcases readItems_cases read with ⟨item, after, first, later⟩
  rcases exists_skip text with ⟨blanks, split, bareBlanks⟩
  rcases readers.value (not_mem_of_suffix plain (skip_suffix text)) first with ⟨part, split', woven⟩
  rcases exists_skip after with ⟨gap, split'', bareGap⟩
  have head : forall others, Woven (Spelled (.array (item :: others))) (blanks ++ (part ++ gap)) :=
    fun others => ((woven.mono (fun _ => Spelled.item List.mem_cons_self)).append
      (.bare bareGap)).prepend bareBlanks
  have left := ((isRest_of_readValue first).widen (skip_suffix text)).narrow (skip_suffix after)
  rcases later with ⟨later, others, separated, inner, rfl⟩ | ⟨closed, rfl⟩
  · rw [separated] at left split''
    have tail := (List.suffix_cons _ _).trans left.suffix
    rcases readers.items (not_mem_of_suffix plain tail) inner with ⟨part', rfl, woven'⟩
    refine ⟨blanks ++ (part ++ gap) ++ (',' :: part'), ?_, (head others).append
      ((woven'.mono (fun _ => Spelled.later_items)).cons (by decide))⟩
    rw [split, split', split'']
    simp
  · rw [closed] at split''
    refine ⟨blanks ++ (part ++ gap) ++ [']'], ?_,
      (head []).append (.bare (bare_of_all rfl))⟩
    rw [split, split', split'']
    simp

theorem readMembers (readers : ReadersWeave dialect fuel) {members : List (CodePoints × Json)}
    (plain : '\\' ∉ text)
    (read : JsonText.readMembers dialect (fuel + 1) depth text = .ok (members, rest)) :
    exists part, text = part ++ rest ∧ Woven (Spelled (.object members)) part := by
  obtain ⟨quoted, name, afterName, afterColon, value, after, opened, named, coloned, first,
    later⟩ := readMembers_cases read
  have quotes := skip_suffix text
  rw [opened] at quotes
  have inString := (List.suffix_cons '"' quoted).trans quotes
  have beforeColon := ((isRest_of_readString named).widen inString).narrow (skip_suffix afterName)
  rw [coloned] at beforeColon
  have beforeValue := (beforeColon.narrow (List.suffix_cons _ _)).narrow (skip_suffix afterColon)
  rcases exists_skip text with ⟨blanks, split, bareBlanks⟩
  rcases exists_readString (not_mem_of_suffix plain inString) named with
    ⟨chars, rfl, rfl, printable⟩
  rcases exists_skip afterName with ⟨gap, split', bareGap⟩
  rcases exists_skip afterColon with ⟨gap', split'', bareGap'⟩
  rcases readers.value (not_mem_of_suffix plain beforeValue.suffix) first with ⟨part, own, woven⟩
  rcases exists_skip after with ⟨gap'', split''', bareGap''⟩
  rw [opened] at split
  rw [coloned] at split'
  have head : forall others, Woven (Spelled (.object ((chars.map Char.toNat, value) :: others)))
      (blanks ++ '"' :: (chars ++ '"' :: (gap ++ ':' :: (gap' ++ (part ++ gap''))))) := by
    intro others
    refine .quoted bareBlanks ⟨Contains.name List.mem_cons_self, printable⟩ ?_
    refine Woven.prepend bareGap (Woven.cons (by decide) (Woven.prepend bareGap' ?_))
    exact (woven.mono (fun _ => @Spelled.member _ (_, value) List.mem_cons_self _)).append
      (.bare bareGap'')
  have left := ((isRest_of_readValue first).widen beforeValue.suffix).narrow (skip_suffix after)
  rcases later with ⟨later, others, separated, inner, rfl⟩ | ⟨closed, rfl⟩
  · rw [separated] at left split'''
    have tail := (List.suffix_cons _ _).trans left.suffix
    rcases readers.members (not_mem_of_suffix plain tail) inner with ⟨part', rfl, woven'⟩
    refine ⟨_ ++ (',' :: part'), ?_, (head others).append
      ((woven'.mono (fun _ => Spelled.later_members)).cons (by decide))⟩
    rw [split, split', split'', own, split''']
    simp
  · rw [closed] at split'''
    refine ⟨_ ++ ['\x7d'], ?_, (head []).append (.bare (bare_of_all rfl))⟩
    rw [split, split', split'', own, split''']
    simp

end ReadersWeave

/-- By induction on the fuel. -/
theorem readers_weave (dialect : Dialect) (fuel : Nat) : ReadersWeave dialect fuel := by
  induction fuel with
  | zero =>
      refine ⟨?_, ?_, ?_⟩
      · exact fun _ read => (nomatch read)
      · exact fun _ read => (nomatch read)
      · exact fun _ read => (nomatch read)
  | succ fuel ih => exact ⟨ih.readValue, ih.readItems, ih.readMembers⟩

/-- A text without escapes is woven of the strings of its value. -/
theorem woven_of_parse {dialect : Dialect} {text : List Char} {value : Json} (plain : '\\' ∉ text)
    (read : parse dialect text = .ok value) : Woven (Spelled value) text := by
  unfold parse at read
  cases first : readValue dialect (2 * text.length + 2) 0 (skip text) with
  | error fault =>
      simp only [first] at read
      cases read
  | ok found =>
      simp only [first] at read
      split at read
      · rename_i nothing
        cases read
        rcases exists_skip text with ⟨blanks, split, bareBlanks⟩
        rcases (readers_weave dialect _).value (not_mem_of_suffix plain (skip_suffix text))
          first with ⟨part, own, woven⟩
        rcases exists_skip found.2 with ⟨gap, split', bareGap⟩
        rw [nothing, List.append_nil] at split'
        rw [split, own, split']
        exact (woven.append (.bare bareGap)).prepend bareBlanks
      · cases read

end JsonText
