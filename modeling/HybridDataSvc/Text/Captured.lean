import Mathlib.Data.List.Basic

namespace PyText

/-!
# The output of a command as a text

`subprocess.run(text=True)` decodes the bytes of a stream strictly and makes
each kind of line break a `\n`.  Where the bytes break off within a character
it fails; everywhere else it has the beginning of the text.
-/

def encodeUtf8 (text : List Char) : List UInt8 := text.flatMap String.utf8EncodeChar

def decodeUtf8 (bytes : List UInt8) : Option (List Char) :=
  (bytes.toByteArray.utf8Decode?).map Array.toList

/-- `data.replace("\r\n", "\n").replace("\r", "\n")`. -/
def translateNewlines : List Char -> List Char
  | [] => []
  | '\r' :: '\n' :: rest => '\n' :: translateNewlines rest
  | '\r' :: rest => '\n' :: translateNewlines rest
  | c :: rest => c :: translateNewlines rest

/-- A stream as a text, or nothing for a `UnicodeDecodeError`. -/
def captured (bytes : List UInt8) : Option String :=
  (decodeUtf8 bytes).map (fun text => String.ofList (translateNewlines text))

theorem translateNewlines_of_not_mem {text : List Char} (plain : '\r' ∉ text) :
    translateNewlines text = text := by
  fun_induction translateNewlines text with
  | case1 => rfl
  | case2 rest => exact absurd List.mem_cons_self plain
  | case3 rest => exact absurd List.mem_cons_self plain
  | case4 c rest _ _ ih => rw [ih (fun here => plain (List.mem_cons_of_mem c here))]

theorem toByteArray_encodeUtf8 (text : List Char) :
    (encodeUtf8 text).toByteArray = text.utf8Encode := rfl

theorem decodeUtf8_encodeUtf8 (text : List Char) : decodeUtf8 (encodeUtf8 text) = some text := by
  rw [decodeUtf8, toByteArray_encodeUtf8, List.utf8Decode?_utf8Encode]
  rfl

/-- Only the bytes of a text are decoded to it. -/
theorem eq_encodeUtf8_of_decodeUtf8 {bytes : List UInt8} {text : List Char}
    (decoded : decodeUtf8 bytes = some text) : bytes = encodeUtf8 text := by
  unfold decodeUtf8 at decoded
  rw [Option.map_eq_some_iff] at decoded
  rcases decoded with ⟨chars, known, rfl⟩
  have isSome : bytes.toByteArray.utf8Decode?.isSome = true := by
    rw [known]
    rfl
  have whole := ByteArray.utf8Encode_get_utf8Decode? (b := bytes.toByteArray) (h := isSome)
  simp only [known, Option.get_some] at whole
  exact List.toByteArray_inj.mp (whole.symm.trans (toByteArray_encodeUtf8 _).symm)

/-- The first character of a text is known from its first bytes. -/
theorem decodeChar_encodeUtf8 (c : Char) (rest : List Char) (more : List UInt8) :
    ((encodeUtf8 (c :: rest) ++ more).toByteArray).utf8DecodeChar? 0 = some c := by
  have split : (encodeUtf8 (c :: rest) ++ more).toByteArray =
      (String.utf8EncodeChar c).toByteArray ++ (encodeUtf8 rest ++ more).toByteArray := by
    rw [encodeUtf8, List.flatMap_cons, List.append_assoc, List.toByteArray_append]
    rfl
  rw [split, ByteArray.utf8DecodeChar?_utf8EncodeChar_append]

theorem encodeUtf8_prefix {part text : List Char} (begins : part <+: text) :
    encodeUtf8 part <+: encodeUtf8 text := by
  rcases begins with ⟨more, rfl⟩
  rw [encodeUtf8, encodeUtf8, List.flatMap_append]
  exact List.prefix_append _ _

/-- The encoding of a character is not continued to that of another. -/
theorem prefix_of_encodeUtf8_prefix {part text : List Char}
    (begins : encodeUtf8 part <+: encodeUtf8 text) : part <+: text := by
  induction part generalizing text with
  | nil => exact List.nil_prefix
  | cons c part ih =>
      rcases begins with ⟨more, same⟩
      have first := decodeChar_encodeUtf8 c part more
      rw [same] at first
      cases text with
      | nil =>
          have none : encodeUtf8 (c :: part) = [] := (List.append_eq_nil_iff.mp same).1
          rw [encodeUtf8, List.flatMap_cons] at none
          exact absurd (List.append_eq_nil_iff.mp none).1 String.utf8EncodeChar_ne_nil
      | cons d text =>
          have second := decodeChar_encodeUtf8 d text []
          rw [List.append_nil, first] at second
          have equal : c = d := Option.some.inj second
          subst equal
          rw [encodeUtf8, encodeUtf8, List.flatMap_cons, List.flatMap_cons, List.append_assoc,
            List.append_cancel_left_eq] at same
          exact List.cons_prefix_cons.mpr ⟨rfl, ih ⟨more, same⟩⟩

/-- A whole text without carriage returns is captured as it is. -/
theorem captured_encodeUtf8 {text : List Char} (plain : '\r' ∉ text) :
    captured (encodeUtf8 text) = some (String.ofList text) := by
  rw [captured, decodeUtf8_encodeUtf8, Option.map_some, translateNewlines_of_not_mem plain]

/-- A part of it is captured as the beginning of the text, if at all. -/
theorem captured_prefix {text : List Char} {cut : List UInt8} {part : String}
    (plain : '\r' ∉ text) (begins : cut <+: encodeUtf8 text) (known : captured cut = some part) :
    part.toList <+: text ∧ cut = encodeUtf8 part.toList := by
  unfold captured at known
  rw [Option.map_eq_some_iff] at known
  rcases known with ⟨chars, decoded, same⟩
  have bytes := eq_encodeUtf8_of_decodeUtf8 decoded
  rw [bytes] at begins
  have here := prefix_of_encodeUtf8_prefix begins
  have plain' : '\r' ∉ chars := fun inside => plain (here.mem inside)
  rw [translateNewlines_of_not_mem plain'] at same
  rw [← same, String.toList_ofList]
  exact ⟨here, bytes⟩

end PyText
