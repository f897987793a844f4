import HybridDataSvc.Fetcher.CliErrors
import HybridDataSvc.Text.Truncation

namespace HybridDataSvc
namespace TvCli

open JsonText NumberText

/-!
# Output with a piece too much, and with a piece too little

`_parse_tv_json` reads the value at the beginning of the output.  What stands
after an object does not count, whatever it is; and an object whose text is cut
off anywhere is not read as anything.
-/

/-! ## Trimmed texts -/

section Trimmed

variable {kind : Char -> Bool}

theorem trim_prefix (text : List Char) : PyText.trim kind text <+: text.dropWhile kind := by
  rw [PyText.trim, ← List.reverse_suffix, List.reverse_reverse]
  exact List.dropWhile_suffix kind

/-- What is left of a text is left of a longer one too. -/
theorem trim_prefix_trim_append {text : List Char} (more : List Char)
    (some : PyText.trim kind text ≠ []) :
    PyText.trim kind text <+: PyText.trim kind (text ++ more) := by
  have begins : PyText.trim kind text <+: text.dropWhile kind := trim_prefix text
  have kept : text.dropWhile kind ≠ [] := by
    intro empty
    rw [empty] at begins
    exact some (List.prefix_nil.mp begins)
  have front : (text ++ more).dropWhile kind = text.dropWhile kind ++ more := by
    rw [List.dropWhile_append, List.isEmpty_eq_false_iff.mpr kept]
    rfl
  rw [PyText.trim, PyText.trim, front, List.reverse_append, List.dropWhile_append]
  split
  · exact List.prefix_rfl
  · rw [List.reverse_append, List.reverse_reverse]
    exact begins.trans (List.prefix_append _ _)

/-- A part of a text that begins with something else than blanks. -/
theorem trim_prefix_of_prefix {part text : List Char} (begins : part <+: text)
    (kept : text.dropWhile kind = text) : PyText.trim kind part <+: part := by
  have same := PyText.dropWhile_of_prefix begins kept
  have inside : PyText.trim kind part <+: part.dropWhile kind := trim_prefix part
  rwa [same] at inside

end Trimmed

/-! ## What stands after the payload -/

variable {runtime : PythonRuntime}

theorem dialect_decode (stdout : String) :
    decode runtime stdout = rawDecode ⟨true, some maxIntDigits, some runtime.maxDepth⟩
      (PyText.trim PyText.isSpace stdout.toList) := by
  rw [decode, PyText.strip, String.toList_ofList]

theorem strip_ne_empty_of_decode {stdout : String} {payload : Json} {rest : List Char}
    (decoded : decode runtime stdout = .ok (payload, rest)) : PyText.strip stdout ≠ "" := by
  intro empty
  rw [decode, empty] at decoded
  cases decoded

theorem parseTvJson_eq_ok_iff {context : String} {returncode : Int} {stdout stderr : String}
    {payload : Json} :
    parseTvJson runtime context returncode stdout stderr = .ok payload ↔
      exists rest, decode runtime stdout = .ok (payload, rest) := by
  constructor
  · intro parsed
    unfold parseTvJson at parsed
    split at parsed
    · cases parsed
    · split at parsed
      · rename_i found rest decoded
        cases parsed
        exact ⟨rest, decoded⟩
      · cases parsed
      · cases parsed
      · cases parsed
  · rintro ⟨rest, decoded⟩
    unfold parseTvJson
    rw [if_neg (strip_ne_empty_of_decode decoded), decoded]

theorem object_ne_number (payload : Record) (numeral : Numeral) :
    Json.object payload ≠ .number numeral := by
  intro same
  cases same

/-- Whatever is written after an object, the same object is parsed. -/
theorem parseTvJson_append {context : String} {returncode : Int} {stdout stderr : String}
    {payload : Record} (more : String)
    (parsed : parseTvJson runtime context returncode stdout stderr = .ok (.object payload)) :
    parseTvJson runtime context returncode (stdout ++ more) stderr = .ok (.object payload) := by
  rcases parseTvJson_eq_ok_iff.mp parsed with ⟨rest, decoded⟩
  have some : PyText.trim PyText.isSpace stdout.toList ≠ [] := by
    intro empty
    exact strip_ne_empty_of_decode decoded (by rw [PyText.strip, empty])
  rcases trim_prefix_trim_append more.toList some with ⟨extra, longer⟩
  rw [dialect_decode] at decoded
  have read := rawDecode_append extra decoded (Or.inl (object_ne_number payload))
  refine parseTvJson_eq_ok_iff.mpr ⟨rest ++ extra, ?_⟩
  rw [dialect_decode, String.toList_append, ← longer]
  exact read

/-! ## What is cut off from it -/

/-- What `json` reads, as far as `_parse_tv_json` goes. -/
def tvDialect (runtime : PythonRuntime) : Dialect :=
  ⟨true, some maxIntDigits, some runtime.maxDepth⟩

/-- The output is read to its end: nothing but blanks stands after the payload. -/
def ReadToEnd (runtime : PythonRuntime) (stdout : String) (payload : Json) : Prop :=
  rawDecode (tvDialect runtime) (PyText.trim PyText.isSpace stdout.toList) = .ok (payload, [])

theorem trim_cut_prefix {stdout cut : String} (begins : cut.toList <+: stdout.toList) :
    PyText.trim PyText.isSpace cut.toList <+: PyText.trim PyText.isSpace stdout.toList := by
  rcases begins with ⟨more, same⟩
  by_cases empty : PyText.trim PyText.isSpace cut.toList = []
  · rw [empty]
    exact List.nil_prefix
  · rw [← same]
    exact trim_prefix_trim_append more empty

/-- An output that breaks off within its payload is an error: a
`DataFetchError`, or a `ValueError` where a number has lost its end and has too
many digits without it. -/
theorem parseTvJson_of_cut (context : String) (returncode : Int) (stderr : String)
    {stdout cut : String} {payload : Json} (whole : ReadToEnd runtime stdout payload)
    (noNumber : forall numeral, payload ≠ .number numeral)
    (begins : cut.toList <+: stdout.toList) (broken : PyText.strip cut ≠ PyText.strip stdout) :
    (exists message, parseTvJson runtime context returncode cut stderr =
      .error (.dataFetchError message)) ∨
    (parseTvJson runtime context returncode cut stderr = .error (.other "ValueError") ∧
      ¬ DigitsFit (tvDialect runtime) (PyText.trim PyText.isSpace stdout.toList)) := by
  by_cases empty : PyText.strip cut = ""
  · refine Or.inl ⟨runtime.emptyStdout context returncode stderr, ?_⟩
    unfold parseTvJson
    rw [if_pos empty]
  · have part := trim_cut_prefix begins
    have shorter : PyText.trim PyText.isSpace cut.toList ≠ PyText.trim PyText.isSpace stdout.toList := by
      intro same
      exact broken (by rw [PyText.strip, same]; rfl)
    rcases rawDecode_truncated whole noNumber part shorter with malformed | ⟨many, tooLong⟩
    · refine Or.inl ⟨runtime.nonJson context returncode cut stderr, ?_⟩
      unfold parseTvJson
      rw [if_neg empty, dialect_decode]
      simp only [tvDialect] at malformed
      rw [malformed]
    · refine Or.inr ⟨?_, tooLong⟩
      unfold parseTvJson
      rw [if_neg empty, dialect_decode]
      simp only [tvDialect] at many
      rw [many]

/-- So of the beginnings of an output those are accepted that have all of its
payload. -/
theorem parseTvJson_cut_eq_ok_iff {context : String} {returncode : Int}
    {stdout cut stderr : String} {payload : Record} {found : Json}
    (whole : ReadToEnd runtime stdout (.object payload)) (begins : cut.toList <+: stdout.toList) :
    parseTvJson runtime context returncode cut stderr = .ok found ↔
      PyText.strip cut = PyText.strip stdout ∧ found = .object payload := by
  constructor
  · intro parsed
    have covers : PyText.strip cut = PyText.strip stdout := by
      refine Classical.byContradiction (fun broken => ?_)
      rcases parseTvJson_of_cut context returncode stderr
        whole (object_ne_number payload) begins broken with
        ⟨message, failed⟩ | ⟨failed, -⟩
      · rw [failed] at parsed
        cases parsed
      · rw [failed] at parsed
        cases parsed
    refine ⟨covers, ?_⟩
    rcases parseTvJson_eq_ok_iff.mp parsed with ⟨rest, decoded⟩
    rw [decode, covers, ← decode, dialect_decode, ← tvDialect, whole] at decoded
    cases decoded
    rfl
  · rintro ⟨covers, rfl⟩
    refine parseTvJson_eq_ok_iff.mpr ⟨[], ?_⟩
    rw [decode, covers, ← decode, dialect_decode, ← tvDialect, whole]

theorem parseTvJson_cut_eq_ok_iff_unclosed :
    exists payload,
      parseTvJson silentRuntime "ohlcv" 0 "\x7b\"success\":1\x7d" "" = .ok (.object payload) ∧
      parseTvJson silentRuntime "ohlcv" 0 "\x7b\"success\":1" "" ≠ .ok (.object payload) := by
  have reads : ((rawDecode (tvDialect silentRuntime)
      (PyText.trim PyText.isSpace "\x7b\"success\":1\x7d\n".toList)).toOption.bind
        (fun r => (members r.1).toOption.map (fun _ => r.2.isEmpty))) = some true := by
    decide +kernel
  cases read : rawDecode (tvDialect silentRuntime)
      (PyText.trim PyText.isSpace "\x7b\"success\":1\x7d\n".toList) with
  | error fault =>
      rw [read] at reads
      cases reads
  | ok r =>
      rcases r with ⟨value, rest⟩
      cases value with
      | object payload =>
          cases rest with
          | cons c more =>
              rw [read] at reads
              cases reads
          | nil =>
              have printed : ReadToEnd silentRuntime "\x7b\"success\":1\x7d\n" (.object payload) := read
              refine ⟨payload, ?_, ?_⟩
              · exact (parseTvJson_cut_eq_ok_iff printed (by decide)).mpr ⟨by decide +kernel, rfl⟩
              · intro parsed
                have covers := (parseTvJson_cut_eq_ok_iff printed (by decide)).mp parsed
                exact absurd covers.1 (by decide +kernel)
      | _ =>
          rw [read] at reads
          cases reads

/-! ## What the fetcher makes of it -/

section Fetching

variable {pandas : Pandas} {tvCli : String}

theorem payloadMembers_eq_ok_iff {context : String} {returncode : Int} {stdout stderr : String}
    {payload : Record} :
    payloadMembers runtime context returncode stdout stderr = .ok payload ↔
      parseTvJson runtime context returncode stdout stderr = .ok (.object payload) := by
  unfold payloadMembers
  cases parsed : parseTvJson runtime context returncode stdout stderr with
  | error raised =>
      constructor
      · intro found
        cases found
      · intro found
        cases found
  | ok value =>
      cases value with
      | object members =>
          simp only [bind, Except.bind, TvCli.members, Except.ok.injEq, Json.object.injEq]
      | _ =>
          constructor
          · intro found
            cases found
          · intro found
            cases found

theorem payloadMembers_of_error {context : String} {returncode : Int} {stdout stderr : String}
    {raised : PyError}
    (failed : parseTvJson runtime context returncode stdout stderr = .error raised) :
    payloadMembers runtime context returncode stdout stderr = .error raised := by
  rw [payloadMembers, failed]
  rfl

theorem tvFetch_completed (count : Int) (stdout stderr : String) :
    tvFetch runtime pandas tvCli count (.completed 0 stdout stderr) =
      (do let payload ← payloadMembers runtime "ohlcv" 0 stdout stderr
          ohlcvBars runtime pandas payload) := rfl

/-- A payload that has led to bars, or to a switch, leads to the same whatever
is written after it. -/
theorem accepted_append (pandas : Pandas) (count : Int) {stdout more stderr stderr' : String} :
    (forall bars, tvFetch runtime pandas tvCli count (.completed 0 stdout stderr) = .ok bars ->
      tvFetch runtime pandas tvCli count (.completed 0 (stdout ++ more) stderr') = .ok bars) ∧
    (forall subcmd arg, switchStep runtime tvCli subcmd arg (.completed 0 stdout stderr) = .ok () ->
      switchStep runtime tvCli subcmd arg (.completed 0 (stdout ++ more) stderr') = .ok ()) := by
  have longer : forall {context payload},
      payloadMembers runtime context 0 stdout stderr = .ok payload ->
        payloadMembers runtime context 0 (stdout ++ more) stderr' = .ok payload := by
    intro context payload found
    have parsed := payloadMembers_eq_ok_iff.mp found
    rcases parseTvJson_eq_ok_iff.mp (parseTvJson_append more parsed) with ⟨rest, decoded⟩
    exact payloadMembers_eq_ok_iff.mpr (parseTvJson_eq_ok_iff.mpr ⟨rest, decoded⟩)
  refine ⟨?_, ?_⟩
  · intro bars fetched
    rw [tvFetch_completed] at fetched ⊢
    cases found : payloadMembers runtime "ohlcv" 0 stdout stderr with
    | error raised =>
        rw [found] at fetched
        cases fetched
    | ok payload =>
        rw [found] at fetched
        rw [longer found]
        exact fetched
  · intro subcmd arg switched
    simp only [switchStep, ne_eq, not_true, if_false] at switched ⊢
    cases found : payloadMembers runtime subcmd 0 stdout stderr with
    | error raised =>
        rw [found] at switched
        cases switched
    | ok payload =>
        rw [found] at switched
        rw [longer found]
        exact switched

end Fetching

theorem accepted_append_noise :
    switchStep silentRuntime "tv" "symbol" "BTC" (.completed 0 ("\x7b\"success\":1\x7d" ++ "\nnoise") "") =
      .ok () := by
  have switched : switchStep silentRuntime "tv" "symbol" "BTC"
      (.completed 0 "\x7b\"success\":1\x7d" "") = .ok () := by decide +kernel
  exact (accepted_append wholePandas 500).2 "symbol" "BTC" switched

end TvCli
end HybridDataSvc
