import HybridDataSvc.Fallible.Results
import HybridDataSvc.Fetcher.TvCli
import Mathlib.Data.List.Forall2
import Mathlib.Data.Rat.Floor

namespace HybridDataSvc
namespace TvCli

open JsonText NumberText Fallible

/-!
# Which outputs of the `tv` command are answered for

Every outcome of the command should end in a `DataFetchError` or in the bars of the
payload, each with its time in seconds.  What escapes is a payload that is no object,
numbers and nestings that `json` refuses, whatever pandas raises on `bars` of another
form; and a time column is converted as a whole, by the unit of its first time.
-/

variable {runtime : PythonRuntime} {pandas : Pandas}

/-! ## What an answer should be -/

/-- The bars of the payload. -/
def payloadBars (runtime : PythonRuntime) : TvRun -> Option Json
  | .completed _ stdout _ =>
    match decode runtime stdout with
    | .ok (.object found, _) => field found "bars"
    | _ => none
  | _ => none

/-- The number that a time says, also as a text or a truth value. -/
def numeric : Json -> Option Rat
  | .bool value => some (if value then 1 else 0)
  | .number numeral =>
    if numeral.isWhole then some (numeral.mantissa : Rat)
    else
      match ofNumeral numeral with
      | .finite value => some value
      | _ => none
  | .string text => (pyInt text).map (fun n : Int => (n : Rat))
  | _ => none

/-- Times above this one are milliseconds. -/
def unitLimit : Int := 1000000000000

/-- A time in whole seconds. -/
def secondsOf (cell : Cell) : Option Int :=
  (cell.bind numeric).map (fun value =>
    if (unitLimit : Rat) < value then ⌊value / 1000⌋ else value.num.tdiv value.den)

/-- The bar of an object of the payload. -/
def BarOf (record : Record) (bar : Bar Cell) : Prop :=
  exists time, secondsOf (field record "time") = some time ∧ bar = rowBar record time

def Refused {Value : Type} (result : Except PyError Value) : Prop :=
  exists message, result = .error (.dataFetchError message)

/-- A `DataFetchError`, or the bars of the payload in their order. -/
def FetchAnswers (bars : Option Json) (result : Except PyError (List (Bar Cell))) : Prop :=
  Refused result ∨ exists records rows, bars = some (.array (records.map .object)) ∧
    result = .ok rows ∧ List.Forall₂ BarOf records rows

/-- A `DataFetchError`, or success. -/
def SwitchAnswers (result : Except PyError Unit) : Prop := Refused result ∨ result = .ok ()

/-! ## When they are given -/

/-- `json` can read what is there, and it is an object. -/
structure ReadsObject (runtime : PythonRuntime) (stdout : String) : Prop where
  digits : decode runtime stdout ≠ .error .tooManyDigits
  depth : decode runtime stdout ≠ .error .tooDeep
  object : forall payload rest, decode runtime stdout = .ok (payload, rest) ->
    exists found, payload = .object found

def whole (n : Int) : Json := .number ⟨n, 0, true⟩

/-- A column of whole numbers of 64 bits. -/
def WholeColumn (cells : List Cell) (ns : List Int) : Prop :=
  cells = ns.map (fun n => some (whole n)) ∧ forall n, n ∈ ns -> -2 ^ 63 ≤ n ∧ n < 2 ^ 63

/-- The conversion for the unit of the first time is right for another one; 0 and -1
are the same in both. -/
def SameUnit (first n : Int) : Prop :=
  if unitLimit < first then unitLimit < n ∨ n = 0 ∨ n = -1 else n ≤ unitLimit

/-- The calls of pandas with which the column becomes these times. -/
def Converted (pandas : Pandas) (cells : List Cell) (times : List Int) : Prop :=
  exists milliseconds seconds, pandas.exceeds cells = .ok milliseconds ∧
    (if milliseconds then pandas.thousandths cells = .ok seconds else cells = seconds) ∧
    pandas.astypeInt seconds = .ok times

/-- Whole numbers are all of the unit of the first, and of other times pandas makes the
seconds. -/
inductive TimesRight (pandas : Pandas) (cells : List Cell) : Prop
  | whole {first : Int} {rest : List Int} (column : WholeColumn cells (first :: rest))
      (unit : forall n, n ∈ first :: rest -> SameUnit first n)
  | other {times : List Int} (mixed : forall ns, ¬ WholeColumn cells ns)
      (converted : Converted pandas cells times)
      (seconds : List.Forall₂ (fun cell time => secondsOf cell = some time) cells times)

/-- Of the bars pandas makes a frame without times, or one that lacks a price column, or
they are objects with right times. -/
inductive BarsRight (pandas : Pandas) (bars : Json) : Prop
  | noTime {df : BarFrame} (built : pandas.dataFrame bars = .ok df)
      (absent : codePoints "time" ∉ df.columns)
  | noPrice {df : BarFrame} {times : List Int} {name : String}
      (built : pandas.dataFrame bars = .ok df)
      (converted : Converted pandas (df.column "time") times)
      (asked : name ∈ priceColumns) (absent : codePoints name ∉ df.columns)
  | objects {df : BarFrame} {records : List Record} (listed : bars = .array (records.map .object))
      (built : pandas.dataFrame bars = .ok df)
      (times : TimesRight pandas (records.map (fun record => field record "time")))

/-- The outcome is one that is answered for. -/
def FetchReads (runtime : PythonRuntime) (pandas : Pandas) (run : TvRun) : Prop :=
  forall stdout stderr, run = .completed 0 stdout stderr -> PyText.strip stdout ≠ "" ->
    ReadsObject runtime stdout ∧
      forall found rest bars, decode runtime stdout = .ok (.object found, rest) ->
        truthyMember found "success" = true -> field found "bars" = some bars ->
        Discovery.Python.truthy bars = true -> BarsRight pandas bars

def SwitchReads (runtime : PythonRuntime) (run : TvRun) : Prop :=
  forall stdout stderr, run = .completed 0 stdout stderr -> PyText.strip stdout ≠ "" ->
    ReadsObject runtime stdout

/-- What the documentation of pandas says of lists of objects and of columns of whole
numbers. -/
structure Documented (pandas : Pandas) : Prop where
  records : forall (records : List Record) df,
    pandas.dataFrame (.array (records.map .object)) = .ok df -> df.rows = records
  exceeds : forall cells first rest, WholeColumn cells (first :: rest) ->
    pandas.exceeds cells = .ok (decide (unitLimit < first))
  thousandths : forall cells ns, WholeColumn cells ns ->
    pandas.thousandths cells = .ok (ns.map (fun n => some (whole (n / 1000))))
  astypeInt : forall cells ns, WholeColumn cells ns -> pandas.astypeInt cells = .ok ns
  thousandthsLength : forall cells seconds, pandas.thousandths cells = .ok seconds ->
    seconds.length = cells.length
  astypeIntLength : forall cells times, pandas.astypeInt cells = .ok times ->
    times.length = cells.length

/-! ## The time column -/

theorem raising_ok_iff {Value : Type} (called : Except String Value) (value : Value) :
    raising called = .ok value ↔ called = .ok value := by
  cases called <;> simp [raising]

theorem raising_not_refused {Value : Type} (called : Except String Value) :
    ¬ Refused (raising called) := by
  cases called <;> simp [raising, Refused]

theorem convertTimes_ok_iff (pandas : Pandas) (cells : List Cell) (times : List Int) :
    convertTimes pandas cells = .ok times ↔ Converted pandas cells times := by
  unfold convertTimes Converted
  rw [bind_eq_ok_iff]
  constructor
  · rintro ⟨milliseconds, compared, converted⟩
    rw [raising_ok_iff] at compared
    cases milliseconds with
    | true =>
        rcases (bind_eq_ok_iff _).mp converted with ⟨seconds, divided, converted⟩
        exact ⟨true, seconds, compared, (raising_ok_iff _ _).mp divided,
          (raising_ok_iff _ _).mp converted⟩
    | false => exact ⟨false, cells, compared, rfl, (raising_ok_iff _ _).mp converted⟩
  · rintro ⟨milliseconds, seconds, compared, divided, converted⟩
    refine ⟨milliseconds, (raising_ok_iff _ _).mpr compared, ?_⟩
    cases milliseconds with
    | true =>
        apply (bind_eq_ok_iff _).mpr
        exact ⟨seconds, (raising_ok_iff _ _).mpr divided, (raising_ok_iff _ _).mpr converted⟩
    | false =>
        cases divided
        exact (raising_ok_iff _ _).mpr converted

theorem convertTimes_not_refused (pandas : Pandas) (cells : List Cell) :
    ¬ Refused (convertTimes pandas cells) := by
  rintro ⟨message, fails⟩
  unfold convertTimes at fails
  rcases (bind_eq_error_iff _).mp fails with fails | ⟨milliseconds, -, fails⟩
  · exact raising_not_refused _ ⟨message, fails⟩
  cases milliseconds with
  | true =>
      rcases (bind_eq_error_iff _).mp fails with fails | ⟨seconds, -, fails⟩
      · exact raising_not_refused _ ⟨message, fails⟩
      · exact raising_not_refused _ ⟨message, fails⟩
  | false => exact raising_not_refused _ ⟨message, fails⟩

theorem Converted.length {cells : List Cell} {times : List Int} (documented : Documented pandas)
    (converted : Converted pandas cells times) : times.length = cells.length := by
  rcases converted with ⟨milliseconds, seconds, -, divided, converted⟩
  rw [documented.astypeIntLength seconds times converted]
  cases milliseconds with
  | true => exact documented.thousandthsLength cells seconds divided
  | false => rw [show cells = seconds from divided]

/-- A column of whole numbers is converted by the unit of the first. -/
theorem converted_of_wholeColumn {cells : List Cell} {first : Int} {rest : List Int}
    (documented : Documented pandas) (column : WholeColumn cells (first :: rest)) :
    Converted pandas cells
      (if unitLimit < first then (first :: rest).map (· / 1000) else first :: rest) := by
  have compared := documented.exceeds cells first rest column
  by_cases late : unitLimit < first
  · rw [decide_eq_true late] at compared
    rw [if_pos late]
    refine ⟨true, _, compared, documented.thousandths cells _ column, ?_⟩
    apply documented.astypeInt
    refine ⟨by rw [List.map_map]; rfl, ?_⟩
    intro n member
    rcases List.mem_map.mp member with ⟨m, listed, rfl⟩
    have bounds := column.2 m listed
    omega
  · rw [decide_eq_false late] at compared
    rw [if_neg late]
    exact ⟨false, cells, compared, rfl, documented.astypeInt cells _ column⟩

theorem Converted.unique {cells : List Cell} {one other : List Int}
    (first : Converted pandas cells one) (second : Converted pandas cells other) : one = other := by
  rw [← convertTimes_ok_iff] at first second
  rw [first] at second
  cases second
  rfl

theorem secondsOf_whole (n : Int) :
    secondsOf (some (whole n)) = some (if unitLimit < n then n / 1000 else n) := by
  have value : numeric (whole n) = some (n : Rat) := rfl
  have limit : (unitLimit : Rat) < n ↔ unitLimit < n := Int.cast_lt
  have divided : ⌊(n : Rat) / 1000⌋ = n / 1000 := by
    simpa using Rat.floor_intCast_div_natCast n 1000
  simp [secondsOf, value, limit, divided]

/-- The conversion by the unit of another time is right exactly for the same unit. -/
theorem secondsOf_whole_eq_iff (first n : Int) :
    secondsOf (some (whole n)) = some (if unitLimit < first then n / 1000 else n) ↔
      SameUnit first n := by
  have limit : unitLimit = 1000000000000 := rfl
  rw [secondsOf_whole, Option.some.injEq, SameUnit]
  by_cases late : unitLimit < first
  · rw [if_pos late, if_pos late]
    by_cases own : unitLimit < n
    · rw [if_pos own]
      exact iff_of_true rfl (Or.inl own)
    · rw [if_neg own]
      omega
  · rw [if_neg late, if_neg late]
    by_cases own : unitLimit < n
    · rw [if_pos own]
      omega
    · rw [if_neg own]
      exact iff_of_true rfl (not_lt.mp own)

/-- The times of a column are right exactly if pandas makes their seconds of it. -/
theorem timesRight_iff (documented : Documented pandas) {cells : List Cell}
    (nonempty : cells ≠ []) :
    TimesRight pandas cells ↔ exists times, Converted pandas cells times ∧
      List.Forall₂ (fun cell time => secondsOf cell = some time) cells times := by
  have wholes : forall {first rest}, WholeColumn cells (first :: rest) ->
      (List.Forall₂ (fun cell time => secondsOf cell = some time) cells
          (if unitLimit < first then (first :: rest).map (· / 1000) else first :: rest) ↔
        forall n, n ∈ first :: rest -> SameUnit first n) := by
    intro first rest column
    have times : (if unitLimit < first then (first :: rest).map (· / 1000) else first :: rest) =
        (first :: rest).map (fun n => if unitLimit < first then n / 1000 else n) := by
      by_cases late : unitLimit < first
      · simp only [if_pos late]
      · simp only [if_neg late, List.map_id']
    rw [times, column.1, List.forall₂_map_left_iff, List.forall₂_map_right_iff, List.forall₂_same]
    simp only [secondsOf_whole_eq_iff]
  constructor
  · intro right
    cases right with
    | whole column unit =>
        exact ⟨_, converted_of_wholeColumn documented column, (wholes column).mpr unit⟩
    | other mixed converted seconds => exact ⟨_, converted, seconds⟩
  · rintro ⟨times, converted, seconds⟩
    by_cases mixed : forall ns, ¬ WholeColumn cells ns
    · exact TimesRight.other mixed converted seconds
    · push Not at mixed
      rcases mixed with ⟨ns, column⟩
      cases ns with
      | nil => exact absurd column.1 nonempty
      | cons first rest =>
          rw [converted.unique (converted_of_wholeColumn documented column)] at seconds
          exact TimesRight.whole column ((wholes column).mp seconds)

/-! ## The bars -/

/-- The rows of a frame with their times. -/
theorem forall₂_barOf_iff {rows : List Record} {times : List Int}
    (lengths : times.length = rows.length) :
    List.Forall₂ BarOf rows (List.zipWith rowBar rows times) ↔
      List.Forall₂ (fun cell time => secondsOf cell = some time)
        (rows.map (fun row => field row "time")) times := by
  have sameTime : forall {row : Record} {one other : Int}, rowBar row one = rowBar row other ->
      one = other := fun same => congrArg Bar.time same
  induction rows generalizing times with
  | nil =>
      rw [List.length_eq_zero_iff.mp lengths]
      exact iff_of_true List.Forall₂.nil List.Forall₂.nil
  | cons row rest ih =>
      cases times with
      | nil => cases lengths
      | cons time later =>
          rw [List.zipWith_cons_cons, List.map_cons, List.forall₂_cons, List.forall₂_cons]
          apply and_congr _ (ih (Nat.succ.inj lengths))
          constructor
          · rintro ⟨own, seconds, same⟩
            rw [sameTime same]
            exact seconds
          · exact fun seconds => ⟨time, seconds, rfl⟩

/-- What `barsFrame` does with the frame that pandas makes. -/
theorem barsFrame_of_built (runtime : PythonRuntime) {bars : Json} {df : BarFrame}
    (built : pandas.dataFrame bars = .ok df) :
    (codePoints "time" ∉ df.columns ∧ Refused (barsFrame runtime pandas bars)) ∨
      (exists raised, convertTimes pandas (df.column "time") = .error raised ∧
        codePoints "time" ∈ df.columns ∧ barsFrame runtime pandas bars = .error raised) ∨
      exists times, Converted pandas (df.column "time") times ∧ codePoints "time" ∈ df.columns ∧
        ((Refused (barsFrame runtime pandas bars) ∧
            exists name, name ∈ priceColumns ∧ codePoints name ∉ df.columns) ∨
          (barsFrame runtime pandas bars = .ok (List.zipWith rowBar df.rows times) ∧
            forall name, name ∈ priceColumns -> codePoints name ∈ df.columns)) := by
  by_cases present : codePoints "time" ∈ df.columns
  · refine Or.inr ?_
    cases converted : convertTimes pandas (df.column "time") with
    | error raised =>
        refine Or.inl ⟨raised, rfl, present, ?_⟩
        simp [barsFrame, built, raising, present, converted, bind, Except.bind]
    | ok times =>
        refine Or.inr ⟨times, (convertTimes_ok_iff _ _ _).mp converted, present, ?_⟩
        by_cases complete : forall name, name ∈ priceColumns -> codePoints name ∈ df.columns
        · refine Or.inr ⟨?_, complete⟩
          simpa [barsFrame, built, raising, present, converted, bind, Except.bind, pure,
            Except.pure] using complete
        · push Not at complete
          refine Or.inl ⟨?_, complete⟩
          simp [barsFrame, built, raising, present, converted, complete, bind, Except.bind,
            Refused, throw, throwThe, MonadExceptOf.throw]
  · refine Or.inl ⟨present, ?_⟩
    simp [barsFrame, built, raising, present, Refused, bind, Except.bind, throw, throwThe,
      MonadExceptOf.throw]

theorem records_ne_nil {bars : Json} (truthy : Discovery.Python.truthy bars = true)
    {records : List Record} (listed : bars = .array (records.map .object)) : records ≠ [] := by
  rintro rfl
  rw [listed] at truthy
  cases truthy

/-- A list of objects is the frame, row by row. -/
theorem rows_of_objects (documented : Documented pandas) {bars : Json} {df : BarFrame}
    (built : pandas.dataFrame bars = .ok df) {records : List Record}
    (listed : bars = .array (records.map .object)) :
    df.rows = records ∧ df.column "time" = records.map (fun record => field record "time") := by
  rw [listed] at built
  have rows := documented.records records df built
  exact ⟨rows, by rw [BarFrame.column, rows]⟩

theorem timesRight_objects_iff (documented : Documented pandas) {bars : Json} {df : BarFrame}
    (truthy : Discovery.Python.truthy bars = true) (built : pandas.dataFrame bars = .ok df)
    {records : List Record} (listed : bars = .array (records.map .object)) :
    TimesRight pandas (records.map (fun record => field record "time")) ↔ exists times,
      Converted pandas (df.column "time") times ∧
        List.Forall₂ (fun cell time => secondsOf cell = some time) (df.column "time") times := by
  rw [← (rows_of_objects documented built listed).2]
  apply timesRight_iff documented
  rw [(rows_of_objects documented built listed).2]
  exact fun empty => records_ne_nil truthy listed (List.map_eq_nil_iff.mp empty)

/-- Bars that are answered for have times, unless they have no column for them. -/
theorem BarsRight.converted (documented : Documented pandas) {bars : Json} {df : BarFrame}
    (truthy : Discovery.Python.truthy bars = true) (right : BarsRight pandas bars)
    (built : pandas.dataFrame bars = .ok df) (present : codePoints "time" ∈ df.columns) :
    exists times, Converted pandas (df.column "time") times := by
  cases right with
  | noTime otherwise absent =>
      cases built.symm.trans otherwise
      exact absurd present absent
  | noPrice otherwise converted _ _ =>
      cases built.symm.trans otherwise
      exact ⟨_, converted⟩
  | objects listed _ times =>
      rcases (timesRight_objects_iff documented truthy built listed).mp times with
        ⟨times, converted, _⟩
      exact ⟨times, converted⟩

/-- An exception that is no `DataFetchError` is no answer. -/
theorem not_fetchAnswers_of_error {bars : Option Json} {raised : PyError}
    (other : forall message, raised ≠ .dataFetchError message) :
    ¬ FetchAnswers bars (.error raised) := by
  rintro (⟨message, same⟩ | ⟨records, rows, -, impossible, -⟩)
  · exact other message (Except.error.inj same)
  · cases impossible

/-- The rows of a frame with all columns are an answer exactly for objects with right
times. -/
theorem fetchAnswers_rows_iff (documented : Documented pandas) {bars : Json} {df : BarFrame}
    (truthy : Discovery.Python.truthy bars = true) (built : pandas.dataFrame bars = .ok df)
    {times : List Int} (converted : Converted pandas (df.column "time") times)
    (present : codePoints "time" ∈ df.columns)
    (complete : forall name, name ∈ priceColumns -> codePoints name ∈ df.columns) :
    FetchAnswers (some bars) (.ok (List.zipWith rowBar df.rows times)) ↔
      BarsRight pandas bars := by
  have lengths : times.length = df.rows.length := by
    have same := converted.length documented
    rwa [BarFrame.column, List.length_map] at same
  constructor
  · rintro (⟨message, impossible⟩ | ⟨records, rows, listed, returned, each⟩)
    · cases impossible
    · have objects := Option.some.inj listed
      have frame := rows_of_objects documented built objects
      cases returned
      refine BarsRight.objects objects built
        ((timesRight_objects_iff documented truthy built objects).mpr ⟨times, converted, ?_⟩)
      rw [← frame.1, forall₂_barOf_iff lengths] at each
      exact each
  · intro right
    cases right with
    | noTime otherwise absent =>
        cases built.symm.trans otherwise
        exact absurd present absent
    | noPrice otherwise _ asked absent =>
        cases built.symm.trans otherwise
        exact absurd (complete _ asked) absent
    | objects listed _ right =>
        rcases (timesRight_objects_iff documented truthy built listed).mp right with
          ⟨found, again, seconds⟩
        rw [again.unique converted] at seconds
        refine Or.inr ⟨_, _, congrArg some listed, rfl, ?_⟩
        rw [← (rows_of_objects documented built listed).1, forall₂_barOf_iff lengths]
        exact seconds

/-- The bars are answered for exactly if pandas makes no times of them or the right ones. -/
theorem fetchAnswers_barsFrame_iff (documented : Documented pandas) {bars : Json}
    (truthy : Discovery.Python.truthy bars = true) :
    FetchAnswers (some bars) (barsFrame runtime pandas bars) ↔ BarsRight pandas bars := by
  cases built : pandas.dataFrame bars with
  | error typeName =>
      have escapes : barsFrame runtime pandas bars = .error (.other typeName) := by
        simp [barsFrame, built, raising, bind, Except.bind]
      rw [escapes]
      apply iff_of_false (not_fetchAnswers_of_error (fun message same => (by cases same)))
      rintro (⟨otherwise, -⟩ | ⟨otherwise, -, -, -⟩ | ⟨-, otherwise, -⟩)
      · cases built.symm.trans otherwise
      · cases built.symm.trans otherwise
      · cases built.symm.trans otherwise
  | ok df =>
      rcases barsFrame_of_built runtime built with ⟨absent, refused⟩ |
        ⟨raised, failed, present, escapes⟩ | ⟨times, converted, present, known⟩
      · exact iff_of_true (Or.inl refused) (BarsRight.noTime built absent)
      · rw [escapes]
        apply iff_of_false
        · apply not_fetchAnswers_of_error
          rintro message rfl
          exact convertTimes_not_refused pandas _ ⟨message, failed⟩
        · intro right
          rcases right.converted documented truthy built present with ⟨times, converted⟩
          rw [← convertTimes_ok_iff, failed] at converted
          cases converted
      · rcases known with ⟨refused, name, asked, absent⟩ | ⟨answered, complete⟩
        · exact iff_of_true (Or.inl refused) (BarsRight.noPrice built converted asked absent)
        · rw [answered]
          exact fetchAnswers_rows_iff documented truthy built converted present complete

/-! ## The payload -/

theorem members_of_no_object {value : Json} (object : ¬ exists found, value = .object found) :
    exists message, members value = .error (.attributeError message) := by
  cases value with
  | object found => exact absurd ⟨found, rfl⟩ object
  | _ => exact ⟨_, rfl⟩

/-- The payload of an output is refused, or raises something else, or is an object. -/
inductive PayloadOf (runtime : PythonRuntime) (stdout : String) : Except PyError Record -> Prop
  | refused {message : String}
      (readable : PyText.strip stdout ≠ "" -> ReadsObject runtime stdout)
      (unread : PyText.strip stdout ≠ "" -> forall read, decode runtime stdout ≠ .ok read) :
      PayloadOf runtime stdout (.error (.dataFetchError message))
  | escaped {raised : PyError} (other : forall message, raised ≠ .dataFetchError message)
      (nonempty : PyText.strip stdout ≠ "") (unreadable : ¬ ReadsObject runtime stdout) :
      PayloadOf runtime stdout (.error raised)
  | object {found : Record} {rest : List Char} (nonempty : PyText.strip stdout ≠ "")
      (readable : ReadsObject runtime stdout)
      (decoded : decode runtime stdout = .ok (.object found, rest)) :
      PayloadOf runtime stdout (.ok found)

theorem payloadOf_payloadMembers (runtime : PythonRuntime) (context : String) (returncode : Int)
    (stdout stderr : String) :
    PayloadOf runtime stdout (payloadMembers runtime context returncode stdout stderr) := by
  by_cases empty : PyText.strip stdout = ""
  · simp only [payloadMembers, parseTvJson, if_pos empty, bind, Except.bind]
    exact PayloadOf.refused (absurd empty) (absurd empty)
  · simp only [payloadMembers, parseTvJson, if_neg empty]
    cases decoded : decode runtime stdout with
    | error fault =>
        have unread : forall read, decode runtime stdout ≠ .ok read := by
          intro read same
          rw [decoded] at same
          cases same
        cases fault with
        | malformed =>
            refine PayloadOf.refused (fun _ => ⟨?_, ?_, ?_⟩) (fun _ => unread)
            · rw [decoded]
              exact fun same => (by cases same)
            · rw [decoded]
              exact fun same => (by cases same)
            · exact fun payload rest same => absurd same (unread _)
        | fuel => exact absurd decoded (rawDecode_ne_fuel _ _)
        | tooManyDigits =>
            exact PayloadOf.escaped (fun message same => (by cases same)) empty
              (fun reads => reads.digits decoded)
        | tooDeep =>
            exact PayloadOf.escaped (fun message same => (by cases same)) empty
              (fun reads => reads.depth decoded)
    | ok read =>
        rcases read with ⟨payload, rest⟩
        by_cases object : exists found, payload = .object found
        · rcases object with ⟨found, rfl⟩
          refine PayloadOf.object empty ⟨?_, ?_, ?_⟩ decoded
          · rw [decoded]
            exact fun same => (by cases same)
          · rw [decoded]
            exact fun same => (by cases same)
          · intro other after same
            rw [decoded] at same
            cases same
            exact ⟨found, rfl⟩
        · rcases members_of_no_object object with ⟨message, fails⟩
          change PayloadOf runtime stdout (members payload)
          rw [fails]
          exact PayloadOf.escaped (fun other same => (by cases same)) empty
            (fun reads => object (reads.object payload rest decoded))

/-! ## The two functions -/

theorem switchReads_completed_iff (stdout stderr : String) :
    SwitchReads runtime (.completed 0 stdout stderr) ↔
      (PyText.strip stdout ≠ "" -> ReadsObject runtime stdout) := by
  constructor
  · exact fun whole => whole stdout stderr rfl
  · rintro whole _ _ ⟨⟩
    exact whole

/-- A step of the switch answers exactly if `json` can read an object. -/
theorem switchAnswers_iff (runtime : PythonRuntime) (tvCli subcmd arg : String) {run : TvRun}
    (found : run ≠ .notFound) :
    SwitchAnswers (switchStep runtime tvCli subcmd arg run) ↔ SwitchReads runtime run := by
  cases run with
  | notFound => exact absurd rfl found
  | timedOut => exact iff_of_true (Or.inl ⟨_, rfl⟩) (fun _ _ impossible => (by cases impossible))
  | completed returncode stdout stderr =>
      by_cases exited : returncode = 0
      · subst exited
        rw [switchReads_completed_iff]
        have payload := payloadOf_payloadMembers runtime subcmd 0 stdout stderr
        simp only [switchStep, ne_eq, not_true, if_false]
        generalize payloadMembers runtime subcmd 0 stdout stderr = result at payload ⊢
        cases payload with
        | refused readable unread => exact iff_of_true (Or.inl ⟨_, rfl⟩) readable
        | escaped other nonempty unreadable =>
            apply iff_of_false
            · rintro (⟨message, same⟩ | same)
              · exact other message (Except.error.inj same)
              · cases same
            · exact fun readable => unreadable (readable nonempty)
        | @object members rest nonempty readable decoded =>
            refine iff_of_true ?_ (fun _ => readable)
            cases success : truthyMember members "success" with
            | false => exact Or.inl ⟨_, by simp [success, bind, Except.bind]; rfl⟩
            | true => exact Or.inr (by simp [success, bind, Except.bind]; rfl)
      · refine iff_of_true (Or.inl ⟨"tv " ++ subcmd ++ " switch failed: " ++ PyText.strip stderr,
          ?_⟩) ?_
        · simp only [switchStep, ne_eq, exited, not_false_iff, if_true]
          rfl
        · rintro _ _ ⟨⟩
          exact absurd rfl exited

theorem truthyMember_iff (payload : Record) (name : String) :
    truthyMember payload name = true ↔
      exists value, field payload name = some value ∧ Discovery.Python.truthy value = true := by
  unfold truthyMember
  cases field payload name <;> simp

/-- What the fetch asks of a payload that is an object. -/
def BarsRead (pandas : Pandas) (payload : Record) : Prop :=
  truthyMember payload "success" = true -> forall bars, field payload "bars" = some bars ->
    Discovery.Python.truthy bars = true -> BarsRight pandas bars

theorem fetchAnswers_ohlcvBars_iff (runtime : PythonRuntime) (documented : Documented pandas)
    (payload : Record) :
    FetchAnswers (field payload "bars") (ohlcvBars runtime pandas payload) ↔
      BarsRead pandas payload := by
  cases success : truthyMember payload "success" with
  | false =>
      refine iff_of_true (Or.inl ⟨"tv CLI reported failure: " ++ runtime.pyStr (.object payload),
        ?_⟩) ?_
      · simp only [ohlcvBars, success]
        rfl
      · intro otherwise
        rw [success] at otherwise
        cases otherwise
  | true =>
      by_cases listed : truthyMember payload "bars" = true
      · rcases (truthyMember_iff payload "bars").mp listed with ⟨bars, found, truthy⟩
        have reached : ohlcvBars runtime pandas payload = barsFrame runtime pandas bars := by
          simp only [ohlcvBars, success, listed, found]
          rfl
        rw [reached, found, fetchAnswers_barsFrame_iff documented truthy]
        constructor
        · intro right _ other same _
          rw [found] at same
          cases same
          exact right
        · exact fun read => read success bars found truthy
      · refine iff_of_true (Or.inl ⟨"tv CLI returned empty bars array", ?_⟩) ?_
        · simp only [ohlcvBars, success, listed]
          rfl
        · intro _ bars found truthy
          exact absurd ((truthyMember_iff payload "bars").mpr ⟨bars, found, truthy⟩) listed

theorem fetchReads_completed_iff (stdout stderr : String) :
    FetchReads runtime pandas (.completed 0 stdout stderr) ↔
      (PyText.strip stdout ≠ "" -> ReadsObject runtime stdout ∧
        forall payload rest, decode runtime stdout = .ok (.object payload, rest) ->
          BarsRead pandas payload) := by
  constructor
  · intro whole nonempty
    rcases whole stdout stderr rfl nonempty with ⟨readable, bars⟩
    exact ⟨readable, fun payload rest decoded success found listed =>
      bars payload rest found decoded success listed⟩
  · rintro whole _ _ ⟨⟩ nonempty
    rcases whole nonempty with ⟨readable, bars⟩
    exact ⟨readable, fun payload rest found decoded success listed =>
      bars payload rest decoded success found listed⟩

/-- A fetch answers exactly if `json` can read an object, and its bars are answered for. -/
theorem fetchAnswers_iff (documented : Documented pandas) (tvCli : String) (count : Int)
    (run : TvRun) :
    FetchAnswers (payloadBars runtime run) (tvFetch runtime pandas tvCli count run) ↔
      FetchReads runtime pandas run := by
  cases run with
  | notFound =>
      exact iff_of_true (Or.inl ⟨_, rfl⟩) (fun _ _ impossible => (by cases impossible))
  | timedOut =>
      exact iff_of_true (Or.inl ⟨_, rfl⟩) (fun _ _ impossible => (by cases impossible))
  | completed returncode stdout stderr =>
      by_cases exited : returncode = 0
      · subst exited
        rw [fetchReads_completed_iff]
        have payload := payloadOf_payloadMembers runtime "ohlcv" 0 stdout stderr
        simp only [tvFetch, ne_eq, not_true, if_false]
        generalize payloadMembers runtime "ohlcv" 0 stdout stderr = result at payload ⊢
        cases payload with
        | refused readable unread =>
            refine iff_of_true (Or.inl ⟨_, rfl⟩) (fun nonempty => ⟨readable nonempty, ?_⟩)
            exact fun payload rest decoded => absurd decoded (unread nonempty _)
        | escaped other nonempty unreadable =>
            exact iff_of_false (not_fetchAnswers_of_error other)
              (fun readable => unreadable (readable nonempty).1)
        | @object members rest nonempty readable decoded =>
            have bars : payloadBars runtime (.completed 0 stdout stderr) = field members "bars" := by
              simp only [payloadBars, decoded]
            have asked : (PyText.strip stdout ≠ "" -> ReadsObject runtime stdout ∧
                forall payload rest, decode runtime stdout = .ok (.object payload, rest) ->
                  BarsRead pandas payload) ↔ BarsRead pandas members := by
              constructor
              · exact fun whole => (whole nonempty).2 members rest decoded
              · intro read _
                refine ⟨readable, ?_⟩
                intro payload after same
                rw [decoded] at same
                cases same
                exact read
            rw [bars, asked]
            exact fetchAnswers_ohlcvBars_iff runtime documented members
      · refine iff_of_true (Or.inl ⟨"tv CLI failed (exit " ++ toString returncode ++ "): " ++
          PyText.strip stderr, ?_⟩) ?_
        · simp only [tvFetch, ne_eq, exited, not_false_iff, if_true]
          rfl
        · rintro _ _ ⟨⟩
          exact absurd rfl exited

/-- For every outcome of the command, a fetch answers with a `DataFetchError` or the bars
of the payload, and a step of a switch with a `DataFetchError` or success, exactly if
`json` can read an object, and the bars make no times or the right ones. -/
theorem tv_cli_answers_iff (runtime : PythonRuntime) (pandas : Pandas)
    (documented : Documented pandas) (tvCli : String) :
    (forall (count : Int) (run : TvRun),
      FetchAnswers (payloadBars runtime run) (tvFetch runtime pandas tvCli count run) ↔
        FetchReads runtime pandas run) ∧
      forall (subcmd arg : String) (run : TvRun), run ≠ .notFound ->
        (SwitchAnswers (switchStep runtime tvCli subcmd arg run) ↔ SwitchReads runtime run) :=
  ⟨fetchAnswers_iff documented tvCli,
    fun subcmd arg _ found => switchAnswers_iff runtime tvCli subcmd arg found⟩

/-! ### Whole numbers -/

def wholeOf : Cell -> Option Int
  | some (.number ⟨n, 0, true⟩) => some n
  | _ => none

def asRecord : Json -> Option Record
  | .object members => some members
  | _ => none

/-- pandas on lists of objects and on columns of whole numbers. -/
def wholePandas : Pandas where
  dataFrame
    | .array items =>
      match items.mapM asRecord with
      | some records =>
        .ok ⟨(records.flatMap (fun record => record.map Prod.fst)).eraseDups, records⟩
      | none => .error "AttributeError"
    | _ => .error "ValueError"
  exceeds cells :=
    match cells.mapM wholeOf with
    | some (first :: _) => .ok (decide (unitLimit < first))
    | _ => .error "TypeError"
  thousandths cells :=
    match cells.mapM wholeOf with
    | some ns => .ok (ns.map (fun n => some (whole (n / 1000))))
    | none => .error "TypeError"
  astypeInt cells :=
    match cells.mapM wholeOf with
    | some ns => .ok ns
    | none => .error "TypeError"

theorem mapM_map_some {Given Made : Type} {read : Given -> Option Made} {write : Made -> Given}
    (inverse : forall made, read (write made) = some made) (items : List Made) :
    (items.map write).mapM read = some items := by
  induction items with
  | nil => rfl
  | cons made rest ih => simp [inverse, ih]

theorem length_of_mapM {Given Made : Type} {read : Given -> Option Made} {items : List Given}
    {found : List Made} (all : items.mapM read = some found) : found.length = items.length := by
  induction items generalizing found with
  | nil =>
      cases all
      rfl
  | cons item rest ih =>
      simp only [List.mapM_cons, Option.bind_eq_bind, Option.bind_eq_some_iff, Option.pure_def,
        Option.some.injEq] at all
      rcases all with ⟨made, -, others, later, rfl⟩
      rw [List.length_cons, List.length_cons, ih later]

theorem mapM_wholeOf {cells : List Cell} {ns : List Int} (column : WholeColumn cells ns) :
    cells.mapM wholeOf = some ns := by
  have inverse : forall n, wholeOf (some (whole n)) = some n := fun _ => rfl
  rw [column.1]
  exact mapM_map_some inverse ns

theorem documented_wholePandas : Documented wholePandas := by
  constructor
  · intro records df built
    have inverse : forall members, asRecord (.object members) = some members := fun _ => rfl
    have all := mapM_map_some inverse records
    simp only [wholePandas, all] at built
    cases built
    rfl
  · intro cells first rest column
    simp only [wholePandas, mapM_wholeOf column]
  · intro cells ns column
    simp only [wholePandas, mapM_wholeOf column]
  · intro cells ns column
    simp only [wholePandas, mapM_wholeOf column]
  · intro cells seconds divided
    cases all : cells.mapM wholeOf with
    | none =>
        simp only [wholePandas, all] at divided
        cases divided
    | some ns =>
        simp only [wholePandas, all] at divided
        cases divided
        rw [List.length_map, length_of_mapM all]
  · intro cells times converted
    cases all : cells.mapM wholeOf with
    | none =>
        simp only [wholePandas, all] at converted
        cases converted
    | some ns =>
        simp only [wholePandas, all] at converted
        cases converted
        exact length_of_mapM all

/-- A runtime that shows nothing in its messages. -/
def silentRuntime : PythonRuntime :=
  ⟨1000, fun _ => "", fun _ => "", fun _ _ _ _ => "", fun _ _ _ => ""⟩

/-- An output of `tv ohlcv` with a bar in milliseconds. -/
def oneBar : TvRun :=
  .completed 0 ("\x7b\"success\":1,\"bars\":[\x7b\"time\":1700000000000," ++
    "\"open\":1,\"high\":1,\"low\":1,\"close\":1,\"volume\":1\x7d]\x7d") ""

/-- An output with two bars, of which the second is in milliseconds and has no prices. -/
def twoUnits : TvRun :=
  .completed 0 ("\x7b\"success\":1,\"bars\":[\x7b\"time\":3600," ++
    "\"open\":1,\"high\":1,\"low\":1,\"close\":1,\"volume\":1\x7d," ++
    "\x7b\"time\":1700003600000\x7d]\x7d") ""

/-- A bar in milliseconds comes out in seconds. -/
theorem tv_cli_answers_iff_milliseconds :
    (tvFetch silentRuntime wholePandas "tv" 500 oneBar).map (List.map (fun bar => bar.time)) =
        .ok [1700000000] ∧
      (FetchAnswers (payloadBars silentRuntime oneBar)
          (tvFetch silentRuntime wholePandas "tv" 500 oneBar) ↔
        FetchReads silentRuntime wholePandas oneBar) ∧
      (SwitchAnswers (switchStep silentRuntime "tv" "symbol" "BTC" oneBar) ↔
        SwitchReads silentRuntime oneBar) := by
  have answers := tv_cli_answers_iff silentRuntime wholePandas documented_wholePandas "tv"
  refine ⟨by decide +kernel, answers.1 500 _, answers.2 "symbol" "BTC" _ ?_⟩
  exact fun same => (by cases same)

/-- A payload that is an array or `null` has no `get`, and of two bars of different
units the second keeps its milliseconds. -/
theorem array_payload_escapes :
    let array : TvRun := .completed 0 "[1]" ""
    tvFetch silentRuntime wholePandas "tv" 500 array =
        .error (.attributeError "'list' object has no attribute 'get'") ∧
      ¬ FetchAnswers (payloadBars silentRuntime array)
        (tvFetch silentRuntime wholePandas "tv" 500 array) ∧
      switchStep silentRuntime "tv" "symbol" "BTC" (.completed 0 "null" "") =
        .error (.attributeError "'NoneType' object has no attribute 'get'") ∧
      (tvFetch silentRuntime wholePandas "tv" 500 twoUnits).map (List.map (fun bar => bar.time)) =
        .ok [3600, 1700003600000] := by
  intro array
  have shown : (tvFetch silentRuntime wholePandas "tv" 500 array).map (List.map Bar.time) =
      .error (.attributeError "'list' object has no attribute 'get'") := by decide +kernel
  have escapes : tvFetch silentRuntime wholePandas "tv" 500 array =
      .error (.attributeError "'list' object has no attribute 'get'") := by
    cases known : tvFetch silentRuntime wholePandas "tv" 500 array with
    | ok rows =>
        rw [known] at shown
        cases shown
    | error raised =>
        rw [known] at shown
        rw [Except.error.inj shown]
  refine ⟨escapes, ?_, by decide +kernel, by decide +kernel⟩
  rw [escapes]
  exact not_fetchAnswers_of_error (fun message same => (by cases same))

end TvCli

end HybridDataSvc
