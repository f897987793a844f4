import HybridDataSvc.Service.Loop

namespace HybridDataSvc

open Relational PyText

/-!
# What `FEEDS` can say

The parser reads back every list of feeds that can be written down with commas
and at signs, whatever space is put around its fields and whatever empty entries
between them.  The other way round it is less careful: an entry without an at
sign is dropped when it is empty, but nothing looks at the parts of one that has
an at sign, so that an empty part becomes an empty field of a feed.
-/

theorem not_mem_of_spaces {c : Char} (visible : isSpace c = false) {run : List Char}
    (blank : forall c, c ∈ run -> isSpace c = true) : c ∉ run := by
  intro member
  rw [blank c member] at visible
  cases visible

/-- The parts of an entry. -/
def entryFields (entry : String) : List String :=
  (split (strip entry) '@').map strip

theorem entryFields_ofList (entry : List Char) :
    entryFields (String.ofList entry) =
      ((trim isSpace entry).splitOn '@').map (fun part => String.ofList (trim isSpace part)) := by
  simp [entryFields, split, strip, Function.comp_def]

theorem entryFields_ne_nil (entry : String) : entryFields entry ≠ [] := by
  simp [entryFields, split]

/-- An entry of which a part becomes a field and is empty. -/
def HalfEmpty (entry : String) : Prop :=
  2 ≤ (entryFields entry).length ∧ "" ∈ (entryFields entry).take 3

instance (entry : String) : Decidable (HalfEmpty entry) := inferInstanceAs (Decidable (_ ∧ _))

namespace Feed

/-- All fields say something. -/
@[mk_iff]
structure Complete (feed : Feed) : Prop where
  symbol : feed.symbol ≠ ""
  timeframe : feed.timeframe ≠ ""
  tvSymbol : feed.tvSymbol ≠ ""

end Feed

section Entries

variable {symbol timeframe tvSymbol : String}

/-- The feeds of an entry are complete exactly when it is not half empty. -/
theorem parseEntry_complete_iff (timeframeSome : timeframe ≠ "") (tvSymbolSome : tvSymbol ≠ "")
    (entry : String) :
    (forall feed, feed ∈ parseEntry timeframe tvSymbol entry -> feed.Complete) ↔
      ¬ HalfEmpty entry := by
  unfold HalfEmpty
  rw [parseEntry, ← entryFields]
  rcases fields : entryFields entry with _ | ⟨first, _ | ⟨second, _ | ⟨third, rest⟩⟩⟩
  · exact absurd fields (entryFields_ne_nil entry)
  · apply iff_of_true
    · intro feed member
      by_cases empty : first = ""
      · simp [empty] at member
      · simp only [if_neg empty, List.mem_singleton] at member
        rw [member]
        exact ⟨empty, timeframeSome, tvSymbolSome⟩
    · simp
  · have empty : "" ∈ List.take 3 [first, second] ↔ first = "" ∨ second = "" := by
      simp [eq_comm]
    rw [empty, List.forall_mem_singleton, Feed.complete_iff]
    simp [tvSymbolSome]
  · have empty : "" ∈ List.take 3 (first :: second :: third :: rest) ↔
        first = "" ∨ second = "" ∨ third = "" := by
      simp [eq_comm]
    rw [empty, List.forall_mem_singleton, Feed.complete_iff]
    simp

/-- An entry of nothing but space gives no feed. -/
theorem parseEntry_blank {entry : List Char} (blank : forall c, c ∈ entry -> isSpace c = true) :
    parseEntry timeframe tvSymbol (String.ofList entry) = [] := by
  have fields : entryFields (String.ofList entry) = [""] := by
    rw [entryFields_ofList, (trim_eq_nil_iff entry).mpr blank]
    rfl
  rw [parseEntry, ← entryFields, fields]
  rfl

/-- The first check of the parser repeats what the last one does. -/
theorem parseFeeds_eq (feedsEnv : String) :
    parseFeeds feedsEnv symbol timeframe tvSymbol =
      let result := (split feedsEnv ',').flatMap (parseEntry timeframe tvSymbol)
      if result.isEmpty then [⟨symbol, timeframe, tvSymbol⟩] else result := by
  by_cases empty : strip feedsEnv = ""
  · have blank := (strip_eq_empty_iff feedsEnv).mp empty
    have noComma : ',' ∉ feedsEnv.toList := not_mem_of_spaces (by decide) blank
    have none : (split feedsEnv ',').flatMap (parseEntry timeframe tvSymbol) = [] := by
      rw [split, List.splitOn_eq_singleton noComma]
      simp [-String.ofList_toList, parseEntry_blank blank]
    rw [parseFeeds, if_pos empty, none]
    rfl
  · rw [parseFeeds, if_neg empty]

/-- Every result is non-empty, and complete exactly when no entry is half empty. -/
theorem parseFeeds_complete_iff (symbolSome : symbol ≠ "") (timeframeSome : timeframe ≠ "")
    (tvSymbolSome : tvSymbol ≠ "") (feedsEnv : String) :
    (parseFeeds feedsEnv symbol timeframe tvSymbol ≠ [] ∧
        forall feed, feed ∈ parseFeeds feedsEnv symbol timeframe tvSymbol -> feed.Complete) ↔
      forall entry, entry ∈ split feedsEnv ',' -> ¬ HalfEmpty entry := by
  have entries : (forall entry, entry ∈ split feedsEnv ',' -> ¬ HalfEmpty entry) ↔
      forall feed, feed ∈ (split feedsEnv ',').flatMap (parseEntry timeframe tvSymbol) ->
        feed.Complete := by
    simp only [List.mem_flatMap, ← parseEntry_complete_iff timeframeSome tvSymbolSome]
    constructor
    · rintro complete feed ⟨entry, listed, member⟩
      exact complete entry listed feed member
    · intro complete entry listed feed member
      exact complete feed ⟨entry, listed, member⟩
  rw [entries, parseFeeds_eq]
  by_cases none : (split feedsEnv ',').flatMap (parseEntry timeframe tvSymbol) = []
  · simp only [none, List.isEmpty_nil, if_true]
    refine iff_of_true ⟨by simp, ?_⟩ (by simp)
    intro feed member
    rw [List.mem_singleton.mp member]
    exact ⟨symbolSome, timeframeSome, tvSymbolSome⟩
  · simp only [List.isEmpty_iff, if_neg none]
    exact and_iff_right none

end Entries

/-! ## Reading a rendering back -/

/-- A field that can be written between commas and at signs. -/
structure Writable (field : String) : Prop where
  nonempty : field ≠ ""
  noComma : ',' ∉ field.toList
  noAt : '@' ∉ field.toList
  trimmed : strip field = field

namespace Feed

structure Writable (feed : Feed) : Prop where
  symbol : HybridDataSvc.Writable feed.symbol
  timeframe : HybridDataSvc.Writable feed.timeframe
  tvSymbol : HybridDataSvc.Writable feed.tvSymbol

end Feed

/-- A field with any space around it. -/
inductive Spaced (field : String) : List Char -> Prop
  | mk (lead trail : List Char) (leading : forall c, c ∈ lead -> isSpace c = true)
      (trailing : forall c, c ∈ trail -> isSpace c = true) :
      Spaced field (lead ++ field.toList ++ trail)

/-- `symbol@timeframe@tv_symbol` with any space around the fields. -/
inductive EntryOf (feed : Feed) : List Char -> Prop
  | mk {symbol timeframe tvSymbol : List Char} (first : Spaced feed.symbol symbol)
      (second : Spaced feed.timeframe timeframe) (third : Spaced feed.tvSymbol tvSymbol) :
      EntryOf feed (symbol ++ '@' :: (timeframe ++ '@' :: tvSymbol))

/-- An entry for each feed, in order, with empty ones anywhere. -/
inductive EntriesOf : List Feed -> List (List Char) -> Prop
  | nil : EntriesOf [] []
  | empty {feeds : List Feed} {entries : List (List Char)} {entry : List Char}
      (blank : forall c, c ∈ entry -> isSpace c = true) (rest : EntriesOf feeds entries) :
      EntriesOf feeds (entry :: entries)
  | feed {feed : Feed} {feeds : List Feed} {entry : List Char} {entries : List (List Char)}
      (first : EntryOf feed entry) (rest : EntriesOf feeds entries) :
      EntriesOf (feed :: feeds) (entry :: entries)

theorem Writable.trim_toList {field : String} (writable : Writable field) :
    trim isSpace field.toList = field.toList := by
  have trimmed := congrArg String.toList writable.trimmed
  rwa [strip, String.toList_ofList] at trimmed

theorem Writable.toList_ne_nil {field : String} (writable : Writable field) :
    field.toList ≠ [] := by
  intro empty
  exact writable.nonempty (String.toList_inj.mp (by rw [empty]; rfl))

theorem Spaced.not_mem {field : String} {text : List Char} (spaced : Spaced field text) {c : Char}
    (visible : isSpace c = false) (none : c ∉ field.toList) : c ∉ text := by
  cases spaced with
  | mk lead trail leading trailing =>
      simp only [List.mem_append, not_or]
      exact ⟨⟨not_mem_of_spaces visible leading, none⟩, not_mem_of_spaces visible trailing⟩

/-- A field is what is left when the space around it comes off. -/
theorem Writable.ofList_trim {field : String} (writable : Writable field)
    {lead trail : List Char} (leading : forall c, c ∈ lead -> isSpace c = true)
    (trailing : forall c, c ∈ trail -> isSpace c = true) :
    String.ofList (trim isSpace (lead ++ field.toList ++ trail)) = field := by
  rw [trim_pad _ leading trailing, writable.trim_toList, String.ofList_toList]

/-- The space at both ends of an entry comes off first. -/
theorem trim_entry {first last : String} (firstWritable : Writable first)
    (lastWritable : Writable last) {lead trail : List Char}
    (leading : forall c, c ∈ lead -> isSpace c = true)
    (trailing : forall c, c ∈ trail -> isSpace c = true) (between : List Char) :
    trim isSpace (lead ++ (first.toList ++ between ++ last.toList) ++ trail) =
      first.toList ++ between ++ last.toList := by
  rw [trim_pad _ leading trailing]
  exact trim_between between firstWritable.toList_ne_nil firstWritable.trim_toList
    lastWritable.toList_ne_nil lastWritable.trim_toList

theorem entryFields_entryOf {feed : Feed} (writable : feed.Writable) {entry : List Char}
    (written : EntryOf feed entry) :
    entryFields (String.ofList entry) = [feed.symbol, feed.timeframe, feed.tvSymbol] := by
  have noSpace : forall c, c ∈ ([] : List Char) -> isSpace c = true := List.forall_mem_nil _
  rcases written with ⟨⟨lead, symbolTrail, leading, symbolTrailing⟩, second,
    ⟨tvLead, trail, tvLeading, trailing⟩⟩
  rename_i middle
  have outer : trim isSpace ((lead ++ feed.symbol.toList ++ symbolTrail) ++
        '@' :: (middle ++ '@' :: (tvLead ++ feed.tvSymbol.toList ++ trail))) =
      (feed.symbol.toList ++ symbolTrail) ++
        '@' :: (middle ++ '@' :: (tvLead ++ feed.tvSymbol.toList)) := by
    simpa using trim_entry writable.symbol writable.tvSymbol leading trailing
      (symbolTrail ++ '@' :: (middle ++ '@' :: tvLead))
  have firstNoAt : '@' ∉ feed.symbol.toList ++ symbolTrail := by
    have spaced : Spaced feed.symbol _ := .mk [] symbolTrail noSpace symbolTrailing
    simpa using spaced.not_mem (by decide) writable.symbol.noAt
  have lastNoAt : '@' ∉ tvLead ++ feed.tvSymbol.toList := by
    have spaced : Spaced feed.tvSymbol _ := .mk tvLead [] tvLeading noSpace
    simpa using spaced.not_mem (by decide) writable.tvSymbol.noAt
  have middleNoAt := second.not_mem (by decide : isSpace '@' = false) writable.timeframe.noAt
  rw [entryFields_ofList, outer, List.splitOn_append_cons_self_of_not_mem firstNoAt,
    List.splitOn_append_cons_self_of_not_mem middleNoAt, List.splitOn_eq_singleton lastNoAt]
  -- then that around each of the parts
  have first := writable.symbol.ofList_trim noSpace symbolTrailing
  have last := writable.tvSymbol.ofList_trim tvLeading noSpace
  rw [List.nil_append] at first
  rw [List.append_nil] at last
  cases second with
  | mk midLead midTrail midLeading midTrailing =>
      simp only [List.map_cons, List.map_nil, first, last,
        writable.timeframe.ofList_trim midLeading midTrailing]

theorem parseEntry_entryOf {timeframe tvSymbol : String} {feed : Feed} (writable : feed.Writable)
    {entry : List Char} (written : EntryOf feed entry) :
    parseEntry timeframe tvSymbol (String.ofList entry) = [feed] := by
  rw [parseEntry, ← entryFields, entryFields_entryOf writable written]

theorem EntryOf.noComma {feed : Feed} (writable : feed.Writable) {entry : List Char}
    (written : EntryOf feed entry) : ',' ∉ entry := by
  rcases written with ⟨first, second, third⟩
  have visible : isSpace ',' = false := by decide
  simp only [List.mem_append, List.mem_cons, not_or]
  exact ⟨first.not_mem visible writable.symbol.noComma, by decide,
    second.not_mem visible writable.timeframe.noComma, by decide,
    third.not_mem visible writable.tvSymbol.noComma⟩

theorem EntriesOf.noComma {feeds : List Feed} {entries : List (List Char)}
    (written : EntriesOf feeds entries) (writable : forall feed, feed ∈ feeds -> feed.Writable) :
    forall entry, entry ∈ entries -> ',' ∉ entry := by
  induction written with
  | nil =>
      intro entry impossible
      cases impossible
  | empty blank rest ih =>
      exact List.forall_mem_cons.mpr ⟨not_mem_of_spaces (by decide) blank, ih writable⟩
  | feed first rest ih =>
      rw [List.forall_mem_cons] at writable
      exact List.forall_mem_cons.mpr ⟨first.noComma writable.1, ih writable.2⟩

theorem EntriesOf.parsed {timeframe tvSymbol : String} {feeds : List Feed}
    {entries : List (List Char)} (written : EntriesOf feeds entries)
    (writable : forall feed, feed ∈ feeds -> feed.Writable) :
    (entries.map String.ofList).flatMap (parseEntry timeframe tvSymbol) = feeds := by
  induction written with
  | nil => rfl
  | empty blank rest ih =>
      rw [List.map_cons, List.flatMap_cons, parseEntry_blank blank, List.nil_append, ih writable]
  | feed first rest ih =>
      rw [List.forall_mem_cons] at writable
      rw [List.map_cons, List.flatMap_cons, parseEntry_entryOf writable.1 first, ih writable.2]
      rfl

theorem parseFeeds_entriesOf {symbol timeframe tvSymbol : String} {feeds : List Feed}
    {entries : List (List Char)} (some : feeds ≠ [])
    (writable : forall feed, feed ∈ feeds -> feed.Writable) (written : EntriesOf feeds entries) :
    parseFeeds (String.ofList ([','].intercalate entries)) symbol timeframe tvSymbol = feeds := by
  have entriesSome : entries ≠ [] := by
    rintro rfl
    cases written
    exact some rfl
  have entriesBack : split (String.ofList ([','].intercalate entries)) ',' =
      entries.map String.ofList := by
    rw [split, String.toList_ofList,
      List.splitOn_intercalate ',' (written.noComma writable) entriesSome]
  rw [parseFeeds_eq, entriesBack]
  simp only [written.parsed writable, List.isEmpty_iff, if_neg some]

/-- A rendering is read back, and the result for any text is a list of complete feeds
exactly when no entry of the text is half empty. -/
theorem parseFeeds_iff {symbol timeframe tvSymbol : String} (symbolSome : symbol ≠ "")
    (timeframeSome : timeframe ≠ "") (tvSymbolSome : tvSymbol ≠ "") :
    (forall feeds entries, feeds ≠ [] -> (forall feed, feed ∈ feeds -> feed.Writable) ->
        EntriesOf feeds entries ->
        parseFeeds (String.ofList ([','].intercalate entries)) symbol timeframe tvSymbol =
          feeds) ∧
      forall feedsEnv,
        (parseFeeds feedsEnv symbol timeframe tvSymbol ≠ [] ∧
            forall feed, feed ∈ parseFeeds feedsEnv symbol timeframe tvSymbol -> feed.Complete) ↔
          forall entry, entry ∈ split feedsEnv ',' -> ¬ HalfEmpty entry :=
  ⟨fun _ _ some writable written => parseFeeds_entriesOf some writable written,
    parseFeeds_complete_iff symbolSome timeframeSome tvSymbolSome⟩

/-- Two feeds with space around their fields and an empty entry in between; and an
entry that ends in an at sign. -/
theorem parseFeeds_iff_padded :
    parseFeeds " BTC/USDT:USDT @1h@ BINANCE:BTCUSDT, ,ETH@4h@ETHUSD" "BTC" "1h" "BTC" =
        [⟨"BTC/USDT:USDT", "1h", "BINANCE:BTCUSDT"⟩, ⟨"ETH", "4h", "ETHUSD"⟩] ∧
      ¬ (parseFeeds "ETH@" "BTC" "1h" "BTC" ≠ [] ∧
        forall feed, feed ∈ parseFeeds "ETH@" "BTC" "1h" "BTC" -> feed.Complete) := by
  have parses := parseFeeds_iff (by decide : "BTC" ≠ "") (by decide : "1h" ≠ "")
    (by decide : "BTC" ≠ "")
  constructor
  · have writable : forall field : String, field ∈ ["BTC/USDT:USDT", "1h", "BINANCE:BTCUSDT", "ETH",
        "4h", "ETHUSD"] -> Writable field := by
      intro field member
      have plain : forall field : String, field ∈ ["BTC/USDT:USDT", "1h", "BINANCE:BTCUSDT", "ETH",
          "4h", "ETHUSD"] -> field ≠ "" ∧ ',' ∉ field.toList ∧ '@' ∉ field.toList ∧
            strip field = field := by decide
      rcases plain field member with ⟨nonempty, noComma, noAt, trimmed⟩
      exact ⟨nonempty, noComma, noAt, trimmed⟩
    have feeds : forall feed : Feed, feed ∈ ([⟨"BTC/USDT:USDT", "1h", "BINANCE:BTCUSDT"⟩,
        ⟨"ETH", "4h", "ETHUSD"⟩] : List Feed) -> feed.Writable := by
      refine List.forall_mem_cons.mpr ⟨⟨?_, ?_, ?_⟩, List.forall_mem_singleton.mpr ⟨?_, ?_, ?_⟩⟩ <;>
        exact writable _ (by decide)
    have nothing : forall c, c ∈ [] -> isSpace c = true := List.forall_mem_nil _
    have blank : forall c, c ∈ [' '] -> isSpace c = true :=
      List.forall_mem_singleton.mpr (by decide)
    have first : EntryOf ⟨"BTC/USDT:USDT", "1h", "BINANCE:BTCUSDT"⟩
        " BTC/USDT:USDT @1h@ BINANCE:BTCUSDT".toList :=
      .mk (.mk [' '] [' '] blank blank) (.mk [] [] nothing nothing) (.mk [' '] [] blank nothing)
    have second : EntryOf ⟨"ETH", "4h", "ETHUSD"⟩ "ETH@4h@ETHUSD".toList :=
      .mk (.mk [] [] nothing nothing) (.mk [] [] nothing nothing) (.mk [] [] nothing nothing)
    exact parses.1 _ [" BTC/USDT:USDT @1h@ BINANCE:BTCUSDT".toList, [' '], "ETH@4h@ETHUSD".toList]
      (by decide) feeds (.feed first (.empty blank (.feed second .nil)))
  · rw [parses.2]
    decide

/-- A trailing at sign gives a feed without a chart, which is seeded and polled. -/
theorem trailing_at_empties_field :
    let feeds := parseFeeds "BTC/USDT:USDT@1h@" "BTC/USDT:USDT" "1h" "BINANCE:BTCUSDT"
    feeds = [⟨"BTC/USDT:USDT", "1h", ""⟩] ∧
      ¬ (forall feed, feed ∈ feeds -> feed.Complete) ∧
      (FeedsRepo.pollingTargets (FeedsRepo.seedFromEnv 100000 feeds
        (Database.mk Store.empty Table.empty Table.empty : Database Rat)).2.feeds).map
          (fun target => (target.tvSymbol, target.status)) = [("", .pending)] := by
  intro feeds
  have parsed : feeds = [⟨"BTC/USDT:USDT", "1h", ""⟩] := by decide +kernel
  refine ⟨parsed, ?_, by decide +kernel⟩
  intro complete
  rw [parsed] at complete
  exact (complete _ (List.mem_singleton_self _)).tvSymbol rfl

end HybridDataSvc
