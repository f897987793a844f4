import HybridDataSvc.Text.Woven
import HybridDataSvc.Discovery.NodeProbe

namespace HybridDataSvc
namespace Watchdog

open JsonText NumberText Discovery

/-!
# The health check of the watchdog

`healthy_port` of `tv-watchdog.sh` beside the scan that the writer makes.  The
script looks for a word in the raw body of `/json/list`, the writer for a page
whose URL has the word; and they read the range of ports differently.
-/

/-! ## The script -/

/-- `TV_CDP_PORT_RANGE`, which is set to the default when it is unset or empty. -/
def portRangeVariable (spec : Option CodePoints) : CodePoints :=
  match spec with
  | none => codePoints "9222-9230"
  | some [] => codePoints "9222-9230"
  | some text => text

/-- `_parse_port_range`. -/
def parsePortRange (spec : CodePoints) : List Char × List Char :=
  let defaultRange := ("9222".toList, "9230".toList)
  match splitRange spec with
  | none => defaultRange
  | some (loText, hiText) =>
    match digitRun loText, digitRun hiText with
    | some lo, some hi => (lo, hi)
    | _, _ => defaultRange

/-- A run of octal digits. -/
def octal (digits : List Char) : Option Nat :=
  digits.foldlM (fun n c => if c.toNat < '8'.toNat then some (8 * n + (c.toNat - '0'.toNat))
    else none) 0

/-- A run of digits in an arithmetic expression.  After a zero it is octal,
and an `8` or `9` there is an error.  Arithmetic is on 64 bits. -/
def arithmetic (digits : List Char) : Option Int :=
  (match digits with
    | '0' :: rest => octal rest
    | _ => some (decimal digits)).map (fun n : Nat => (n : Int).bmod (2 ^ 64))

/-- The bounds of the loop; nothing when one of them is an error, which ends
the loop before its first round. -/
def loopBounds (spec : Option CodePoints) : Option (Int × Int) :=
  let (loText, hiText) := parsePortRange (portRangeVariable spec)
  match arithmetic loText, arithmetic hiText with
  | some lo, some hi => some (lo, hi)
  | _, _ => none

/-- `cdp_version_reachable_on`. -/
def cdpVersionReachableOn (world : PortWorld) (port : Int) : Bool :=
  match reach world port with
  | none => false
  | some answer => isSuccess answer.versionStatus

/-- What `$(..)` keeps of an output: no null characters and no newlines at its
end. -/
def substitute (output : List Char) : List Char :=
  ((output.filter (fun c => decide (c ≠ '\x00'))).reverse.dropWhile (fun c => c == '\n')).reverse

/-- `grep -qiE tradingview`. -/
def grepGeneric (body : List Char) : Bool := occursIn "tradingview".toList (body.map Char.toLower)

/-- `cdp_has_tv_tab_on`.  The parameter says for which texts `grep` leaves
before `printf` has written everything; then `printf` is killed, and
`pipefail` makes that the result. -/
def cdpHasTvTabOn (brokenPipe : List Char -> Bool) (world : PortWorld) (port : Int) : Bool :=
  match reach world port with
  | none => false
  | some answer =>
    let body := substitute answer.listBody
    !body.isEmpty && (grepGeneric body && !brokenPipe body)

/-- A round of `healthy_port`. -/
def isHealthy (brokenPipe : List Char -> Bool) (world : PortWorld) (port : Int) : Bool :=
  cdpVersionReachableOn world port && cdpHasTvTabOn brokenPipe world port

/-- `healthy_port`. -/
def healthyPort (brokenPipe : List Char -> Bool) (spec : Option CodePoints) (world : PortWorld) :
    Option Int :=
  match loopBounds spec with
  | none => none
  | some bounds => (portsBetween bounds).find? (isHealthy brokenPipe world)

/-! ## What the two sides see -/

section Views

variable (brokenPipe : List Char -> Bool) (runtimes : Runtimes) (spec : Option CodePoints)
  (world : PortWorld)

/-- The script looks at the port. -/
def InScriptRange (port : Int) : Prop :=
  exists bounds, loopBounds spec = some bounds ∧ port ∈ portsBetween bounds

/-- The version is answered with success and the word stands in the raw body
of the list, where `grep` does not find it too soon. -/
def MentionsTv (answer : CdpPort) : Prop :=
  isSuccess answer.versionStatus = true ∧
    "tradingview".toList <:+: (substitute answer.listBody).map Char.toLower ∧
    brokenPipe (substitute answer.listBody) = false

/-- The script takes the port for healthy. -/
def SeenByWatchdog (port : Int) : Prop :=
  InScriptRange spec port ∧
    exists answer, reach world port = some answer ∧ MentionsTv brokenPipe answer

/-- The writer looks at the port. -/
def InWriterRange (port : Int) : Prop := port ∈ portsBetween (Python.parsePortRange spec)

/-- The writer takes the port for a TradingView endpoint. -/
def SeenByWriter (port : Int) : Prop :=
  InWriterRange spec port ∧
    exists answer, reach world port = some answer ∧ Python.ShowsTvPage runtimes answer

/-- The answers of the port make the writer's probe raise. -/
def Malformed (port : Int) : Prop :=
  InWriterRange spec port ∧
    exists answer, reach world port = some answer ∧ Python.BreaksProbe runtimes answer

end Views

variable {brokenPipe : List Char -> Bool} {runtimes : Runtimes} {spec : Option CodePoints}
  {world : PortWorld}

theorem occursIn_iff {α : Type} [BEq α] [LawfulBEq α] {pattern text : List α} :
    occursIn pattern text = true ↔ pattern <:+: text := by
  induction text with
  | nil => simp [occursIn]
  | cons c rest ih =>
      rw [occursIn, Bool.or_eq_true, ih, List.isPrefixOf_iff_prefix, List.infix_cons_iff]

theorem isHealthy_iff {port : Int} :
    isHealthy brokenPipe world port = true ↔
      exists answer, reach world port = some answer ∧ MentionsTv brokenPipe answer := by
  unfold isHealthy cdpVersionReachableOn cdpHasTvTabOn MentionsTv
  cases reach world port with
  | none => simp
  | some answer =>
      simp only [Option.some.injEq, exists_eq_left', Bool.and_eq_true, Bool.not_eq_true',
        grepGeneric, occursIn_iff]
      constructor
      · rintro ⟨success, -, found, piped⟩
        exact ⟨success, found, piped⟩
      · rintro ⟨success, found, piped⟩
        refine ⟨success, ?_, found, piped⟩
        -- the word is not in an empty body
        cases text : substitute answer.listBody with
        | nil =>
            rw [text] at found
            exact absurd found (by decide)
        | cons c rest => rfl

theorem healthyPort_isSome_iff :
    (healthyPort brokenPipe spec world).isSome = true ↔
      exists port, SeenByWatchdog brokenPipe spec world port := by
  unfold healthyPort SeenByWatchdog InScriptRange
  simp only [← isHealthy_iff]
  cases known : loopBounds spec with
  | none => simp
  | some bounds => simp

/-- The forced scan returns an endpoint exactly if there is one and no probe
raises. -/
theorem forcedScan_ok_iff {host : Option CodePoints} {file : CacheFile} :
    (exists resolved, Python.forcedScan runtimes host spec file world = .ok resolved) ↔
      (forall port, ¬ Malformed runtimes spec world port) ∧
        exists port, SeenByWriter runtimes spec world port := by
  have unfolded : Python.forcedScan runtimes host spec file world =
      discoverByScan (fun _ port => Python.isTvEndpoint runtimes world port)
        (Python.host ⟨none, host, spec⟩) none (portsBetween (Python.parsePortRange spec)) := rfl
  rw [unfolded]
  simp only [Malformed, SeenByWriter, ← Python.isTvEndpoint_eq_ok_true_iff,
    ← Python.isTvEndpoint_eq_error_iff]
  unfold discoverByScan
  cases scanned : scanPorts (Python.isTvEndpoint runtimes world)
      (portsBetween (Python.parsePortRange spec)) with
  | error raised =>
      constructor
      · rintro ⟨resolved, returned⟩
        cases returned
      · rintro ⟨quiet, -⟩
        rcases exists_raised_of_scanPorts scanned with ⟨port, listed, failed⟩
        exact absurd ⟨listed, raised, failed⟩ (quiet port)
  | ok found =>
      rcases mem_of_scanPorts_eq_ok scanned with ⟨quiet, members⟩
      have unbroken : forall port, ¬ (InWriterRange spec port ∧
          exists raised, Python.isTvEndpoint runtimes world port = .error raised) := by
        rintro port ⟨listed, raised, failed⟩
        exact quiet port listed raised failed
      cases found with
      | nil =>
          constructor
          · rintro ⟨resolved, returned⟩
            cases returned
          · rintro ⟨-, port, seen⟩
            exact absurd ((members port).mpr seen) List.not_mem_nil
      | cons first others =>
          constructor
          · intro _
            exact ⟨unbroken, first, (members first).mp List.mem_cons_self⟩
          · intro _
            exact ⟨_, rfl⟩

/-! ## Plain answers

Where the body of a list has no escapes, the URLs of its targets stand in it.
There the script sees what the writer finds.
-/

/-- The capital and the small dotted and dotless `i` that `re.IGNORECASE` takes
for an `i`. -/
def IsWideI (c : Char) : Prop := c.toNat = 0x130 ∨ c.toNat = 0x131

theorem toLower_toNat (c : Char) :
    c.toLower.toNat =
      if 'A'.toNat ≤ c.toNat ∧ c.toNat ≤ 'Z'.toNat then c.toNat + 32 else c.toNat := by
  have small : 'A'.toNat = 65 ∧ 'Z'.toNat = 90 := ⟨rfl, rfl⟩
  unfold Char.toLower
  by_cases letter : c.val ≥ 'A'.val ∧ c.val ≤ 'Z'.val
  · have bounds : 65 ≤ c.toNat ∧ c.toNat ≤ 90 :=
      ⟨UInt32.le_iff_toNat_le.mp letter.1, UInt32.le_iff_toNat_le.mp letter.2⟩
    rw [dif_pos letter, if_pos (by omega)]
    change (c.val + ('a'.val - 'A'.val)).toNat = c.toNat + 32
    rw [UInt32.toNat_add]
    change (c.toNat + 32) % 2 ^ 32 = c.toNat + 32
    omega
  · have outside : ¬ ('A'.toNat ≤ c.toNat ∧ c.toNat ≤ 'Z'.toNat) := fun bounds =>
      letter ⟨UInt32.le_iff_toNat_le.mpr bounds.1, UInt32.le_iff_toNat_le.mpr bounds.2⟩
    rw [dif_neg letter, if_neg outside]

theorem foldCase_toNat {c : Char} (narrow : ¬ IsWideI c) :
    Python.foldCase c.toNat = c.toLower.toNat := by
  rw [toLower_toNat]
  unfold Python.foldCase
  split
  · rfl
  · exact if_neg narrow

theorem foldCase_map {chars : List Char} (narrow : forall c, c ∈ chars -> ¬ IsWideI c) :
    (chars.map Char.toNat).map Python.foldCase = (chars.map Char.toLower).map Char.toNat := by
  rw [List.map_map, List.map_map]
  exact List.map_congr_left (fun c here => foldCase_toNat (narrow c here))

/-- A body in which the script can find what the writer reads. -/
structure PlainBody (brokenPipe : List Char -> Bool) (body : List Char) : Prop where
  noEscape : '\\' ∉ body
  narrow : forall c, c ∈ body -> ¬ IsWideI c
  piped : brokenPipe (substitute body) = false

/-- Newlines at the end and null characters are no part of a printable text. -/
theorem infix_substitute {chars body : List Char} (inside : chars <:+: body)
    (nonempty : chars ≠ []) (printable : forall c, c ∈ chars -> 32 ≤ c.toNat) :
    chars <:+: substitute body := by
  have kept : chars.filter (fun c => decide (c ≠ '\x00')) = chars := by
    rw [List.filter_eq_self]
    intro c here
    have bound := printable c here
    rw [decide_eq_true_eq]
    rintro rfl
    exact absurd bound (by decide)
  have filtered := inside.filter (fun c => decide (c ≠ '\x00'))
  rw [kept] at filtered
  rcases filtered with ⟨before, after, split⟩
  have ends : exists front last, chars = front ++ [last] := by
    rcases List.eq_nil_or_concat chars with empty | ⟨front, last, whole⟩
    · exact absurd empty nonempty
    · exact ⟨front, last, by rw [whole, List.concat_eq_append]⟩
  rcases ends with ⟨front, last, whole⟩
  have solid : (last == '\n') = false := by
    have bound := printable last (by rw [whole]; simp)
    rw [beq_eq_false_iff_ne]
    rintro rfl
    exact absurd bound (by decide)
  have reversed : (body.filter (fun c => decide (c ≠ '\x00'))).reverse =
      after.reverse ++ last :: (front.reverse ++ before.reverse) := by
    rw [← split, whole]
    simp
  have stops : (last :: (front.reverse ++ before.reverse)).dropWhile (fun c => c == '\n') =
      last :: (front.reverse ++ before.reverse) := List.dropWhile_cons_of_neg (by simp [solid])
  unfold substitute
  rw [reversed, List.dropWhile_append, stops]
  split
  · refine ⟨before, [], ?_⟩
    rw [whole]
    simp
  · refine ⟨before, (after.reverse.dropWhile (fun c => c == '\n')).reverse, ?_⟩
    rw [whole]
    simp

theorem infix_of_infix_map {α β : Type} {f : α -> β} (injective : forall a b, f a = f b -> a = b)
    {pattern text : List α} (matched : pattern.map f <:+: text.map f) : pattern <:+: text := by
  rcases matched with ⟨before, after, split⟩
  rcases List.append_eq_map_iff.mp split with ⟨front, tail, parts, frontMap, -⟩
  rcases List.map_eq_append_iff.mp frontMap with ⟨start, middle, parts', -, middleMap⟩
  have same : middle = pattern := (List.map_inj_right injective).mp middleMap
  exact ⟨start, tail, by rw [parts, parts', same]⟩

theorem toNat_injective (c d : Char) (same : c.toNat = d.toNat) : c = d :=
  Char.ext (UInt32.toNat_inj.mp same)

/-- A URL that stands in the body is found by `grep`. -/
theorem infix_of_search {body : List Char} {url : CodePoints} (stands : StandsIn url body)
    (narrow : forall c, c ∈ body -> ¬ IsWideI c) (found : Python.searchGeneric url = true) :
    "tradingview".toList <:+: (substitute body).map Char.toLower := by
  rcases stands with ⟨chars, inside, codes, printable⟩
  have folded : url.map Python.foldCase = (chars.map Char.toLower).map Char.toNat := by
    rw [codes]
    exact foldCase_map (fun c here => narrow c (inside.mem here))
  have matched : codePoints "tradingview" <:+: (chars.map Char.toLower).map Char.toNat := by
    rw [← folded]
    exact occursIn_iff.mp found
  have pattern : "tradingview".toList <:+: chars.map Char.toLower :=
    infix_of_infix_map toNat_injective matched
  have nonempty : chars ≠ [] := by
    rintro rfl
    exact absurd pattern (by decide)
  exact pattern.trans ((infix_substitute inside nonempty printable).map Char.toLower)

/-- `d` is in the pattern and stands only in strings. -/
theorem toLower_ne_of_isBare {c : Char} (bare : isBare c = true) : c.toLower ≠ 'd' := by
  intro same
  have code := toLower_toNat c
  rw [same] at code
  have small : 'A'.toNat = 65 ∧ 'Z'.toNat = 90 ∧ 'd'.toNat = 100 ∧ 'D'.toNat = 68 :=
    ⟨rfl, rfl, rfl, rfl⟩
  have letter : c.toNat = 'd'.toNat ∨ c.toNat = 'D'.toNat := by
    split at code
    · omega
    · omega
  rcases letter with same | same
  · rw [toNat_injective c 'd' same] at bare
    exact absurd bare (by decide)
  · rw [toNat_injective c 'D' same] at bare
    exact absurd bare (by decide)

/-- The output of a text without null characters begins the text. -/
theorem infix_of_substitute {body : List Char} (noNull : forall c, c ∈ body -> c ≠ '\x00') :
    substitute body <:+: body := by
  have kept : body.filter (fun c => decide (c ≠ '\x00')) = body :=
    List.filter_eq_self.mpr (fun c here => decide_eq_true (noNull c here))
  unfold substitute
  rw [kept]
  have stripped := (List.dropWhile_suffix (fun c => c == '\n') : _ <:+ body.reverse)
  have start := List.reverse_prefix.mpr stripped
  rw [List.reverse_reverse] at start
  exact start.isInfix

/-- Where `grep` finds the word, a string or a name of the value has it. -/
theorem exists_search_of_infix {dialect : Dialect} {body : List Char} {value : Json}
    (plain : '\\' ∉ body) (narrow : forall c, c ∈ body -> ¬ IsWideI c)
    (read : parse dialect body = .ok value)
    (found : "tradingview".toList <:+: (substitute body).map Char.toLower) :
    exists text, Contains text value ∧ Python.searchGeneric text = true := by
  have woven := woven_of_parse plain read
  have noNull : forall c, c ∈ body -> c ≠ '\x00' := by
    refine woven.forall_mem ?_ (by decide) ?_
    · rintro c bare rfl
      exact absurd bare (by decide)
    · rintro chars spelled c here rfl
      exact absurd (spelled.2 _ here) (by decide)
  have inBody := found.trans ((infix_of_substitute noNull).map Char.toLower)
  rcases woven.exists_infix (by decide)
    ⟨'d', by decide, fun c bare => toLower_ne_of_isBare bare⟩ inBody with
    ⟨chars, spelled, part, own⟩
  refine ⟨chars.map Char.toNat, spelled.1, ?_⟩
  refine occursIn_iff.mpr ?_
  rw [foldCase_map (fun c here => narrow c (part.mem here))]
  exact own.map Char.toNat

theorem contains_of_isTvPage {targets : List Json} {page : Json} (listed : page ∈ targets)
    (isPage : Python.IsTvPage page) :
    exists url, Contains url (.array targets) ∧ Python.searchGeneric url = true := by
  rcases isPage with ⟨members, url, rfl, -, known, searched⟩
  exact ⟨url, .item listed (.member (mem_of_field known) .string), searched⟩

/-- A port that answers with a version and with a list of targets that both
sides can read. -/
structure PlainAnswer (brokenPipe : List Char -> Bool) (runtimes : Runtimes) (answer : CdpPort)
    (targets : List Json) : Prop where
  version : exists version, Python.Answers runtimes answer.versionStatus answer.versionBody version
  listed : Python.Answers runtimes answer.listStatus answer.listBody (.array targets)
  searchable : forall target, target ∈ targets -> ¬ Python.IsUnsearchable target
  body : PlainBody brokenPipe answer.listBody

/-- A port that does not answer for its version, or whose answers are plain. -/
inductive Ordinary (brokenPipe : List Char -> Bool) (runtimes : Runtimes) (answer : CdpPort) : Prop
  | down (failed : isSuccess answer.versionStatus = false)
  | plain {targets : List Json} (plain : PlainAnswer brokenPipe runtimes answer targets)

/-- A text or a name anywhere in the list has the word. -/
def Mentioned (targets : List Json) : Prop :=
  exists text, Contains text (.array targets) ∧ Python.searchGeneric text = true

/-- A page has it in its URL. -/
def HasTvPage (targets : List Json) : Prop :=
  exists target, target ∈ targets ∧ Python.IsTvPage target

theorem HasTvPage.mentioned {targets : List Json} (shown : HasTvPage targets) :
    Mentioned targets := by
  rcases shown with ⟨page, listed, isPage⟩
  exact contains_of_isTvPage listed isPage

theorem mem_of_endsAt {targets : List Json} {last : Json} (ends : Python.EndsAt targets last) :
    last ∈ targets := by
  induction ends with
  | here _ => exact List.mem_cons_self
  | later _ _ ih => exact List.mem_cons_of_mem _ ih

/-- With nothing unsearchable the loop ends at a page if there is one. -/
theorem exists_endsAt_iff {targets : List Json}
    (searchable : forall target, target ∈ targets -> ¬ Python.IsUnsearchable target) :
    (exists page, Python.EndsAt targets page ∧ Python.IsTvPage page) ↔ HasTvPage targets := by
  constructor
  · rintro ⟨page, ends, isPage⟩
    exact ⟨page, mem_of_endsAt ends, isPage⟩
  · rintro ⟨page, listed, isPage⟩
    induction targets with
    | nil => exact absurd listed List.not_mem_nil
    | cons target rest ih =>
        by_cases first : Python.IsTvPage target
        · exact ⟨target, .here (Or.inl first), first⟩
        · have behind : page ∈ rest := by
            rcases List.mem_cons.mp listed with rfl | behind
            · exact absurd isPage first
            · exact behind
          rcases ih (fun other here => searchable other (List.mem_cons_of_mem _ here)) behind with
            ⟨last, ends, found⟩
          exact ⟨last, .later ⟨first, searchable target List.mem_cons_self⟩ ends, found⟩

namespace PlainAnswer

variable {answer : CdpPort} {targets : List Json}

theorem mentionsTv_iff (plain : PlainAnswer brokenPipe runtimes answer targets) :
    MentionsTv brokenPipe answer ↔ Mentioned targets := by
  have read := parse_of_loads plain.listed.2.1
  rcases plain.version with ⟨version, success, -⟩
  constructor
  · rintro ⟨-, found, -⟩
    exact exists_search_of_infix plain.body.noEscape plain.body.narrow read found
  · rintro ⟨text, inside, searched⟩
    refine ⟨success, ?_, plain.body.piped⟩
    exact infix_of_search (standsIn_of_parse plain.body.noEscape read inside) plain.body.narrow
      searched

theorem showsTvPage_iff (plain : PlainAnswer brokenPipe runtimes answer targets) :
    Python.ShowsTvPage runtimes answer ↔ HasTvPage targets := by
  rw [← exists_endsAt_iff plain.searchable]
  constructor
  · rintro ⟨-, others, listed, page, ends, isPage⟩
    cases Except.ok.inj (listed.2.1.symm.trans plain.listed.2.1)
    exact ⟨page, ends, isPage⟩
  · intro found
    exact ⟨plain.version, targets, plain.listed, found⟩

theorem not_breaksProbe (plain : PlainAnswer brokenPipe runtimes answer targets) :
    ¬ Python.BreaksProbe runtimes answer := by
  rcases plain.version with ⟨version, -, loaded, -⟩
  rintro (⟨-, raised, failed, -⟩ |
    ⟨-, ⟨-, raised, failed, -⟩ | ⟨others, listed, page, ends, broken⟩⟩)
  · cases loaded.symm.trans failed
  · cases plain.listed.2.1.symm.trans failed
  · cases Except.ok.inj (listed.2.1.symm.trans plain.listed.2.1)
    exact plain.searchable page (mem_of_endsAt ends) broken

end PlainAnswer

theorem not_breaksProbe_of_down {answer : CdpPort}
    (failed : isSuccess answer.versionStatus = false) :
    ¬ Python.BreaksProbe runtimes answer := by
  rintro (⟨success, -⟩ | ⟨⟨version, success, -⟩, -⟩)
  · cases failed.symm.trans success
  · cases failed.symm.trans success

theorem Ordinary.not_breaksProbe {answer : CdpPort}
    (ordinary : Ordinary brokenPipe runtimes answer) :
    ¬ Python.BreaksProbe runtimes answer := by
  cases ordinary with
  | down failed => exact not_breaksProbe_of_down failed
  | plain plain => exact plain.not_breaksProbe

/-! ## Agreement -/

/-- Both read the range alike. -/
def RangeAlike (spec : Option CodePoints) : Prop :=
  loopBounds spec = some (Python.parsePortRange spec)

/-- A port of the range answers with the list. -/
def Listed (brokenPipe : List Char -> Bool) (runtimes : Runtimes) (spec : Option CodePoints)
    (world : PortWorld) (targets : List Json) : Prop :=
  exists port answer, port ∈ portsBetween (Python.parsePortRange spec) ∧
    reach world port = some answer ∧ PlainAnswer brokenPipe runtimes answer targets

/-- Whatever answers on the range answers in an ordinary way. -/
def AllOrdinary (brokenPipe : List Char -> Bool) (runtimes : Runtimes) (spec : Option CodePoints)
    (world : PortWorld) : Prop :=
  forall port answer, port ∈ portsBetween (Python.parsePortRange spec) ->
    reach world port = some answer -> Ordinary brokenPipe runtimes answer

theorem exists_seenByWatchdog_iff (alike : RangeAlike spec)
    (ordinary : AllOrdinary brokenPipe runtimes spec world) :
    (exists port, SeenByWatchdog brokenPipe spec world port) ↔
      exists targets, Listed brokenPipe runtimes spec world targets ∧ Mentioned targets := by
  constructor
  · rintro ⟨port, ⟨bounds, known, listed⟩, answer, reached, mentions⟩
    cases Option.some.inj (known.symm.trans alike)
    cases ordinary port answer listed reached with
    | down failed => cases failed.symm.trans mentions.1
    | @plain targets plain =>
        exact ⟨targets, ⟨port, answer, listed, reached, plain⟩, plain.mentionsTv_iff.mp mentions⟩
  · rintro ⟨targets, ⟨port, answer, listed, reached, plain⟩, mentioned⟩
    exact ⟨port, ⟨_, alike, listed⟩, answer, reached, plain.mentionsTv_iff.mpr mentioned⟩

theorem exists_seenByWriter_iff (ordinary : AllOrdinary brokenPipe runtimes spec world) :
    (exists port, SeenByWriter runtimes spec world port) ↔
      exists targets, Listed brokenPipe runtimes spec world targets ∧ HasTvPage targets := by
  constructor
  · rintro ⟨port, listed, answer, reached, shows⟩
    cases ordinary port answer listed reached with
    | down failed =>
        rcases shows.1 with ⟨version, success, -⟩
        cases failed.symm.trans success
    | @plain targets plain =>
        exact ⟨targets, ⟨port, answer, listed, reached, plain⟩, plain.showsTvPage_iff.mp shows⟩
  · rintro ⟨targets, ⟨port, answer, listed, reached, plain⟩, shown⟩
    exact ⟨port, listed, answer, reached, plain.showsTvPage_iff.mpr shown⟩

theorem arithmetic_of_run {run : List Char} (noZero : run.head? ≠ some '0')
    (small : decimal run ≤ 65535) : arithmetic run = some (decimal run : Int) := by
  have wrapped : ((decimal run : Int)).bmod (2 ^ 64) = decimal run := by
    rw [Int.bmod_eq_of_le]
    · omega
    · omega
  unfold arithmetic
  split
  · exact absurd rfl noZero
  · rw [Option.map_some, wrapped]

theorem rangeAlike_unset : RangeAlike none := by
  unfold RangeAlike
  decide +kernel

theorem rangeAlike_empty : RangeAlike (some []) := by
  unfold RangeAlike
  decide +kernel

/-- Both read a range of plain decimals without leading zeros alike. -/
theorem rangeAlike_of_runs {lo hi : List Char} (runLo : IsRun lo) (runHi : IsRun hi)
    (noZero : lo.head? ≠ some '0') (noZero' : hi.head? ≠ some '0') (positive : 1 ≤ decimal lo)
    (ordered : decimal lo ≤ decimal hi) (small : decimal hi ≤ 65535)
    (short : lo.length ≤ maxIntDigits) (short' : hi.length ≤ maxIntDigits) :
    RangeAlike (some (lo.map Char.toNat ++ '-'.toNat :: hi.map Char.toNat)) := by
  unfold RangeAlike
  have split := splitRange_of_runs runLo.2 hi
  cases text : lo.map Char.toNat ++ '-'.toNat :: hi.map Char.toNat with
  | nil => simp at text
  | cons c rest =>
      rw [text] at split
      have inside : (1 : Int) ≤ decimal lo ∧ (decimal lo : Int) ≤ decimal hi ∧
          (decimal hi : Int) ≤ 65535 := by omega
      have script : parsePortRange (portRangeVariable (some (c :: rest))) = (lo, hi) := by
        simp only [portRangeVariable, parsePortRange, split, digitRun_of_run runLo,
          digitRun_of_run runHi]
      have bounds : loopBounds (some (c :: rest)) =
          some ((decimal lo : Int), (decimal hi : Int)) := by
        unfold loopBounds
        rw [script]
        simp only [arithmetic_of_run noZero (Nat.le_trans ordered small),
          arithmetic_of_run noZero' small]
      rw [bounds]
      simp only [Python.parsePortRange, split, pyInt_of_run runLo short, pyInt_of_run runHi short']
      rw [if_pos inside]

/-! ## Two worlds -/

theorem plainAnswer_chart :
    exists targets, PlainAnswer (fun _ => false) emptyPrinting chartAnswer targets ∧
      HasTvPage targets := by
  have version : Python.loads emptyPrinting chartAnswer.versionBody = .ok (.object []) :=
    loads_stringify (.object []) (by simp [JsValue.height, heightMembers]) (by
      simp [JsValue.readBack, readBackMembers])
  have height : chartTargets.height ≤ 1000 := by
    simp [chartTargets, JsValue.height, heightItems, heightMembers]
  have list := loads_stringify chartTargets height readBack_chartTargets
  have codes : chartAnswer.listBody.all (fun c => c != '\\' && decide (c.toNat < 0x130)) = true := by
    decide +kernel
  have code := List.all_eq_true.mp codes
  refine ⟨_, ⟨⟨_, rfl, version, by simp⟩, ⟨rfl, list, by simp⟩, ?_, ⟨?_, ?_, rfl⟩⟩, ?_⟩
  · intro target listed
    cases List.mem_singleton.mp listed
    rintro ⟨members, url, same, -, known, unread, -⟩
    cases same
    cases known
    exact unread _ rfl
  · intro escaped
    exact absurd (code _ escaped) (by decide)
  · intro c here wide
    have small := (Bool.and_eq_true_iff.mp (code c here)).2
    rw [decide_eq_true_eq] at small
    unfold IsWideI at wide
    omega
  · exact ⟨_, List.mem_singleton_self _, _, _, rfl, rfl, rfl, by decide +kernel⟩

/-- A worker whose title mentions TradingView, and no page. -/
def titleOnly : PortWorld := fun port =>
  if port = 9222 then
    some ⟨200, "\x7b\x7d".toList, 200,
      "[\x7b\"type\": \"worker\", \"title\": \"TradingView\", \"url\": \"\"\x7d]".toList⟩
  else none

end Watchdog
end HybridDataSvc
