import HybridDataSvc.Discovery.TvEndpoint

namespace HybridDataSvc
namespace Discovery

open JsonText NumberText

/-!
# The pinned tab

`tab_pin.py`: of the targets a port lists the writer pins the first one that
is a page with a chart.  It asks for `tradingview.com/chart` where a probe of
the port asks for `tradingview` only, and takes the targets before that one
less kindly than a probe does.
-/

/-- What `TabPin.resolve` raises.  The first three are the `TabPinError`s. -/
inductive PinRaised
  | noChartTab
  | listFailed
  | nonJson
  | attributeError
  | typeError
  | keyError
  | loads (raised : Raised)
  deriving DecidableEq, Repr

/-- `PinnedTab`; the id and the title are whatever the target has there. -/
structure PinnedTab where
  id : Json
  title : Json
  url : CodePoints
  chartId : Option CodePoints
  deriving Repr

/-- `_CHART_URL_RE`. -/
def chartUrlRe : CodePoints := codePoints "tradingview.com/chart"

namespace Python

/-- `str.lower` of a code point, as far as ASCII letters go: above ASCII, a dotted
`İ` and the Kelvin sign have one in their lower case, and the others stay
above ASCII. -/
def lowerChar (c : Nat) : CodePoints :=
  if 'A'.toNat ≤ c ∧ c ≤ 'Z'.toNat then [c + 32]
  else if c = 0x130 then ['i'.toNat, 0x307]
  else if c = 0x212A then ['k'.toNat]
  else [c]

/-- `_CHART_URL_RE in url.lower()`. -/
def inLower (url : CodePoints) : Bool := occursIn chartUrlRe (url.flatMap lowerChar)

/-- `_TV_CHART_PATTERN.search(url)`. -/
def searchChart (url : CodePoints) : Bool := occursIn chartUrlRe (url.map foldCase)

/-- What follows the first occurrence of a marker. -/
def afterMarker (marker : CodePoints) : CodePoints -> Option CodePoints
  | [] => if marker.isEmpty then some [] else none
  | c :: rest =>
    if marker.isPrefixOf (c :: rest) then some ((c :: rest).drop marker.length)
    else afterMarker marker rest

/-- `_extract_chart_id`. -/
def extractChartId (url : CodePoints) : Option CodePoints :=
  match afterMarker (codePoints "/chart/") url with
  | none => none
  | some rest =>
    match rest.takeWhile (fun c => decide (c ≠ '/'.toNat) && decide (c ≠ '?'.toNat)) with
    | [] => none
    | chartId => some chartId

/-- A round of the generator in `resolve`: the members and the URL of a target
that is a page with a chart.  Only an object has a `get`, and only a string a
`lower`. -/
def chartTarget : Json -> Except PinRaised (Option (List (CodePoints × Json) × CodePoints))
  | .object members =>
    match field members "type" with
    | some (.string kind) =>
      if kind = codePoints "page" then
        match field members "url" with
        | none => .ok (if inLower [] then some (members, []) else none)
        | some (.string url) => .ok (if inLower url then some (members, url) else none)
        | some _ => .error .attributeError
      else .ok none
    | _ => .ok none
  | _ => .error .attributeError

/-- `next((t for t in targets if ...), None)`. -/
def nextChart :
    List Json -> Except PinRaised (Option (List (CodePoints × Json) × CodePoints))
  | [] => .ok none
  | target :: rest =>
    match chartTarget target with
    | .error raised => .error raised
    | .ok (some chart) => .ok (some chart)
    | .ok none => nextChart rest

/-- The generator over what `/json/list` holds.  The items of an object are its
names and those of a string its characters, and neither have a `get`. -/
def nextChartIn : Json -> Except PinRaised (Option (List (CodePoints × Json) × CodePoints))
  | .array targets => nextChart targets
  | .object members => if members.isEmpty then .ok none else .error .attributeError
  | .string text => if text.isEmpty then .ok none else .error .attributeError
  | _ => .error .typeError

/-- `_list_targets`. -/
def listTargets (runtimes : Runtimes) (world : PortWorld) (port : Int) : Except PinRaised Json :=
  match reach world port with
  | none => .error .listFailed
  | some answer =>
    if isSuccess answer.listStatus then
      match loads runtimes answer.listBody with
      | .ok targets => .ok targets
      | .error .jsonDecodeError => .error .nonJson
      | .error raised => .error (.loads raised)
    else .error .listFailed

/-- `TabPin.resolve` on a known endpoint. -/
def resolve (runtimes : Runtimes) (world : PortWorld) (port : Int) : Except PinRaised PinnedTab :=
  match listTargets runtimes world port with
  | .error raised => .error raised
  | .ok targets =>
    match nextChartIn targets with
    | .error raised => .error raised
    | .ok none => .error .noChartTab
    | .ok (some (members, url)) =>
      match field members "id" with
      | none => .error .keyError
      | some id => .ok ⟨id, (field members "title").getD (.string []), url, extractChartId url⟩

/-! ## What is pinned -/

/-- A page whose URL has `tradingview.com/chart` in lower case. -/
def IsPinnable (target : Json) (members : List (CodePoints × Json)) (url : CodePoints) : Prop :=
  target = .object members ∧ field members "type" = some (.string (codePoints "page")) ∧
    field members "url" = some (.string url) ∧ inLower url = true

/-- A target that is passed over: an object that is no page, or whose URL is
missing or a string without a chart. -/
def IsPassed (target : Json) : Prop :=
  exists members, target = .object members ∧
    (field members "type" = some (.string (codePoints "page")) ->
      forall url, field members "url" = some url ->
        exists text, url = .string text ∧ inLower text = false)

theorem inLower_nil : inLower [] = false := by decide

/-- An object that is no page is passed over, whatever its URL. -/
theorem chartTarget_of_not_page {members : List (CodePoints × Json)}
    (noPage : field members "type" ≠ some (.string (codePoints "page"))) :
    chartTarget (.object members) = .ok none := by
  simp only [chartTarget]
  split
  · rename_i kind typed
    rw [if_neg]
    rintro rfl
    exact noPage typed
  · rfl

/-- What becomes of a page depends on its URL. -/
theorem chartTarget_of_page {members : List (CodePoints × Json)}
    (page : field members "type" = some (.string (codePoints "page"))) :
    chartTarget (.object members) =
      match field members "url" with
      | none => .ok none
      | some (.string url) => .ok (if inLower url then some (members, url) else none)
      | some _ => .error .attributeError := by
  simp only [chartTarget, page, if_true, inLower_nil]
  rfl

theorem chartTarget_eq_some_iff (target : Json) (members : List (CodePoints × Json))
    (url : CodePoints) :
    chartTarget target = .ok (some (members, url)) ↔ IsPinnable target members url := by
  constructor
  · intro chosen
    cases target with
    | object own =>
        by_cases page : field own "type" = some (.string (codePoints "page"))
        · rw [chartTarget_of_page page] at chosen
          split at chosen
          · cases chosen
          · rename_i text known
            by_cases found : inLower text = true
            · rw [if_pos found] at chosen
              cases chosen
              exact ⟨rfl, page, known, found⟩
            · rw [if_neg found] at chosen
              cases chosen
          · cases chosen
        · rw [chartTarget_of_not_page page] at chosen
          cases chosen
    | _ => cases chosen
  · rintro ⟨rfl, page, known, found⟩
    simp only [chartTarget_of_page page, known, found, if_true]

theorem chartTarget_eq_none_iff (target : Json) :
    chartTarget target = .ok none ↔ IsPassed target := by
  cases target with
  | object members =>
      by_cases page : field members "type" = some (.string (codePoints "page"))
      · rw [chartTarget_of_page page]
        cases known : field members "url" with
        | none => simp [IsPassed, known]
        | some url =>
            cases url with
            | string text =>
                cases found : inLower text with
                | false => simp [IsPassed, known, found]
                | true => simp [IsPassed, page, known, found]
            | _ => simp [IsPassed, page, known]
      · rw [chartTarget_of_not_page page]
        exact iff_of_true rfl ⟨members, rfl, fun isPage => absurd isPage page⟩
  | _ => simp [chartTarget, IsPassed]

/-- The first chart is pinned, where every target before it is passed over. -/
theorem nextChart_eq_some_iff (targets : List Json) (members : List (CodePoints × Json))
    (url : CodePoints) :
    nextChart targets = .ok (some (members, url)) ↔
      exists before chart after, targets = before ++ chart :: after ∧
        (forall target, target ∈ before -> IsPassed target) ∧ IsPinnable chart members url := by
  induction targets with
  | nil => simp [nextChart]
  | cons target rest ih =>
      constructor
      · intro chosen
        rw [nextChart] at chosen
        cases round : chartTarget target with
        | error raised => rw [round] at chosen; cases chosen
        | ok found =>
            rw [round] at chosen
            cases found with
            | some chart =>
                cases chosen
                exact ⟨[], target, rest, rfl, (fun _ member => by cases member),
                  (chartTarget_eq_some_iff target members url).mp round⟩
            | none =>
                rcases ih.mp chosen with ⟨before, chart, after, rfl, passed, pinned⟩
                refine ⟨target :: before, chart, after, rfl, ?_, pinned⟩
                intro other member
                rcases List.mem_cons.mp member with rfl | later
                · exact (chartTarget_eq_none_iff other).mp round
                · exact passed other later
      · rintro ⟨before, chart, after, split, passed, pinned⟩
        rw [nextChart]
        cases before with
        | nil =>
            rw [List.nil_append, List.cons.injEq] at split
            rw [split.1, (chartTarget_eq_some_iff chart members url).mpr pinned]
        | cons first others =>
            rw [List.cons_append, List.cons.injEq] at split
            rw [split.1, (chartTarget_eq_none_iff first).mpr (passed first List.mem_cons_self)]
            exact ih.mpr ⟨others, chart, after, split.2,
              (fun other member => passed other (List.mem_cons_of_mem _ member)), pinned⟩

/-- The list of a port has a chart that can be pinned: it has an id, and every
target before it is passed over. -/
def HasPinnableChart (runtimes : Runtimes) (answer : CdpPort) : Prop :=
  exists before chart after members url id,
    Answers runtimes answer.listStatus answer.listBody (.array (before ++ chart :: after)) ∧
      (forall target, target ∈ before -> IsPassed target) ∧ IsPinnable chart members url ∧
      field members "id" = some id

theorem nextChartIn_eq_some_iff (value : Json) (chart : List (CodePoints × Json) × CodePoints) :
    nextChartIn value = .ok (some chart) ↔
      exists targets, value = .array targets ∧ nextChart targets = .ok (some chart) := by
  constructor
  · intro chosen
    cases value with
    | array targets => exact ⟨targets, rfl, chosen⟩
    | object members =>
        rw [nextChartIn] at chosen
        split at chosen
        · cases chosen
        · cases chosen
    | string text =>
        rw [nextChartIn] at chosen
        split at chosen
        · cases chosen
        · cases chosen
    | null => cases chosen
    | bool value => cases chosen
    | number numeral => cases chosen
    | constant name => cases chosen
  · rintro ⟨targets, rfl, chosen⟩
    exact chosen

theorem listTargets_eq_ok_iff {runtimes : Runtimes} {world : PortWorld} {port : Int}
    {targets : Json} :
    listTargets runtimes world port = .ok targets ↔
      exists answer, reach world port = some answer ∧ isSuccess answer.listStatus = true ∧
        loads runtimes answer.listBody = .ok targets := by
  unfold listTargets
  cases reach world port with
  | none => simp
  | some answer =>
      simp only [Option.some.injEq, exists_eq_left']
      cases isSuccess answer.listStatus with
      | false => simp
      | true =>
          cases loads runtimes answer.listBody with
          | ok value => simp
          | error raised => cases raised <;> simp

/-- `resolve` returns exactly where the list of the port has a chart that can be
pinned. -/
theorem resolve_ok_iff (runtimes : Runtimes) (world : PortWorld) (port : Int) :
    (exists tab, resolve runtimes world port = .ok tab) ↔
      exists answer, reach world port = some answer ∧ HasPinnableChart runtimes answer := by
  constructor
  · rintro ⟨tab, returned⟩
    unfold resolve at returned
    cases listed : listTargets runtimes world port with
    | error raised => rw [listed] at returned; cases returned
    | ok value =>
        rw [listed] at returned
        cases found : nextChartIn value with
        | error raised => simp only [found] at returned; cases returned
        | ok chosen =>
            simp only [found] at returned
            cases chosen with
            | none => cases returned
            | some chart =>
                rcases listTargets_eq_ok_iff.mp listed with ⟨answer, reached, success, loaded⟩
                rcases (nextChartIn_eq_some_iff value chart).mp found with ⟨targets, rfl, first⟩
                rcases chart with ⟨members, url⟩
                rcases (nextChart_eq_some_iff targets members url).mp first with
                  ⟨before, target, after, rfl, passed, pinned⟩
                cases known : field members "id" with
                | none => simp only [known] at returned; cases returned
                | some id =>
                    exact ⟨answer, reached, before, target, after, members, url, id,
                      ⟨success, loaded, by intro same; cases same⟩, passed, pinned, known⟩
  · rintro ⟨answer, reached, before, chart, after, members, url, id, ⟨success, loaded, _⟩, passed,
      pinned, known⟩
    have listed := listTargets_eq_ok_iff.mpr ⟨answer, reached, success, loaded⟩
    have chosen := (nextChart_eq_some_iff (before ++ chart :: after) members url).mpr
      ⟨before, chart, after, rfl, passed, pinned⟩
    refine ⟨⟨id, (field members "title").getD (.string []), url, extractChartId url⟩, ?_⟩
    rw [resolve, listed]
    simp only [nextChartIn, chosen, known]

end Python

end Discovery
end HybridDataSvc
