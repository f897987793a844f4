import HybridDataSvc.Discovery.TabPin

namespace HybridDataSvc
namespace Discovery

open JsonText NumberText

/-!
# A chart at startup

The writer discovers a port and pins a chart on it.  The scan takes the lowest
port with any TradingView page, so that a chart on a higher port does not help
when a lower port has a page without one.
-/

namespace Python

/-! ## Lower case and case folding -/

/-- A pattern that case folding finds wherever it is in the lower case: it has
none of the letters that only lower case makes of one above ASCII. -/
structure PlainPattern (pattern : CodePoints) : Prop where
  ascii : forall c, c ∈ pattern -> c < 128 ∧ c ≠ 'k'.toNat
  ending : pattern.getLast? ≠ some 'i'.toNat

theorem PlainPattern.tail {c : Nat} {rest : CodePoints} (plain : PlainPattern (c :: rest)) :
    PlainPattern rest := by
  constructor
  · intro other member
    exact plain.ascii other (List.mem_cons_of_mem c member)
  · cases rest with
    | nil => simp
    | cons next others =>
        have ending := plain.ending
        rw [List.getLast?_cons_cons] at ending
        exact ending

/-- A code point whose lower case is another single one, or is not in a plain
pattern. -/
theorem lowerChar_cases (c : Nat) :
    (lowerChar c = [foldCase c]) ∨ lowerChar c = ['i'.toNat, 0x307] ∨ lowerChar c = ['k'.toNat] ∨
      (lowerChar c = [c] ∧ c = 0x131) := by
  unfold lowerChar foldCase
  by_cases upper : 'A'.toNat ≤ c ∧ c ≤ 'Z'.toNat
  · rw [if_pos upper, if_pos upper]
    exact Or.inl rfl
  · rw [if_neg upper, if_neg upper]
    by_cases dotted : c = 0x130
    · rw [if_pos dotted]
      exact Or.inr (Or.inl rfl)
    · rw [if_neg dotted]
      by_cases kelvin : c = 0x212A
      · rw [if_pos kelvin]
        exact Or.inr (Or.inr (Or.inl rfl))
      · rw [if_neg kelvin]
        by_cases dotless : c = 0x131
        · exact Or.inr (Or.inr (Or.inr ⟨rfl, dotless⟩))
        · rw [if_neg (by omega)]
          exact Or.inl rfl

theorem prefix_fold_of_lower {pattern url : CodePoints} (plain : PlainPattern pattern)
    (found : pattern.isPrefixOf (url.flatMap lowerChar) = true) :
    pattern.isPrefixOf (url.map foldCase) = true := by
  induction url generalizing pattern with
  | nil => exact found
  | cons c rest ih =>
      cases pattern with
      | nil => rfl
      | cons p others =>
          have here := plain.ascii p List.mem_cons_self
          have dot : 'i'.toNat = 105 ∧ 'k'.toNat = 107 := ⟨rfl, rfl⟩
          rw [List.flatMap_cons] at found
          rcases lowerChar_cases c with single | double | kelvin | ⟨same, dotless⟩
          · rw [single, List.singleton_append, List.isPrefixOf, Bool.and_eq_true] at found
            rw [List.map_cons, List.isPrefixOf, Bool.and_eq_true]
            exact ⟨found.1, ih plain.tail found.2⟩
          · -- the combining dot would have to be in the pattern
            rw [double, List.cons_append, List.isPrefixOf, Bool.and_eq_true, beq_iff_eq] at found
            cases others with
            | nil =>
                have ending := plain.ending
                rw [found.1] at ending
                exact absurd rfl ending
            | cons q more =>
                have next := plain.ascii q (List.mem_cons_of_mem p List.mem_cons_self)
                have second := found.2
                rw [List.singleton_append, List.isPrefixOf, Bool.and_eq_true, beq_iff_eq] at second
                omega
          · rw [kelvin, List.singleton_append, List.isPrefixOf, Bool.and_eq_true,
              beq_iff_eq] at found
            exact absurd found.1 here.2
          · rw [same, List.singleton_append, List.isPrefixOf, Bool.and_eq_true,
              beq_iff_eq] at found
            omega

theorem occursIn_fold_of_lower {pattern url : CodePoints} (plain : PlainPattern pattern)
    (nonempty : pattern ≠ []) (found : occursIn pattern (url.flatMap lowerChar) = true) :
    occursIn pattern (url.map foldCase) = true := by
  induction url with
  | nil => exact found
  | cons c rest ih =>
      rw [List.map_cons, occursIn, Bool.or_eq_true]
      rcases pattern with _ | ⟨p, others⟩
      · exact absurd rfl nonempty
      · have start : (p :: others).isPrefixOf ((c :: rest).flatMap lowerChar) = true ->
            (p :: others).isPrefixOf (foldCase c :: rest.map foldCase) = true :=
          prefix_fold_of_lower plain
        rw [List.flatMap_cons] at found start
        have single : forall d, lowerChar c = [d] ->
            (p :: others).isPrefixOf (foldCase c :: rest.map foldCase) = true ∨
              occursIn (p :: others) (rest.map foldCase) = true := by
          intro d lowered
          rw [lowered, List.singleton_append] at found start
          rw [occursIn, Bool.or_eq_true] at found
          exact found.imp start ih
        rcases lowerChar_cases c with lowered | double | lowered | ⟨lowered, _⟩
        · exact single _ lowered
        · rw [double, List.cons_append, List.singleton_append] at found start
          rw [occursIn, Bool.or_eq_true, occursIn, Bool.or_eq_true] at found
          rcases found with first | second | later
          · exact Or.inl (start first)
          · have here := plain.ascii p List.mem_cons_self
            rw [List.isPrefixOf, Bool.and_eq_true, beq_iff_eq] at second
            omega
          · exact Or.inr (ih later)
        · exact single _ lowered
        · exact single _ lowered

/-- What the tab pin takes for a chart the pattern of the discovery does as well. -/
theorem searchChart_of_inLower {url : CodePoints} (found : inLower url = true) :
    searchChart url = true :=
  occursIn_fold_of_lower ⟨by decide, by decide⟩ (by decide) found

/-! ## The discovery and the tab pin -/

/-- A page whose URL matches `tradingview.com/chart`. -/
def IsChartPage (target : Json) : Prop :=
  exists members url, target = .object members ∧
    field members "type" = some (.string (codePoints "page")) ∧
    field members "url" = some (.string url) ∧ searchChart url = true

/-- The port lists a page with a chart. -/
def HasChart (runtimes : Runtimes) (world : PortWorld) (port : Int) : Prop :=
  exists answer targets, reach world port = some answer ∧
    Answers runtimes answer.listStatus answer.listBody (.array targets) ∧
    exists target, target ∈ targets ∧ IsChartPage target

/-- `discover_cdp()` without `CDP_PORT` and without a cache file. -/
def freshScan (runtimes : Runtimes) (host portRange : Option CodePoints) (world : PortWorld) :
    Except Raised (Resolved Int) :=
  discoverWith (fun _ port => isTvEndpoint runtimes world port) runtimes ⟨none, host, portRange⟩
    .missing false

/-- The discovery returns a port that has a chart, and the tab pin takes it. -/
def StartsOnChart (runtimes : Runtimes) (host portRange : Option CodePoints) (world : PortWorld) :
    Prop :=
  exists resolved tab, freshScan runtimes host portRange world = .ok resolved ∧
    HasChart runtimes world resolved.port ∧ resolve runtimes world resolved.port = .ok tab

/-- A port of the range that answers both requests and lists a TradingView page. -/
def ServesTv (runtimes : Runtimes) (portRange : Option CodePoints) (world : PortWorld)
    (port : Int) : Prop :=
  port ∈ portsBetween (parsePortRange portRange) ∧
    exists answer, reach world port = some answer ∧ ShowsTvPage runtimes answer

/-- No probe of the range breaks, and the lowest port that lists a TradingView
page has a chart that can be pinned. -/
structure LowestHasChart (runtimes : Runtimes) (portRange : Option CodePoints)
    (world : PortWorld) : Prop where
  quiet : forall port, port ∈ portsBetween (parsePortRange portRange) ->
    forall answer, reach world port = some answer -> ¬ BreaksProbe runtimes answer
  lowest : exists port answer, ServesTv runtimes portRange world port ∧
    (forall other, ServesTv runtimes portRange world other -> port ≤ other) ∧
    reach world port = some answer ∧ HasPinnableChart runtimes answer

variable {runtimes : Runtimes} {host portRange : Option CodePoints} {world : PortWorld}

/-- The scan returns the lowest port that lists a TradingView page, where no
probe breaks. -/
theorem freshScan_port_iff (host : Option CodePoints) (port : Int) :
    (exists resolved, freshScan runtimes host portRange world = .ok resolved ∧
        resolved.port = port) ↔
      (forall other, other ∈ portsBetween (parsePortRange portRange) ->
        forall answer, reach world other = some answer -> ¬ BreaksProbe runtimes answer) ∧
      ServesTv runtimes portRange world port ∧
      forall other, ServesTv runtimes portRange world other -> port ≤ other := by
  have serves : forall other, ServesTv runtimes portRange world other ↔
      other ∈ portsBetween (parsePortRange portRange) ∧
        isTvEndpoint runtimes world other = .ok true := by
    intro other
    rw [isTvEndpoint_eq_ok_true_iff]
    rfl
  have quiet : forall other,
      (forall answer, reach world other = some answer -> ¬ BreaksProbe runtimes answer) ↔
        forall raised, isTvEndpoint runtimes world other ≠ .error raised := by
    intro other
    have breaks : (¬ exists raised, isTvEndpoint runtimes world other = .error raised) ↔ _ :=
      not_congr isTvEndpoint_eq_error_iff
    simp only [not_exists, not_and] at breaks
    exact breaks.symm
  simp only [serves, quiet, and_imp]
  exact discoverByScan_port_iff (fun _ port => isTvEndpoint runtimes world port)
    (Python.host ⟨none, host, portRange⟩) (pairwise_portsBetween _) port

theorem hasChart_of_hasPinnableChart {port : Int} {answer : CdpPort}
    (reached : reach world port = some answer) (chart : HasPinnableChart runtimes answer) :
    HasChart runtimes world port := by
  rcases chart with ⟨before, target, after, members, url, id, answers, _, pinnable, _⟩
  refine ⟨answer, before ++ target :: after, reached, answers, target, ?_, ?_⟩
  · exact List.mem_append_right before List.mem_cons_self
  · rcases pinnable with ⟨same, page, known, found⟩
    exact ⟨members, url, same, page, known, searchChart_of_inLower found⟩

/-- The writer starts on a chart exactly when no probe of the range breaks and the
lowest port that lists a TradingView page has a chart that can be pinned. -/
theorem starts_on_chart_iff :
    StartsOnChart runtimes host portRange world ↔ LowestHasChart runtimes portRange world := by
  constructor
  · rintro ⟨resolved, tab, returned, _, pinned⟩
    rcases (freshScan_port_iff host resolved.port).mp ⟨resolved, returned, rfl⟩ with
      ⟨quiet, serves, least⟩
    rcases (resolve_ok_iff runtimes world resolved.port).mp ⟨tab, pinned⟩ with
      ⟨answer, reached, chart⟩
    exact ⟨quiet, resolved.port, answer, serves, least, reached, chart⟩
  · rintro ⟨quiet, port, answer, serves, least, reached, chart⟩
    rcases (freshScan_port_iff host port).mpr ⟨quiet, serves, least⟩ with
      ⟨resolved, returned, rfl⟩
    rcases (resolve_ok_iff runtimes world resolved.port).mpr ⟨answer, reached, chart⟩ with
      ⟨tab, pinned⟩
    exact ⟨resolved, tab, returned, hasChart_of_hasPinnableChart reached chart, pinned⟩

/-- Two ports with one page each: one of TradingView, and above it one with a
chart. -/
def genericBelowChart : PortWorld := fun port =>
  if port = 9222 then
    some ⟨200, "\x7b\x7d".toList, 200,
      ("[\x7b\"type\": \"page\", \"id\": \"A\", " ++
        "\"url\": \"https://www.tradingview.com/markets/\"\x7d]").toList⟩
  else if port = 9223 then
    some ⟨200, "\x7b\x7d".toList, 200,
      ("[\x7b\"type\": \"page\", \"id\": \"B\", " ++
        "\"url\": \"https://www.tradingview.com/chart/abc123/\"\x7d]").toList⟩
  else none

/-- The scan settles for the lower port, and there is no chart to pin on it. -/
theorem generic_page_hides_chart :
    let runtimes : Runtimes :=
      ⟨fun _ _ => true, fun _ _ => true, fun _ => [], fun _ => none, 1000⟩
    (exists port, port ∈ portsBetween (parsePortRange none) ∧
        HasChart runtimes genericBelowChart port) ∧
      ¬ StartsOnChart runtimes none none genericBelowChart := by
  intro runtimes
  constructor
  · have pinned : (resolve runtimes genericBelowChart 9223).toOption.isSome = true := by
      decide +kernel
    cases result : resolve runtimes genericBelowChart 9223 with
    | error raised => rw [result] at pinned; cases pinned
    | ok tab =>
        rcases (resolve_ok_iff runtimes genericBelowChart 9223).mp ⟨tab, result⟩ with
          ⟨answer, reached, chart⟩
        exact ⟨9223, by decide, hasChart_of_hasPinnableChart reached chart⟩
  · rintro ⟨resolved, tab, returned, _, pinned⟩
    have scanned : freshScan runtimes none none genericBelowChart =
        .ok ⟨defaultHost, 9222, some (defaultHost, 9222)⟩ := by decide +kernel
    have failed : (resolve runtimes genericBelowChart 9222).toOption.isSome = false := by
      decide +kernel
    rw [scanned] at returned
    cases returned
    rw [pinned] at failed
    cases failed

end Python

end Discovery
end HybridDataSvc
