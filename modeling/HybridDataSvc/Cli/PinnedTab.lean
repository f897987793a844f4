import HybridDataSvc.Cli.Connection
import HybridDataSvc.Discovery.ChartPort
import HybridDataSvc.Text.Python
import HybridDataSvc.Transition.Runs

namespace HybridDataSvc
namespace Discovery

open JsonText NumberText

/-!
# The pinned tab and the tab of a command

The writer pins a tab at its start and brings it to the front before it calls
`tv`; a `tv` command takes the first chart of the list it fetches for itself.
What joins the two is the order of the list, in which the tab in front comes
first.
-/

/-- What `TabPin.activate` raises. -/
inductive ActivateRaised
  | beforeResolve
  | list (raised : PinRaised)
  | noLongerOpen
  | activateFailed
  | unexpectedBody (body : String)
  deriving DecidableEq, Repr

/-- The id of a target, where it is a text. -/
def idOf (target : Json) : Option CodePoints :=
  match Node.property target "id" with
  | some (.string id) => some id
  | _ => none

namespace Python

/-- `any(t.get("id") == self._pinned.id for t in targets)`, of an id that is a text. -/
def anyId (id : CodePoints) : List Json -> Except PinRaised Bool
  | [] => .ok false
  | .object members :: rest =>
    if idOf (.object members) = some id then .ok true else anyId id rest
  | _ :: _ => .error .attributeError

/-- The same over what `/json/list` holds. -/
def anyIdIn (id : CodePoints) : Json -> Except PinRaised Bool
  | .array targets => anyId id targets
  | .object members => if members.isEmpty then .ok false else .error .attributeError
  | .string text => if text.isEmpty then .ok false else .error .attributeError
  | _ => .error .typeError

/-- `TabPin.activate`, of what the port lists and what it answers to `/json/activate`. -/
def activate (pinned : Option CodePoints) (listed : Except PinRaised Json)
    (answer : Option (Nat × String)) : Except ActivateRaised Unit :=
  match pinned with
  | none => .error .beforeResolve
  | some id =>
    match listed with
    | .error raised => .error (.list raised)
    | .ok targets =>
      match anyIdIn id targets with
      | .error raised => .error (.list raised)
      | .ok false => .error .noLongerOpen
      | .ok true =>
        match answer with
        | none => .error .activateFailed
        | some (status, text) =>
          if isSuccess status then
            let body := PyText.strip text
            if body ≠ "" ∧ body ≠ "Target activated" then .error (.unexpectedBody body) else .ok ()
          else .error .activateFailed

end Python

/-! ## The same chart at the start -/

section Lower

open Node (foldUnit)

/-- A code point that both make lower in the same way, or the two that have an ASCII letter
in their lower case. -/
theorem lowerChar_eq_or (c : Nat) :
    Python.lowerChar c = [foldUnit c] ∨ c = 0x130 ∨ c = 0x212A := by
  unfold Python.lowerChar foldUnit
  by_cases upper : 'A'.toNat ≤ c ∧ c ≤ 'Z'.toNat
  · rw [if_pos upper, if_pos upper]
    exact Or.inl rfl
  · rw [if_neg upper, if_neg upper]
    by_cases dotted : c = 0x130
    · exact Or.inr (Or.inl dotted)
    · rw [if_neg dotted]
      by_cases kelvin : c = 0x212A
      · exact Or.inr (Or.inr kelvin)
      · rw [if_neg kelvin]
        exact Or.inl rfl

/-- A code point that is no ASCII letter, but has one in its lower case, stands in no place
of a plain pattern. -/
theorem isPrefixOf_lower {pattern url : CodePoints} (plain : Python.PlainPattern pattern) :
    pattern.isPrefixOf (url.flatMap Python.lowerChar) = pattern.isPrefixOf (url.map foldUnit) := by
  induction url generalizing pattern with
  | nil => rfl
  | cons c rest ih =>
      cases pattern with
      | nil => rfl
      | cons p others =>
          have here := plain.ascii p List.mem_cons_self
          have letters : 'i'.toNat = 105 ∧ 'k'.toNat = 107 := ⟨rfl, rfl⟩
          rw [List.flatMap_cons, List.map_cons, List.isPrefixOf_cons_cons]
          rcases lowerChar_eq_or c with same | rfl | rfl
          · rw [same, List.singleton_append, List.isPrefixOf_cons_cons, ih plain.tail]
          · -- the dot that stays of it would have to be in the pattern
            have apart : (p == foldUnit 0x130) = false := by
              rw [beq_eq_false_iff_ne]
              have folded : foldUnit 0x130 = 0x130 := by decide
              omega
            rw [apart, Bool.false_and]
            have lowered : Python.lowerChar 0x130 = ['i'.toNat, 0x307] := by decide
            rw [lowered, List.cons_append, List.singleton_append, List.isPrefixOf_cons_cons,
              Bool.and_eq_false_iff]
            by_cases first : p = 'i'.toNat
            · refine Or.inr ?_
              cases others with
              | nil =>
                  have ending := plain.ending
                  rw [first] at ending
                  exact absurd rfl ending
              | cons q more =>
                  have next := plain.ascii q (List.mem_cons_of_mem p List.mem_cons_self)
                  rw [List.isPrefixOf_cons_cons, Bool.and_eq_false_iff, beq_eq_false_iff_ne]
                  exact Or.inl (by omega)
            · exact Or.inl (beq_eq_false_iff_ne.mpr first)
          · have apart : (p == foldUnit 0x212A) = false := by
              rw [beq_eq_false_iff_ne]
              have folded : foldUnit 0x212A = 0x212A := by decide
              omega
            have lowered : Python.lowerChar 0x212A = ['k'.toNat] := by decide
            rw [apart, Bool.false_and, lowered, List.singleton_append, List.isPrefixOf_cons_cons,
              beq_eq_false_iff_ne.mpr here.2, Bool.false_and]

theorem occursIn_lower {pattern url : CodePoints} (plain : Python.PlainPattern pattern)
    (nonempty : pattern ≠ []) :
    occursIn pattern (url.flatMap Python.lowerChar) = occursIn pattern (url.map foldUnit) := by
  induction url with
  | nil => rfl
  | cons c rest ih =>
      have start : pattern.isPrefixOf ((c :: rest).flatMap Python.lowerChar) =
          pattern.isPrefixOf ((c :: rest).map foldUnit) := isPrefixOf_lower plain
      rw [List.flatMap_cons, List.map_cons] at start
      rw [List.flatMap_cons, List.map_cons]
      have single : forall d, Python.lowerChar c = [d] ->
          occursIn pattern (Python.lowerChar c ++ rest.flatMap Python.lowerChar) =
            occursIn pattern (foldUnit c :: rest.map foldUnit) := by
        intro d lowered
        rw [lowered, List.singleton_append] at start
        rw [lowered, List.singleton_append, occursIn, occursIn, start, ih]
      rcases lowerChar_eq_or c with same | rfl | rfl
      · exact single _ same
      · have lowered : Python.lowerChar 0x130 = ['i'.toNat, 0x307] := by decide
        have dot : pattern.isPrefixOf (0x307 :: rest.flatMap Python.lowerChar) = false := by
          cases pattern with
          | nil => exact absurd rfl nonempty
          | cons p others =>
              have here := plain.ascii p List.mem_cons_self
              rw [List.isPrefixOf_cons_cons, Bool.and_eq_false_iff, beq_eq_false_iff_ne]
              exact Or.inl (by omega)
        rw [lowered, List.cons_append, List.singleton_append] at start
        rw [lowered, List.cons_append, List.singleton_append, occursIn, occursIn, start, dot,
          Bool.false_or, ih, occursIn]
      · exact single 'k'.toNat (by decide)

/-- The tab pin and a command take the same URLs for charts. -/
theorem inLower_eq (url : CodePoints) :
    Python.inLower url = occursIn chartUrlRe (url.map foldUnit) :=
  occursIn_lower ⟨by decide, by decide⟩ (by decide)

end Lower

end Discovery

namespace Connection

open Discovery JsonText NumberText
open Discovery.Node (foldUnit isPage)

variable {runtimes : Runtimes}

theorem isPage_object_iff {members : List (CodePoints × Json)} :
    isPage (.object members) = true ↔
      field members "type" = some (.string (codePoints "page")) := by
  constructor
  · intro page
    rcases exists_members_of_isPage page with ⟨own, same, typed⟩
    cases same
    exact typed
  · intro typed
    simp only [isPage, Node.property, typed, beq_self_eq_true]

theorem findTarget_object (pattern : CodePoints) (members : List (CodePoints × Json))
    (rest : List Json) :
    findTarget runtimes pattern (.object members :: rest) =
      if isPage (.object members) then
        match testUrl runtimes pattern (.object members) with
        | none => none
        | some true => some (some (.object members))
        | some false => findTarget runtimes pattern rest
      else findTarget runtimes pattern rest := rfl

/-- A target that the tab pin passes over a command passes over as well. -/
theorem findTarget_of_passed {target : Json} (passed : Python.IsPassed target) (rest : List Json) :
    findTarget runtimes chartUrlRe (target :: rest) = findTarget runtimes chartUrlRe rest := by
  rcases passed with ⟨members, rfl, other⟩
  rw [findTarget_object]
  by_cases page : isPage (.object members) = true
  · rw [if_pos page]
    have chartless := other (isPage_object_iff.mp page)
    have missed : testUrl runtimes chartUrlRe (.object members) = some false := by
      unfold testUrl
      cases known : field members "url" with
      | none =>
          simp only [Node.property, known]
          decide
      | some url =>
          rcases chartless url known with ⟨text, rfl, noChart⟩
          rw [inLower_eq] at noChart
          simp only [Node.property, known, Node.string, Option.map_some, noChart]
    rw [missed]
  · rw [if_neg page]

/-- The tab that is pinned is the tab that a command would take then. -/
theorem findTarget_of_nextChart {targets : List Json} {members : List (CodePoints × Json)}
    {url : CodePoints} (pinned : Python.nextChart targets = .ok (some (members, url))) :
    findTarget runtimes chartUrlRe targets = some (some (.object members)) := by
  rcases (Python.nextChart_eq_some_iff targets members url).mp pinned with
    ⟨before, chart, after, rfl, passed, rfl, page, known, chartUrl⟩
  clear pinned
  induction before with
  | nil =>
      rw [List.nil_append, findTarget_object, if_pos (isPage_object_iff.mpr page)]
      have found : testUrl runtimes chartUrlRe (.object members) = some true := by
        rw [inLower_eq] at chartUrl
        simp only [testUrl, Node.property, known, Node.string, Option.map_some, chartUrl]
      rw [found]
  | cons target rest ih =>
      rw [List.cons_append, findTarget_of_passed (passed target List.mem_cons_self)]
      exact ih (fun other member => passed other (List.mem_cons_of_mem target member))

theorem findChartTarget_array (targets : List Json) :
    findChartTarget runtimes (.array targets) =
      match findTarget runtimes chartUrlRe targets with
      | none => none
      | some (some target) => some (some target)
      | some none => findTarget runtimes (codePoints "tradingview") targets := rfl

/-- A command that reads what `resolve` has read connects to the tab that is pinned. -/
theorem command_takes_resolved {world : PortWorld} {port : Int} {tab : PinnedTab}
    (resolved : Python.resolve runtimes world port = .ok tab) {answer : CdpPort}
    (reached : reach world port = some answer) {read : Json}
    (parsed : Node.jsonParse answer.listBody = some read) :
    exists target, findChartTarget runtimes read = some (some target) ∧
      Node.property target "id" = some tab.id := by
  unfold Python.resolve at resolved
  cases listed : Python.listTargets runtimes world port with
  | error raised =>
      rw [listed] at resolved
      cases resolved
  | ok value =>
      rcases Python.listTargets_eq_ok_iff.mp listed with ⟨own, here, -, loaded⟩
      rw [reached] at here
      cases here
      have same : read = value := by
        rcases loads_of_jsonParse parsed with both | ⟨raised, failed, -⟩
        · exact Except.ok.inj (both.symm.trans loaded)
        · cases failed.symm.trans loaded
      subst same
      simp only [listed] at resolved
      cases found : Python.nextChartIn read with
      | error raised =>
          simp only [found] at resolved
          cases resolved
      | ok chosen =>
          simp only [found] at resolved
          cases chosen with
          | none => cases resolved
          | some chart =>
              rcases (Python.nextChartIn_eq_some_iff read chart).mp found with ⟨targets, rfl, first⟩
              rcases chart with ⟨members, url⟩
              refine ⟨.object members, ?_, ?_⟩
              · rw [findChartTarget_array, findTarget_of_nextChart first]
              · cases known : field members "id" with
                | none =>
                    simp only [known] at resolved
                    cases resolved
                | some id =>
                    simp only [known] at resolved
                    cases resolved
                    exact known

theorem command_takes_resolved_chart :
    exists answer tab read target, reach Python.genericBelowChart 9223 = some answer ∧
      Python.resolve emptyPrinting Python.genericBelowChart 9223 = .ok tab ∧
      Node.jsonParse answer.listBody = some read ∧
      findChartTarget emptyPrinting read = some (some target) ∧
      Node.property target "id" = some tab.id := by
  have pinned : (Python.resolve emptyPrinting Python.genericBelowChart 9223).toOption.isSome = true := by
    decide +kernel
  have listed : ((reach Python.genericBelowChart 9223).bind
      (fun answer => Node.jsonParse answer.listBody)).isSome = true := by
    decide +kernel
  cases result : Python.resolve emptyPrinting Python.genericBelowChart 9223 with
  | error raised =>
      rw [result] at pinned
      cases pinned
  | ok tab =>
      cases reached : reach Python.genericBelowChart 9223 with
      | none =>
          rw [reached] at listed
          cases listed
      | some answer =>
          rw [reached, Option.bind_some] at listed
          rcases Option.isSome_iff_exists.mp listed with ⟨read, parsed⟩
          rcases command_takes_resolved result reached parsed with ⟨target, found, same⟩
          exact ⟨answer, tab, read, target, rfl, rfl, parsed, found, same⟩

/-! ## What a command finds -/

/-- A page whose URL has the pattern in it. -/
def shows (pattern : CodePoints) (target : Json) : Bool :=
  isPage target &&
    match Node.property target "url" with
    | some (.string url) => occursIn pattern (url.map foldUnit)
    | _ => false

/-- A target as a browser lists it. -/
structure IsTarget (target : Json) : Prop where
  url : exists url, Node.property target "url" = some (.string url)
  id : exists id, idOf target = some id

/-- The tabs of a browser; the one in front is the first. -/
structure TabList (tabs : List Json) : Prop where
  targets : forall target, target ∈ tabs -> IsTarget target
  distinct : (tabs.map idOf).Nodup

theorem findTarget_eq {tabs : List Json} (targets : forall target, target ∈ tabs -> IsTarget target)
    (pattern : CodePoints) :
    findTarget runtimes pattern tabs = some (tabs.find? (shows pattern)) := by
  induction tabs with
  | nil => rfl
  | cons target rest ih =>
      have later := ih (fun other member => targets other (List.mem_cons_of_mem target member))
      rcases (targets target List.mem_cons_self).url with ⟨url, known⟩
      cases target with
      | object members =>
          rw [findTarget_object, List.find?_cons]
          have tested : testUrl runtimes pattern (.object members) =
              some (occursIn pattern (url.map foldUnit)) := by
            simp only [testUrl, known, Node.string, Option.map_some]
          have shown : shows pattern (.object members) =
              (isPage (.object members) && occursIn pattern (url.map foldUnit)) := by
            simp only [shows, known]
          rw [tested, shown, later]
          cases isPage (.object members) with
          | false => rfl
          | true => cases occursIn pattern (url.map foldUnit) <;> rfl
      | _ => cases known

theorem findChartTarget_eq {tabs : List Json}
    (targets : forall target, target ∈ tabs -> IsTarget target) :
    findChartTarget runtimes (.array tabs) =
      some ((tabs.find? (shows chartUrlRe)).or
        (tabs.find? (shows (codePoints "tradingview")))) := by
  rw [findChartTarget_array, findTarget_eq targets chartUrlRe]
  cases tabs.find? (shows chartUrlRe) with
  | some target => rfl
  | none => exact findTarget_eq targets _

/-- The tab a command connects to. -/
def commandTab (runtimes : Runtimes) (tabs : List Json) : Option CodePoints :=
  match findChartTarget runtimes (.array tabs) with
  | some (some target) => idOf target
  | _ => none

/-- The command gets the tab in front where that has a chart, or where it is another page of
TradingView and no tab has one. -/
theorem commandTab_front_iff {front : Json} {rest : List Json} (list : TabList (front :: rest)) :
    commandTab runtimes (front :: rest) = idOf front ↔
      shows chartUrlRe front = true ∨
        shows (codePoints "tradingview") front = true ∧
          forall target, target ∈ rest -> shows chartUrlRe target = false := by
  have other : forall target, target ∈ rest -> idOf target ≠ idOf front := by
    intro target member same
    have distinct := list.distinct
    rw [List.map_cons, List.nodup_cons] at distinct
    exact distinct.1 (same ▸ List.mem_map_of_mem member)
  unfold commandTab
  rw [findChartTarget_eq list.targets, List.find?_cons, List.find?_cons]
  cases chart : shows chartUrlRe front with
  | true => simp
  | false =>
      cases later : rest.find? (shows chartUrlRe) with
      | some target =>
          have shown := List.find?_some later
          have member := List.mem_of_find?_eq_some later
          refine iff_of_false (other target member) ?_
          rintro (impossible | ⟨-, none_⟩)
          · cases impossible
          · rw [none_ target member] at shown
            cases shown
      | none =>
          have chartless : forall target, target ∈ rest -> shows chartUrlRe target = false := by
            intro target member
            exact Bool.eq_false_iff.mpr (List.find?_eq_none.mp later target member)
          cases page : shows (codePoints "tradingview") front with
          | true => exact iff_of_true rfl (Or.inr ⟨rfl, chartless⟩)
          | false =>
              refine iff_of_false ?_ ?_
              · cases found : rest.find? (shows (codePoints "tradingview")) with
                | some target => exact other target (List.mem_of_find?_eq_some found)
                | none =>
                    rcases (list.targets front List.mem_cons_self).id with ⟨id, named⟩
                    rw [named]
                    intro same
                    cases same
              · rintro (impossible | ⟨impossible, -⟩) <;> cases impossible

/-! ## What goes on behind the tab in front -/

/-- How a browser brings a tab to the front. -/
structure Foregrounds (activated : CodePoints -> List Json -> List Json) : Prop where
  perm : forall id tabs, (activated id tabs).Perm tabs
  front : forall id tabs, some id ∈ tabs.map idOf ->
    exists front rest, activated id tabs = front :: rest ∧ idOf front = some id

/-- What may happen to the tabs: one is opened, but not in front, one is closed, one goes to
another page, or one is brought to the front. -/
inductive TabEvent
  | openBehind (target : Json) (position : Nat)
  | close (id : CodePoints)
  | load (target : Json)
  | focus (id : CodePoints)

def TabEvent.after (activated : CodePoints -> List Json -> List Json) (tabs : List Json) :
    TabEvent -> List Json
  | .openBehind target position => tabs.take (position + 1) ++ target :: tabs.drop (position + 1)
  | .close id => tabs.filter (fun tab => decide (idOf tab ≠ some id))
  | .load target => tabs.map (fun tab => if idOf tab = idOf target then target else tab)
  | .focus id => activated id tabs

/-- The event is one of another tab than this one, or of the page that it shows. -/
def LeavesInFront (id : CodePoints) (tabs : List Json) : TabEvent -> Prop
  | .openBehind target _ => IsTarget target ∧ idOf target ∉ tabs.map idOf
  | .close other => other ≠ id
  | .load target => IsTarget target
  | .focus other => other = id

structure InFront (id : CodePoints) (tabs : List Json) : Prop where
  list : TabList tabs
  front : exists front rest, tabs = front :: rest ∧ idOf front = some id

theorem TabList.perm {tabs other : List Json} (list : TabList tabs) (same : other.Perm tabs) :
    TabList other where
  targets := fun target member => list.targets target (same.mem_iff.mp member)
  distinct := (same.map idOf).nodup_iff.mpr list.distinct

theorem TabList.cons {tabs : List Json} (list : TabList tabs) {target : Json}
    (isTarget : IsTarget target) (fresh : idOf target ∉ tabs.map idOf) :
    TabList (target :: tabs) where
  targets := by
    intro other member
    rcases List.mem_cons.mp member with rfl | later
    · exact isTarget
    · exact list.targets other later
  distinct := by
    rw [List.map_cons, List.nodup_cons]
    exact ⟨fresh, list.distinct⟩

namespace InFront

variable {id : CodePoints} {tabs : List Json}

theorem openBehind (inFront : InFront id tabs) {target : Json} (isTarget : IsTarget target)
    (fresh : idOf target ∉ tabs.map idOf) (position : Nat) :
    InFront id (tabs.take (position + 1) ++ target :: tabs.drop (position + 1)) where
  list := by
    apply (inFront.list.cons isTarget fresh).perm
    have moved : (tabs.take (position + 1) ++ target :: tabs.drop (position + 1)).Perm
        (target :: (tabs.take (position + 1) ++ tabs.drop (position + 1))) := List.perm_middle
    rwa [List.take_append_drop] at moved
  front := by
    rcases inFront.front with ⟨front, rest, rfl, own⟩
    exact ⟨front, _, rfl, own⟩

theorem close (inFront : InFront id tabs) {other : CodePoints} (different : other ≠ id) :
    InFront id (tabs.filter (fun tab => decide (idOf tab ≠ some other))) where
  list :=
    { targets := fun target member => inFront.list.targets target (List.mem_of_mem_filter member)
      distinct := (List.filter_sublist.map idOf).nodup inFront.list.distinct }
  front := by
    rcases inFront.front with ⟨front, rest, rfl, own⟩
    have kept : decide (idOf front ≠ some other) = true := by
      rw [own, decide_eq_true_eq]
      intro same
      exact different (Option.some.inj same).symm
    rw [List.filter_cons, if_pos kept]
    exact ⟨front, _, rfl, own⟩

theorem load (inFront : InFront id tabs) {target : Json} (isTarget : IsTarget target) :
    InFront id (tabs.map (fun tab => if idOf tab = idOf target then target else tab)) := by
  have sameId : forall tab, idOf (if idOf tab = idOf target then target else tab) = idOf tab := by
    intro tab
    split
    · next same => exact same.symm
    · rfl
  constructor
  · constructor
    · intro shown member
      rcases List.mem_map.mp member with ⟨tab, here, rfl⟩
      split
      · exact isTarget
      · exact inFront.list.targets tab here
    · rw [List.map_map]
      have same : idOf ∘ (fun tab => if idOf tab = idOf target then target else tab) = idOf :=
        funext sameId
      rw [same]
      exact inFront.list.distinct
  · rcases inFront.front with ⟨front, rest, rfl, own⟩
    exact ⟨_, _, List.map_cons .., (sameId front).trans own⟩

/-- The tab stays in front, whatever the others do. -/
theorem after (inFront : InFront id tabs) {activated : CodePoints -> List Json -> List Json}
    (browser : Foregrounds activated) {event : TabEvent} (leaves : LeavesInFront id tabs event) :
    InFront id (event.after activated tabs) := by
  cases event with
  | openBehind target position => exact inFront.openBehind leaves.1 leaves.2 position
  | close other => exact inFront.close leaves
  | load target => exact inFront.load leaves
  | focus other =>
      have same : other = id := leaves
      subst same
      constructor
      · exact inFront.list.perm (browser.perm other tabs)
      · rcases inFront.front with ⟨front, rest, rfl, own⟩
        exact browser.front other _ (own ▸ List.mem_map_of_mem List.mem_cons_self)

end InFront

theorem mem_ids_of_anyId {id : CodePoints} {tabs : List Json}
    (found : Python.anyId id tabs = .ok true) : some id ∈ tabs.map idOf := by
  induction tabs with
  | nil => cases found
  | cons target rest ih =>
      cases target with
      | object members =>
          rw [Python.anyId] at found
          split at found
          · next own => exact own ▸ List.mem_map_of_mem List.mem_cons_self
          · exact List.mem_cons_of_mem _ (ih found)
      | _ => cases found

/-- `activate` returns only where the pinned tab is in the list. -/
theorem mem_ids_of_activate {id : CodePoints} {tabs : List Json} {answer : Option (Nat × String)}
    (active : Python.activate (some id) (.ok (.array tabs)) answer = .ok ()) :
    some id ∈ tabs.map idOf := by
  cases found : Python.anyId id tabs with
  | error raised =>
      simp only [Python.activate, Python.anyIdIn, found] at active
      cases active
  | ok here =>
      cases here with
      | true => exact mem_ids_of_anyId found
      | false =>
          simp only [Python.activate, Python.anyIdIn, found] at active
          cases active

/-- After an activation, and whatever goes on in the background, a command gets the pinned tab
exactly where that still shows a chart, or another page of TradingView while no tab has a
chart: `activate` asks whether the tab is there, and not what it shows. -/
theorem command_of_pinned (runtimes : Runtimes)
    {activated : CodePoints -> List Json -> List Json} (browser : Foregrounds activated) {tabs : List Json} (list : TabList tabs) {id : CodePoints}
    {answer : Option (Nat × String)}
    (active : Python.activate (some id) (.ok (.array tabs)) answer = .ok ())
    {events : List TabEvent}
    (leaves : Transition.Along (TabEvent.after activated) (LeavesInFront id) (activated id tabs)
      events) :
    exists front rest,
      Transition.run (TabEvent.after activated) (activated id tabs) events = front :: rest ∧
      idOf front = some id ∧
      (commandTab runtimes (front :: rest) = some id ↔
        shows chartUrlRe front = true ∨
          shows (codePoints "tradingview") front = true ∧
            forall target, target ∈ rest -> shows chartUrlRe target = false) := by
  have start : InFront id (activated id tabs) :=
    ⟨list.perm (browser.perm id tabs), browser.front id tabs (mem_ids_of_activate active)⟩
  have inFront : InFront id
      (Transition.run (TabEvent.after activated) (activated id tabs) events) :=
    Transition.invariant_run (TabEvent.after activated)
      (fun _ _ inFront leaves => inFront.after browser leaves) start leaves
  rcases inFront.front with ⟨front, rest, split, own⟩
  refine ⟨front, rest, split, own, ?_⟩
  have listed : TabList (front :: rest) := split ▸ inFront.list
  rw [← own]
  exact commandTab_front_iff listed

/-- The order of a browser that keeps the tabs by the time they were last in front. -/
def byLastActive (id : CodePoints) (tabs : List Json) : List Json :=
  tabs.filter (fun tab => decide (idOf tab = some id)) ++
    tabs.filter (fun tab => !decide (idOf tab = some id))

theorem foregrounds_byLastActive : Foregrounds byLastActive where
  perm := fun id tabs => List.filter_append_perm _ tabs
  front := by
    intro id tabs here
    rcases List.mem_map.mp here with ⟨tab, member, own⟩
    have found : tab ∈ tabs.filter (fun tab => decide (idOf tab = some id)) :=
      List.mem_filter.mpr ⟨member, decide_eq_true own⟩
    unfold byLastActive
    cases matching : tabs.filter (fun tab => decide (idOf tab = some id)) with
    | nil =>
        rw [matching] at found
        cases found
    | cons front rest =>
        have first : front ∈ tabs.filter (fun tab => decide (idOf tab = some id)) :=
          matching ▸ List.mem_cons_self
        exact ⟨front, _, rfl, of_decide_eq_true (List.mem_filter.mp first).2⟩

def tabAt (id url : String) : Json :=
  .object [(codePoints "type", .string (codePoints "page")),
    (codePoints "id", .string (codePoints id)), (codePoints "url", .string (codePoints url))]

theorem isTarget_tabAt (id url : String) : IsTarget (tabAt id url) where
  url := ⟨codePoints url, rfl⟩
  id := ⟨codePoints id, rfl⟩

def twoCharts : List Json :=
  [tabAt "A" "https://www.tradingview.com/chart/a/", tabAt "B" "https://www.tradingview.com/chart/b/"]

theorem tabList_twoCharts : TabList twoCharts where
  targets := by
    intro target member
    rcases List.mem_cons.mp member with rfl | later
    · exact isTarget_tabAt _ _
    · rcases List.mem_singleton.mp later with rfl
      exact isTarget_tabAt _ _
  distinct := by decide

/-- Another chart is opened, the first one is closed, and the pinned tab goes to another chart. -/
def background : List TabEvent :=
  [.openBehind (tabAt "C" "https://www.tradingview.com/chart/c/") 0, .close (codePoints "A"),
    .load (tabAt "B" "https://www.tradingview.com/chart/d/")]

theorem command_of_pinned_background :
    commandTab emptyPrinting
        (Transition.run (TabEvent.after byLastActive) (byLastActive (codePoints "B") twoCharts)
          background) = some (codePoints "B") := by
  have active : Python.activate (some (codePoints "B")) (.ok (.array twoCharts))
      (some (200, "Target activated")) = .ok () := by decide +kernel
  have leaves : Transition.Along (TabEvent.after byLastActive) (LeavesInFront (codePoints "B"))
      (byLastActive (codePoints "B") twoCharts) background := by
    refine ⟨⟨isTarget_tabAt _ _, by decide⟩, ?_, isTarget_tabAt _ _, trivial⟩
    show codePoints "A" ≠ codePoints "B"
    decide
  rcases command_of_pinned emptyPrinting foregrounds_byLastActive tabList_twoCharts active leaves
    with ⟨front, rest, split, -, exactly⟩
  have computed : Transition.run (TabEvent.after byLastActive)
      (byLastActive (codePoints "B") twoCharts) background =
      [tabAt "B" "https://www.tradingview.com/chart/d/",
        tabAt "C" "https://www.tradingview.com/chart/c/"] := rfl
  have first : front = tabAt "B" "https://www.tradingview.com/chart/d/" :=
    (List.cons.inj (split.symm.trans computed)).1
  rw [split]
  apply exactly.mpr
  rw [first]
  exact Or.inl (by decide)

-- the pinned tab is in front, and shows no chart: the command gets the other one
example :
    commandTab emptyPrinting
      (Transition.run (TabEvent.after byLastActive) (byLastActive (codePoints "B") twoCharts)
        [.load (tabAt "B" "https://www.tradingview.com/")]) = some (codePoints "A") := by
  decide

end Connection
end HybridDataSvc
