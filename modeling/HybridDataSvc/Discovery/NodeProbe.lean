import HybridDataSvc.Discovery.TvEndpoint
import HybridDataSvc.Text.Dialects
import HybridDataSvc.Text.Stringify

namespace HybridDataSvc
namespace Discovery

open JsonText NumberText

/-!
# The same probe in Node

`isTvEndpoint` of `cdp_discover.js` over what a port answers.  It mirrors the
probe in Python, but takes the status 200 alone, no constants and no version
that counts as false, and searches in any URL by its text.
-/

namespace Node

/-- The truth of a value. -/
def truthy : Json -> Bool
  | .null => false
  | .bool value => value
  | .number numeral => decide (ofNumeral numeral ≠ .finite 0)
  | .constant name => decide (name ≠ .nan)
  | .string text => !text.isEmpty
  | _ => true

/-- A code unit without its case; `i` leaves alone what is not ASCII. -/
def foldUnit (unit : Nat) : Nat :=
  if 'A'.toNat ≤ unit ∧ unit ≤ 'Z'.toNat then unit + 32 else unit

/-- `/tradingview/i.test(url)`. -/
def searchGeneric (url : CodePoints) : Bool :=
  occursIn (codePoints "tradingview") (url.map foldUnit)

/-- `JSON.parse(text)`; nothing when it raises. -/
def jsonParse (text : List Char) : Option Json :=
  match parse ⟨false, none, none⟩ text with
  | .ok value => some value
  | .error _ => none

/-- `httpGetJson`; nothing for the `null` of a failure. -/
def httpGetJson (status : Nat) (body : List Char) : Option Json :=
  if status = 200 then jsonParse body else none

/-- `t.type === 'page'`. -/
def isPage (target : Json) : Bool :=
  match property target "type" with
  | some (.string kind) => kind == codePoints "page"
  | _ => false

/-- `/tradingview/i.test(t.url || '')`; an object may fail to be printed. -/
def matchesUrl (runtimes : Runtimes) : Option Json -> Except Raised Bool
  | none => .ok (searchGeneric [])
  | some url =>
    if truthy url then
      match string runtimes url with
      | some text => .ok (searchGeneric text)
      | none => .error .typeError
    else .ok (searchGeneric [])

/-- A round of `targets.some`. -/
def matchesTarget (runtimes : Runtimes) (target : Json) : Except Raised Bool :=
  if truthy target && isPage target then matchesUrl runtimes (property target "url") else .ok false

/-- `targets.some`. -/
def anyTarget (runtimes : Runtimes) : List Json -> Except Raised Bool
  | [] => .ok false
  | target :: rest =>
    match matchesTarget runtimes target with
    | .error raised => .error raised
    | .ok true => .ok true
    | .ok false => anyTarget runtimes rest

/-- `isTvEndpoint`. -/
def isTvEndpoint (runtimes : Runtimes) (world : PortWorld) (port : Int) : Except Raised Bool :=
  match reach world port with
  | none => .ok false
  | some answer =>
    match httpGetJson answer.versionStatus answer.versionBody with
    | none => .ok false
    | some version =>
      if truthy version then
        match httpGetJson answer.listStatus answer.listBody with
        | some (.array targets) => anyTarget runtimes targets
        | _ => .ok false
      else .ok false

end Node

/-! ## One text for both -/

theorem jsonParse_eq_some_iff {text : List Char} {value : Json} :
    Node.jsonParse text = some value ↔ parse ⟨false, none, none⟩ text = .ok value := by
  unfold Node.jsonParse
  cases parse ⟨false, none, none⟩ text with
  | ok read => simp
  | error fault => simp

/-- What `JSON.parse` reads `json.loads` reads alike, or it is too long or too deep. -/
theorem loads_of_jsonParse {runtimes : Runtimes} {text : List Char} {value : Json}
    (parsed : Node.jsonParse text = some value) :
    Python.loads runtimes text = .ok value ∨
      exists raised, Python.loads runtimes text = .error raised ∧ raised ≠ .jsonDecodeError := by
  have carried := parse_carried (jsonParse_eq_some_iff.mp parsed)
    (Or.inl rfl : (⟨true, some maxIntDigits, some runtimes.pyMaxDepth⟩ : Dialect).Knows value.isStandard)
  unfold Python.loads
  rcases carried with same | ⟨fault, limits, failed⟩
  · rw [same]
    exact Or.inl rfl
  · rw [failed]
    rcases limits with ⟨rfl, -⟩ | ⟨rfl, -⟩
    · exact Or.inr ⟨_, rfl, by decide⟩
    · exact Or.inr ⟨_, rfl, by decide⟩

theorem parse_of_loads {runtimes : Runtimes} {text : List Char} {value : Json}
    (read : Python.loads runtimes text = .ok value) :
    parse ⟨true, some maxIntDigits, some runtimes.pyMaxDepth⟩ text = .ok value := by
  unfold Python.loads at read
  split at read
  · rename_i same
    cases read
    exact same
  · cases read
  · cases read
  · cases read

/-- What `json.loads` reads without constants `JSON.parse` reads alike. -/
theorem jsonParse_of_loads {runtimes : Runtimes} {text : List Char} {value : Json}
    (read : Python.loads runtimes text = .ok value) (standard : value.isStandard = true) :
    Node.jsonParse text = some value := by
  exact jsonParse_eq_some_iff.mpr ((parse_carried (parse_of_loads read) (Or.inr standard)).eq_ok rfl rfl)

theorem httpGetJson_of_node (runtimes : Runtimes) {status : Nat} {body : List Char} {value : Json}
    (found : Node.httpGetJson status body = some value) (counts : Node.truthy value = true) :
    Python.httpGetJson runtimes status body = .ok (some value) ∨
      exists raised, Python.httpGetJson runtimes status body = .error raised := by
  unfold Node.httpGetJson at found
  split at found
  · rename_i success
    have taken : isSuccess status = true := by
      rw [success]
      rfl
    rcases loads_of_jsonParse found with read | ⟨raised, failed, uncaught⟩
    · refine Or.inl (Python.httpGetJson_eq_some_iff.mpr ⟨taken, read, ?_⟩)
      rintro rfl
      cases counts
    · exact Or.inr (Python.httpGetJson_eq_error_iff.mpr ⟨taken, raised, failed, uncaught⟩)
  · cases found

/-! ## One URL for both -/

/-- A text without the letters that only one of the patterns takes for an `i`. -/
def Undotted (url : CodePoints) : Prop := forall c, c ∈ url -> c ≠ 0x130 ∧ c ≠ 0x131

theorem foldCase_eq_foldUnit {c : Nat} (plain : c ≠ 0x130 ∧ c ≠ 0x131) :
    Python.foldCase c = Node.foldUnit c := by
  unfold Python.foldCase Node.foldUnit
  split
  · rfl
  · exact if_neg (by omega)

theorem searchGeneric_eq {url : CodePoints} (undotted : Undotted url) :
    Python.searchGeneric url = Node.searchGeneric url := by
  unfold Python.searchGeneric Node.searchGeneric
  rw [List.map_congr_left (fun c here => foldCase_eq_foldUnit (undotted c here))]

/-- The fold of Python only adds to the matches of a pattern in ASCII. -/
theorem isPrefixOf_foldCase {pattern : CodePoints} (small : forall c, c ∈ pattern -> c < 128)
    {url : CodePoints}
    (begins : pattern.isPrefixOf (url.map Node.foldUnit) = true) :
    pattern.isPrefixOf (url.map Python.foldCase) = true := by
  induction pattern generalizing url with
  | nil => exact List.isPrefixOf_nil_left
  | cons p rest ih =>
      cases url with
      | nil => cases begins
      | cons c later =>
          rw [List.map_cons, List.isPrefixOf_cons_cons, Bool.and_eq_true] at begins ⊢
          have letter : p = Node.foldUnit c := beq_iff_eq.mp begins.1
          have bound := small p List.mem_cons_self
          have plain : c ≠ 0x130 ∧ c ≠ 0x131 := by
            rw [letter] at bound
            constructor
            · rintro rfl
              exact absurd bound (by decide)
            · rintro rfl
              exact absurd bound (by decide)
          refine ⟨?_, ih (fun d here => small d (List.mem_cons_of_mem p here)) begins.2⟩
          rw [foldCase_eq_foldUnit plain]
          exact begins.1

theorem searchGeneric_of_node {url : CodePoints} (found : Node.searchGeneric url = true) :
    Python.searchGeneric url = true := by
  have small : forall c, c ∈ codePoints "tradingview" -> c < 128 := by decide
  unfold Node.searchGeneric at found
  unfold Python.searchGeneric
  induction url with
  | nil => exact found
  | cons c rest ih =>
      rw [List.map_cons, occursIn, Bool.or_eq_true] at found ⊢
      rcases found with begins | later
      · rw [← List.map_cons] at begins ⊢
        exact Or.inl (isPrefixOf_foldCase small begins)
      · exact Or.inr (ih later)

/-! ## One target for both -/

/-- How JavaScript prints an array and an object without anything in them. -/
structure PrintsEmpty (runtimes : Runtimes) : Prop where
  array : runtimes.jsString (.array []) = some []
  object : runtimes.jsString (.object []) = some (codePoints "[object Object]")

theorem exists_members_of_isPage {target : Json} (page : Node.isPage target = true) :
    exists members, target = .object members ∧
      field members "type" = some (.string (codePoints "page")) := by
  unfold Node.isPage at page
  cases target with
  | object members =>
      refine ⟨members, rfl, ?_⟩
      split at page
      · rename_i kind typed
        rw [beq_iff_eq.mp page] at typed
        exact typed
      · cases page
  | _ => cases page

theorem truthy_number {numeral : Numeral} (counts : Node.truthy (.number numeral) = true) :
    Python.truthy (.number numeral) = true := by
  have nonzero : ofNumeral numeral ≠ .finite 0 := of_decide_eq_true counts
  have mantissa : numeral.mantissa ≠ 0 := by
    intro zero
    apply nonzero
    rw [ofNumeral, zero]
    rfl
  simp only [Python.truthy, nonzero, mantissa, ne_eq, not_false_iff, decide_true, ite_self]

/-- Only an empty array or an empty object counts in JavaScript alone. -/
theorem truthy_of_node {value : Json} (counts : Node.truthy value = true) :
    Python.truthy value = true ∨ value = .array [] ∨ value = .object [] := by
  cases value with
  | number numeral => exact Or.inl (truthy_number counts)
  | array items =>
      cases items with
      | nil => exact Or.inr (Or.inl rfl)
      | cons item rest => exact Or.inl rfl
  | object members =>
      cases members with
      | nil => exact Or.inr (Or.inr rfl)
      | cons member rest => exact Or.inl rfl
  | constant name => exact Or.inl rfl
  | _ => exact Or.inl counts

/-- A target that Node takes Python takes too, or it cannot search in its URL. -/
theorem matchesTarget_of_node {runtimes : Runtimes} (prints : PrintsEmpty runtimes) {target : Json}
    (matched : Node.matchesTarget runtimes target = .ok true) :
    Python.matchesTarget target ≠ .ok false := by
  have nothing : Node.searchGeneric [] = false := by decide
  unfold Node.matchesTarget at matched
  split at matched
  · rename_i both
    rcases exists_members_of_isPage (Bool.and_eq_true_iff.mp both).2 with ⟨members, rfl, typed⟩
    have known : Node.property (.object members) "url" = field members "url" := rfl
    rw [known] at matched
    simp only [Python.matchesTarget, typed, if_true]
    unfold Node.matchesUrl at matched
    cases url : field members "url" with
    | none =>
        rw [url, nothing] at matched
        cases matched
    | some value =>
        simp only [url] at matched
        split at matched
        · rename_i counts
          rcases truthy_of_node counts with counts' | rfl | rfl
          · cases value with
            | string text =>
                simp only [Node.string, Except.ok.injEq] at matched
                simp only [searchGeneric_of_node matched]
                exact fun same => absurd (Except.ok.inj same) (by decide)
            | _ =>
                simp only [counts', if_true]
                exact fun same => by cases same
          · simp only [Node.string, prints.array, nothing] at matched
            cases matched
          · have other : Node.searchGeneric (codePoints "[object Object]") = false := by decide
            simp only [Node.string, prints.object, other] at matched
            cases matched
        · rw [nothing] at matched
          cases matched
  · cases matched

theorem anyTarget_of_node {runtimes : Runtimes} (prints : PrintsEmpty runtimes) {targets : List Json}
    (matched : Node.anyTarget runtimes targets = .ok true) :
    Python.anyTarget targets ≠ .ok false := by
  induction targets with
  | nil => cases matched
  | cons target rest ih =>
      unfold Node.anyTarget at matched
      unfold Python.anyTarget
      cases python : Python.matchesTarget target with
      | error raised => exact fun same => by cases same
      | ok found =>
          cases found with
          | true => exact fun same => absurd (Except.ok.inj same) (by decide)
          | false =>
              cases node : Node.matchesTarget runtimes target with
              | error raised =>
                  rw [node] at matched
                  cases matched
              | ok taken =>
                  cases taken with
                  | true => exact absurd python (matchesTarget_of_node prints node)
                  | false =>
                      rw [node] at matched
                      exact ih matched

/-! ## The two probes -/

/-- An answer on which the two do not differ: its status is 200 or no success, and
both read the body, or both find it malformed. -/
structure ReadsAlike (runtimes : Runtimes) (status : Nat) (body : List Char) : Prop where
  status : isSuccess status = true -> status = 200
  standard : forall value, Python.loads runtimes body = .ok value -> value.isStandard = true
  malformed : forall raised, Python.loads runtimes body = .error raised -> raised = .jsonDecodeError

/-- The URL of a page is a text without the dotted letters, or there is none. -/
def Searchable (target : Json) : Prop :=
  Node.isPage target = true -> forall url, Node.property target "url" = some url ->
    url = .null ∨ exists text, url = .string text ∧ Undotted text

/-- What a browser answers, or any server that has nothing to do with it. -/
structure Regular (runtimes : Runtimes) (answer : CdpPort) : Prop where
  version : ReadsAlike runtimes answer.versionStatus answer.versionBody
  list : ReadsAlike runtimes answer.listStatus answer.listBody
  counts : forall value, Python.loads runtimes answer.versionBody = .ok value ->
    value = .null ∨ Node.truthy value = true
  searchable : forall targets, Python.loads runtimes answer.listBody = .ok (.array targets) ->
    forall target, target ∈ targets -> Searchable target

section Agreement

variable {runtimes : Runtimes}

/-- A value for both, `null` for both, or nothing for both. -/
theorem httpGetJson_alike {status : Nat} {body : List Char}
    (alike : ReadsAlike runtimes status body) :
    (exists value, Python.loads runtimes body = .ok value ∧ value ≠ .null ∧
      Python.httpGetJson runtimes status body = .ok (some value) ∧
      Node.httpGetJson status body = some value) ∨
    (Python.httpGetJson runtimes status body = .ok none ∧
      (Node.httpGetJson status body = none ∨ Node.httpGetJson status body = some .null)) := by
  unfold Python.httpGetJson Node.httpGetJson
  by_cases success : status = 200
  · have taken : isSuccess status = true := by
      rw [success]
      rfl
    rw [if_pos taken, if_pos success]
    cases read : Python.loads runtimes body with
    | error raised =>
        have fault := alike.malformed raised read
        subst fault
        refine Or.inr ⟨rfl, Or.inl ?_⟩
        cases parsed : Node.jsonParse body with
        | none => rfl
        | some value =>
            rcases loads_of_jsonParse parsed with same | ⟨raised, failed, uncaught⟩
            · rw [read] at same
              cases same
            · rw [read] at failed
              cases failed
              exact absurd rfl uncaught
    | ok value =>
        have parsed := jsonParse_of_loads read (alike.standard value read)
        rw [parsed]
        cases value with
        | null => exact Or.inr ⟨rfl, Or.inr rfl⟩
        | _ => exact Or.inl ⟨_, rfl, Json.noConfusion, rfl, rfl⟩
  · have refused : isSuccess status = false :=
      Bool.eq_false_of_not_eq_true (fun taken => success (alike.status taken))
    rw [refused, if_neg success]
    exact Or.inr ⟨rfl, Or.inl rfl⟩

theorem matchesTarget_alike {target : Json} (searchable : Searchable target) :
    exists matched, Python.matchesTarget target = .ok matched ∧
      Node.matchesTarget runtimes target = .ok matched := by
  unfold Node.matchesTarget
  by_cases page : Node.isPage target = true
  · rcases exists_members_of_isPage page with ⟨members, rfl, typed⟩
    have known : Node.property (.object members) "url" = field members "url" := rfl
    have counts : Node.truthy (.object members) = true := rfl
    have own := searchable page
    rw [known] at own ⊢
    rw [page, counts]
    simp only [Python.matchesTarget, typed, if_true, Bool.and_self]
    unfold Node.matchesUrl
    cases url : field members "url" with
    | none => exact ⟨_, rfl, rfl⟩
    | some value =>
        rcases own value url with rfl | ⟨text, rfl, undotted⟩
        · exact ⟨_, rfl, rfl⟩
        · cases text with
          | nil => exact ⟨_, rfl, rfl⟩
          | cons c rest =>
              refine ⟨_, rfl, ?_⟩
              rw [searchGeneric_eq undotted]
              rfl
  · have none : Python.matchesTarget target = .ok false := by
      unfold Python.matchesTarget
      split
      · rename_i members
        split
        · rename_i kind typed
          by_cases same : kind = codePoints "page"
          · subst same
            simp [Node.isPage, Node.property, typed] at page
          · rw [if_neg same]
        · rfl
      · rfl
    refine ⟨false, none, ?_⟩
    rw [Bool.eq_false_of_not_eq_true page, Bool.and_false]
    rfl

theorem anyTarget_alike {targets : List Json}
    (searchable : forall target, target ∈ targets -> Searchable target) :
    exists matched, Python.anyTarget targets = .ok matched ∧
      Node.anyTarget runtimes targets = .ok matched := by
  induction targets with
  | nil => exact ⟨false, rfl, rfl⟩
  | cons target rest ih =>
      rcases @matchesTarget_alike runtimes target (searchable target List.mem_cons_self) with
        ⟨matched, python, node⟩
      unfold Python.anyTarget Node.anyTarget
      rw [python, node]
      cases matched with
      | true => exact ⟨true, rfl, rfl⟩
      | false => exact ih (fun other here => searchable other (List.mem_cons_of_mem target here))

/-- On a regular answer the two probes say the same. -/
theorem isTvEndpoint_alike {world : PortWorld} {port : Int}
    (regular : forall answer, reach world port = some answer -> Regular runtimes answer) :
    exists serves, Python.isTvEndpoint runtimes world port = .ok serves ∧
      Node.isTvEndpoint runtimes world port = .ok serves := by
  unfold Python.isTvEndpoint Node.isTvEndpoint
  cases reached : reach world port with
  | none => exact ⟨false, rfl, rfl⟩
  | some answer =>
      have own := regular answer reached
      rcases httpGetJson_alike own.version with ⟨version, read, some, python, node⟩ |
        ⟨python, node | node⟩
      · have counts : Node.truthy version = true := (own.counts version read).resolve_left some
        simp only [python, node, counts, if_true]
        rcases httpGetJson_alike own.list with ⟨listed, read', -, python', node'⟩ |
          ⟨python', node' | node'⟩
        · simp only [python', node']
          cases listed with
          | array targets => exact anyTarget_alike (own.searchable targets read')
          | _ => exact ⟨false, rfl, rfl⟩
        · simp only [python', node']
          exact ⟨false, rfl, rfl⟩
        · simp only [python', node']
          exact ⟨false, rfl, rfl⟩
      · simp only [python, node]
        exact ⟨false, rfl, rfl⟩
      · simp only [python, node]
        exact ⟨false, rfl, rfl⟩

/-- Where Node finds TradingView, Python finds it or fails loudly. -/
theorem isTvEndpoint_of_node (prints : PrintsEmpty runtimes) {world : PortWorld} {port : Int}
    (found : Node.isTvEndpoint runtimes world port = .ok true) :
    Python.isTvEndpoint runtimes world port ≠ .ok false := by
  unfold Node.isTvEndpoint at found
  unfold Python.isTvEndpoint
  cases reached : reach world port with
  | none =>
      rw [reached] at found
      cases found
  | some answer =>
      simp only [reached] at found
      split at found
      · cases found
      · rename_i version gotVersion
        split at found
        · rename_i counts
          split at found
          · rename_i targets gotList
            rcases httpGetJson_of_node runtimes gotVersion counts with python | ⟨raised, python⟩
            · simp only [python]
              rcases httpGetJson_of_node runtimes gotList rfl with python' | ⟨raised, python'⟩
              · simp only [python']
                exact anyTarget_of_node prints found
              · simp only [python']
                exact fun same => by cases same
            · simp only [python]
              exact fun same => by cases same
          · cases found
        · cases found

end Agreement

/-- Runtimes that print nothing but what is empty. -/
def emptyPrinting : Runtimes :=
  ⟨fun _ _ => true, fun _ _ => true, fun _ => [],
    fun value =>
      match value with
      | .array [] => some []
      | .object [] => some (codePoints "[object Object]")
      | _ => none,
    1000⟩

/-- The list of a browser with a chart. -/
def chartTargets : JsValue :=
  .array [.object [(.ofText "type", .string (.ofText "page")),
    (.ofText "url", .string (.ofText "https://www.TradingView.com/chart/"))]]

def chartAnswer : CdpPort :=
  ⟨200, (stringify 0 (.object [])).getD [], 200, (stringify 0 chartTargets).getD []⟩

theorem readBack_chartTargets :
    chartTargets.readBack = some (.array [.object [(codePoints "type", .string (codePoints "page")),
      (codePoints "url", .string (codePoints "https://www.TradingView.com/chart/"))]]) := by
  have names : (JsString.ofText "type").codePoints = codePoints "type" ∧
      (JsString.ofText "page").codePoints = codePoints "page" ∧
      (JsString.ofText "url").codePoints = codePoints "url" ∧
      (JsString.ofText "https://www.TradingView.com/chart/").codePoints =
        codePoints "https://www.TradingView.com/chart/" := by
    decide
  rcases names with ⟨first, second, third, fourth⟩
  simp only [chartTargets, JsValue.readBack, readBackItems, readBackMembers, first, second, third,
    fourth, Option.getD_some]

theorem loads_stringify (value : JsValue) (shallow : value.height ≤ 1000) {known : Json}
    (back : value.readBack = some known) :
    Python.loads emptyPrinting ((stringify 0 value).getD []) = .ok known := by
  have holds : (⟨true, some maxIntDigits, some emptyPrinting.pyMaxDepth⟩ : Dialect).Holds
      value.height := by
    refine ⟨?_, ?_⟩
    · intro limit limited
      cases limited
      decide
    · intro limit limited
      cases limited
      exact shallow
  rw [Python.loads, parse_getD_stringify holds back]

theorem regular_chartAnswer : Regular emptyPrinting chartAnswer := by
  have version : Python.loads emptyPrinting chartAnswer.versionBody = .ok (.object []) :=
    loads_stringify (.object []) (by simp [JsValue.height, heightMembers]) (by
      simp [JsValue.readBack, readBackMembers])
  have height : chartTargets.height ≤ 1000 := by
    simp [chartTargets, JsValue.height, heightItems, heightMembers]
  have list := loads_stringify chartTargets height readBack_chartTargets
  have undotted : Undotted (codePoints "https://www.TradingView.com/chart/") := by
    unfold Undotted
    decide
  refine ⟨⟨fun _ => rfl, ?_, ?_⟩, ⟨fun _ => rfl, ?_, ?_⟩, ?_, ?_⟩
  · intro value read
    rw [version] at read
    cases read
    rfl
  · intro raised failed
    rw [version] at failed
    cases failed
  · intro value read
    cases list.symm.trans read
    rfl
  · intro raised failed
    cases list.symm.trans failed
  · intro value read
    rw [version] at read
    cases read
    exact Or.inr rfl
  · intro targets read target here page url known
    cases list.symm.trans read
    cases List.mem_singleton.mp here
    cases known
    exact Or.inr ⟨_, rfl, undotted⟩

/-- A chart at the port 9222. -/
def chartAt9222 : PortWorld := fun port => if port = 9222 then some chartAnswer else none

end Discovery
end HybridDataSvc
