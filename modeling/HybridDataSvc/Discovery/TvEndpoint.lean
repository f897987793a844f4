import HybridDataSvc.Discovery.CdpDiscover

namespace HybridDataSvc
namespace Discovery

open JsonText NumberText

/-!
# A probe of one port

`_is_tv_endpoint` of `cdp_discover.py` over what a port answers.  It asks for
`/json/version` and `/json/list` and looks for a page whose URL mentions
TradingView.
-/

/-- The answers of a port to `/json/version` and `/json/list`. -/
structure CdpPort where
  versionStatus : Nat
  versionBody : List Char
  listStatus : Nat
  listBody : List Char
  deriving DecidableEq, Repr

/-- What listens on the ports of the host. -/
abbrev PortWorld := Int -> Option CdpPort

/-- A client reaches the ports 1 to 65535. -/
def reach (world : PortWorld) (port : Int) : Option CdpPort :=
  if 1 ≤ port ∧ port ≤ 65535 then world port else none

def isSuccess (status : Nat) : Bool := decide (200 ≤ status) && decide (status < 300)

/-- The text contains the pattern. -/
def occursIn {α : Type} [BEq α] (pattern : List α) : List α -> Bool
  | [] => pattern.isEmpty
  | c :: rest => pattern.isPrefixOf (c :: rest) || occursIn pattern rest

namespace Python

/-- A code point under `re.IGNORECASE`.  Of the letters of the pattern only
`i` has forms above ASCII. -/
def foldCase (c : Nat) : Nat :=
  if 'A'.toNat ≤ c ∧ c ≤ 'Z'.toNat then c + 32
  else if c = 0x130 ∨ c = 0x131 then 'i'.toNat
  else c

/-- `_TV_GENERIC_PATTERN.search(url)`. -/
def searchGeneric (url : CodePoints) : Bool :=
  occursIn (codePoints "tradingview") (url.map foldCase)

/-- The truth of a value. -/
def truthy : Json -> Bool
  | .null => false
  | .bool value => value
  | .number numeral =>
    if numeral.isWhole then decide (numeral.mantissa ≠ 0)
    else decide (ofNumeral numeral ≠ .finite 0)
  | .constant _ => true
  | .string text => !text.isEmpty
  | .array items => !items.isEmpty
  | .object members => !members.isEmpty

/-- `_http_get_json`; nothing for `None`, which is also what `null` is read as. -/
def httpGetJson (runtimes : Runtimes) (status : Nat) (body : List Char) :
    Except Raised (Option Json) :=
  if isSuccess status then
    match loads runtimes body with
    | .ok .null => .ok none
    | .ok value => .ok (some value)
    | .error .jsonDecodeError => .ok none
    | .error raised => .error raised
  else .ok none

/-- One round of the loop over the targets.  Searching in a URL that is not a
string raises a `TypeError`, unless the URL counts as false. -/
def matchesTarget : Json -> Except Raised Bool
  | .object members =>
    match field members "type" with
    | some (.string kind) =>
      if kind = codePoints "page" then
        match field members "url" with
        | none => .ok (searchGeneric [])
        | some (.string url) => .ok (searchGeneric url)
        | some value => if truthy value then .error .typeError else .ok (searchGeneric [])
      else .ok false
    | _ => .ok false
  | _ => .ok false

/-- The loop over the targets. -/
def anyTarget : List Json -> Except Raised Bool
  | [] => .ok false
  | target :: rest =>
    match matchesTarget target with
    | .error raised => .error raised
    | .ok true => .ok true
    | .ok false => anyTarget rest

/-- `_is_tv_endpoint`. -/
def isTvEndpoint (runtimes : Runtimes) (world : PortWorld) (port : Int) : Except Raised Bool :=
  match reach world port with
  | none => .ok false
  | some answer =>
    match httpGetJson runtimes answer.versionStatus answer.versionBody with
    | .error raised => .error raised
    | .ok none => .ok false
    | .ok (some _) =>
      match httpGetJson runtimes answer.listStatus answer.listBody with
      | .error raised => .error raised
      | .ok (some (.array targets)) => anyTarget targets
      | .ok _ => .ok false

/-- `discover_cdp(force=True)` without `CDP_PORT`. -/
def forcedScan (runtimes : Runtimes) (host : Option CodePoints) (portRange : Option CodePoints)
    (file : CacheFile) (world : PortWorld) : Except Raised (Resolved Int) :=
  discoverWith (fun _ port => isTvEndpoint runtimes world port) runtimes ⟨none, host, portRange⟩
    file true

/-! ## What a probe finds -/

/-- A page whose URL mentions TradingView. -/
def IsTvPage (target : Json) : Prop :=
  exists members url, target = .object members ∧
    field members "type" = some (.string (codePoints "page")) ∧
    field members "url" = some (.string url) ∧ searchGeneric url = true

/-- A page whose URL is no text and counts as true. -/
def IsUnsearchable (target : Json) : Prop :=
  exists members url, target = .object members ∧
    field members "type" = some (.string (codePoints "page")) ∧
    field members "url" = some url ∧ (forall text, url ≠ .string text) ∧ truthy url = true

theorem matchesTarget_eq_ok_true_iff (target : Json) :
    matchesTarget target = .ok true ↔ IsTvPage target := by
  constructor
  · intro matched
    have empty : searchGeneric [] = false := by decide
    unfold matchesTarget at matched
    split at matched
    · rename_i members
      split at matched
      · rename_i kind typed
        split at matched
        · rename_i page
          subst page
          split at matched
          · rw [empty] at matched
            cases matched
          · rename_i url known
            rw [Except.ok.injEq] at matched
            exact ⟨members, url, rfl, typed, known, matched⟩
          · split at matched
            · cases matched
            · rw [empty] at matched
              cases matched
        · cases matched
      · cases matched
    · cases matched
  · rintro ⟨members, url, rfl, typed, known, found⟩
    simp [matchesTarget, typed, known, found]

theorem matchesTarget_eq_error_iff (target : Json) :
    (exists raised, matchesTarget target = .error raised) ↔ IsUnsearchable target := by
  constructor
  · rintro ⟨raised, matched⟩
    unfold matchesTarget at matched
    split at matched
    · rename_i members
      split at matched
      · rename_i kind typed
        split at matched
        · rename_i page
          subst page
          split at matched
          · cases matched
          · cases matched
          · rename_i url other known
            split at matched
            · rename_i counts
              exact ⟨members, url, rfl, typed, known, other, counts⟩
            · cases matched
        · cases matched
      · cases matched
    · cases matched
  · rintro ⟨members, url, rfl, typed, known, other, counts⟩
    refine ⟨.typeError, ?_⟩
    cases url with
    | string text => exact absurd rfl (other text)
    | _ => simp [matchesTarget, typed, known, counts]

/-- The target at which the loop over the targets ends. -/
inductive EndsAt : List Json -> Json -> Prop
  | here {target : Json} {rest : List Json} (ends : IsTvPage target ∨ IsUnsearchable target) :
      EndsAt (target :: rest) target
  | later {target last : Json} {rest : List Json}
      (goesOn : ¬ IsTvPage target ∧ ¬ IsUnsearchable target) (ends : EndsAt rest last) :
      EndsAt (target :: rest) last

theorem endsAt_cons_iff {target last : Json} {rest : List Json} :
    EndsAt (target :: rest) last ↔
      ((IsTvPage target ∨ IsUnsearchable target) ∧ last = target) ∨
        (¬ IsTvPage target ∧ ¬ IsUnsearchable target ∧ EndsAt rest last) := by
  constructor
  · intro ends
    cases ends with
    | here ends => exact Or.inl ⟨ends, rfl⟩
    | later goesOn ends => exact Or.inr ⟨goesOn.1, goesOn.2, ends⟩
  · rintro (⟨ends, rfl⟩ | ⟨noPage, searchable, ends⟩)
    · exact .here ends
    · exact .later ⟨noPage, searchable⟩ ends

/-- A round raises, ends the loop or goes on. -/
theorem matchesTarget_cases (target : Json) :
    (exists raised, matchesTarget target = .error raised ∧ ¬ IsTvPage target ∧
        IsUnsearchable target) ∨
      (matchesTarget target = .ok true ∧ IsTvPage target ∧ ¬ IsUnsearchable target) ∨
      (matchesTarget target = .ok false ∧ ¬ IsTvPage target ∧ ¬ IsUnsearchable target) := by
  have page := matchesTarget_eq_ok_true_iff target
  have unsearchable := matchesTarget_eq_error_iff target
  cases matched : matchesTarget target with
  | error raised =>
      rw [matched] at page
      have noPage : ¬ IsTvPage target := fun isPage => by cases page.mpr isPage
      exact Or.inl ⟨raised, rfl, noPage, unsearchable.mp ⟨raised, matched⟩⟩
  | ok found =>
      have searchable : ¬ IsUnsearchable target := by
        intro broken
        rcases unsearchable.mpr broken with ⟨raised, failed⟩
        rw [failed] at matched
        cases matched
      rw [matched] at page
      cases found with
      | true => exact Or.inr (Or.inl ⟨rfl, page.mp rfl, searchable⟩)
      | false =>
          have noPage : ¬ IsTvPage target := fun isPage => by cases page.mpr isPage
          exact Or.inr (Or.inr ⟨rfl, noPage, searchable⟩)

theorem not_endsAt_nil (last : Json) : ¬ EndsAt [] last := by
  intro ends
  cases ends

theorem anyTarget_eq_ok_true_iff (targets : List Json) :
    anyTarget targets = .ok true ↔ exists page, EndsAt targets page ∧ IsTvPage page := by
  induction targets with
  | nil => simp [anyTarget, not_endsAt_nil]
  | cons target rest ih =>
      rcases matchesTarget_cases target with
        ⟨raised, matched, noPage, broken⟩ | ⟨matched, isPage, -⟩ | ⟨matched, noPage, searchable⟩
      · simp [anyTarget, endsAt_cons_iff, matched, noPage, broken]
      · simp [anyTarget, endsAt_cons_iff, matched, isPage]
      · simp [anyTarget, endsAt_cons_iff, matched, noPage, searchable, ih]

theorem anyTarget_eq_error_iff (targets : List Json) :
    (exists raised, anyTarget targets = .error raised) ↔
      exists page, EndsAt targets page ∧ IsUnsearchable page := by
  induction targets with
  | nil => simp [anyTarget, not_endsAt_nil]
  | cons target rest ih =>
      rcases matchesTarget_cases target with
        ⟨raised, matched, -, broken⟩ | ⟨matched, isPage, searchable⟩ | ⟨matched, noPage, searchable⟩
      · simp [anyTarget, endsAt_cons_iff, matched, broken]
      · simp [anyTarget, endsAt_cons_iff, matched, isPage, searchable]
      · simp [anyTarget, endsAt_cons_iff, matched, noPage, searchable, ih]

/-- A successful answer with a body that is read as the value. -/
def Answers (runtimes : Runtimes) (status : Nat) (body : List Char) (value : Json) : Prop :=
  isSuccess status = true ∧ loads runtimes body = .ok value ∧ value ≠ .null

/-- A successful answer with a body on which `json.loads` raises what is not
caught. -/
def Overwhelms (runtimes : Runtimes) (status : Nat) (body : List Char) : Prop :=
  isSuccess status = true ∧
    exists raised, loads runtimes body = .error raised ∧ raised ≠ .jsonDecodeError

theorem httpGetJson_eq_some_iff {runtimes : Runtimes} {status : Nat} {body : List Char}
    {value : Json} :
    httpGetJson runtimes status body = .ok (some value) ↔ Answers runtimes status body value := by
  unfold httpGetJson Answers
  cases isSuccess status with
  | false => simp
  | true =>
      cases loads runtimes body with
      | ok read => cases read <;> simp <;> rintro rfl <;> simp
      | error raised => cases raised <;> simp

theorem httpGetJson_eq_error_iff {runtimes : Runtimes} {status : Nat} {body : List Char} :
    (exists raised, httpGetJson runtimes status body = .error raised) ↔
      Overwhelms runtimes status body := by
  unfold httpGetJson Overwhelms
  cases isSuccess status with
  | false => simp
  | true =>
      cases loads runtimes body with
      | ok read => cases read <;> simp
      | error raised => cases raised <;> simp

/-- The port answers both requests, and the list ends with a page that
mentions TradingView. -/
def ShowsTvPage (runtimes : Runtimes) (answer : CdpPort) : Prop :=
  (exists version, Answers runtimes answer.versionStatus answer.versionBody version) ∧
    exists targets, Answers runtimes answer.listStatus answer.listBody (.array targets) ∧
      exists page, EndsAt targets page ∧ IsTvPage page

/-- One of the answers cannot be taken in, or the list ends with a page whose
URL cannot be searched. -/
def BreaksProbe (runtimes : Runtimes) (answer : CdpPort) : Prop :=
  Overwhelms runtimes answer.versionStatus answer.versionBody ∨
    ((exists version, Answers runtimes answer.versionStatus answer.versionBody version) ∧
      (Overwhelms runtimes answer.listStatus answer.listBody ∨
        exists targets, Answers runtimes answer.listStatus answer.listBody (.array targets) ∧
          exists page, EndsAt targets page ∧ IsUnsearchable page))

theorem isTvEndpoint_eq_ok_true_iff {runtimes : Runtimes} {world : PortWorld} {port : Int} :
    isTvEndpoint runtimes world port = .ok true ↔
      exists answer, reach world port = some answer ∧ ShowsTvPage runtimes answer := by
  unfold isTvEndpoint ShowsTvPage
  simp only [← httpGetJson_eq_some_iff, ← anyTarget_eq_ok_true_iff]
  cases reach world port with
  | none => simp
  | some answer =>
      simp only [Option.some.injEq, exists_eq_left']
      cases httpGetJson runtimes answer.versionStatus answer.versionBody with
      | error raised => simp
      | ok version =>
          cases httpGetJson runtimes answer.listStatus answer.listBody with
          | error raised => cases version <;> simp
          | ok listed =>
              cases version with
              | none => simp
              | some version =>
                  cases listed with
                  | none => simp
                  | some value => cases value <;> simp

theorem isTvEndpoint_eq_error_iff {runtimes : Runtimes} {world : PortWorld} {port : Int} :
    (exists raised, isTvEndpoint runtimes world port = .error raised) ↔
      exists answer, reach world port = some answer ∧ BreaksProbe runtimes answer := by
  unfold isTvEndpoint BreaksProbe
  simp only [← httpGetJson_eq_some_iff, ← httpGetJson_eq_error_iff, ← anyTarget_eq_error_iff]
  cases reach world port with
  | none => simp
  | some answer =>
      simp only [Option.some.injEq, exists_eq_left']
      cases httpGetJson runtimes answer.versionStatus answer.versionBody with
      | error raised => simp
      | ok version =>
          cases httpGetJson runtimes answer.listStatus answer.listBody with
          | error raised => cases version <;> simp
          | ok listed =>
              cases version with
              | none => simp
              | some version =>
                  cases listed with
                  | none => simp
                  | some value => cases value <;> simp

end Python

end Discovery
end HybridDataSvc
