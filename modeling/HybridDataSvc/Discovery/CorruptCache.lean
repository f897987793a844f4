import HybridDataSvc.Discovery.Convergence
import HybridDataSvc.Discovery.Sticky

namespace HybridDataSvc
namespace Discovery

open JsonText NumberText

/-!
# Corrupt cache files

`_read_cache` of `cdp_discover.py` catches the faults of a text that is no JSON,
a missing member and a `ValueError`.  What `json.loads` and `int` raise besides
ends the discovery.
-/

namespace Python

/-- `int` takes the value, or raises the `ValueError` that is caught. -/
def HarmlessPort : Json -> Prop
  | .string _ => True
  | .bool _ => True
  | .number numeral => numeral.isWhole = true ∨ forall negative, ofNumeral numeral ≠ .infinite negative
  | .constant name => name = .nan
  | _ => False

/-- The file can be missing or no JSON; a JSON value must not nest too deep, must be an
object and, where that has both members, must have a harmless port. -/
def Harmless (runtimes : Runtimes) : CacheFile -> Prop
  | .missing => True
  | .notUtf8 _ => True
  | .utf8 text =>
    match parse ⟨true, some maxIntDigits, some runtimes.pyMaxDepth⟩ text with
    | .error fault => fault ≠ .tooDeep
    | .ok (.object members) => forall hostValue portValue,
        field members "host" = some hostValue -> field members "port" = some portValue ->
          HarmlessPort portValue
    | .ok _ => False

/-- The host and the port in the file, as Python converts them. -/
def Names (runtimes : Runtimes) (file : CacheFile) (a : CodePoints × Int) : Prop :=
  exists text members hostValue portValue, file = .utf8 text ∧
    parse ⟨true, some maxIntDigits, some runtimes.pyMaxDepth⟩ text = .ok (.object members) ∧
    field members "host" = some hostValue ∧ field members "port" = some portValue ∧
    str runtimes hostValue = a.1 ∧ int portValue = .ok a.2

theorem int_of_harmless {value : Json} (harmless : HarmlessPort value) :
    (exists n, int value = .ok n) ∨ int value = .error .valueError := by
  cases value with
  | null => exact False.elim harmless
  | bool value => exact Or.inl ⟨_, rfl⟩
  | number numeral =>
      unfold int
      by_cases whole : numeral.isWhole = true
      · exact Or.inl ⟨numeral.mantissa, by simp only [if_pos whole]⟩
      · simp only [if_neg whole]
        cases double : ofNumeral numeral with
        | nan => exact Or.inr rfl
        | infinite negative => exact absurd double (harmless.resolve_left whole negative)
        | finite value => exact Or.inl ⟨_, rfl⟩
  | constant name =>
      cases harmless
      exact Or.inr rfl
  | string text =>
      cases known : pyInt text with
      | none => exact Or.inr (by simp only [int, known])
      | some n => exact Or.inl ⟨n, by simp only [int, known]⟩
  | array items => exact False.elim harmless
  | object members => exact False.elim harmless

theorem int_of_not_harmless {value : Json} (harmful : ¬ HarmlessPort value) :
    int value = .error .typeError ∨ int value = .error .overflowError := by
  cases value with
  | null => exact Or.inl rfl
  | bool value => exact absurd trivial harmful
  | number numeral =>
      have fraction : ¬ numeral.isWhole = true := fun whole => harmful (Or.inl whole)
      cases double : ofNumeral numeral with
      | nan => exact absurd (Or.inr (by simp [double])) harmful
      | infinite negative =>
          refine Or.inr ?_
          simp only [int, if_neg fraction, double]
      | finite value => exact absurd (Or.inr (by simp [double])) harmful
  | constant name =>
      cases name with
      | nan => exact absurd rfl harmful
      | infinity => exact Or.inr rfl
      | negativeInfinity => exact Or.inr rfl
  | string text => exact absurd trivial harmful
  | array items => exact Or.inl rfl
  | object members => exact Or.inl rfl

theorem readEntry_of_parse {runtimes : Runtimes} {text : List Char} {value : Json}
    (parsed : parse ⟨true, some maxIntDigits, some runtimes.pyMaxDepth⟩ text = .ok value) :
    readEntry runtimes (.utf8 text) = (entryOf runtimes value).map some := by
  simp only [readEntry, loads, parsed]

/-- An object with a harmless port is read as its address, and as none where a member is
missing or the port is no number. -/
theorem readCache_of_members {runtimes : Runtimes} {file : CacheFile}
    {members : List (CodePoints × Json)}
    (entry : readEntry runtimes file = (entryOf runtimes (.object members)).map some)
    (harmless : forall hostValue portValue, field members "host" = some hostValue ->
      field members "port" = some portValue -> HarmlessPort portValue) :
    exists cached, readCache runtimes file = .ok cached ∧
      forall a, cached = some a ↔
        exists hostValue portValue, field members "host" = some hostValue ∧
          field members "port" = some portValue ∧
          str runtimes hostValue = a.1 ∧ int portValue = .ok a.2 := by
  cases hostKnown : field members "host" with
  | none =>
      refine ⟨none, by simp only [readCache, entry, entryOf, hostKnown]; rfl, fun a => ?_⟩
      exact ⟨fun known => (by cases known), fun stands => by simp at stands⟩
  | some hostValue =>
      cases portKnown : field members "port" with
      | none =>
          refine ⟨none, by simp only [readCache, entry, entryOf, hostKnown, portKnown]; rfl,
            fun a => ?_⟩
          exact ⟨fun known => (by cases known), fun stands => by simp at stands⟩
      | some portValue =>
          rcases int_of_harmless (harmless hostValue portValue hostKnown portKnown) with
            ⟨n, converted⟩ | failed
          · refine ⟨some (str runtimes hostValue, n),
              by simp only [readCache, entry, entryOf, hostKnown, portKnown, converted]; rfl, ?_⟩
            rintro ⟨host, port⟩
            constructor
            · rintro ⟨⟩
              exact ⟨hostValue, portValue, rfl, rfl, rfl, converted⟩
            · rintro ⟨_, _, ⟨⟩, ⟨⟩, rfl, converted'⟩
              cases converted.symm.trans converted'
              rfl
          · refine ⟨none,
              by simp only [readCache, entry, entryOf, hostKnown, portKnown, failed]; rfl,
              fun a => ⟨fun known => (by cases known), ?_⟩⟩
            rintro ⟨_, _, ⟨⟩, ⟨⟩, -, converted⟩
            cases failed.symm.trans converted

theorem names_of_parse_iff {runtimes : Runtimes} {text : List Char}
    {members : List (CodePoints × Json)}
    (parsed : parse ⟨true, some maxIntDigits, some runtimes.pyMaxDepth⟩ text =
      .ok (.object members)) (a : CodePoints × Int) :
    Names runtimes (.utf8 text) a ↔
      exists hostValue portValue, field members "host" = some hostValue ∧
        field members "port" = some portValue ∧
        str runtimes hostValue = a.1 ∧ int portValue = .ok a.2 := by
  constructor
  · rintro ⟨other, others, hostValue, portValue, same, known, stands⟩
    cases same
    cases parsed.symm.trans known
    exact ⟨hostValue, portValue, stands⟩
  · rintro ⟨hostValue, portValue, stands⟩
    exact ⟨text, members, hostValue, portValue, rfl, parsed, stands⟩

/-- A harmless file is read as the address that it names, or as none. -/
theorem readCache_of_harmless {runtimes : Runtimes} {file : CacheFile}
    (harmless : Harmless runtimes file) :
    exists cached, readCache runtimes file = .ok cached ∧
      forall a, cached = some a ↔ Names runtimes file a := by
  cases file with
  | missing =>
      refine ⟨none, rfl, fun a => ⟨nofun, ?_⟩⟩
      rintro ⟨text, members, hostValue, portValue, other, -⟩
      cases other
  | notUtf8 replaced =>
      refine ⟨none, rfl, fun a => ⟨nofun, ?_⟩⟩
      rintro ⟨text, members, hostValue, portValue, other, -⟩
      cases other
  | utf8 text =>
      cases parsed : parse ⟨true, some maxIntDigits, some runtimes.pyMaxDepth⟩ text with
      | error fault =>
          refine ⟨none, ?_, fun a => ⟨nofun, ?_⟩⟩
          · cases fault with
            | malformed => simp only [readCache, readEntry, loads, parsed]
            | tooManyDigits => simp only [readCache, readEntry, loads, parsed]
            | tooDeep =>
                simp only [Harmless, parsed] at harmless
                exact absurd rfl harmless
            | fuel => simp only [readCache, readEntry, loads, parsed]
          · rintro ⟨other, members, hostValue, portValue, same, known, -⟩
            cases same
            cases parsed.symm.trans known
      | ok value =>
          simp only [Harmless, parsed] at harmless
          have entry := readEntry_of_parse parsed
          cases value with
          | object members =>
              simp only [names_of_parse_iff parsed]
              exact readCache_of_members entry harmless
          | null => exact False.elim harmless
          | bool value => exact False.elim harmless
          | number numeral => exact False.elim harmless
          | constant name => exact False.elim harmless
          | string text => exact False.elim harmless
          | array items => exact False.elim harmless

theorem readCache_of_not_harmless {runtimes : Runtimes} {file : CacheFile}
    (harmful : ¬ Harmless runtimes file) : exists raised, readCache runtimes file = .error raised := by
  cases file with
  | missing => exact absurd trivial harmful
  | notUtf8 replaced => exact absurd trivial harmful
  | utf8 text =>
      cases parsed : parse ⟨true, some maxIntDigits, some runtimes.pyMaxDepth⟩ text with
      | error fault =>
          simp only [Harmless, parsed, not_not] at harmful
          subst harmful
          exact ⟨.recursionError, by simp only [readCache, readEntry, loads, parsed]⟩
      | ok value =>
          have entry := readEntry_of_parse parsed
          cases value with
          | object members =>
              simp only [Harmless, parsed] at harmful
              push Not at harmful
              rcases harmful with ⟨hostValue, portValue, known, known', port⟩
              rcases int_of_not_harmless port with failed | failed
              · exact ⟨.typeError, by simp only [readCache, entry, entryOf, known, known', failed]; rfl⟩
              · exact ⟨.overflowError,
                  by simp only [readCache, entry, entryOf, known, known', failed]; rfl⟩
          | null => exact ⟨.typeError, by simp only [readCache, entry, entryOf]; rfl⟩
          | bool value => exact ⟨.typeError, by simp only [readCache, entry, entryOf]; rfl⟩
          | number numeral => exact ⟨.typeError, by simp only [readCache, entry, entryOf]; rfl⟩
          | constant name => exact ⟨.typeError, by simp only [readCache, entry, entryOf]; rfl⟩
          | string text => exact ⟨.typeError, by simp only [readCache, entry, entryOf]; rfl⟩
          | array items => exact ⟨.typeError, by simp only [readCache, entry, entryOf]; rfl⟩

end Python

/-! ## Whether a file breaks discovery -/

/-- A call without `force` raises nothing but a `DiscoveryError`, and returns wherever a
forced one does. -/
def Withstands (runtimes : Runtimes) (world : CodePoints -> Int -> Bool) (env : Env)
    (file : CacheFile) : Prop :=
  (forall raised, Python.discoverIn runtimes world env file false = .error raised ->
    raised = .discoveryError) ∧
    ((exists resolved, Python.discoverIn runtimes world env file true = .ok resolved) ->
      exists resolved, Python.discoverIn runtimes world env file false = .ok resolved)

/-- The HTTP client takes the address that the file names and, unless that is an endpoint,
the addresses of the scan. -/
def Asks (runtimes : Runtimes) (world : CodePoints -> Int -> Bool) (env : Env)
    (file : CacheFile) : Prop :=
  (forall a, Python.Names runtimes file a ->
    runtimes.pyAccepts (probedAddress (Python.host env) a).1 a.2 = true) ∧
    ((exists a, Python.Names runtimes file a ∧
        world (probedAddress (Python.host env) a).1 a.2 = true) ∨
      forall p, p ∈ Python.ports env -> runtimes.pyAccepts (Python.host env) p = true)

section Files

variable {runtimes : Runtimes} {world : CodePoints -> Int -> Bool} {env : Env} {file : CacheFile}

theorem discoverIn_of_explicit {port : Int} (explicit : Python.explicitPort env = some port)
    (force : Bool) :
    Python.discoverIn runtimes world env file force = .ok ⟨Python.host env, port, none⟩ := by
  unfold Python.discoverIn Python.discoverWith
  rw [explicit]

/-- An address that is asked and raises nothing is taken by the client. -/
theorem accepts_of_withstands {cached : Option (CodePoints × Int)}
    (unset : Python.explicitPort env = none)
    (read : Python.readCache runtimes file = .ok cached)
    (withstands : Withstands runtimes world env file) :
    (forall a, cached = some a ->
      runtimes.pyAccepts (probedAddress (Python.host env) a).1 a.2 = true) ∧
      ((exists a, cached = some a ∧
          world (probedAddress (Python.host env) a).1 a.2 = true) ∨
        forall p, p ∈ Python.ports env -> runtimes.pyAccepts (Python.host env) p = true) := by
  have raises := withstands.1
  rw [discoverIn_unforced unset read] at raises
  rcases discover_cases (guarded runtimes.pyAccepts world) (Python.host env) cached with
    ⟨a, known, serves⟩ | idle | ⟨a, raised, known, failed⟩
  · rcases (guarded_eq_ok_iff true).mp serves with ⟨taken, endpoint⟩
    refine ⟨?_, Or.inl ⟨a, known, endpoint⟩⟩
    intro b other
    cases known.symm.trans other
    exact taken
  · refine ⟨fun a known => ((guarded_eq_ok_iff false).mp (idle a known)).1, Or.inr ?_⟩
    rw [discover_of_idle idle] at raises
    intro p listed
    cases scanned : discoverByScan (guarded runtimes.pyAccepts world) (Python.host env) cached
      (Python.ports env) with
    | ok resolved => exact accepts_of_scan scanned listed
    | error raised =>
        cases raises raised scanned
        have silent := (discoverByScan_eq_discoveryError_iff
          (guarded_ne_discoveryError runtimes.pyAccepts world)).mp scanned
        exact ((guarded_eq_ok_iff false).mp (silent p listed)).1
  · rw [discover_of_raised known failed] at raises
    have client := ((guarded_eq_error_iff raised).mp failed).2
    cases client.symm.trans (raises raised rfl)

/-- Where all that is asked is taken, a call raises nothing but a `DiscoveryError`. -/
theorem withstands_of_accepts {cached : Option (CodePoints × Int)}
    (unset : Python.explicitPort env = none)
    (read : Python.readCache runtimes file = .ok cached)
    (taken : forall a, cached = some a ->
      runtimes.pyAccepts (probedAddress (Python.host env) a).1 a.2 = true)
    (scans : (exists a, cached = some a ∧
        world (probedAddress (Python.host env) a).1 a.2 = true) ∨
      forall p, p ∈ Python.ports env -> runtimes.pyAccepts (Python.host env) p = true) :
    Withstands runtimes world env file := by
  unfold Withstands
  rw [discoverIn_unforced unset read, discoverIn_forced unset]
  have raises : forall raised, discover (guarded runtimes.pyAccepts world) (Python.host env) cached
      (Python.ports env) = .error raised -> raised = .discoveryError := by
    intro raised failed
    rcases scans with ⟨a, known, endpoint⟩ | all
    · have serves := (guarded_eq_ok_iff true).mpr ⟨taken a known, endpoint⟩
      rw [discover_of_serves known serves] at failed
      cases failed
    · rcases exists_raised_of_discover failed with same | ⟨p, listed, probe⟩ | ⟨a, known, probe⟩
      · exact same
      · cases (all p listed).symm.trans ((guarded_eq_error_iff raised).mp probe).1
      · cases (taken a known).symm.trans ((guarded_eq_error_iff raised).mp probe).1
  refine ⟨raises, ?_⟩
  rintro ⟨resolved, scanned⟩
  rcases discoverByScan_eq_ok scanned with ⟨-, serves, listed, -⟩
  cases found : discover (guarded runtimes.pyAccepts world) (Python.host env) cached
    (Python.ports env) with
  | ok resolved => exact ⟨resolved, rfl⟩
  | error raised =>
      cases raises raised found
      have silent := ((discover_eq_discoveryError_iff
        (guarded_ne_discoveryError runtimes.pyAccepts world)).mp found).1
      cases serves.symm.trans (silent resolved.port listed)

end Files

/-- A call withstands a cache file exactly if it takes `CDP_PORT`, or the file is harmless
and what is asked is taken by the HTTP client. -/
theorem withstands_iff (runtimes : Runtimes) (world : CodePoints -> Int -> Bool) (env : Env)
    (file : CacheFile) :
    Withstands runtimes world env file ↔
      Python.explicitPort env ≠ none ∨
        (Python.Harmless runtimes file ∧ Asks runtimes world env file) := by
  cases explicit : Python.explicitPort env with
  | some port =>
      refine ⟨fun _ => Or.inl nofun, fun _ => ⟨?_, fun _ => ?_⟩⟩
      · intro raised failed
        rw [discoverIn_of_explicit explicit] at failed
        cases failed
      · exact ⟨_, discoverIn_of_explicit explicit false⟩
  | none =>
      by_cases harmless : Python.Harmless runtimes file
      · rcases Python.readCache_of_harmless harmless with ⟨cached, read, named⟩
        unfold Asks
        simp only [← named]
        constructor
        · exact fun withstands =>
            Or.inr ⟨harmless, accepts_of_withstands explicit read withstands⟩
        · rintro (absurdity | ⟨-, taken, scans⟩)
          · exact absurd rfl absurdity
          · exact withstands_of_accepts explicit read taken scans
      · rcases Python.readCache_of_not_harmless harmless with ⟨raised, read⟩
        constructor
        · intro withstands
          have same := withstands.1 raised (Python.discoverCdp_of_raised explicit read world)
          subst same
          exact absurd read (Python.readCache_ne_discoveryError runtimes file)
        · rintro (absurdity | ⟨known, -⟩)
          · exact absurd rfl absurdity
          · exact absurd known harmless

/-- A cache file with the port `null` breaks discovery, though a scan finds TradingView. -/
theorem null_port_breaks :
    let file : CacheFile := .utf8 "\x7b\"host\": \"localhost\", \"port\": null\x7d".toList
    let call := Python.discoverIn plainRuntimes twoEndpoints ⟨none, none, none⟩ file
    call true = .ok ⟨defaultHost, 9222, some (defaultHost, 9222)⟩ ∧
      call false = .error .typeError ∧
      ¬ Withstands plainRuntimes twoEndpoints ⟨none, none, none⟩ file := by
  intro file call
  have forced : call true = .ok ⟨defaultHost, 9222, some (defaultHost, 9222)⟩ := by decide +kernel
  have unforced : call false = .error .typeError := by decide +kernel
  refine ⟨forced, unforced, fun withstands => ?_⟩
  cases withstands.1 .typeError unforced

end Discovery
end HybridDataSvc
