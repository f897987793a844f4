namespace HybridDataSvc

/-!
# The bearer gates

`rest/auth.py`.  Every route of the service but `/healthz` depends on one of two
gates, which compare the credentials of the request with a configured token.
What reads them out of the `Authorization` header is FastAPI's `HTTPBearer`, and
comes in as a function.

The comparison is `hmac.compare_digest`, which takes two texts only if both are
ASCII and raises for any others.  A header may have any byte in it, so that a
client that sends other credentials than ASCII ones is not refused: the exception
leaves the gate.
-/

/-- A status code of gRPC other than `OK`. -/
inductive StatusCode
  | cancelled
  | unknown
  | invalidArgument
  | deadlineExceeded
  | notFound
  | alreadyExists
  | permissionDenied
  | resourceExhausted
  | failedPrecondition
  | aborted
  | outOfRange
  | unimplemented
  | internal
  | unavailable
  | dataLoss
  | unauthenticated
  deriving DecidableEq, Repr

/-- An exception that ends a request to the REST service. -/
inductive RouteError
  | httpException (status : Nat) (error message : String) (headers : List (String × String))
  | typeError (message : String)
  | valueError (message : String)
  | rpcError (code : Option StatusCode)
  | validationError (model field : String)
  deriving DecidableEq, Repr

namespace Rest

/-- `HTTPAuthorizationCredentials`. -/
structure HTTPAuthorizationCredentials where
  scheme : String
  credentials : String
  deriving DecidableEq, Repr

/-- The tokens of `RestSettings`, empty when they are not set. -/
structure RestSettings where
  restAuthToken : String
  restAdminToken : String

def isAscii (text : String) : Bool := text.toList.all (fun c => decide (c.toNat < 128))

/-- `hmac.compare_digest` on two texts. -/
def compareDigest (a b : String) : Except RouteError Bool :=
  if isAscii a && isAscii b then .ok (decide (a = b))
  else .error (.typeError "comparing strings with non-ASCII characters is not supported")

/-- `scheme.lower() == "bearer"`.  Only ASCII letters have a `b`, `e`, `a` or `r` as
their lower case. -/
def isBearer (scheme : String) : Bool :=
  decide (scheme.toList.map Char.toLower = "bearer".toList)

/-- `_extract_bearer`. -/
def extractBearer : Option HTTPAuthorizationCredentials -> String
  | none => ""
  | some creds => if isBearer creds.scheme then creds.credentials else ""

/-- `_unauthorized`. -/
def unauthorized : RouteError :=
  .httpException 401 "unauthorized" "missing or invalid bearer token"
    [("WWW-Authenticate", "Bearer")]

/-- What both gates do with the token they expect. -/
def requireToken (expected : String) (creds : Option HTTPAuthorizationCredentials) :
    Except RouteError Unit :=
  if expected = "" then .ok ()
  else
    match compareDigest (extractBearer creds) expected with
    | .error raised => .error raised
    | .ok same => if same then .ok () else .error unauthorized

/-- `require_bearer`. -/
def requireBearer (settings : RestSettings) (creds : Option HTTPAuthorizationCredentials) :
    Except RouteError Unit :=
  requireToken settings.restAuthToken creds

/-- `settings.rest_admin_token or settings.rest_auth_token`. -/
def adminToken (settings : RestSettings) : String :=
  if settings.restAdminToken = "" then settings.restAuthToken else settings.restAdminToken

/-- `require_bearer_admin`. -/
def requireBearerAdmin (settings : RestSettings) (creds : Option HTTPAuthorizationCredentials) :
    Except RouteError Unit :=
  requireToken (adminToken settings) creds

/-! ## What the gates have to do -/

/-- The request carries a token under the bearer scheme. -/
def Carries (creds : Option HTTPAuthorizationCredentials) (token : String) : Prop :=
  exists given, creds = some given ∧ isBearer given.scheme = true ∧ given.credentials = token

/-- A gate passes exactly the requests with its token, and ends all others in 401. -/
structure Decides (expected : String) (creds : Option HTTPAuthorizationCredentials)
    (outcome : Except RouteError Unit) : Prop where
  passes : outcome = .ok () ↔ expected = "" ∨ Carries creds expected
  refuses : outcome ≠ .ok () -> outcome = .error unauthorized

/-- The credentials of the request can be compared. -/
def AsciiCredentials (creds : Option HTTPAuthorizationCredentials) : Prop :=
  forall token, Carries creds token -> isAscii token = true

theorem carries_iff_extractBearer {expected : String} (nonempty : expected ≠ "")
    (creds : Option HTTPAuthorizationCredentials) :
    Carries creds expected ↔ extractBearer creds = expected := by
  cases creds with
  | none =>
      apply iff_of_false
      · rintro ⟨given, impossible, _⟩
        cases impossible
      · exact fun empty => nonempty empty.symm
  | some given =>
      by_cases bearer : isBearer given.scheme = true
      · rw [extractBearer, if_pos bearer]
        constructor
        · rintro ⟨_, found, _, same⟩
          cases found
          exact same
        · intro same
          exact ⟨given, rfl, bearer, same⟩
      · rw [extractBearer, if_neg bearer]
        apply iff_of_false
        · rintro ⟨_, found, otherwise, _⟩
          cases found
          exact bearer otherwise
        · exact fun empty => nonempty empty.symm

theorem asciiCredentials_iff (creds : Option HTTPAuthorizationCredentials) :
    AsciiCredentials creds ↔ isAscii (extractBearer creds) = true := by
  by_cases empty : extractBearer creds = ""
  · rw [empty]
    refine iff_of_true ?_ (by decide)
    intro token carries
    by_cases none : token = ""
    · rw [none]
      decide
    · rw [carries_iff_extractBearer none, empty] at carries
      exact absurd carries.symm none
  · constructor
    · intro ascii
      exact ascii _ ((carries_iff_extractBearer empty creds).mpr rfl)
    · intro ascii token carries
      by_cases none : token = ""
      · rw [none]
        decide
      · rw [← (carries_iff_extractBearer none creds).mp carries]
        exact ascii

/-- A gate decides a request exactly when it has no token, or compares two ASCII texts. -/
theorem requireToken_decides_iff (expected : String)
    (creds : Option HTTPAuthorizationCredentials) :
    Decides expected creds (requireToken expected creds) ↔
      expected = "" ∨ (isAscii expected = true ∧ AsciiCredentials creds) := by
  by_cases open_ : expected = ""
  · rw [requireToken, if_pos open_]
    exact iff_of_true ⟨iff_of_true rfl (Or.inl open_), fun impossible => absurd rfl impossible⟩
      (Or.inl open_)
  · rw [or_iff_right open_, asciiCredentials_iff, requireToken, if_neg open_]
    by_cases ascii : isAscii (extractBearer creds) = true ∧ isAscii expected = true
    · refine iff_of_true ?_ ⟨ascii.2, ascii.1⟩
      have compared : compareDigest (extractBearer creds) expected =
          .ok (decide (extractBearer creds = expected)) := by
        simp only [compareDigest, ascii.1, ascii.2, Bool.and_self, if_true]
      simp only [compared, decide_eq_true_eq]
      by_cases same : extractBearer creds = expected
      · simp only [if_pos same]
        exact ⟨iff_of_true rfl (Or.inr ((carries_iff_extractBearer open_ creds).mpr same)),
          fun impossible => absurd rfl impossible⟩
      · simp only [if_neg same]
        refine ⟨iff_of_false (fun impossible => by cases impossible) ?_, fun _ => rfl⟩
        rw [or_iff_right open_, carries_iff_extractBearer open_]
        exact same
    · -- the exception is neither of the two outcomes
      have raised : compareDigest (extractBearer creds) expected =
          .error (.typeError "comparing strings with non-ASCII characters is not supported") := by
        rw [compareDigest, if_neg (by rw [Bool.and_eq_true]; exact ascii)]
      simp only [raised]
      refine iff_of_false ?_ (fun both => ascii ⟨both.2, both.1⟩)
      intro decides
      cases decides.refuses (fun impossible => by cases impossible)

/-- Both gates decide a request, and with a token of its own for writing the one for
reading does not open a write. -/
structure GatesDecide (settings : RestSettings) (creds : Option HTTPAuthorizationCredentials) :
    Prop where
  reads : Decides settings.restAuthToken creds (requireBearer settings creds)
  writes : Decides (adminToken settings) creds (requireBearerAdmin settings creds)
  separate : settings.restAdminToken ≠ "" -> settings.restAdminToken ≠ settings.restAuthToken ->
    Carries creds settings.restAuthToken -> requireBearerAdmin settings creds = .error unauthorized

theorem carries_unique {creds : Option HTTPAuthorizationCredentials} {first second : String}
    (carriesFirst : Carries creds first) (carriesSecond : Carries creds second) :
    first = second := by
  rcases carriesFirst with ⟨given, found, _, rfl⟩
  rcases carriesSecond with ⟨other, foundOther, _, rfl⟩
  cases found.symm.trans foundOther
  rfl

/-- Whatever `HTTPBearer` reads out of a header, the gates decide the request exactly
when no token is configured, or the configured ones and the credentials are ASCII. -/
theorem auth_gates_iff (httpBearer : Option String -> Option HTTPAuthorizationCredentials)
    (settings : RestSettings) (authorization : Option String) :
    GatesDecide settings (httpBearer authorization) ↔
      (settings.restAuthToken = "" ∧ settings.restAdminToken = "") ∨
        (isAscii settings.restAuthToken = true ∧ isAscii settings.restAdminToken = true ∧
          AsciiCredentials (httpBearer authorization)) := by
  generalize httpBearer authorization = creds
  have gates : GatesDecide settings creds ↔
      Decides settings.restAuthToken creds (requireBearer settings creds) ∧
        Decides (adminToken settings) creds (requireBearerAdmin settings creds) := by
    constructor
    · intro both
      exact ⟨both.reads, both.writes⟩
    · rintro ⟨reads, writes⟩
      refine ⟨reads, writes, ?_⟩
      intro named different carries
      apply writes.refuses
      rw [Ne, writes.passes, adminToken, if_neg named, not_or]
      exact ⟨named, fun other => different (carries_unique other carries)⟩
  have asciiEmpty : isAscii "" = true := by decide
  rw [gates, requireBearer, requireBearerAdmin, requireToken_decides_iff,
    requireToken_decides_iff, adminToken]
  by_cases shared : settings.restAdminToken = ""
  · rw [if_pos shared, shared, and_self_iff]
    simp only [asciiEmpty, and_true, true_and]
  · have notBoth : ¬ (settings.restAuthToken = "" ∧ settings.restAdminToken = "") :=
      fun both => shared both.2
    rw [if_neg shared, or_iff_right shared, or_iff_right notBoth]
    constructor
    · rintro ⟨auth, adminAscii, given⟩
      rcases auth with open_ | ⟨authAscii, _⟩
      · exact ⟨by rw [open_]; exact asciiEmpty, adminAscii, given⟩
      · exact ⟨authAscii, adminAscii, given⟩
    · rintro ⟨authAscii, adminAscii, given⟩
      exact ⟨Or.inr ⟨authAscii, given⟩, adminAscii, given⟩

/-- FastAPI's `HTTPBearer(auto_error=False)`: the scheme is what comes before the first
blank, and a header without credentials or of another scheme counts as none. -/
def httpBearerAtBlank : Option String -> Option HTTPAuthorizationCredentials
  | none => none
  | some value =>
    let parts := value.toList.span (fun c => decide (c ≠ ' '))
    let scheme := String.ofList parts.1
    let credentials := String.ofList (parts.2.drop 1)
    if scheme = "" ∨ credentials = "" ∨ isBearer scheme = false then none
    else some ⟨scheme, credentials⟩

/-- A client that sends an accented letter is not refused. -/
theorem accent_is_not_refused :
    let settings : RestSettings := ⟨"secret", ""⟩
    let creds := httpBearerAtBlank (some "Bearer sécret")
    creds = some ⟨"Bearer", "sécret"⟩ ∧
      requireBearer settings creds =
        .error (.typeError "comparing strings with non-ASCII characters is not supported") ∧
      ¬ GatesDecide settings creds := by
  intro settings creds
  have raises : requireBearer settings creds =
      .error (.typeError "comparing strings with non-ASCII characters is not supported") := by
    have accent : isAscii (extractBearer creds) = false := by decide
    simp [requireBearer, requireToken, compareDigest, accent, settings]
  refine ⟨by decide, raises, ?_⟩
  intro decides
  have refused := decides.reads.refuses (by
    rw [raises]
    exact fun impossible => by cases impossible)
  rw [raises] at refused
  cases refused

end Rest

end HybridDataSvc
