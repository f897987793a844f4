import HybridDataSvc.Rest.BarRoutes
import HybridDataSvc.Rest.Servable
import HybridDataSvc.Service.Crashes

namespace HybridDataSvc

open Relational Transition AssetsRepo AssetServiceServicer

/-!
# Onboarding over REST

`POST /v1/assets`: the token, the model of the body, the request that the client
makes of it, and what the answer of `CreateAsset` is turned into.  The request or the
answer of the RPC may get lost, so a client that is told of no server may have
created its asset all the same.

The model of the body is stricter than `CreateAsset`.  What comes over this route
is never refused by the handler, can always be served again, and has timeframes
that the writer knows.
-/

variable {F : Type}

namespace Rest

/-! ## The body -/

/-- `CreateAssetRequest` of the response models. -/
structure CreateBody where
  symbol : String
  storageSymbol : String
  name : String
  exchange : String
  currency : String
  assetClass : AssetClass
  assetSubClass : Option String
  isin : Option String
  country : Option String
  timeframes : Option (List Timeframe)
  tvSymbol : Option String
  deriving DecidableEq, Repr

/-- `constr(min_length=least, max_length=most)`. -/
def constr (least most : Nat) (text : String) : Bool :=
  decide (least ≤ text.length) && decide (text.length ≤ most)

/-- The constraints of the model; the `$` of the pattern matches at the end only. -/
def CreateBody.isValid (body : CreateBody) : Bool :=
  isTvIdentifier body.symbol.toList && constr 3 32 body.symbol &&
    constr 1 64 body.storageSymbol && constr 1 128 body.name && constr 1 64 body.exchange &&
    constrLength 3 body.currency && body.assetSubClass.all (constr 0 32) &&
    optionalLength 12 body.isin && optionalLength 2 body.country &&
    body.timeframes.all (fun timeframes => decide (timeframes.length ≤ 12)) &&
    body.tvSymbol.all (constr 0 64)

/-- The row the route asks for. -/
def CreateBody.assetToCreate (body : CreateBody) : ClientAssetRow where
  symbol := body.symbol
  storageSymbol := body.storageSymbol
  name := body.name
  exchange := body.exchange
  currency := body.currency
  assetClass := body.assetClass.value
  assetSubclass := body.assetSubClass
  isin := body.isin
  country := body.country

/-- `[rest_to_storage(tf.value) for tf in (body.timeframes or [])]`. -/
def CreateBody.storageTimeframes (body : CreateBody) : List String :=
  (body.timeframes.getD []).map (fun timeframe => restToStorage timeframe.value)

end Rest

namespace BarServiceClient

/-- The request that `create_asset` of the client makes. -/
def createRequest (asset : ClientAssetRow) (timeframes : List String) (tvSymbol : Option String) :
    CreateAssetRequest where
  asset :=
    { symbol := asset.symbol, storageSymbol := asset.storageSymbol, name := asset.name,
      exchange := asset.exchange, currency := asset.currency, assetClass := asset.assetClass,
      assetSubclass := asset.assetSubclass.getD "", isin := asset.isin.getD "",
      country := asset.country.getD "" }
  timeframes := timeframes
  tvSymbol := tvSymbol.getD ""

end BarServiceClient

namespace Rest

def CreateBody.request (body : CreateBody) : CreateAssetRequest :=
  BarServiceClient.createRequest body.assetToCreate body.storageTimeframes body.tvSymbol

/-! ## The route -/

/-- What an `RpcError` tells. -/
structure RpcFailure where
  code : Option StatusCode
  details : Option String
  deriving DecidableEq, Repr

/-- `CreateAssetResponse` of the response models. -/
structure CreatedModel where
  asset : AssetWithStatusModel
  created : Bool
  pollEtaSeconds : Int
  deriving DecidableEq, Repr

/-- What a `POST` is answered with: the constraints of the body refuse it (422), an
exception ends it, a response model refuses the row (500), the asset is there
already (409), or the body (201). -/
inductive CreateAnswer
  | unprocessable
  | raised (error : RouteError)
  | internalError
  | alreadyExists (message : String) (existing : AssetWithStatusModel)
  | created (body : CreatedModel)
  deriving DecidableEq, Repr

def CreateAnswer.status : CreateAnswer -> Nat
  | .unprocessable => 422
  | .raised (.httpException status _ _ _) => status
  | .raised _ => 500
  | .internalError => 500
  | .alreadyExists _ _ => 409
  | .created _ => 201

/-- `_grpc_unavailable`. -/
def grpcUnavailable (code : Option StatusCode) : RouteError :=
  .httpException 503 "grpc_unavailable"
    ("AssetService unreachable: " ++ (code.map StatusCode.name).getD "UNKNOWN") []

/-- `exc.details() or "request rejected by AssetService"`. -/
def rejectedBy (details : Option String) : String :=
  (details.bind orNone).getD "request rejected by AssetService"

/-- `create_asset` of the route, given what the RPC comes to. -/
def createAsset (outcome : Except RpcFailure CreateAssetResponse) : CreateAnswer :=
  match outcome with
  | .error failure =>
    if failure.code = some .invalidArgument then
      .raised (.httpException 422 "invalid_argument" (rejectedBy failure.details) [])
    else .raised (grpcUnavailable failure.code)
  | .ok response =>
    let row := BarServiceClient.assetWithStatusMessageToRow response.assetWithStatus
    match rowToStatusModel row with
    | none => .internalError
    | some asset =>
      if response.created then
        .created { asset := asset, created := response.created,
                   pollEtaSeconds := response.pollEtaSeconds }
      else .alreadyExists (row.asset.symbol ++ " already exists in the catalog.") asset

/-! ## The server behind the route -/

/-- What the client is told of a call that gets lost.  No channel finds fault with an
argument. -/
structure Lost where
  failure : RpcFailure
  channel : failure.code ≠ some .invalidArgument

/-- What becomes of an RPC on its way. -/
inductive Delivery
  | answered
  | requestLost (lost : Lost)
  | answerLost (lost : Lost)

/-- The failure a status of the server is. -/
def failureOf : GrpcError -> RpcFailure
  | .invalidArgument details => ⟨some .invalidArgument, some details⟩
  | .internal details => ⟨some .internal, some details⟩
  | .unknown _ => ⟨some .unknown, none⟩

/-- `CreateAsset` of the server through a channel, with the database it leaves. -/
def callCreateAsset (delivery : Delivery) (env : CreateEnv) (request : CreateAssetRequest)
    (db : Database F) : Except RpcFailure CreateAssetResponse × Database F :=
  let served := AssetServiceServicer.createAsset env request db
  match delivery with
  | .requestLost lost => (.error lost.failure, db)
  | .answerLost lost => (.error lost.failure, served.2)
  | .answered =>
    match served.1 with
    | .error status => (.error (failureOf status), served.2)
    | .ok response => (.ok response, served.2)

/-- A `POST /v1/assets`. -/
structure Post where
  creds : Option HTTPAuthorizationCredentials
  delivery : Delivery
  env : CreateEnv
  body : CreateBody

/-- `POST /v1/assets`, with the database it leaves.  The token is looked at first. -/
def postAssets (settings : RestSettings) (post : Post) (db : Database F) :
    CreateAnswer × Database F :=
  match requireBearerAdmin settings post.creds with
  | .error raised => (.raised raised, db)
  | .ok () =>
    if post.body.isValid then
      let called := callCreateAsset post.delivery post.env post.body.request db
      (createAsset called.1, called.2)
    else (.unprocessable, db)

/-! ## What the model of the body promises -/

/-- What the constraints of a body say. -/
structure CreateBody.Constrained (body : CreateBody) : Prop where
  symbol : isTvIdentifier body.symbol.toList = true
  long : 3 ≤ body.symbol.length
  short : body.symbol.length ≤ 32
  storageSymbol : body.storageSymbol ≠ ""
  name : body.name ≠ ""
  exchange : body.exchange ≠ ""
  currency : body.currency.length = 3
  isin : optionalLength 12 body.isin = true
  country : optionalLength 2 body.country = true

theorem ne_empty_of_constr {least most : Nat} {text : String} (kept : constr least most text = true)
    (positive : 0 < least) : text ≠ "" := by
  rintro rfl
  rw [constr, Bool.and_eq_true, decide_eq_true_iff] at kept
  exact absurd kept.1 (Nat.not_le.mpr positive)

theorem CreateBody.constrained {body : CreateBody} (valid : body.isValid = true) :
    body.Constrained := by
  simp only [CreateBody.isValid, Bool.and_eq_true] at valid
  rcases valid with ⟨⟨⟨⟨⟨⟨⟨⟨⟨⟨symbol, length⟩, storageSymbol⟩, name⟩, exchange⟩, currency⟩, _⟩, isin⟩,
    country⟩, _⟩, _⟩
  rw [constr, Bool.and_eq_true, decide_eq_true_iff, decide_eq_true_iff] at length
  exact
    { symbol := symbol
      long := length.1
      short := length.2
      storageSymbol := ne_empty_of_constr storageSymbol Nat.one_pos
      name := ne_empty_of_constr name Nat.one_pos
      exchange := ne_empty_of_constr exchange Nat.one_pos
      currency := of_decide_eq_true currency
      isin := isin
      country := country }

theorem value_mem_validAssetClasses (assetClass : AssetClass) :
    assetClass.value ∈ validAssetClasses := by
  cases assetClass <;> decide

/-- A text that is sent as the empty string when it is missing, and read back. -/
theorem length_of_orNone {length : Nat} {text : Option String}
    (kept : optionalLength length text = true) {value : String}
    (sent : orNone (text.getD "") = some value) : value = "" ∨ value.length = length := by
  cases text with
  | none => cases sent
  | some given =>
      rw [Option.getD_some, orNone] at sent
      split at sent
      · cases sent
      · cases sent
        exact Or.inr (of_decide_eq_true kept)

/-- The handler takes the request of every body that the model takes. -/
theorem validationError_request {body : CreateBody} (valid : body.isValid = true) :
    validationError body.request.asset = none := by
  have constrained := body.constrained valid
  have named : body.symbol ≠ "" := by
    rintro empty
    have long := constrained.long
    rw [empty] at long
    exact absurd long (by decide)
  have paid : body.currency ≠ "" := by
    rintro empty
    have length := constrained.currency
    rw [empty] at length
    cases length
  have shaped : tvSymbolMatches body.symbol = true := by
    rw [tvSymbolMatches, constrained.symbol, Bool.true_or]
  have listed := value_mem_validAssetClasses body.assetClass
  simp only [validationError, CreateBody.request, BarServiceClient.createRequest,
    CreateBody.assetToCreate, named, shaped, constrained.storageSymbol, constrained.name,
    constrained.exchange, paid, listed, Bool.not_true, Bool.false_eq_true, not_true_eq_false,
    if_false]

/-- The asset that the request describes can be served. -/
theorem presentable_request {body : CreateBody} (valid : body.isValid = true) :
    Presentable (requestedAsset body.request.asset) := by
  have constrained := body.constrained valid
  exact
    { symbol := constrained.symbol
      short := constrained.short
      assetClass := value_mem_validAssetClasses body.assetClass
      currency := constrained.currency
      isin := fun _ sent => length_of_orNone constrained.isin sent
      country := fun _ sent => length_of_orNone constrained.country sent }

theorem knownTimeframe_of_rest (timeframe : Timeframe) :
    KnownTimeframe (restToStorage timeframe.value) := by
  cases timeframe <;> exact ⟨_, rfl⟩

/-- The writer knows every timeframe that a body asks for. -/
theorem knownTimeframe_of_requested (body : CreateBody) {timeframe : String}
    (requested : timeframe ∈ requestedTimeframes body.request) : KnownTimeframe timeframe := by
  unfold requestedTimeframes at requested
  split at requested
  · rw [List.mem_singleton.mp requested]
    exact ⟨_, rfl⟩
  · rcases List.mem_map.mp requested with ⟨asked, _, rfl⟩
    exact knownTimeframe_of_rest asked

/-! ## What a `POST` is answered with -/

/-- The asset as the routes show it. -/
def CreateBody.shown (body : CreateBody) : AssetModel where
  symbol := body.symbol
  name := body.name
  exchange := body.exchange
  type := some body.assetClass.value.toLower
  currency := body.currency
  assetClass := body.assetClass
  assetSubClass := orNone (body.assetSubClass.getD "")
  isin := body.isin
  country := body.country

theorem orNone_of_length {length : Nat} (positive : 0 < length) {text : Option String}
    (kept : optionalLength length text = true) : orNone (text.getD "") = text := by
  cases text with
  | none => rfl
  | some given =>
      have known : given.length = length := of_decide_eq_true kept
      rw [Option.getD_some, orNone, if_neg]
      rintro rfl
      rw [← known] at positive
      exact absurd positive (by decide)

/-- What the routes show of the asset that a body creates is what the body says. -/
theorem rowToAssetModel_of_body {body : CreateBody} (valid : body.isValid = true) (addedAt : Int) :
    rowToAssetModel (clientRow { requestedAsset body.request.asset with addedAt := addedAt }) =
      some body.shown := by
  have constrained := body.constrained valid
  have isin := orNone_of_length (by decide) constrained.isin
  have country := orNone_of_length (by decide) constrained.country
  have subClass : orNone ((orNone (body.assetSubClass.getD "")).getD "") =
      orNone (body.assetSubClass.getD "") := by
    unfold orNone
    split
    · rfl
    · rename_i given
      rw [Option.getD_some, if_neg given]
  have named : orNone body.assetClass.value = some body.assetClass.value := by
    cases body.assetClass <;> rfl
  have listed : AssetClass.ofText body.assetClass.value = some body.assetClass :=
    (ofText_eq_some_iff _ _).mpr rfl
  have paid : constrLength 3 body.currency = true := decide_eq_true constrained.currency
  simp only [rowToAssetModel, clientRow, BarServiceClient.assetMessageToRow, rowToAssetMessage,
    requestedAsset, CreateBody.request, BarServiceClient.createRequest, CreateBody.assetToCreate,
    listed, isin, country, subClass, named, paid, constrained.isin, constrained.country,
    Bool.and_true, if_true, Option.map_some, CreateBody.shown]

/-- The model of a row whose asset can be shown. -/
theorem rowToStatusModel_of_shown {row : AssetWithStatusRow} {model : AssetModel}
    (shown : rowToAssetModel (clientRow row.asset) = some model) :
    rowToStatusModel (BarServiceClient.assetWithStatusMessageToRow (rowToAssetWithStatusMessage row)) =
      some { asset := model, status := row.status, addedAt := row.asset.addedAt,
             lastBarTs := row.lastBarTs } := by
  have asset : (BarServiceClient.assetWithStatusMessageToRow
      (rowToAssetWithStatusMessage row)).asset = clientRow row.asset := rfl
  have status : (BarServiceClient.assetWithStatusMessageToRow
      (rowToAssetWithStatusMessage row)).status = row.status.text := rfl
  simp only [rowToStatusModel, asset, status, shown, statusOfText_text]
  rfl

section Answers

variable {env : CreateEnv} {body : CreateBody} {db : Database F}

theorem answer_of_lost (lost : Lost) :
    createAsset (.error lost.failure) = .raised (grpcUnavailable lost.failure.code) := by
  rw [createAsset, if_neg lost.channel]

theorem answer_of_uncommitted (valid : body.isValid = true) (fails : env.commits = false) :
    createAsset (callCreateAsset .answered env body.request db).1 =
      .raised (grpcUnavailable (some .internal)) := by
  simp only [callCreateAsset, AssetServiceServicer.createAsset, validationError_request valid,
    createWithFeeds, fails, Bool.false_eq_true, if_false]
  rfl

theorem answer_of_new (creates : Creates env body.request db) (valid : body.isValid = true) :
    createAsset (callCreateAsset .answered env body.request db).1 =
      .created
        { asset := { asset := body.shown, status := .pending, addedAt := env.now, lastBarTs := 0 },
          created := true, pollEtaSeconds := pollEtaSeconds } := by
  let row : AssetWithStatusRow :=
    { asset := (createdAsset env.now body.request).toAssetRow, status := .pending, lastBarTs := 0 }
  have made : rowToAssetModel (clientRow row.asset) = some body.shown :=
    rowToAssetModel_of_body valid env.now
  have shown : rowToStatusModel (BarServiceClient.assetWithStatusMessageToRow
      (freshAnswer env.now body.request)) =
        some { asset := body.shown, status := .pending, addedAt := env.now, lastBarTs := 0 } :=
    rowToStatusModel_of_shown made
  simp only [callCreateAsset, createAsset_of_creates creates, createAsset, shown, if_true]

theorem answer_of_known (valid : body.isValid = true) (commits : env.commits = true)
    {existing : AssetRecord} (known : db.assets.lookup body.symbol = some existing)
    {model : AssetModel} (shown : rowToAssetModel (clientRow existing.toAssetRow) = some model) :
    createAsset (callCreateAsset .answered env body.request db).1 =
      .alreadyExists (existing.symbol ++ " already exists in the catalog.")
        { asset := model, status := (withStatus db existing).status, addedAt := existing.addedAt,
          lastBarTs := (withStatus db existing).lastBarTs } := by
  have found : db.assets.lookup (requestedAsset body.request.asset).symbol = some existing := known
  have own : existing.symbol = body.symbol := ((db.assets.lookup_eq_some_iff _ _).mp known).2
  have again : getWithStatus db existing.symbol = some (withStatus db existing) := by
    rw [getWithStatus, own, known, Option.map_some]
  have own_row : rowToAssetModel (clientRow (withStatus db existing).asset) = some model := shown
  have row := rowToStatusModel_of_shown own_row
  simp only [callCreateAsset, AssetServiceServicer.createAsset, validationError_request valid,
    createWithFeeds, commits, found, again, createAsset, row, if_true, Bool.false_eq_true, if_false]
  rfl

end Answers

/-! ## The catalog that comes of it -/

/-- The request gets past the token and the model of the body. -/
structure Admitted (settings : RestSettings) (post : Post) : Prop where
  gate : requireBearerAdmin settings post.creds = .ok ()
  valid : post.body.isValid = true

theorem postAssets_of_admitted {settings : RestSettings} {post : Post}
    (admitted : Admitted settings post) (db : Database F) :
    postAssets settings post db =
      (createAsset (callCreateAsset post.delivery post.env post.body.request db).1,
        (callCreateAsset post.delivery post.env post.body.request db).2) := by
  simp only [postAssets, admitted.gate, admitted.valid, if_true]

theorem callCreateAsset_database (delivery : Delivery) (env : CreateEnv)
    (request : CreateAssetRequest) (db : Database F) :
    (callCreateAsset delivery env request db).2 = db ∨
      (callCreateAsset delivery env request db).2 =
        (AssetServiceServicer.createAsset env request db).2 := by
  unfold callCreateAsset
  cases delivery with
  | requestLost lost => exact Or.inl rfl
  | answerLost lost => exact Or.inr rfl
  | answered =>
      right
      simp only
      split <;> rfl

/-- A request changes the catalog by a call of `CreateAsset` only, and only where it
is admitted. -/
theorem postAssets_database (settings : RestSettings) (post : Post) (db : Database F) :
    (postAssets settings post db).2 = db ∨
      (Admitted settings post ∧
        (postAssets settings post db).2 =
          (AssetServiceServicer.createAsset post.env post.body.request db).2) := by
  cases gate : requireBearerAdmin settings post.creds with
  | error raised =>
      left
      simp only [postAssets, gate]
  | ok passed =>
      cases valid : post.body.isValid with
      | false =>
          left
          simp only [postAssets, gate, valid, Bool.false_eq_true, if_false]
      | true =>
          have admitted : Admitted settings post := ⟨gate, valid⟩
          rw [postAssets_of_admitted admitted]
          exact (callCreateAsset_database post.delivery post.env post.body.request db).imp id
            (fun created => ⟨admitted, created⟩)

theorem allPresentable_postAssets (settings : RestSettings) (post : Post) {db : Database F}
    (all : AllPresentable db) : AllPresentable (postAssets settings post db).2 := by
  rcases postAssets_database settings post db with same | ⟨admitted, created⟩
  · rw [same]
    exact all
  · rw [created]
    exact (allPresentable_admitStep_iff String.toUpper db (.create post.env post.body.request) all).mpr
      (fun _ => presentable_request admitted.valid)

/-- The status that the documentation has for a request that passes the gate. -/
def expectedStatus (post : Post) (db : Database F) : Nat :=
  if post.body.isValid then
    match post.delivery with
    | .requestLost _ => 503
    | .answerLost _ => 503
    | .answered =>
      if post.env.commits then
        match db.assets.lookup post.body.symbol with
        | none => 201
        | some _ => 409
      else 503
  else 422

theorem status_eq_expected {settings : RestSettings} {post : Post} {db : Database F}
    (all : AllPresentable db) (gate : requireBearerAdmin settings post.creds = .ok ()) :
    (postAssets settings post db).1.status = expectedStatus post db := by
  cases valid : post.body.isValid with
  | false => simp only [postAssets, gate, expectedStatus, valid, Bool.false_eq_true, if_false,
      CreateAnswer.status]
  | true =>
      rw [postAssets_of_admitted ⟨gate, valid⟩]
      simp only [expectedStatus, valid, if_true]
      cases post.delivery with
      | requestLost lost =>
          simp only [callCreateAsset, answer_of_lost]
          rfl
      | answerLost lost =>
          simp only [callCreateAsset, answer_of_lost]
          rfl
      | answered =>
          cases commits : post.env.commits with
          | false =>
              rw [answer_of_uncommitted valid commits]
              rfl
          | true =>
              cases known : db.assets.lookup post.body.symbol with
              | none =>
                  have creates : Creates post.env post.body.request db :=
                    ⟨validationError_request valid, commits, known⟩
                  rw [answer_of_new creates valid]
                  rfl
              | some existing =>
                  have presentable := (allPresentable_iff db).mp all _ _ known
                  rcases presentable.exists_model with ⟨model, shown⟩
                  rw [answer_of_known valid commits known shown]
                  rfl

/-- What else happens to the database: another request, the file is synced or an asset
is created over gRPC, or the writer changes bars and feeds. -/
inductive Traffic (F : Type)
  | post (post : Post)
  | catalog (action : AdmitAction)
  | writer (store : Store F) (feeds : Table FeedRecord.key)

def Traffic.step (upper : String -> String) (settings : RestSettings) (db : Database F) :
    Traffic F -> Database F
  | .post request => (postAssets settings request db).2
  | .catalog action => admitStep upper db action
  | .writer store feeds => { db with store := store, feeds := feeds }

/-- The file that is synced does not have the symbol. -/
def Traffic.Spares (upper : String -> String) (symbol : String) : Traffic F -> Prop
  | .catalog (.sync _ commits file) =>
    commits = true -> forall row, row ∈ AssetsLoader.fileRows upper file -> row.symbol ≠ symbol
  | _ => True

theorem lookup_createAsset {env : CreateEnv} {request : CreateAssetRequest} {db : Database F}
    {symbol : String} {asset : AssetRecord} (known : db.assets.lookup symbol = some asset) :
    (AssetServiceServicer.createAsset env request db).2.assets.lookup symbol = some asset := by
  by_cases creates : Creates env request db
  · rw [createAsset_of_creates creates, onboarded, Table.lookup_insertNew, known, Option.some_or]
  · rw [(createAsset_of_not_creates creates).1]
    exact known

theorem lookup_traffic {upper : String -> String} {settings : RestSettings} {db : Database F}
    {symbol : String} {asset : AssetRecord} (known : db.assets.lookup symbol = some asset)
    {traffic : Traffic F} (spares : traffic.Spares upper symbol) :
    (traffic.step upper settings db).assets.lookup symbol = some asset := by
  cases traffic with
  | post post =>
      rw [Traffic.step]
      rcases postAssets_database settings post db with same | ⟨_, created⟩
      · rw [same]
        exact known
      · rw [created]
        exact lookup_createAsset known
  | catalog action =>
      cases action with
      | create env request => exact lookup_createAsset known
      | sync now commits file =>
          rw [Traffic.step, admitStep, AssetsLoader.sync_eq]
          cases commits with
          | false =>
              rw [catalogStep, upsertMany_of_not_commits]
              exact known
          | true =>
              rcases catalogStep_lookup db (.sync now true (AssetsLoader.fileRows upper file)) symbol
                with same | ⟨row, member, own, _⟩
              · rw [same]
                exact known
              · exact absurd own (spares rfl row member)
  | writer store feeds => exact known

theorem lookup_run_traffic {upper : String -> String} {settings : RestSettings} {db : Database F}
    {symbol : String} {asset : AssetRecord} (known : db.assets.lookup symbol = some asset)
    {later : List (Traffic F)} (spared : forall traffic, traffic ∈ later -> traffic.Spares upper symbol) :
    (run (Traffic.step upper settings) db later).assets.lookup symbol = some asset := by
  have kept : forall (db : Database F) (traffic : Traffic F),
      db.assets.lookup symbol = some asset -> traffic.Spares upper symbol ->
        (traffic.step upper settings db).assets.lookup symbol = some asset :=
    fun _ _ known spares => lookup_traffic known spares
  exact invariant_run (Traffic.step upper settings) kept known
    (along_of_forall (Traffic.step upper settings) spared)

/-- What the routes say of an asset from then on: its profile is the body that created
it, and another request for its symbol is answered with the same asset and changes
nothing. -/
structure Stays (settings : RestSettings) (body : CreateBody) (addedAt : Int) (db : Database F) :
    Prop where
  profile : getProfile body.symbol db = .ok body.shown
  again : forall post, Admitted settings post -> post.delivery = .answered ->
    post.env.commits = true -> post.body.symbol = body.symbol ->
      exists status lastBarTs, postAssets settings post db =
        (.alreadyExists (body.symbol ++ " already exists in the catalog.")
          { asset := body.shown, status := status, addedAt := addedAt, lastBarTs := lastBarTs }, db)

theorem stays_of_lookup {settings : RestSettings} {body : CreateBody} {now : Int} {db : Database F}
    (valid : body.isValid = true)
    (known : db.assets.lookup body.symbol = some (createdAsset now body.request)) :
    Stays settings body now db := by
  have stored := ((db.assets.lookup_eq_some_iff _ _).mp known).1
  have shown : rowToAssetModel (clientRow (createdAsset now body.request).toAssetRow) =
      some body.shown := rowToAssetModel_of_body valid now
  have constrained := body.constrained valid
  constructor
  · have path := (profile_accepts_iff body.symbol).mpr ⟨constrained.symbol, constrained.short⟩
    exact (getProfile_eq_ok_iff stored body.shown).mpr ⟨path, shown⟩
  · intro post admitted answered commits same
    have found : db.assets.lookup post.body.symbol = some (createdAsset now body.request) := by
      rw [same]
      exact known
    refine ⟨(withStatus db (createdAsset now body.request)).status,
      (withStatus db (createdAsset now body.request)).lastBarTs, ?_⟩
    have unchanged : (callCreateAsset .answered post.env post.body.request db).2 = db := by
      rcases callCreateAsset_database .answered post.env post.body.request db with kept | created
      · exact kept
      · rw [created]
        refine (createAsset_of_not_creates (fun creates => ?_)).1
        have absent : db.assets.lookup post.body.symbol = none := creates.2.2
        rw [found] at absent
        cases absent
    rw [postAssets_of_admitted admitted, answered, unchanged,
      answer_of_known admitted.valid commits found shown]
    rfl

/-- What a request has created stays, whether its answer arrives or gets lost: whatever
other requests, syncs of files without the symbol and work of the writer come after it, the
profile of its symbol is what it asked for, and a second attempt is told so. -/
theorem post_round_trip {upper : String -> String} {settings : RestSettings} {post : Post}
    {db : Database F} (admitted : Admitted settings post)
    (creates : Creates post.env post.body.request db)
    (reached : forall lost, post.delivery ≠ .requestLost lost) {later : List (Traffic F)}
    (spared : forall traffic, traffic ∈ later -> traffic.Spares upper post.body.symbol) :
    (post.delivery = .answered ->
      (postAssets settings post db).1 =
        .created
          { asset :=
              { asset := post.body.shown, status := .pending, addedAt := post.env.now,
                lastBarTs := 0 },
            created := true, pollEtaSeconds := pollEtaSeconds }) ∧
      Stays settings post.body post.env.now
        (run (Traffic.step upper settings) (postAssets settings post db).2 later) := by
  constructor
  · intro answered
    rw [postAssets_of_admitted admitted, answered]
    exact answer_of_new creates admitted.valid
  · have created : (postAssets settings post db).2 = onboarded post.env.now post.body.request db := by
      have served : (AssetServiceServicer.createAsset post.env post.body.request db).2 =
          onboarded post.env.now post.body.request db :=
        congrArg Prod.snd (createAsset_of_creates creates)
      rw [postAssets_of_admitted admitted, ← served]
      unfold callCreateAsset
      cases delivered : post.delivery with
      | requestLost lost => exact absurd delivered (reached lost)
      | answerLost lost => rfl
      | answered =>
          simp only
          split <;> rfl
    have known : (postAssets settings post db).2.assets.lookup post.body.symbol =
        some (createdAsset post.env.now post.body.request) := by
      have absent : db.assets.lookup post.body.symbol = none := creates.2.2
      rw [created, onboarded, Table.lookup_insertNew, absent, Option.none_or]
      exact if_pos rfl
    exact stays_of_lookup admitted.valid (lookup_run_traffic known spared)

/-- A body, sent without a token where none is asked for. -/
def cardanoPost : Post where
  creds := none
  delivery := .answered
  env := ⟨100000, true⟩
  body :=
    { symbol := "BINANCE:ADAUSDT", storageSymbol := "ADA/USDT:USDT", name := "Cardano",
      exchange := "BINANCE", currency := "USD", assetClass := .crypto, assetSubClass := some "SPOT",
      isin := none, country := none, timeframes := some [.m15, .h1], tvSymbol := none }

theorem post_round_trip_cardano :
    Stays ⟨"", ""⟩ cardanoPost.body 100000
      (run (Traffic.step String.toUpper ⟨"", ""⟩)
        (postAssets ⟨"", ""⟩ cardanoPost (Database.empty : Database Rat)).2
        [.post cardanoPost, .catalog (.create ⟨100030, true⟩ fourLetterRequest)]) := by
  have spared : forall traffic, traffic ∈
      [Traffic.post cardanoPost, .catalog (.create ⟨100030, true⟩ fourLetterRequest)] ->
        Traffic.Spares (F := Rat) String.toUpper "BINANCE:ADAUSDT" traffic := by
    intro traffic member
    simp only [List.mem_cons, List.not_mem_nil, or_false] at member
    rcases member with rfl | rfl
    · trivial
    · trivial
  exact (post_round_trip ⟨rfl, by decide⟩ ⟨by decide, rfl, rfl⟩ (fun _ same => by cases same)
    spared).2

/-! ## The writer behind the route -/

section Writers

variable [PyFloat F]

/-- A step of a service whose assets are onboarded over REST. -/
inductive RestAction (F : Type)
  | post (post : Post)
  | start (env : StartEnv)
  | cycle (env : CycleEnv F)
  | write (action : CacheAction F)

def RestAction.step (cfg : WriterConfig F) (settings : RestSettings) (writer : Writer F) :
    RestAction F -> Writer F
  | .post request => writer.withCatalog (postAssets settings request writer.db).2
  | .start env => ServiceAction.step cfg writer (.start env)
  | .cycle env => ServiceAction.step cfg writer (.cycle env)
  | .write action => ServiceAction.step cfg writer (.write action)

/-- The operator's own feeds have timeframes that the writer knows. -/
def RestAction.SeedsKnown : RestAction F -> Prop
  | .start env => forall feed, feed ∈ env.feeds -> KnownTimeframe feed.timeframe
  | _ => True

/-- The bar tables are sound and the polled timeframes known. -/
structure Runs (writer : Writer F) : Prop where
  store : SoundStore writer
  feeds : KnownFeeds writer.feeds

theorem runs_serviceStep (cfg : WriterConfig F) {writer : Writer F} (action : ServiceAction F)
    (runs : Runs writer) (adds : action.AddsKnown writer) :
    Runs (ServiceAction.step cfg writer action) :=
  ⟨step_soundStore cfg writer action runs.store, (step_knownFeeds_iff cfg runs.feeds action).mpr adds⟩

theorem runs_step (cfg : WriterConfig F) (settings : RestSettings) {writer : Writer F}
    {action : RestAction F} (runs : Runs writer) (seeds : action.SeedsKnown) :
    Runs (action.step cfg settings writer) := by
  cases action with
  | post request =>
      rw [RestAction.step]
      rcases postAssets_database settings request writer.db with same | ⟨_, created⟩
      · rw [same]
        exact runs
      · rw [created]
        exact runs_serviceStep cfg (.create request.env request.body.request) runs
          (fun _ _ requested _ => knownTimeframe_of_requested request.body requested)
  | start env => exact runs_serviceStep cfg (.start env) runs (fun _ feed member _ => seeds feed member)
  | cycle env => exact runs_serviceStep cfg (.cycle env) runs trivial
  | write action => exact runs_serviceStep cfg (.write action) runs trivial

/-- No request over REST can keep the writer from starting or end its loop: along every run in
which the operator's own feeds have known timeframes, restarts and cycles complete. -/
theorem writer_survives_posts (cfg : WriterConfig F) (settings : RestSettings) (primary : Feed)
    {actions : List (RestAction F)}
    (seeds : forall action, action ∈ actions -> action.SeedsKnown) :
    Survives cfg (run (RestAction.step cfg settings) (Writer.boot primary) actions) := by
  have boot : Runs (Writer.boot primary : Writer F) := by
    refine ⟨⟨soundBars_empty, metadataAgrees_empty⟩, ?_⟩
    intro row impossible
    cases impossible
  have runs := invariant_run (RestAction.step cfg settings)
    (fun _ _ runs known => runs_step cfg settings runs known) boot
    (along_of_forall (RestAction.step cfg settings) seeds)
  exact (survives_iff_knownFeeds cfg runs.store).mpr runs.feeds

theorem writer_survives_posts_cardano :
    Survives (F := Rat)
      { tvCli := "tv", barsToFetch := 300, showFloats := fun _ => "", pollIntervalS := 30 }
      (run (RestAction.step
        { tvCli := "tv", barsToFetch := 300, showFloats := fun _ => "", pollIntervalS := 30 } ⟨"", ""⟩)
        (Writer.boot ⟨"ADA", "1h", "BINANCE:ADAUSDT"⟩) [.post cardanoPost]) := by
  refine writer_survives_posts _ _ _ ?_
  intro action member
  rw [List.mem_singleton.mp member]
  trivial

end Writers

end Rest

end HybridDataSvc
