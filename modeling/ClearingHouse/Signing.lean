import ClearingHouse.Library.Base64

/-!
# Signing

The signing client of the settlement engine, and the gateway that asks the nodes for their partial
signatures.  The client sends chain identifiers as JSON numbers and the gateway reads them as
strings, so the gateway signs for whoever sends a string, and never for the client.
-/

namespace ClearingHouse

namespace Signing

open Base64 (b64encode b64decode b64decode_b64encode)

/-- Value of a field of a JSON object. -/
inductive FieldValue
  | string (value : String)
  | number (value : ℤ)
  | strings (values : List String)
  | boolean (value : Bool)
  deriving DecidableEq, Repr

/-- A JSON object. -/
abbrev JsonObject := List (String × FieldValue)

/-- A required field of type `str`; in lax mode as in strict, no number is taken for one. -/
def strField (name : String) (body : JsonObject) : Option String :=
  match body.lookup name with
  | some (.string value) => some value
  | _ => none

/-- A required field of type `list[str]`. -/
def strListField (name : String) (body : JsonObject) : Option (List String) :=
  match body.lookup name with
  | some (.strings values) => some values
  | _ => none

/-- `PartialSignRequest`. -/
structure PartialSignRequest where
  txHash : String
  chainId : String
  deriving DecidableEq, Repr

/-- What a request to a node comes to: a response of status 200, whose body has a partial signature
or not, a response of another status, or an `httpx.RequestError`. -/
inductive NodeAnswer
  | ok (partialSignature : Option String)
  | status (code : ℕ)
  | requestError
  deriving DecidableEq, Repr

/-- The partial signature of an answer. -/
def NodeAnswer.partialSignature : NodeAnswer → Option String
  | ok partialSignature => partialSignature
  | status _ | requestError => none

/-- The nodes by their URLs. -/
abbrev Nodes := String → PartialSignRequest → NodeAnswer

/-- Settings of the gateway. -/
structure Settings where
  mpcThreshold : ℤ
  mpcTotalNodes : ℤ
  deriving DecidableEq, Repr

/-- `CCPSettings` without an environment. -/
def defaultSettings : Settings where
  mpcThreshold := 2
  mpcTotalNodes := 3

/-- `MPC_NODE_URLS`. -/
def mpcNodeUrls (settings : Settings) : List String :=
  (List.range settings.mpcTotalNodes.toNat).map fun i =>
    "http://mpc-node-" ++ toString (i + 1) ++ ":8020"

/-- `SignRequest`. -/
structure SignRequest where
  txBytes : String
  chainId : String
  deriving DecidableEq, Repr

/-- `SignResponse`. -/
structure SignResponse where
  signedTxBytes : String
  signatures : List String
  thresholdMet : Bool
  deriving DecidableEq, Repr

/-- A response of the gateway other than 200. -/
structure HttpError where
  statusCode : ℕ
  detail : String
  deriving DecidableEq, Repr

/-- The request in a body. -/
def SignRequest.ofJson (body : JsonObject) : Option SignRequest := do
  let txBytes ← strField "tx_bytes" body
  let chainId ← strField "chain_id" body
  pure { txBytes, chainId }

/-- The body of a response. -/
def SignResponse.toJson (response : SignResponse) : JsonObject :=
  [("signed_tx_bytes", .string response.signedTxBytes),
    ("signatures", .strings response.signatures),
    ("threshold_met", .boolean response.thresholdMet)]

/-- An exception in the gateway that is not an `HTTPException`. -/
def internalServerError : HttpError where
  statusCode := 500
  detail := "Internal Server Error"

/-- `base64.b64decode`, where the gateway does not catch what it raises. -/
def decodeOrRaise (text : String) : Except HttpError (List UInt8) :=
  (b64decode text).elim (.error internalServerError) .ok

/-- `hexdigest` of a digest. -/
def hexdigest (digest : List UInt8) : String :=
  String.ofList (digest.flatMap fun byte =>
    [Nat.digitChar (byte.toNat / 16), Nat.digitChar (byte.toNat % 16)])

/-- One round of the loop over the nodes; a 200 without a partial signature is a `KeyError`. -/
def collectSignature (nodes : Nodes) (request : PartialSignRequest)
    (partialSignatures : List String) (nodeUrl : String) : Except HttpError (List String) :=
  match nodes nodeUrl request with
  | .ok (some partialSignature) => .ok (partialSignatures ++ [partialSignature])
  | .ok none => .error internalServerError
  | .status _ | .requestError => .ok partialSignatures

section Digests

variable (sha256 : List UInt8 → List UInt8)

/-- What `_combine_signatures` puts behind the transaction. -/
def combinedSignature (partialSigs : List String) : List UInt8 :=
  let sigMaterial := "|".intercalate (partialSigs.mergeSort fun left right => left ≤ right)
  sha256 sigMaterial.toUTF8.toList

/-- `_combine_signatures`. -/
def combineSignatures (txBytesB64 : String) (partialSigs : List String) :
    Except HttpError String := do
  let txBytes ← decodeOrRaise txBytesB64
  pure (b64encode (txBytes ++ combinedSignature sha256 partialSigs))

/-- `sign_transaction` after the loop over the nodes. -/
def combineAboveThreshold (settings : Settings) (txBytesB64 : String)
    (partialSignatures : List String) : Except HttpError SignResponse :=
  if (partialSignatures.length : ℤ) < settings.mpcThreshold then
    .error
      { statusCode := 503
        detail := "Threshold not met: got " ++ toString partialSignatures.length ++ " of " ++
          toString settings.mpcThreshold ++ " required signatures" }
  else do
    let combined ← combineSignatures sha256 txBytesB64 partialSignatures
    pure
      { signedTxBytes := combined
        signatures := partialSignatures
        thresholdMet := true }

/-- `sign_transaction`. -/
def signTransaction (settings : Settings) (nodes : Nodes) (request : SignRequest) :
    Except HttpError SignResponse := do
  let txBytes ← decodeOrRaise request.txBytes
  let txHash := hexdigest (sha256 txBytes)
  let partialSignatures ← (mpcNodeUrls settings).foldlM
    (collectSignature nodes { txHash, chainId := request.chainId }) []
  combineAboveThreshold sha256 settings request.txBytes partialSignatures

/-- `POST /sign`. -/
def postSign (settings : Settings) (nodes : Nodes) (body : JsonObject) :
    Except HttpError JsonObject :=
  match SignRequest.ofJson body with
  | none => .error { statusCode := 422, detail := "Unprocessable Entity" }
  | some request => (signTransaction sha256 settings nodes request).map SignResponse.toJson

end Digests

/-- A chain identifier in the client; the type hint is `int`, and the settlement engine passes the
string of the instruction. -/
inductive ChainId
  | int (value : ℤ)
  | str (value : String)
  deriving DecidableEq, Repr

/-- `SigningRequest`. -/
structure SigningRequest where
  txBytes : String
  chainId : ℤ
  deriving DecidableEq, Repr

/-- `SigningResponse`. -/
structure SigningResponse where
  signedTxBytes : String
  signatures : List String
  deriving DecidableEq, Repr

/-- What the client raises. -/
inductive SigningFailure
  | validationError (model : String)
  | connectionError (cause : HttpError)
  deriving DecidableEq, Repr

/-- The body of a request. -/
def SigningRequest.toJson (request : SigningRequest) : JsonObject :=
  [("tx_bytes", .string request.txBytes), ("chain_id", .number request.chainId)]

/-- The response in a body; fields that it does not declare are ignored. -/
def SigningResponse.ofJson (body : JsonObject) : Option SigningResponse := do
  let signedTxBytes ← strField "signed_tx_bytes" body
  let signatures ← strListField "signatures" body
  pure { signedTxBytes, signatures }

/-- `_post` with a body as JSON; an `HTTPError` is an `URLError`. -/
def exchange (gateway : JsonObject → Except HttpError JsonObject) (data : JsonObject) :
    Except SigningFailure SigningResponse :=
  match gateway data with
  | .error cause => .error (.connectionError cause)
  | .ok respData =>
      match SigningResponse.ofJson respData with
      | some response => .ok response
      | none => .error (.validationError "SigningResponse")

/-- `_post`. -/
def post (gateway : JsonObject → Except HttpError JsonObject) (body : SigningRequest) :
    Except SigningFailure SigningResponse :=
  exchange gateway body.toJson

section Client

variable (intOf : String → Option ℤ)

/-- A value for a field of type `int`, where `intOf` is what lax mode makes of a string. -/
def validateInt : ChainId → Option ℤ
  | .int value => some value
  | .str value => intOf value

/-- `SigningRequest(...)`. -/
def signingRequest (txBytes : String) (chainId : ChainId) : Except SigningFailure SigningRequest :=
  match validateInt intOf chainId with
  | some chainId => .ok { txBytes, chainId }
  | none => .error (.validationError "SigningRequest")

/-- `SigningClient.sign`. -/
def sign (gateway : JsonObject → Except HttpError JsonObject) (txBytes : List UInt8)
    (chainId : ChainId) : Except SigningFailure SigningResponse := do
  let requestBody ← signingRequest intOf (b64encode txBytes) chainId
  post gateway requestBody

end Client

/-- `ChainRegistry.register`. -/
def register {Adapter : Type} (registry : List (String × Adapter)) (chainId : String)
    (adapter : Adapter) : List (String × Adapter) :=
  (chainId, adapter) :: registry

/-- `_build_chain_registry`. -/
def buildChainRegistry {Adapter : Type} (stub : Adapter) : List (String × Adapter) :=
  register (register [] "ethereum-mainnet" stub) "polygon-mainnet" stub

/-- The partial signatures of the nodes that answer a request successfully. -/
def partialSignatures (settings : Settings) (nodes : Nodes) (request : PartialSignRequest) :
    List String :=
  (mpcNodeUrls settings).filterMap fun nodeUrl => (nodes nodeUrl request).partialSignature

/-- What the nodes are asked to sign. -/
def nodeRequest (sha256 : List UInt8 → List UInt8) (txBytes : List UInt8) (chainId : String) :
    PartialSignRequest where
  txHash := hexdigest (sha256 txBytes)
  chainId := chainId

/-- What signing a transaction should come to: if enough nodes answer successfully, a response with
the transaction and the combined signature behind it, and else an exception. -/
structure RoundTrips (sha256 : List UInt8 → List UInt8) (settings : Settings) (nodes : Nodes)
    (txBytes : List UInt8) (chainId : String) (result : Except SigningFailure SigningResponse) :
    Prop where
  returns : settings.mpcThreshold ≤
      (partialSignatures settings nodes (nodeRequest sha256 txBytes chainId)).length →
    ∃ response, result = .ok response ∧
      b64decode response.signedTxBytes =
        some (txBytes ++ combinedSignature sha256
          (partialSignatures settings nodes (nodeRequest sha256 txBytes chainId)))
  refuses : (partialSignatures settings nodes (nodeRequest sha256 txBytes chainId)).length <
      settings.mpcThreshold →
    ∃ failure, result = .error failure

section Results

variable {sha256 : List UInt8 → List UInt8} {settings : Settings} {nodes : Nodes}

theorem foldlM_collectSignature {request : PartialSignRequest} {nodeUrls : List String}
    (readable : ∀ nodeUrl ∈ nodeUrls, nodes nodeUrl request ≠ .ok none) (collected : List String) :
    nodeUrls.foldlM (collectSignature nodes request) collected =
      .ok (collected ++
        nodeUrls.filterMap fun nodeUrl => (nodes nodeUrl request).partialSignature) := by
  induction nodeUrls generalizing collected with
  | nil => simp [pure, Except.pure]
  | cons nodeUrl rest induction =>
      obtain ⟨head, tail⟩ := List.forall_mem_cons.mp readable
      rw [List.foldlM_cons]
      cases answer : nodes nodeUrl request with
      | ok signature =>
          cases signature with
          | none => exact absurd answer head
          | some signature =>
              simp only [collectSignature, answer]
              exact (induction tail _).trans (by
                simp [answer, NodeAnswer.partialSignature])
      | status code =>
          simp only [collectSignature, answer]
          exact (induction tail _).trans (by simp [answer, NodeAnswer.partialSignature])
      | requestError =>
          simp only [collectSignature, answer]
          exact (induction tail _).trans (by simp [answer, NodeAnswer.partialSignature])

theorem decodeOrRaise_of_decoded {text : String} {bytes : List UInt8}
    (decoded : b64decode text = some bytes) : decodeOrRaise text = .ok bytes := by
  rw [decodeOrRaise, decoded, Option.elim_some]

/-- The gateway combines the partial signatures of the nodes that answer successfully. -/
theorem signTransaction_eq {txBytes : List UInt8} {chainId : String}
    (readable : ∀ nodeUrl ∈ mpcNodeUrls settings,
      nodes nodeUrl (nodeRequest sha256 txBytes chainId) ≠ .ok none) :
    signTransaction sha256 settings nodes { txBytes := b64encode txBytes, chainId } =
      combineAboveThreshold sha256 settings (b64encode txBytes)
        (partialSignatures settings nodes (nodeRequest sha256 txBytes chainId)) := by
  have decoded := decodeOrRaise_of_decoded (b64decode_b64encode txBytes)
  have collected := foldlM_collectSignature readable []
  rw [List.nil_append] at collected
  rw [signTransaction]
  rw [decoded]
  change (_ >>= combineAboveThreshold sha256 settings (b64encode txBytes)) = _
  exact congrArg (· >>= combineAboveThreshold sha256 settings (b64encode txBytes)) collected

theorem combineAboveThreshold_fewer (sha256 : List UInt8 → List UInt8) (txBytesB64 : String)
    {partialSigs : List String}
    (fewer : partialSigs.length < settings.mpcThreshold) :
    ∃ refusal, combineAboveThreshold sha256 settings txBytesB64 partialSigs = .error refusal :=
  ⟨_, if_pos fewer⟩

theorem combineAboveThreshold_enough (txBytes : List UInt8) {partialSigs : List String}
    (enough : settings.mpcThreshold ≤ partialSigs.length) :
    combineAboveThreshold sha256 settings (b64encode txBytes) partialSigs =
      .ok
        { signedTxBytes := b64encode (txBytes ++ combinedSignature sha256 partialSigs)
          signatures := partialSigs
          thresholdMet := true } := by
  rw [combineAboveThreshold, if_neg (not_lt.mpr enough), combineSignatures,
    decodeOrRaise_of_decoded (b64decode_b64encode txBytes)]
  rfl

/-- The client reads what the gateway writes. -/
theorem exchange_of_response {gateway : JsonObject → Except HttpError JsonObject}
    {data : JsonObject} {response : SignResponse} (answered : gateway data = .ok response.toJson) :
    exchange gateway data =
      .ok { signedTxBytes := response.signedTxBytes, signatures := response.signatures } := by
  have reads : SigningResponse.ofJson response.toJson =
      some { signedTxBytes := response.signedTxBytes, signatures := response.signatures } := rfl
  simp only [exchange, answered, reads]

theorem exchange_of_error {gateway : JsonObject → Except HttpError JsonObject}
    {data : JsonObject} {cause : HttpError} (refused : gateway data = .error cause) :
    exchange gateway data = .error (.connectionError cause) := by
  simp only [exchange, refused]

/-- The gateway reads a body whose chain identifier is a string. -/
theorem postSign_of_string (sha256 : List UInt8 → List UInt8) (settings : Settings) (nodes : Nodes)
    (txBytes chainId : String) :
    postSign sha256 settings nodes [("tx_bytes", .string txBytes), ("chain_id", .string chainId)] =
      (signTransaction sha256 settings nodes { txBytes, chainId }).map SignResponse.toJson := by
  have reads : SignRequest.ofJson [("tx_bytes", .string txBytes), ("chain_id", .string chainId)] =
      some { txBytes, chainId } := rfl
  simp only [postSign, reads]

/-- With a string for the chain identifier, the exchange round trips. -/
theorem exchange_roundTrips {txBytes : List UInt8} {chainId : String}
    (readable : ∀ nodeUrl ∈ mpcNodeUrls settings,
      nodes nodeUrl (nodeRequest sha256 txBytes chainId) ≠ .ok none) :
    RoundTrips sha256 settings nodes txBytes chainId
      (exchange (postSign sha256 settings nodes)
        [("tx_bytes", .string (b64encode txBytes)), ("chain_id", .string chainId)]) := by
  have posted := postSign_of_string sha256 settings nodes (b64encode txBytes) chainId
  rw [signTransaction_eq readable] at posted
  constructor
  · intro enough
    rw [combineAboveThreshold_enough txBytes enough, Except.map] at posted
    exact ⟨_, exchange_of_response posted, b64decode_b64encode _⟩
  · intro fewer
    obtain ⟨refusal, refused⟩ := combineAboveThreshold_fewer sha256 (b64encode txBytes) fewer
    rw [refused, Except.map] at posted
    exact ⟨_, exchange_of_error posted⟩

/-- No request of the client is one of the gateway. -/
theorem postSign_of_signingRequest (sha256 : List UInt8 → List UInt8) (settings : Settings)
    (nodes : Nodes) (request : SigningRequest) :
    postSign sha256 settings nodes request.toJson =
      .error { statusCode := 422, detail := "Unprocessable Entity" } := by
  have reads : SignRequest.ofJson request.toJson = none := rfl
  simp only [postSign, reads]

/-- The client never returns, whatever the chain and the nodes. -/
theorem sign_raises (sha256 : List UInt8 → List UInt8) (intOf : String → Option ℤ)
    (settings : Settings) (nodes : Nodes) (txBytes : List UInt8) (chainId : ChainId) :
    ∃ failure, sign intOf (postSign sha256 settings nodes) txBytes chainId = .error failure := by
  cases validated : validateInt intOf chainId with
  | none =>
      refine ⟨.validationError "SigningRequest", ?_⟩
      simp only [sign, signingRequest, validated, bind, Except.bind]
  | some number =>
      have refused := exchange_of_error (postSign_of_signingRequest sha256 settings nodes
        { txBytes := b64encode txBytes, chainId := number })
      refine ⟨_, Eq.trans ?_ refused⟩
      simp only [sign, signingRequest, validated, bind, Except.bind, post]

/-- Signing round trips exactly if fewer nodes than the threshold answer successfully, and there is
nothing to return. -/
theorem sign_roundTrips_iff (sha256 : List UInt8 → List UInt8) (intOf : String → Option ℤ)
    (settings : Settings) (nodes : Nodes) (txBytes : List UInt8) (chainId : String) :
    RoundTrips sha256 settings nodes txBytes chainId
        (sign intOf (postSign sha256 settings nodes) txBytes (.str chainId)) ↔
      (partialSignatures settings nodes (nodeRequest sha256 txBytes chainId)).length <
        settings.mpcThreshold := by
  obtain ⟨failure, raised⟩ := sign_raises sha256 intOf settings nodes txBytes (.str chainId)
  constructor
  · intro roundTrips
    by_contra enough
    obtain ⟨response, returned, -⟩ := roundTrips.returns (not_lt.mp enough)
    rw [raised] at returned
    cases returned
  · intro fewer
    exact
      { returns := fun enough => absurd fewer (not_lt.mpr enough)
        refuses := fun _ => ⟨failure, raised⟩ }

end Results

/-- Three nodes that all answer successfully, for a transaction on a registered chain. -/
theorem not_roundTrips_ethereum :
    "ethereum-mainnet" ∈ (buildChainRegistry ()).map Prod.fst ∧
      ¬RoundTrips (fun _ => List.replicate 32 0) defaultSettings
        (fun nodeUrl _ => .ok (some nodeUrl)) [1, 2, 3] "ethereum-mainnet"
        (sign String.toInt?
          (postSign (fun _ => List.replicate 32 0) defaultSettings
            fun nodeUrl _ => .ok (some nodeUrl))
          [1, 2, 3] (.str "ethereum-mainnet")) := by
  refine ⟨by simp [buildChainRegistry, register], fun roundTrips => ?_⟩
  obtain ⟨failure, raised⟩ := sign_raises (fun _ => List.replicate 32 0) String.toInt?
    defaultSettings (fun nodeUrl _ => .ok (some nodeUrl)) [1, 2, 3] (.str "ethereum-mainnet")
  have enough : defaultSettings.mpcThreshold ≤
      (partialSignatures defaultSettings (fun nodeUrl _ => .ok (some nodeUrl))
        (nodeRequest (fun _ => List.replicate 32 0) [1, 2, 3] "ethereum-mainnet")).length := by
    simp [partialSignatures, mpcNodeUrls, defaultSettings, NodeAnswer.partialSignature]
  obtain ⟨response, returned, -⟩ := roundTrips.returns enough
  rw [raised] at returned
  cases returned

end Signing

end ClearingHouse
