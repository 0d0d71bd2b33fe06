import ClearingHouse.Library.TextFields
import ClearingHouse.Signing

/-!
# Signing nodes

A node keeps the key share that it has read first and signs with it by HMAC.  The gateway puts a
digest of the sorted partial signatures behind the transaction, so what it returns tells which
nodes have answered.
-/

namespace ClearingHouse

namespace Signing

open Base64 (b64encode b64decode)
open TextFields

/-- The file of a key share when it is looked for. -/
inductive KeyShareFile
  | missing
  | unreadable
  | contents (bytes : List UInt8)
  deriving DecidableEq, Repr

/-- A node: `NODE_ID`, `KEY_SHARE_PATH` and `_key_share`. -/
structure MpcNode where
  nodeId : String
  keySharePath : String
  keyShare : Option (List UInt8)
  deriving DecidableEq, Repr

section Digests

variable (sha256 : List UInt8 → List UInt8)

/-- The key share of a node without a file. -/
def generatedKeyShare (node : MpcNode) : List UInt8 :=
  sha256 ("mpc-key-share-" ++ node.nodeId).toUTF8.toList

/-- `_load_key_share`; `none` is the exception of `open`. -/
def loadKeyShare (file : KeyShareFile) (node : MpcNode) : Option (List UInt8) × MpcNode :=
  let load (share : List UInt8) := (some share, { node with keyShare := some share })
  match node.keyShare with
  | some share => (some share, node)
  | none =>
      if node.keySharePath = "" then load (generatedKeyShare sha256 node)
      else
        match file with
        | .missing => load (generatedKeyShare sha256 node)
        | .unreadable => (none, node)
        | .contents bytes => load bytes

/-- `hmac.new(key, message, hashlib.sha256).digest()`. -/
def hmacSha256 (key message : List UInt8) : List UInt8 :=
  let shortened := if 64 < key.length then sha256 key else key
  let block := shortened ++ List.replicate (64 - shortened.length) 0
  sha256 (block.map (· ^^^ 0x5c) ++ sha256 (block.map (· ^^^ 0x36) ++ message))

/-- The partial signature under a key share. -/
def partialSignature (share : List UInt8) (request : PartialSignRequest) : String :=
  hexdigest (hmacSha256 sha256 share
    (request.txHash ++ ":" ++ request.chainId).toUTF8.toList)

/-- `partial_sign`. -/
def partialSign (file : KeyShareFile) (node : MpcNode) (request : PartialSignRequest) :
    NodeAnswer × MpcNode :=
  match loadKeyShare sha256 file node with
  | (some share, loaded) => (.ok (some (partialSignature sha256 share request)), loaded)
  | (none, loaded) => (.status 500, loaded)

/-- The nodes by their URLs. -/
abbrev Deployment := String → MpcNode

/-- A request to `POST /sign`, with the file of each node that can be reached meanwhile. -/
structure Post where
  body : JsonObject
  reached : String → Option KeyShareFile

/-- What the nodes answer. -/
def answersOf (deployment : Deployment) (post : Post) : Nodes := fun nodeUrl request =>
  (post.reached nodeUrl).elim .requestError fun file =>
    (partialSign sha256 file (deployment nodeUrl) request).1

/-- The transaction of a request, if the gateway gets as far as asking the nodes. -/
def asksFor (body : JsonObject) : Option (List UInt8) :=
  (SignRequest.ofJson body).bind fun request => b64decode request.txBytes

variable (settings : Settings)

/-- The nodes after a request. -/
def afterPost (deployment : Deployment) (post : Post) : Deployment := fun nodeUrl =>
  if (asksFor post.body).isSome ∧ nodeUrl ∈ mpcNodeUrls settings then
    (post.reached nodeUrl).elim (deployment nodeUrl) fun file =>
      (loadKeyShare sha256 file (deployment nodeUrl)).2
  else deployment nodeUrl

/-- The nodes that sign a request, in the order of the configuration: it reaches them, and they have
a key share after it. -/
def signersOf (deployment : Deployment) (post : Post) : List String :=
  (mpcNodeUrls settings).filter fun nodeUrl =>
    (post.reached nodeUrl).isSome ∧
      (afterPost sha256 settings deployment post nodeUrl).keyShare.isSome

/-- The nodes after some requests. -/
def afterPosts (deployment : Deployment) (posts : List Post) : Deployment :=
  posts.foldl (afterPost sha256 settings) deployment

end Digests

variable {sha256 : List UInt8 → List UInt8} {settings : Settings} {deployment : Deployment}

/-- A node that has a key share keeps it. -/
theorem keyShare_afterPosts (posts : List Post) {nodeUrl : String} {share : List UInt8}
    (loaded : (deployment nodeUrl).keyShare = some share) :
    (afterPosts sha256 settings deployment posts nodeUrl).keyShare = some share := by
  induction posts generalizing deployment with
  | nil => exact loaded
  | cons post posts induction =>
      apply induction
      rw [afterPost]
      split
      · cases post.reached nodeUrl with
        | none => exact loaded
        | some file =>
            simp only [Option.elim_some, loadKeyShare, loaded]
      · exact loaded

/-- What a node loads is the share that it has afterwards. -/
theorem loadKeyShare_fst (sha256 : List UInt8 → List UInt8) (file : KeyShareFile)
    (node : MpcNode) :
    (loadKeyShare sha256 file node).1 = (loadKeyShare sha256 file node).2.keyShare := by
  unfold loadKeyShare
  cases known : node.keyShare with
  | some share => exact known.symm
  | none =>
      by_cases unset : node.keySharePath = ""
      · simp only [unset, if_true]
      · simp only [unset, if_false]
        cases file with
        | missing => rfl
        | unreadable => exact known.symm
        | contents bytes => rfl

/-- A node signs with the share that it has afterwards, or fails without one. -/
theorem partialSign_fst (sha256 : List UInt8 → List UInt8) (file : KeyShareFile)
    (node : MpcNode) (request : PartialSignRequest) :
    (partialSign sha256 file node request).1 =
      match (loadKeyShare sha256 file node).2.keyShare with
      | some share => .ok (some (partialSignature sha256 share request))
      | none => .status 500 := by
  rw [← loadKeyShare_fst, partialSign]
  generalize loadKeyShare sha256 file node = loading
  obtain ⟨found, after⟩ := loading
  cases found <;> rfl

/-- The share that a node has. -/
def shareOf (deployment : Deployment) (nodeUrl : String) : List UInt8 :=
  (deployment nodeUrl).keyShare.getD []

/-- The response to a request that some nodes have signed. -/
def signedResponse (sha256 : List UInt8 → List UInt8) (deployment : Deployment)
    (txBytes : List UInt8) (chainId : String) (signers : List String) : SignResponse :=
  let signatures := signers.map fun nodeUrl =>
    partialSignature sha256 (shareOf deployment nodeUrl) (nodeRequest sha256 txBytes chainId)
  { signedTxBytes := b64encode (txBytes ++ combinedSignature sha256 signatures)
    signatures
    thresholdMet := true }

theorem answersOf_ne_unreadable (deployment : Deployment) (post : Post) (nodeUrl : String)
    (request : PartialSignRequest) :
    answersOf sha256 deployment post nodeUrl request ≠ .ok none := by
  rw [answersOf]
  cases post.reached nodeUrl with
  | none => simp
  | some file =>
      rw [Option.elim_some, partialSign_fst]
      split <;> simp

theorem signTransaction_of_decoded (sha256 : List UInt8 → List UInt8) (settings : Settings)
    (nodes : Nodes) {request : SignRequest} {txBytes : List UInt8}
    (decoded : b64decode request.txBytes = some txBytes)
    (readable : ∀ nodeUrl ∈ mpcNodeUrls settings,
      nodes nodeUrl (nodeRequest sha256 txBytes request.chainId) ≠ .ok none) :
    signTransaction sha256 settings nodes request =
      combineAboveThreshold sha256 settings request.txBytes
        (partialSignatures settings nodes (nodeRequest sha256 txBytes request.chainId)) := by
  have collected := foldlM_collectSignature readable []
  rw [List.nil_append] at collected
  rw [signTransaction]
  rw [decodeOrRaise_of_decoded decoded]
  change (_ >>= combineAboveThreshold sha256 settings request.txBytes) = _
  exact congrArg (· >>= combineAboveThreshold sha256 settings request.txBytes) collected

/-- The answer of a configured node: the signature under the share that it has after the request,
if it is reached and has one. -/
theorem partialSignature_answersOf (deployment : Deployment) {post : Post} {txBytes : List UInt8}
    (asked : asksFor post.body = some txBytes) (request : PartialSignRequest) {nodeUrl : String}
    (known : nodeUrl ∈ mpcNodeUrls settings) :
    (answersOf sha256 deployment post nodeUrl request).partialSignature =
      (post.reached nodeUrl).bind fun _ =>
        (afterPost sha256 settings deployment post nodeUrl).keyShare.map fun share =>
          partialSignature sha256 share request := by
  rw [answersOf]
  cases reached : post.reached nodeUrl with
  | none => rfl
  | some file =>
      have after : afterPost sha256 settings deployment post nodeUrl =
          (loadKeyShare sha256 file (deployment nodeUrl)).2 := by
        simp only [afterPost, asked, Option.isSome_some, known, and_self, if_true, reached,
          Option.elim_some]
      rw [Option.elim_some, partialSign_fst, Option.bind_some, after]
      cases (loadKeyShare sha256 file (deployment nodeUrl)).2.keyShare <;> rfl

/-- The signers of a request keep their shares. -/
theorem keyShare_of_signer (later : List Post) {post : Post} {nodeUrl : String}
    (signer : nodeUrl ∈ signersOf sha256 settings deployment post) :
    ∃ share, (afterPost sha256 settings deployment post nodeUrl).keyShare = some share ∧
      (afterPosts sha256 settings deployment (post :: later) nodeUrl).keyShare = some share := by
  obtain ⟨-, -, loaded⟩ := by simpa [signersOf] using signer
  obtain ⟨share, found⟩ := Option.isSome_iff_exists.mp loaded
  exact ⟨share, found, keyShare_afterPosts later found⟩

/-- The signers of a request sign it with the shares that they keep. -/
theorem partialSignatures_eq (sha256 : List UInt8 → List UInt8) (settings : Settings)
    (deployment : Deployment) {post : Post} {txBytes : List UInt8}
    (asked : asksFor post.body = some txBytes) (later : List Post)
    (request : PartialSignRequest) :
    partialSignatures settings (answersOf sha256 deployment post) request =
      (signersOf sha256 settings deployment post).map fun nodeUrl => partialSignature sha256
        (shareOf (afterPosts sha256 settings deployment (post :: later)) nodeUrl) request := by
  rw [partialSignatures, signersOf, ← List.filterMap_eq_map, List.filterMap_filter]
  apply List.filterMap_congr
  intro nodeUrl known
  rw [partialSignature_answersOf deployment asked request known]
  cases reached : post.reached nodeUrl with
  | none => simp
  | some file =>
      cases loaded : (afterPost sha256 settings deployment post nodeUrl).keyShare with
      | none => simp
      | some share =>
          have kept : (afterPosts sha256 settings deployment (post :: later) nodeUrl).keyShare =
              some share := keyShare_afterPosts later loaded
          simp [shareOf, kept]

/-- What the gateway answers to a request, in terms of the shares that the nodes have after it and
some others. -/
theorem postSign_cases (sha256 : List UInt8 → List UInt8) (settings : Settings)
    (deployment : Deployment) (post : Post) (later : List Post) :
    let answer := postSign sha256 settings (answersOf sha256 deployment post) post.body
    let final := afterPosts sha256 settings deployment (post :: later)
    let signers := signersOf sha256 settings deployment post
    (SignRequest.ofJson post.body = none ∧
        answer = .error { statusCode := 422, detail := "Unprocessable Entity" }) ∨
      ∃ request, SignRequest.ofJson post.body = some request ∧
        ((b64decode request.txBytes = none ∧ answer = .error internalServerError) ∨
          ∃ txBytes, b64decode request.txBytes = some txBytes ∧
            answer =
              if (signers.length : ℤ) < settings.mpcThreshold then
                .error
                  { statusCode := 503
                    detail := "Threshold not met: got " ++ toString signers.length ++ " of " ++
                      toString settings.mpcThreshold ++ " required signatures" }
              else .ok (signedResponse sha256 final txBytes request.chainId signers).toJson) := by
  dsimp only
  cases reads : SignRequest.ofJson post.body with
  | none => exact .inl ⟨rfl, by simp only [postSign, reads]⟩
  | some request =>
      refine .inr ⟨request, rfl, ?_⟩
      cases decoded : b64decode request.txBytes with
      | none =>
          refine .inl ⟨rfl, ?_⟩
          simp only [postSign, reads, signTransaction, decodeOrRaise, decoded, Option.elim_none]
          rfl
      | some txBytes =>
          have asked : asksFor post.body = some txBytes := by simp [asksFor, reads, decoded]
          have signatures := partialSignatures_eq sha256 settings deployment asked later
            (nodeRequest sha256 txBytes request.chainId)
          have transacted := signTransaction_of_decoded sha256 settings
            (answersOf sha256 deployment post) decoded
            fun nodeUrl _ => answersOf_ne_unreadable deployment post nodeUrl _
          refine .inr ⟨txBytes, rfl, ?_⟩
          simp only [postSign, reads, transacted, signatures, combineAboveThreshold,
            List.length_map]
          split
          · rfl
          · rw [combineSignatures, decodeOrRaise_of_decoded decoded]
            rfl

/-- In every run the gateway refuses a request that it cannot read, and one that fewer nodes than
the threshold can sign; what it returns otherwise is signed by all the nodes that were reached and
have a share, with the shares that they have at the end of the run, however often the files of the
shares change. -/
theorem postSign_of_run (sha256 : List UInt8 → List UInt8) (settings : Settings)
    (start : Deployment) (before : List Post) (post : Post) (later : List Post) :
    let deployment := afterPosts sha256 settings start before
    let answer := postSign sha256 settings (answersOf sha256 deployment post) post.body
    let final := afterPosts sha256 settings start (before ++ post :: later)
    let signers := signersOf sha256 settings deployment post
    (∀ nodeUrl ∈ signers, ∃ share,
        (afterPost sha256 settings deployment post nodeUrl).keyShare = some share ∧
          (final nodeUrl).keyShare = some share) ∧
      ((SignRequest.ofJson post.body = none ∧
          answer = .error { statusCode := 422, detail := "Unprocessable Entity" }) ∨
        ∃ request, SignRequest.ofJson post.body = some request ∧
          ((b64decode request.txBytes = none ∧ answer = .error internalServerError) ∨
            ∃ txBytes, b64decode request.txBytes = some txBytes ∧
              answer =
                if (signers.length : ℤ) < settings.mpcThreshold then
                  .error
                    { statusCode := 503
                      detail := "Threshold not met: got " ++ toString signers.length ++ " of " ++
                        toString settings.mpcThreshold ++ " required signatures" }
                else
                  .ok (signedResponse sha256 final txBytes request.chainId signers).toJson)) := by
  have split : afterPosts sha256 settings start (before ++ post :: later) =
      afterPosts sha256 settings (afterPosts sha256 settings start before) (post :: later) :=
    List.foldl_append
  simp only [split]
  exact ⟨fun nodeUrl signer => keyShare_of_signer later signer,
    postSign_cases sha256 settings _ post later⟩

/-- What `_combine_signatures` hashes. -/
def sigMaterial (partialSigs : List String) : List UInt8 :=
  ("|".intercalate (partialSigs.mergeSort fun left right => left ≤ right)).toUTF8.toList

theorem bar_notMem_hexdigest (digest : List UInt8) : '|' ∉ (hexdigest digest).toList := by
  rw [hexdigest, String.toList_ofList]
  intro member
  obtain ⟨byte, -, digit⟩ := List.mem_flatMap.mp member
  have digits : ∀ n : Fin 16, Nat.digitChar n ≠ '|' := by decide
  have high := digits ⟨byte.toNat / 16, by have := byte.toNat_lt; omega⟩
  have low := digits ⟨byte.toNat % 16, by omega⟩
  simp only [List.mem_cons, List.not_mem_nil, or_false] at digit
  rcases digit with same | same
  · exact high same.symm
  · exact low same.symm

/-- Texts without a bar are told from their sorted sequence up to their order. -/
theorem sigMaterial_eq_iff {partialSigs partialSigs' : List String}
    (clean : ∀ signature ∈ partialSigs, '|' ∉ signature.toList)
    (clean' : ∀ signature ∈ partialSigs', '|' ∉ signature.toList)
    (some_signature : partialSigs ≠ []) (some_signature' : partialSigs' ≠ []) :
    sigMaterial partialSigs = sigMaterial partialSigs' ↔ partialSigs.Perm partialSigs' := by
  have sorted : ∀ signatures : List String,
      (signatures.mergeSort fun left right => left ≤ right).Perm signatures :=
    fun signatures => List.mergeSort_perm signatures _
  constructor
  · intro same
    have texts := congrArg String.toList (toUTF8_toList_inj same)
    rw [String.toList_intercalate, String.toList_intercalate] at texts
    change ['|'].intercalate _ = ['|'].intercalate _ at texts
    have parts : (partialSigs.mergeSort fun left right => left ≤ right).map String.toList =
        (partialSigs'.mergeSort fun left right => left ≤ right).map String.toList := by
      refine intercalate_inj ?_ ?_ ?_ ?_ texts
      · simpa using clean
      · simpa using clean'
      · simpa [← List.length_eq_zero_iff] using some_signature
      · simpa [← List.length_eq_zero_iff] using some_signature'
    have lists := List.map_injective_iff.mpr (fun _ _ => String.toList_inj.mp) parts
    exact ((sorted partialSigs).symm.trans (.of_eq lists)).trans (sorted partialSigs')
  · intro perm
    have ordered : ∀ signatures : List String,
        (signatures.mergeSort fun left right => left ≤ right).Pairwise (· ≤ ·) := by
      intro signatures
      have chain : ∀ a b c : String, decide (a ≤ b) = true → decide (b ≤ c) = true →
          decide (a ≤ c) = true := fun _ _ _ first second =>
        decide_eq_true (Std.le_trans (of_decide_eq_true first) (of_decide_eq_true second))
      have total : ∀ a b : String, (decide (a ≤ b) || decide (b ≤ a)) = true := by
        intro a b
        rw [Bool.or_eq_true, decide_eq_true_eq, decide_eq_true_eq]
        exact Std.le_total
      simpa using List.pairwise_mergeSort chain total signatures
    have lists := List.Perm.eq_of_pairwise
      (fun _ _ _ _ first second => Std.le_antisymm first second)
      (ordered partialSigs) (ordered partialSigs')
      (((sorted partialSigs).trans perm).trans (sorted partialSigs').symm)
    rw [sigMaterial, sigMaterial, lists]

/-- What a response of status 200 comes from. -/
theorem signedResponse_of_answer {post : Post} {response : SignResponse}
    (answered : postSign sha256 settings (answersOf sha256 deployment post) post.body =
      .ok response.toJson) :
    ∃ txBytes chainId signers, asksFor post.body = some txBytes ∧
      settings.mpcThreshold ≤ (signers : List String).length ∧
      response = signedResponse sha256 (afterPost sha256 settings deployment post) txBytes chainId
        signers := by
  rcases postSign_cases sha256 settings deployment post [] with
    ⟨-, refused⟩ | ⟨request, reads, ⟨-, refused⟩ | ⟨txBytes, decoded, answer⟩⟩
  · cases answered.symm.trans refused
  · cases answered.symm.trans refused
  · have same := answered.symm.trans answer
    split at same
    · cases same
    · next enough =>
        refine ⟨txBytes, request.chainId, _, by simp [asksFor, reads, decoded],
          not_lt.mp enough, ?_⟩
        have fields := Except.ok.inj same
        simp only [SignResponse.toJson, List.cons.injEq, Prod.mk.injEq, true_and, and_true,
          FieldValue.string.injEq, FieldValue.strings.injEq, FieldValue.boolean.injEq] at fields
        obtain ⟨signedTx, signatures, threshold⟩ := fields
        cases response
        dsimp only at signedTx signatures threshold
        subst signedTx signatures threshold
        rfl

/-- Two responses of the gateway with one transaction, whatever has happened in between: the signed
transactions are the same if the same partial signatures were collected, in any order, and
otherwise they are not, unless SHA-256 collides on what is hashed. -/
theorem signedTxBytes_eq_iff (sha256 : List UInt8 → List UInt8) (settings : Settings)
    (positive : 0 < settings.mpcThreshold) {deployment deployment' : Deployment}
    {post post' : Post} {response response' : SignResponse}
    (answered : postSign sha256 settings (answersOf sha256 deployment post) post.body =
      .ok response.toJson)
    (answered' : postSign sha256 settings (answersOf sha256 deployment' post') post'.body =
      .ok response'.toJson)
    (same : asksFor post.body = asksFor post'.body) :
    response.signedTxBytes = response'.signedTxBytes ↔
      response.signatures.Perm response'.signatures ∨
        sigMaterial response.signatures ≠ sigMaterial response'.signatures ∧
          sha256 (sigMaterial response.signatures) =
            sha256 (sigMaterial response'.signatures) := by
  obtain ⟨txBytes, chainId, signers, asked, enough, rfl⟩ := signedResponse_of_answer answered
  obtain ⟨txBytes', chainId', signers', asked', enough', rfl⟩ :=
    signedResponse_of_answer answered'
  rw [asked, asked', Option.some.injEq] at same
  subst same
  have clean : ∀ (final : Deployment) (request : PartialSignRequest) (signers : List String),
      ∀ signature ∈ signers.map fun nodeUrl =>
        partialSignature sha256 (shareOf final nodeUrl) request, '|' ∉ signature.toList := by
    intro final request signers signature member
    obtain ⟨nodeUrl, -, rfl⟩ := List.mem_map.mp member
    exact bar_notMem_hexdigest _
  have collected : ∀ {signers : List String} {sign : String → String},
      settings.mpcThreshold ≤ signers.length → signers.map sign ≠ [] := by
    intro signers sign enough none
    rw [List.map_eq_nil_iff.mp none] at enough
    simp only [List.length_nil, Nat.cast_zero] at enough
    omega
  have material := sigMaterial_eq_iff
    (clean (afterPost sha256 settings deployment post) (nodeRequest sha256 txBytes chainId) signers)
    (clean (afterPost sha256 settings deployment' post') (nodeRequest sha256 txBytes chainId')
      signers') (collected enough) (collected enough')
  simp only [signedResponse]
  rw [← material]
  have bytes : ∀ text text' : List UInt8, b64encode text = b64encode text' ↔ text = text' := by
    refine fun text text' => ⟨fun encoded => ?_, congrArg b64encode⟩
    have decoded := congrArg b64decode encoded
    rw [Base64.b64decode_b64encode, Base64.b64decode_b64encode] at decoded
    exact Option.some.inj decoded
  refine (bytes _ _).trans ((List.append_cancel_left_eq _ _ _).to_iff.trans ?_)
  constructor
  · intro hashes
    exact (em _).imp_right fun apart => ⟨apart, hashes⟩
  · rintro (equal | ⟨-, hashes⟩)
    · exact congrArg sha256 equal
    · exact hashes

/-- Nodes without key share files. -/
def freshNodes : Deployment := fun nodeUrl => ⟨nodeUrl, "", none⟩

/-- A request to sign a transaction while some nodes cannot be reached. -/
def ethereumPost (unreachable : List String) : Post where
  body := [("tx_bytes", .string (b64encode [1, 2, 3])), ("chain_id", .string "ethereum-mainnet")]
  reached := fun nodeUrl => if nodeUrl ∈ unreachable then none else some .missing

theorem postSign_ethereum (unreachable : List String)
    (enough : (["http://mpc-node-1:8020", "http://mpc-node-2:8020", "http://mpc-node-3:8020"].filter
      fun nodeUrl => nodeUrl ∉ unreachable).length = 3 - unreachable.length)
    (few : unreachable.length ≤ 1) :
    ∃ response : SignResponse, postSign (List.take 32) defaultSettings
      (answersOf (List.take 32) freshNodes (ethereumPost unreachable))
        (ethereumPost unreachable).body = .ok response.toJson := by
  have urls : mpcNodeUrls defaultSettings =
      ["http://mpc-node-1:8020", "http://mpc-node-2:8020", "http://mpc-node-3:8020"] := by decide
  have answers : ∀ request nodeUrl,
      (answersOf (List.take 32) freshNodes (ethereumPost unreachable) nodeUrl
        request).partialSignature.isSome = decide (nodeUrl ∉ unreachable) := by
    intro request nodeUrl
    by_cases away : nodeUrl ∈ unreachable
    · simp [answersOf, ethereumPost, away, NodeAnswer.partialSignature]
    · simp [answersOf, ethereumPost, away, partialSign, loadKeyShare, freshNodes,
        NodeAnswer.partialSignature]
  have count : ∀ request, (partialSignatures defaultSettings
      (answersOf (List.take 32) freshNodes (ethereumPost unreachable)) request).length =
        3 - unreachable.length := by
    intro request
    rw [partialSignatures, List.length_filterMap_eq_countP, List.countP_eq_length_filter, urls]
    simp only [answers]
    exact enough
  have posted := postSign_of_string (List.take 32) defaultSettings
    (answersOf (List.take 32) freshNodes (ethereumPost unreachable)) (b64encode [1, 2, 3])
    "ethereum-mainnet"
  rw [signTransaction_eq fun nodeUrl _ => answersOf_ne_unreadable _ _ _ _,
    combineAboveThreshold_enough _ (by rw [count]; simp only [defaultSettings]; omega)] at posted
  exact ⟨_, posted⟩

/-- The first node is reached by one of two requests. -/
theorem signedTxBytes_eq_iff_ethereum :
    ∃ response response' : SignResponse,
      postSign (List.take 32) defaultSettings
          (answersOf (List.take 32) freshNodes (ethereumPost [])) (ethereumPost []).body =
        .ok response.toJson ∧
      postSign (List.take 32) defaultSettings
          (answersOf (List.take 32) freshNodes (ethereumPost ["http://mpc-node-1:8020"]))
          (ethereumPost ["http://mpc-node-1:8020"]).body =
        .ok response'.toJson ∧
      (response.signedTxBytes = response'.signedTxBytes ↔
        response.signatures.Perm response'.signatures ∨
          sigMaterial response.signatures ≠ sigMaterial response'.signatures ∧
            (sigMaterial response.signatures).take 32 =
              (sigMaterial response'.signatures).take 32) := by
  obtain ⟨response, answered⟩ := postSign_ethereum [] (by decide) (by decide)
  obtain ⟨response', answered'⟩ := postSign_ethereum ["http://mpc-node-1:8020"]
    (by decide) (by decide)
  exact ⟨response, response', answered, answered',
    signedTxBytes_eq_iff (List.take 32) defaultSettings (by decide) answered answered' rfl⟩

end Signing

end ClearingHouse
