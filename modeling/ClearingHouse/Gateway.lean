import ClearingHouse.Events.Consumers
import ClearingHouse.Library.StepSystem

/-!
# The gateway

Requests that submit trades, statement by statement.  A request with an idempotency key looks the
key up first and records it last; another request may do the same in between.
-/

namespace ClearingHouse

namespace Gateway

open StepSystem Transactions Consumers

/-- Body of a request to submit a trade. -/
structure TradeSubmitRequest where
  externalTradeId : String
  instrumentId : Uuid
  buyerMemberId : Uuid
  sellerMemberId : Uuid
  quantity : ℚ
  price : ℚ
  deriving DecidableEq, Repr

/-- `_insert_trade`, where `taken` are the values of the unique column `external_trade_id`. -/
def insertTrade (backend : Backend) (taken : List String) (request : TradeSubmitRequest) :
    Sql Trade := do
  let id ← uuid4
  let quantity ← castNumeric backend request.quantity
  let price ← castNumeric backend request.price
  require (request.externalTradeId ∉ taken)
    (.server (.uniqueViolation "trades_external_trade_id_key"))
  let db ← read
  require (request.instrumentId ∈ db.instruments.map Instrument.id)
    (.server (.foreignKeyViolation "trades_instrument_id_fkey"))
  requireMember request.buyerMemberId "trades_buyer_member_id_fkey"
  requireMember request.sellerMemberId "trades_seller_member_id_fkey"
  let trade : Trade :=
    { id
      instrumentId := request.instrumentId
      buyerMemberId := request.buyerMemberId
      sellerMemberId := request.sellerMemberId
      quantity
      price
      status := .submitted }
  write fun db => { db with trades := db.trades ++ [trade] }
  pure trade

/-- `_insert_trade_outbox_event`. -/
def insertTradeOutboxEvent (trade : Trade) (externalTradeId : String) (trace : TraceContext) :
    Sql Unit := do
  let _ ← insertOutboxEvent "trade" trade.id "trade.submitted" "trades.submitted"
    [("trade_id", .uuid trade.id), ("external_trade_id", .literal externalTradeId),
      ("instrument_id", .uuid trade.instrumentId),
      ("buyer_member_id", .uuid trade.buyerMemberId),
      ("seller_member_id", .uuid trade.sellerMemberId), ("quantity", .decimal trade.quantity),
      ("price", .decimal trade.price), ("actor", .literal trace.actor)] (some trace.traceId)

/-- The row of `processed_events` for an idempotency key. -/
def markOf (key : Text) : ProcessedEvent := ⟨"api-gateway", key⟩

/-- What a request is answered with. -/
inductive Response
  | existing (tradeId : Uuid)
  | created (tradeId : Uuid)
  | unprocessable
  | conflict
  | internalError
  deriving DecidableEq, Repr

/-- The trade of a response. -/
def Response.tradeId? : Response → Option Uuid
  | .existing tradeId | .created tradeId => some tradeId
  | .unprocessable | .conflict | .internalError => none

/-- The response to an exception of a statement. -/
def responseTo : Failure → Response
  | .server (.foreignKeyViolation _) => .unprocessable
  | .server (.uniqueViolation _) => .conflict
  | _ => .internalError

/-- How far `submit_trade` has come: the key is not looked up yet, its row refers to a trade, it was
looked up in vain (or there is no key), the rows of the open transaction, the answer. -/
inductive Stage
  | received
  | referenced (tradeId : Uuid)
  | unknown
  | inserted (trade : Trade)
  | announced (trade : Trade) (event : OutboxEvent)
  | marked (trade : Trade) (event : OutboxEvent) (isNew : Bool)
  | done (response : Response)

/-- The request goes on without a trade of its key, or has done so. -/
def Stage.missed : Stage → Bool
  | .received | .referenced _ | .done (.existing _) => false
  | _ => true

/-- The open transaction has inserted its trade. -/
def Stage.hasInserted : Stage → Bool
  | .inserted _ | .announced _ _ | .marked _ _ _ => true
  | _ => false

/-- A request that is not answered yet; the key is empty without the header. -/
structure Request where
  key : Text
  body : TradeSubmitRequest
  trace : TraceContext
  stage : Stage

/-- What a request has committed: its key, the trade and the event. -/
structure Birth where
  key : Text
  trade : Trade
  event : OutboxEvent

/-- An answer, with the trades that had been committed for its key by then. -/
structure Answer where
  key : Text
  response : Response
  trades : List Uuid

/-- The committed database with two columns that only the gateway reads, `external_trade_id` and
`reference_id`; the requests; what they have committed and the answers. -/
structure Submissions where
  committed : Database
  externalTradeIds : List String
  references : List (ProcessedEvent × Uuid)
  requests : List Request
  born : List Birth
  answers : List Answer

/-- What requests with a key have committed. -/
def Submissions.bornFor (state : Submissions) (key : Text) : List Birth :=
  state.born.filter fun birth => birth.key = key

/-- The first query of `_check_idempotency`; a `NULL` is like no row. -/
def Submissions.reference (state : Submissions) (key : Text) : Option Uuid :=
  if markOf key ∈ state.committed.processedEvents then
    (state.references.find? fun reference => reference.1 = markOf key).map Prod.snd
  else none

/-- What happens next.  A request is numbered by its position. -/
inductive SubmitLabel
  | receive
  | lookUp (position : ℕ)
  | fetch (position : ℕ)
  | insert (position : ℕ)
  | announce (position : ℕ)
  | mark (position : ℕ)
  | commit (position : ℕ)
  | fail (position : ℕ)
  | answer (position : ℕ)
  | stop (position : ℕ)
  | elsewhere

/-- One statement of a request, or a commit of another service.  Identifiers are drawn at once. -/
inductive SubmitStep (backend : Backend) : Submissions → SubmitLabel → Submissions → Prop
  | receive {state : Submissions} (key : Text) (body : TradeSubmitRequest) (trace : TraceContext) :
      SubmitStep backend state .receive
        { state with requests := state.requests ++ [⟨key, body, trace, .received⟩] }
  /-- Without a key nothing is looked up. -/
  | skip {state : Submissions} (front back : List Request) {body : TradeSubmitRequest}
      {trace : TraceContext}
      (requests : state.requests = front ++ ⟨[], body, trace, .received⟩ :: back) :
      SubmitStep backend state (.lookUp front.length)
        { state with requests := front ++ ⟨[], body, trace, .unknown⟩ :: back }
  /-- A key that is no identifier is refused by the query. -/
  | refuseKey {state : Submissions} (front back : List Request) {key : Text}
      {body : TradeSubmitRequest} {trace : TraceContext}
      (requests : state.requests = front ++ ⟨key, body, trace, .received⟩ :: back)
      (present : key ≠ []) (unreadable : uuid? key = none) :
      SubmitStep backend state (.lookUp front.length)
        { state with requests := front ++ ⟨key, body, trace, .done .internalError⟩ :: back }
  | lookUp {state : Submissions} (front back : List Request) {key : Text}
      {body : TradeSubmitRequest} {trace : TraceContext}
      (requests : state.requests = front ++ ⟨key, body, trace, .received⟩ :: back)
      (present : key ≠ []) (readable : (uuid? key).isSome) :
      SubmitStep backend state (.lookUp front.length)
        { state with
          requests := front ++ ⟨key, body, trace,
            match state.reference key with
            | some tradeId => .referenced tradeId
            | none => .unknown⟩ :: back }
  /-- The second query of `_check_idempotency`. -/
  | fetch {state : Submissions} (front back : List Request) {key : Text}
      {body : TradeSubmitRequest} {trace : TraceContext} {tradeId : Uuid}
      (requests : state.requests = front ++ ⟨key, body, trace, .referenced tradeId⟩ :: back) :
      SubmitStep backend state (.fetch front.length)
        { state with
          requests := front ++ ⟨key, body, trace,
            if tradeId ∈ state.committed.trades.map Trade.id then .done (.existing tradeId)
            else .unknown⟩ :: back }
  /-- An insert waits while another transaction has inserted the same `external_trade_id`. -/
  | insert {state : Submissions} (front back : List Request) {key : Text}
      {body : TradeSubmitRequest} {trace : TraceContext} {trade : Trade} {after : Database}
      (requests : state.requests = front ++ ⟨key, body, trace, .unknown⟩ :: back)
      (free : ∀ other ∈ front ++ back, other.stage.hasInserted = true →
        other.body.externalTradeId ≠ body.externalTradeId)
      (ran : insertTrade backend state.externalTradeIds body state.committed = .ok (trade, after)) :
      SubmitStep backend state (.insert front.length)
        { state with
          committed := { state.committed with nextUuid := after.nextUuid }
          requests := front ++ ⟨key, body, trace, .inserted trade⟩ :: back }
  | refuse {state : Submissions} (front back : List Request) {key : Text}
      {body : TradeSubmitRequest} {trace : TraceContext} {failure : Failure}
      (requests : state.requests = front ++ ⟨key, body, trace, .unknown⟩ :: back)
      (free : ∀ other ∈ front ++ back, other.stage.hasInserted = true →
        other.body.externalTradeId ≠ body.externalTradeId)
      (raised : insertTrade backend state.externalTradeIds body state.committed =
        .error failure) :
      SubmitStep backend state (.insert front.length)
        { state with
          requests := front ++ ⟨key, body, trace, .done (responseTo failure)⟩ :: back }
  | announce {state : Submissions} (front back : List Request) {key : Text}
      {body : TradeSubmitRequest} {trace : TraceContext} {trade : Trade} {event : OutboxEvent}
      {after : Database}
      (requests : state.requests = front ++ ⟨key, body, trace, .inserted trade⟩ :: back)
      (ran : insertTradeOutboxEvent trade body.externalTradeId trace state.committed =
        .ok ((), after))
      (appended : after.outboxEvents = state.committed.outboxEvents ++ [event]) :
      SubmitStep backend state (.announce front.length)
        { state with
          committed := { state.committed with nextUuid := after.nextUuid }
          requests := front ++ ⟨key, body, trace, .announced trade event⟩ :: back }
  /-- `_mark_idempotent` waits while another transaction has inserted the same row, and what it
  did is not looked at; without a key it is not called. -/
  | mark {state : Submissions} (front back : List Request) {key : Text}
      {body : TradeSubmitRequest} {trace : TraceContext} {trade : Trade} {event : OutboxEvent}
      (requests : state.requests = front ++ ⟨key, body, trace, .announced trade event⟩ :: back)
      (free : ∀ other ∈ front ++ back, other.key = key → ∀ trade event,
        other.stage ≠ .marked trade event true) :
      SubmitStep backend state (.mark front.length)
        { state with
          requests := front ++ ⟨key, body, trace, .marked trade event
            (key ≠ [] ∧ markOf key ∉ state.committed.processedEvents)⟩ :: back }
  | commit {state : Submissions} (front back : List Request) {key : Text}
      {body : TradeSubmitRequest} {trace : TraceContext} {trade : Trade} {event : OutboxEvent}
      {isNew : Bool}
      (requests : state.requests = front ++ ⟨key, body, trace, .marked trade event isNew⟩ :: back) :
      SubmitStep backend state (.commit front.length)
        { state with
          committed :=
            { state.committed with
              trades := state.committed.trades ++ [trade]
              outboxEvents := state.committed.outboxEvents ++ [event]
              processedEvents := state.committed.processedEvents ++
                if isNew then [markOf key] else [] }
          externalTradeIds := state.externalTradeIds ++ [body.externalTradeId]
          references := state.references ++ if isNew then [(markOf key, trade.id)] else []
          requests := front ++ ⟨key, body, trace, .done (.created trade.id)⟩ :: back
          born := state.born ++ [⟨key, trade, event⟩] }
  /-- A statement of the open transaction raises for a value that its column does not hold. -/
  | fail {state : Submissions} (front back : List Request) {key : Text}
      {body : TradeSubmitRequest} {trace : TraceContext} {stage : Stage}
      (requests : state.requests = front ++ ⟨key, body, trace, stage⟩ :: back)
      (missed : stage.missed = true) (unanswered : ∀ response, stage ≠ .done response) :
      SubmitStep backend state (.fail front.length)
        { state with requests := front ++ ⟨key, body, trace, .done .internalError⟩ :: back }
  | answer {state : Submissions} (front back : List Request) {key : Text}
      {body : TradeSubmitRequest} {trace : TraceContext} {response : Response}
      (requests : state.requests = front ++ ⟨key, body, trace, .done response⟩ :: back) :
      SubmitStep backend state (.answer front.length)
        { state with
          requests := front ++ back
          answers := state.answers ++
            [⟨key, response, (state.bornFor key).map fun birth => birth.trade.id⟩] }
  /-- The process is killed or the client leaves; what is open is rolled back. -/
  | stop {state : Submissions} (front back : List Request) {request : Request}
      (requests : state.requests = front ++ request :: back) :
      SubmitStep backend state (.stop front.length) { state with requests := front ++ back }
  /-- Other services commit; they delete no trade and process no event for the gateway. -/
  | elsewhere {state : Submissions} {after : Database}
      (kept : ∀ id ∈ state.committed.trades.map Trade.id, id ∈ after.trades.map Trade.id)
      (foreign : ∀ key, markOf key ∈ after.processedEvents ↔
        markOf key ∈ state.committed.processedEvents) :
      SubmitStep backend state .elsewhere { state with committed := after }

/-- For every key one trade is committed at most, and a request that is answered after it has been
committed is answered with it. -/
structure OneTradePerKey (state : Submissions) : Prop where
  once : ∀ key, key ≠ [] → (state.bornFor key).length ≤ 1
  answered : ∀ answer ∈ state.answers, answer.key ≠ [] → ∀ tradeId ∈ answer.trades,
    answer.response.tradeId? = some tradeId

/-- When a request commits, no other request has looked its key up in vain and is not answered. -/
def Alone (state : Submissions) : SubmitLabel → Prop
  | .commit position => ∀ request, state.requests[position]? = some request → request.key ≠ [] →
      ∀ other ∈ state.requests.eraseIdx position, other.key = request.key →
        other.stage.missed = false
  | _ => True

/-- What a request has found out agrees with what has been committed for its key. -/
structure Request.Agrees (state : Submissions) (request : Request) : Prop where
  missed : request.key ≠ [] → request.stage.missed = true → ∀ birth ∈ state.born,
    birth.key = request.key → request.stage = .done (.created birth.trade.id)
  found : ∀ tradeId, request.stage = .referenced tradeId ∨
    request.stage = .done (.existing tradeId) ∨ request.stage = .done (.created tradeId) →
      ∃ birth ∈ state.born, birth.key = request.key ∧ birth.trade.id = tradeId
  marked : request.key ≠ [] → ∀ trade event, request.stage = .marked trade event false →
    markOf request.key ∈ state.committed.processedEvents
  isNew : ∀ trade event, request.stage = .marked trade event true → request.key ≠ []
  readable : request.key ≠ [] → request.stage.missed = true →
    (∀ response, request.stage ≠ .done response) → (uuid? request.key).isSome

/-- The invariant of a run. -/
structure Keyed (state : Submissions) : Prop extends OneTradePerKey state where
  marks : ∀ key, key ≠ [] →
    (markOf key ∈ state.committed.processedEvents ↔ ∃ birth ∈ state.born, birth.key = key)
  references : state.references =
    (state.born.filter fun birth => birth.key ≠ []).map fun birth =>
      (markOf birth.key, birth.trade.id)
  rows : ∀ birth ∈ state.born, birth.trade.id ∈ state.committed.trades.map Trade.id
  readable : ∀ birth ∈ state.born, birth.key ≠ [] → (uuid? birth.key).isSome
  agrees : ∀ request ∈ state.requests, request.Agrees state

variable {state before after : Submissions} {front back : List Request} {key : Text}

theorem markOf_inj {other : Text} : markOf key = markOf other ↔ key = other := by
  simp [markOf]

/-- The trades of a key are all the same one. -/
theorem OneTradePerKey.unique (one : OneTradePerKey state) {birth other : Birth}
    (member : birth ∈ state.born) (member' : other ∈ state.born) (present : birth.key ≠ [])
    (same : other.key = birth.key) : other = birth := by
  have inside : birth ∈ state.bornFor birth.key := by simp [Submissions.bornFor, member]
  have inside' : other ∈ state.bornFor birth.key := by simp [Submissions.bornFor, member', same]
  obtain ⟨only, single⟩ := List.length_eq_one_iff.mp
    (le_antisymm (one.once birth.key present) (List.length_pos_of_mem inside))
  rw [single, List.mem_singleton] at inside inside'
  rw [inside, inside']

/-- A reference is the trade of a request that has committed it for the key. -/
theorem Keyed.reference_eq_some (keyed : Keyed state) {tradeId : Uuid}
    (found : state.reference key = some tradeId) :
    ∃ birth ∈ state.born, birth.key = key ∧ birth.trade.id = tradeId := by
  unfold Submissions.reference at found
  split at found
  · rw [keyed.references, Option.map_eq_some_iff] at found
    obtain ⟨reference, first, rfl⟩ := found
    have is_key := List.find?_some first
    obtain ⟨birth, member, rfl⟩ := List.mem_map.mp (List.mem_of_find?_eq_some first)
    exact ⟨birth, List.mem_of_mem_filter member, markOf_inj.mp (by simpa using is_key), rfl⟩
  · cases found

/-- A key without a reference has no trade. -/
theorem Keyed.reference_eq_none (keyed : Keyed state) (present : key ≠ [])
    (missing : state.reference key = none) : ∀ birth ∈ state.born, birth.key ≠ key := by
  rintro birth member rfl
  have marked := (keyed.marks birth.key present).mpr ⟨birth, member, rfl⟩
  rw [Submissions.reference, if_pos marked, Option.map_eq_none_iff, List.find?_eq_none,
    keyed.references] at missing
  refine missing (markOf birth.key, birth.trade.id) (List.mem_map.mpr ⟨birth, ?_, rfl⟩) (by simp)
  simp [member, present]

/-- Agreement depends on the trades and the mark of the key only. -/
theorem Request.Agrees.congr {request : Request} (agrees : request.Agrees before)
    (born : after.born = before.born)
    (marks : markOf request.key ∈ before.committed.processedEvents →
      markOf request.key ∈ after.committed.processedEvents) : request.Agrees after :=
  ⟨born ▸ agrees.missed, born ▸ agrees.found,
    fun present trade event stage => marks (agrees.marked present trade event stage),
    agrees.isNew, agrees.readable⟩

/-- A request goes on without a commit. -/
theorem Keyed.replace (keyed : Keyed state) {old new : Request}
    (requests : state.requests = front ++ old :: back) (nextUuid : Uuid)
    (agrees : new.Agrees state) :
    Keyed
      { state with
        committed := { state.committed with nextUuid }
        requests := front ++ new :: back } := by
  refine ⟨⟨keyed.once, keyed.answered⟩, keyed.marks, keyed.references, keyed.rows,
    keyed.readable, ?_⟩
  refine forall_replaced (?_ : ∀ request ∈ front ++ old :: back, _) (agrees.congr rfl id)
  exact fun request member => (keyed.agrees request (requests ▸ member)).congr rfl id

/-- A request leaves. -/
theorem Keyed.remove (keyed : Keyed state) {old : Request}
    (requests : state.requests = front ++ old :: back) :
    Keyed { state with requests := front ++ back } := by
  refine ⟨⟨keyed.once, keyed.answered⟩, keyed.marks, keyed.references, keyed.rows,
    keyed.readable, fun request member => ?_⟩
  have inside : request ∈ state.requests := by
    rw [requests]
    exact (List.Sublist.append_left (List.sublist_cons_self _ _) front).subset member
  exact (keyed.agrees request inside).congr rfl id

theorem Keyed.agrees_at (keyed : Keyed state) {request : Request}
    (requests : state.requests = front ++ request :: back) : request.Agrees state :=
  keyed.agrees request (by simp [requests])

/-- A request that has missed stays one. -/
theorem Request.Agrees.go_on {body : TradeSubmitRequest} {trace : TraceContext}
    {stage stage' : Stage} (agrees : Request.Agrees state ⟨key, body, trace, stage⟩)
    (missed : stage.missed = true) (open_ : ∀ response, stage ≠ .done response)
    (new : ∀ tradeId, stage' ≠ .referenced tradeId ∧ stage' ≠ .done (.existing tradeId) ∧
      stage' ≠ .done (.created tradeId))
    (marked : key ≠ [] → ∀ trade event, stage' = .marked trade event false →
      markOf key ∈ state.committed.processedEvents)
    (isNew : ∀ trade event, stage' = .marked trade event true → key ≠ []) :
    Request.Agrees state ⟨key, body, trace, stage'⟩ := by
  refine ⟨fun present _ birth member same => ?_, fun tradeId found => ?_, marked, isNew,
    fun present _ _ => agrees.readable present missed open_⟩
  · exact absurd (agrees.missed present missed birth member same) (open_ _)
  · obtain ⟨not_referenced, not_existing, not_created⟩ := new tradeId
    rcases found with found | found | found
    · exact absurd found not_referenced
    · exact absurd found not_existing
    · exact absurd found not_created

/-- Without trades for its key a request agrees if it has found none. -/
theorem Request.agrees_of_unborn {body : TradeSubmitRequest} {trace : TraceContext} {stage : Stage}
    (unborn : key ≠ [] → ∀ birth ∈ state.born, birth.key ≠ key)
    (new : ∀ tradeId, stage ≠ .referenced tradeId ∧ stage ≠ .done (.existing tradeId) ∧
      stage ≠ .done (.created tradeId))
    (unmarked : ∀ trade event isNew, stage ≠ .marked trade event isNew)
    (readable : key ≠ [] → (∀ response, stage ≠ .done response) → (uuid? key).isSome) :
    Request.Agrees state ⟨key, body, trace, stage⟩ := by
  refine ⟨fun present _ birth member same => absurd same (unborn present birth member),
    fun tradeId found => ?_, fun _ trade event same => absurd same (unmarked trade event false),
    fun trade event same => absurd same (unmarked trade event true),
    fun present _ => readable present⟩
  obtain ⟨not_referenced, not_existing, not_created⟩ := new tradeId
  rcases found with found | found | found
  · exact absurd found not_referenced
  · exact absurd found not_existing
  · exact absurd found not_created

/-- A request commits, and no other has missed the key. -/
theorem Keyed.commit (keyed : Keyed state) {body : TradeSubmitRequest} {trace : TraceContext}
    {trade : Trade} {event : OutboxEvent} {isNew : Bool} {committed : Database}
    {externalTradeIds : List String} {references : List (ProcessedEvent × Uuid)}
    (requests : state.requests = front ++ ⟨key, body, trace, .marked trade event isNew⟩ :: back)
    (alone : key ≠ [] → ∀ other ∈ front ++ back, other.key = key → other.stage.missed = false)
    (trades : committed.trades = state.committed.trades ++ [trade])
    (marks : committed.processedEvents =
      state.committed.processedEvents ++ if isNew then [markOf key] else [])
    (referred :
      references = state.references ++ if isNew then [(markOf key, trade.id)] else []) :
    Keyed
      { state with
        committed
        externalTradeIds
        references
        requests := front ++ ⟨key, body, trace, .done (.created trade.id)⟩ :: back
        born := state.born ++ [⟨key, trade, event⟩] } := by
  have agrees := keyed.agrees_at requests
  have unborn : key ≠ [] → ∀ birth ∈ state.born, birth.key ≠ key := by
    intro present birth member same
    cases agrees.missed present rfl birth member same
  have first : isNew = true ↔ key ≠ [] := by
    constructor
    · rintro rfl
      exact agrees.isNew trade event rfl
    · intro present
      cases isNew with
      | true => rfl
      | false =>
          obtain ⟨birth, member, same⟩ :=
            (keyed.marks key present).mp (agrees.marked present trade event rfl)
          exact absurd same (unborn present birth member)
  refine ⟨⟨fun other present => ?_, keyed.answered⟩, fun other present => ?_, ?_, ?_, ?_, ?_⟩
  · by_cases same : key = other
    · subst same
      have none : state.bornFor key = [] := by
        simpa [Submissions.bornFor, List.filter_eq_nil_iff] using unborn present
      have only : (state.born ++ [(⟨key, trade, event⟩ : Birth)]).filter
          (fun birth => birth.key = key) = state.bornFor key ++ [⟨key, trade, event⟩] := by
        simp [Submissions.bornFor]
      rw [Submissions.bornFor, only, none]
      simp
    · have same_born : (state.born ++ [(⟨key, trade, event⟩ : Birth)]).filter
          (fun birth => birth.key = other) = state.bornFor other := by
        simp [Submissions.bornFor, same]
      rw [Submissions.bornFor, same_born]
      exact keyed.once other present
  · have added : markOf other ∈ (if isNew then [markOf key] else []) ↔ key = other := by
      by_cases new : isNew = true
      · simp [new, markOf_inj, eq_comm]
      · have absent : key = [] := not_not.mp fun named => new (first.mpr named)
        simp [new, absent, present.symm]
    rw [marks, List.mem_append, added, keyed.marks other present]
    simp [or_and_right, exists_or]
  · rw [referred, keyed.references, List.filter_append, List.map_append]
    by_cases new : isNew = true
    · simp [new, first.mp new]
    · have absent : key = [] := not_not.mp fun named => new (first.mpr named)
      simp [new, absent]
  · intro birth member
    rw [trades, List.map_append, List.mem_append]
    rcases List.mem_append.mp member with old | new
    · exact .inl (keyed.rows birth old)
    · rw [List.mem_singleton.mp new]
      exact .inr (by simp)
  · intro birth member present
    rcases List.mem_append.mp member with old | new
    · exact keyed.readable birth old present
    · rw [List.mem_singleton.mp new] at present ⊢
      exact agrees.readable present rfl (by simp)
  · have others : ∀ other ∈ front ++ back, Request.Agrees
        { state with
          committed
          externalTradeIds
          references
          requests := front ++ ⟨key, body, trace, .done (.created trade.id)⟩ :: back
          born := state.born ++ [⟨key, trade, event⟩] } other := by
      intro other member
      have inside : other ∈ state.requests := by
        rw [requests]
        exact (List.Sublist.append_left (List.sublist_cons_self _ _) front).subset member
      have old := keyed.agrees other inside
      refine ⟨fun present missed birth member' same => ?_, fun tradeId found => ?_,
        fun present trade event stage => ?_, old.isNew, old.readable⟩
      · rcases List.mem_append.mp member' with earlier | new
        · exact old.missed present missed birth earlier same
        · rw [List.mem_singleton.mp new] at same
          have not_missed := alone (fun empty => present (same.symm.trans empty)) other member
            same.symm
          rw [missed] at not_missed
          cases not_missed
      · obtain ⟨birth, earlier, same⟩ := old.found tradeId found
        exact ⟨birth, List.mem_append_left _ earlier, same⟩
      · rw [marks]
        exact List.mem_append_left _ (old.marked present trade event stage)
    intro other member
    simp only [List.mem_append, List.mem_cons] at member
    rcases member with ahead | rfl | behind
    · exact others other (List.mem_append_left _ ahead)
    · refine ⟨fun present _ birth member' same => ?_, fun tradeId found => ?_, by simp, by simp,
        by simp⟩
      · rcases List.mem_append.mp member' with earlier | new
        · exact absurd same (unborn present birth earlier)
        · rw [List.mem_singleton.mp new]
      · refine ⟨⟨key, trade, event⟩, by simp, rfl, ?_⟩
        simpa using found
    · exact others other (List.mem_append_right _ behind)

/-- A request that is about to be answered after a trade of its key is answered with it. -/
theorem answered_at (keyed : Keyed state) {body : TradeSubmitRequest} {trace : TraceContext}
    {response : Response}
    (requests : state.requests = front ++ ⟨key, body, trace, .done response⟩ :: back)
    (present : key ≠ []) {birth : Birth} (member : birth ∈ state.born) (same : birth.key = key) :
    response.tradeId? = some birth.trade.id := by
  have agrees := keyed.agrees_at requests
  by_cases missed : (Stage.done response).missed = true
  · have created := agrees.missed present missed birth member same
    cases created
    rfl
  · cases response with
    | existing tradeId =>
        obtain ⟨other, member', same', rfl⟩ := agrees.found tradeId (.inr (.inl rfl))
        rw [keyed.unique member member' (same ▸ present) (same'.trans same.symm)]
        rfl
    | _ => exact absurd rfl missed

theorem keyed_step {label : SubmitLabel} (keyed : Keyed before) (alone : Alone before label)
    (step : SubmitStep backend before label after) : Keyed after := by
  cases step with
  | receive key body trace =>
      refine ⟨⟨keyed.once, keyed.answered⟩, keyed.marks, keyed.references, keyed.rows,
        keyed.readable, fun request member => ?_⟩
      rcases List.mem_append.mp member with old | new
      · exact (keyed.agrees request old).congr rfl id
      · rw [List.mem_singleton.mp new]
        exact ⟨by simp [Stage.missed], by simp, by simp, by simp, by simp [Stage.missed]⟩
  | skip front back requests =>
      exact keyed.replace requests _
        (Request.agrees_of_unborn (fun present => absurd rfl present) (by simp) (by simp)
          fun present => absurd rfl present)
  | refuseKey front back requests present unreadable =>
      refine keyed.replace requests _ (Request.agrees_of_unborn (fun _ birth member same => ?_)
        (by simp) (by simp) (by simp))
      have readable := keyed.readable birth member (same ▸ present)
      rw [same, unreadable] at readable
      cases readable
  | @lookUp front back key body trace requests present readable =>
      apply keyed.replace requests _
      cases found : before.reference key with
      | none =>
          exact Request.agrees_of_unborn (fun _ => keyed.reference_eq_none present found) (by simp)
            (by simp) fun _ _ => readable
      | some tradeId =>
          refine ⟨by simp [Stage.missed], fun other same => ?_, by simp, by simp,
            by simp [Stage.missed]⟩
          obtain rfl : tradeId = other := by simpa using same
          exact keyed.reference_eq_some found
  | @fetch front back key body trace tradeId requests =>
      obtain ⟨birth, member, same, is_trade⟩ :=
        (keyed.agrees_at requests).found tradeId (.inl rfl)
      have there : tradeId ∈ before.committed.trades.map Trade.id :=
        is_trade ▸ keyed.rows birth member
      apply keyed.replace requests _
      rw [if_pos there]
      refine ⟨by simp [Stage.missed], fun other found => ?_, by simp, by simp, by simp⟩
      obtain rfl : tradeId = other := by simpa using found
      exact ⟨birth, member, same, is_trade⟩
  | insert front back requests free ran =>
      exact keyed.replace requests _ ((keyed.agrees_at requests).go_on rfl (by simp) (by simp)
        (by simp) (by simp))
  | @refuse front back key body trace failure requests free raised =>
      have response : ∀ tradeId, responseTo failure ≠ .existing tradeId ∧
          responseTo failure ≠ .created tradeId := by
        intro tradeId
        unfold responseTo
        split <;> simp
      exact keyed.replace requests _ ((keyed.agrees_at requests).go_on rfl (by simp)
        (by simpa using response) (by simp) (by simp))
  | announce front back requests ran appended =>
      exact keyed.replace requests _ ((keyed.agrees_at requests).go_on rfl (by simp) (by simp)
        (by simp) (by simp))
  | mark front back requests free =>
      refine keyed.replace requests _ ((keyed.agrees_at requests).go_on rfl (by simp) (by simp)
        ?_ ?_)
      · intro present trade event same
        have unmarked : _ = false := (Stage.marked.inj same).2.2
        simpa [present] using unmarked
      · intro trade event same
        simp only [Stage.marked.injEq, decide_eq_true_eq] at same
        exact same.2.2.1
  | @commit front back key body trace trade event isNew requests =>
      have at_position : before.requests[front.length]? =
          some ⟨key, body, trace, .marked trade event isNew⟩ := by
        rw [requests, List.getElem?_append_right le_rfl, Nat.sub_self]
        rfl
      have others : before.requests.eraseIdx front.length = front ++ back := by
        rw [requests, List.eraseIdx_append_of_length_le le_rfl, Nat.sub_self]
        rfl
      refine keyed.commit requests (fun present => ?_) rfl rfl rfl
      rw [← others]
      exact alone _ at_position present
  | fail front back requests missed unanswered =>
      exact keyed.replace requests _ ((keyed.agrees_at requests).go_on missed unanswered (by simp)
        (by simp) (by simp))
  | @answer front back key body trace response requests =>
      have left := keyed.remove requests
      refine ⟨⟨left.once, fun answer member present tradeId born => ?_⟩, left.marks,
        left.references, left.rows, left.readable, fun request member =>
          (left.agrees request member).congr rfl id⟩
      rcases List.mem_append.mp member with old | new
      · exact keyed.answered answer old present tradeId born
      · rw [List.mem_singleton.mp new] at present born ⊢
        obtain ⟨birth, inside, rfl⟩ := List.mem_map.mp born
        rw [Submissions.bornFor, List.mem_filter, decide_eq_true_eq] at inside
        exact answered_at keyed requests present inside.1 inside.2
  | stop front back requests => exact keyed.remove requests
  | elsewhere kept foreign =>
      refine ⟨⟨keyed.once, keyed.answered⟩, fun key present => ?_, keyed.references,
        fun birth member => kept _ (keyed.rows birth member), keyed.readable,
        fun request member => (keyed.agrees request member).congr rfl (foreign _).mpr⟩
      exact (foreign key).trans (keyed.marks key present)

/-- If no request commits while another one has looked up its key in vain, one trade is committed
for every key, and every later request with the key is answered with it. -/
theorem oneTradePerKey_of_run {backend : Backend} {start last : Submissions}
    (idle : start.requests = []) (nothing : start.born = []) (unanswered : start.answers = [])
    (unreferred : start.references = [])
    (unmarked : ∀ key, markOf key ∉ start.committed.processedEvents)
    (run : Run (SubmitStep backend) Alone start last) : OneTradePerKey last := by
  have opening : Keyed start := by
    refine ⟨⟨?_, ?_⟩, ?_, ?_, ?_, ?_, ?_⟩ <;>
      simp [Submissions.bornFor, idle, nothing, unanswered, unreferred, unmarked]
  exact (run.invariant (fun _ _ _ keyed alone step => keyed_step keyed alone step)
    opening).toOneTradePerKey

/-- An insert that no constraint refuses. -/
theorem insertTrade_apply {backend : Backend} {taken : List String} {request : TradeSubmitRequest}
    {quantity price : ℚ} {db : Database}
    (quantity_stored : backend.store request.quantity = some quantity)
    (price_stored : backend.store request.price = some price)
    (free : request.externalTradeId ∉ taken)
    (instrument : request.instrumentId ∈ db.instruments.map Instrument.id)
    (buyer : request.buyerMemberId ∈ db.members.map Member.id)
    (seller : request.sellerMemberId ∈ db.members.map Member.id) :
    insertTrade backend taken request db =
      .ok (⟨db.nextUuid, request.instrumentId, request.buyerMemberId, request.sellerMemberId,
          quantity, price, .submitted⟩,
        { db with
          nextUuid := db.nextUuid + 1
          trades := db.trades ++ [⟨db.nextUuid, request.instrumentId, request.buyerMemberId,
            request.sellerMemberId, quantity, price, .submitted⟩] }) := by
  have drawn : uuid4 db = .ok (db.nextUuid, { db with nextUuid := db.nextUuid + 1 }) := rfl
  have known : ∀ memberId ∈ db.members.map Member.id, ∀ constraint,
      requireMember memberId constraint { db with nextUuid := db.nextUuid + 1 } =
        .ok ((), { db with nextUuid := db.nextUuid + 1 }) :=
    fun _ member _ => requireMember_of_mem _ member
  rw [insertTrade, Transaction.bind_of_ok drawn,
    Transaction.bind_of_ok (castNumeric_eq_ok.mpr ⟨quantity_stored, rfl⟩),
    Transaction.bind_of_ok (castNumeric_eq_ok.mpr ⟨price_stored, rfl⟩),
    Transaction.bind_of_ok (Transaction.require_of_true _ _ free),
    Transaction.bind_of_ok (Transaction.read_apply _),
    Transaction.bind_of_ok (Transaction.require_of_true _ _ instrument),
    Transaction.bind_of_ok (known _ buyer _), Transaction.bind_of_ok (known _ seller _)]
  rfl

/-- A house with two members and an instrument. -/
def gatewayHouse : Database :=
  Database.opening [⟨0, ccpLei, .active, 0⟩, ⟨1, "A", .active, 0⟩, ⟨2, "B", .active, 0⟩]
    [⟨3, .cash, 1 / 10, 1 / 10, none, none, true⟩] [] 10 (by decide)
    Database.nodup_noAccountIds Database.nodup_noAccountKeys

/-- The body of a request of the house. -/
def gatewayBody (externalTradeId : String) : TradeSubmitRequest :=
  ⟨externalTradeId, 3, 1, 2, 5, 100⟩

/-- The trade that it submits. -/
def gatewayTrade (id : Uuid) : Trade := ⟨id, 3, 1, 2, 5, 100, .submitted⟩

/-- A request of the house with the key 7. -/
def gatewayRequest (externalTradeId : String) (stage : Stage) : Request :=
  ⟨[.uuid 7], gatewayBody externalTradeId, ⟨4, "api-gateway:anonymous", none⟩, stage⟩

/-- The event of its trade. -/
def gatewayEvent (tradeId eventId : Uuid) (externalTradeId : String) : OutboxEvent :=
  ⟨eventId + 1, "trade", tradeId, "trade.submitted", "trades.submitted",
    [("trade_id", .uuid tradeId), ("external_trade_id", .literal externalTradeId),
      ("instrument_id", .uuid 3), ("buyer_member_id", .uuid 1), ("seller_member_id", .uuid 2),
      ("quantity", .decimal 5), ("price", .decimal 100),
      ("actor", .literal "api-gateway:anonymous"), ("event_id", .uuid eventId),
      ("trace_id", .uuid 4)], 0, none, some 4⟩

/-- Requests of the house before the first commit. -/
def gatewayAt (nextUuid : Uuid) (requests : List Request) : Submissions :=
  ⟨{ gatewayHouse with nextUuid }, [], [], requests, [], []⟩

private theorem insertTrade_gatewayHouse (nextUuid : Uuid) (externalTradeId : String) :
    insertTrade decimalBackend [] (gatewayBody externalTradeId) { gatewayHouse with nextUuid } =
      .ok (gatewayTrade nextUuid,
        { gatewayHouse with nextUuid := nextUuid + 1, trades := [gatewayTrade nextUuid] }) := by
  have quantity : decimalBackend.store 5 = some 5 := by decide +kernel
  have price : decimalBackend.store 100 = some 100 := by decide +kernel
  exact insertTrade_apply quantity price (by simp) (List.mem_singleton_self 3)
    (by decide : 1 ∈ gatewayHouse.members.map Member.id)
    (by decide : 2 ∈ gatewayHouse.members.map Member.id)

/-- The house once the request with the key 7 has committed, and requests after that. -/
def gatewayCommitted (requests : List Request) (answers : List Answer) : Submissions :=
  ⟨{ gatewayHouse with
      nextUuid := 13
      trades := [gatewayTrade 10]
      outboxEvents := [gatewayEvent 10 11 "A"]
      processedEvents := [markOf [.uuid 7]] },
    ["A"], [(markOf [.uuid 7], 10)], requests,
    [⟨[.uuid 7], gatewayTrade 10, gatewayEvent 10 11 "A"⟩], answers⟩

/-- A request with a key submits a trade, and a retry that comes in meanwhile is answered with
it. -/
theorem oneTradePerKey_of_run_gatewayHouse :
    ∃ last, Run (SubmitStep decimalBackend) Alone (gatewayAt 10 []) last ∧
      last.answers = [⟨[.uuid 7], .created 10, [10]⟩, ⟨[.uuid 7], .existing 10, [10]⟩] ∧
      OneTradePerKey last := by
  have received : Run (SubmitStep decimalBackend) Alone (gatewayAt 10 [])
      (gatewayAt 10 [gatewayRequest "A" .received, gatewayRequest "A" .received]) :=
    .snoc (.snoc (.refl _) (by exact trivial) (.receive _ _ _)) (by exact trivial)
      (.receive _ _ _)
  have missed : Run (SubmitStep decimalBackend) Alone (gatewayAt 10 [])
      (gatewayAt 10 [gatewayRequest "A" .unknown, gatewayRequest "A" .received]) :=
    .snoc received (by exact trivial) (.lookUp [] [_] rfl (by simp) rfl)
  have free : ∀ other ∈ [gatewayRequest "A" .received], other.stage.hasInserted = true →
      other.body.externalTradeId ≠ (gatewayBody "A").externalTradeId := by decide
  have taken : SubmitStep decimalBackend
      (gatewayAt 10 [gatewayRequest "A" .unknown, gatewayRequest "A" .received]) (.insert 0) _ :=
    .insert [] [gatewayRequest "A" .received] rfl free (insertTrade_gatewayHouse 10 "A")
  have inserted : Run (SubmitStep decimalBackend) Alone (gatewayAt 10 [])
      (gatewayAt 11 [gatewayRequest "A" (.inserted (gatewayTrade 10)),
        gatewayRequest "A" .received]) :=
    .snoc missed (by exact trivial) taken
  have announced : Run (SubmitStep decimalBackend) Alone (gatewayAt 10 [])
      (gatewayAt 13 [gatewayRequest "A" (.announced (gatewayTrade 10) (gatewayEvent 10 11 "A")),
        gatewayRequest "A" .received]) :=
    .snoc inserted (by exact trivial) (.announce [] [_] rfl rfl rfl)
  have marked : Run (SubmitStep decimalBackend) Alone (gatewayAt 10 [])
      (gatewayAt 13
        [gatewayRequest "A" (.marked (gatewayTrade 10) (gatewayEvent 10 11 "A") true),
          gatewayRequest "A" .received]) :=
    .snoc announced (by exact trivial) (.mark [] [_] rfl (by simp [gatewayRequest]))
  have alone : Alone (gatewayAt 13
      [gatewayRequest "A" (.marked (gatewayTrade 10) (gatewayEvent 10 11 "A") true),
        gatewayRequest "A" .received]) (.commit 0) := by
    rintro request - - other others -
    obtain rfl : other = gatewayRequest "A" .received := List.mem_singleton.mp others
    rfl
  have kept : SubmitStep decimalBackend (gatewayAt 13
      [gatewayRequest "A" (.marked (gatewayTrade 10) (gatewayEvent 10 11 "A") true),
        gatewayRequest "A" .received]) (.commit 0) _ :=
    .commit [] [gatewayRequest "A" .received] rfl
  have committed : Run (SubmitStep decimalBackend) Alone (gatewayAt 10 [])
      (gatewayCommitted
        [gatewayRequest "A" (.done (.created 10)), gatewayRequest "A" .received] []) :=
    .snoc marked alone kept
  have answered : Run (SubmitStep decimalBackend) Alone (gatewayAt 10 [])
      (gatewayCommitted [gatewayRequest "A" .received] [⟨[.uuid 7], .created 10, [10]⟩]) :=
    .snoc committed (by exact trivial) (.answer [] [_] rfl)
  have referenced : Run (SubmitStep decimalBackend) Alone (gatewayAt 10 [])
      (gatewayCommitted [gatewayRequest "A" (.referenced 10)]
        [⟨[.uuid 7], .created 10, [10]⟩]) :=
    .snoc answered (by exact trivial) (.lookUp [] [] rfl (by simp) rfl)
  have fetched : SubmitStep decimalBackend
      (gatewayCommitted [gatewayRequest "A" (.referenced 10)] [⟨[.uuid 7], .created 10, [10]⟩])
      (.fetch 0) _ :=
    .fetch [] [] rfl
  have found : Run (SubmitStep decimalBackend) Alone (gatewayAt 10 [])
      (gatewayCommitted [gatewayRequest "A" (.done (.existing 10))]
        [⟨[.uuid 7], .created 10, [10]⟩]) :=
    .snoc referenced (by exact trivial) fetched
  have run : Run (SubmitStep decimalBackend) Alone (gatewayAt 10 []) (gatewayCommitted []
      [⟨[.uuid 7], .created 10, [10]⟩, ⟨[.uuid 7], .existing 10, [10]⟩]) :=
    .snoc found (by exact trivial) (.answer [] [] rfl)
  have unmarked : ∀ key, markOf key ∉ (gatewayAt 10 []).committed.processedEvents := fun _ => by
    simp [gatewayAt, gatewayHouse, Database.opening]
  exact ⟨_, run, rfl, oneTradePerKey_of_run rfl rfl rfl rfl unmarked run⟩

/-- Two requests look up the key before either commits. -/
theorem not_oneTradePerKey_gatewayHouse :
    ∃ last, Run (SubmitStep decimalBackend) unrestricted (gatewayAt 10 []) last ∧
      ¬OneTradePerKey last := by
  have received : Run (SubmitStep decimalBackend) unrestricted (gatewayAt 10 [])
      (gatewayAt 10 [gatewayRequest "A" .received, gatewayRequest "B" .received]) :=
    .snoc (.snoc (.refl _) trivial (.receive _ _ _)) trivial (.receive _ _ _)
  have missed : Run (SubmitStep decimalBackend) unrestricted (gatewayAt 10 [])
      (gatewayAt 10 [gatewayRequest "A" .unknown, gatewayRequest "B" .unknown]) :=
    .snoc (.snoc received trivial (.lookUp [] [_] rfl (by simp) rfl)) trivial
      (.lookUp [_] [] rfl (by simp) rfl)
  have first : ∀ other ∈ [gatewayRequest "B" .unknown], other.stage.hasInserted = true →
      other.body.externalTradeId ≠ (gatewayBody "A").externalTradeId := by decide
  have second : ∀ other ∈ [gatewayRequest "A" (.inserted (gatewayTrade 10))],
      other.stage.hasInserted = true →
        other.body.externalTradeId ≠ (gatewayBody "B").externalTradeId := by decide
  have taken : SubmitStep decimalBackend
      (gatewayAt 10 [gatewayRequest "A" .unknown, gatewayRequest "B" .unknown]) (.insert 0) _ :=
    .insert [] [gatewayRequest "B" .unknown] rfl first (insertTrade_gatewayHouse 10 "A")
  have taken' : SubmitStep decimalBackend
      (gatewayAt 11 [gatewayRequest "A" (.inserted (gatewayTrade 10)),
        gatewayRequest "B" .unknown]) (.insert 1) _ :=
    .insert [gatewayRequest "A" (.inserted (gatewayTrade 10))] [] rfl second
      (insertTrade_gatewayHouse 11 "B")
  have inserted : Run (SubmitStep decimalBackend) unrestricted (gatewayAt 10 [])
      (gatewayAt 12 [gatewayRequest "A" (.inserted (gatewayTrade 10)),
        gatewayRequest "B" (.inserted (gatewayTrade 11))]) :=
    .snoc (.snoc missed trivial taken) trivial taken'
  have announced : Run (SubmitStep decimalBackend) unrestricted (gatewayAt 10 [])
      (gatewayAt 16
        [gatewayRequest "A" (.announced (gatewayTrade 10) (gatewayEvent 10 12 "A")),
          gatewayRequest "B" (.announced (gatewayTrade 11) (gatewayEvent 11 14 "B"))]) :=
    .snoc (.snoc inserted trivial (.announce [] [_] rfl rfl rfl)) trivial
      (.announce [_] [] rfl rfl rfl)
  have marked := Run.snoc announced trivial (.mark [] [_] rfl (by simp [gatewayRequest]))
  have committed := Run.snoc marked trivial (.commit [] [_] rfl)
  have marked' := Run.snoc committed trivial (.mark [_] [] rfl (by simp))
  have committed' := Run.snoc marked' trivial (.commit [_] [] rfl)
  refine ⟨_, committed', fun one => ?_⟩
  have once : 2 ≤ 1 := one.once [.uuid 7] (by simp)
  omega

end Gateway

end ClearingHouse
