import ClearingHouse.Events.Consumption
import ClearingHouse.Events.Writers
import ClearingHouse.Library.StepSystem
import ClearingHouse.Library.Triples
import ClearingHouse.Settlement.Script

/-!
# Agreement of events and rows

In every committed state of the house, whatever has been called and wherever it was interrupted, the
events announce the rows: each row once, and nothing that is not there.
-/

namespace ClearingHouse

open StepSystem Transactions Transactions.Session

variable {backend : Backend}

/-- The register agrees with its news. -/
def Registered (db : Database) : Prop := (registerOf db).Agrees

theorem Registered.recorded {db after : Database} (registered : Registered db)
    (recorded : Recorded db after) : Registered after :=
  Register.agrees_of_steps registered recorded

theorem registered_survives (old new : Database) (registered : Registered old)
    (recorded : Recorded old new) (_ : (server backend).deferred old new = .ok ()) :
    Registered new :=
  registered.recorded recorded

namespace Settlement

/-- Every instruction is told of, and one of them is open. -/
structure Underway (instructionId : Uuid) (db : Database) : Prop where
  registered : Registered db
  opened : OpenAt instructionId db

theorem underway_of_pending {db : Database} {instructionId : Uuid}
    {instruction : SettlementInstruction} {instrument : Instrument} (registered : Registered db)
    (pending : pendingInstruction db instructionId = some (instruction, instrument)) :
    Underway instruction.id db := by
  obtain ⟨member, -, status⟩ := mem_of_pendingInstruction pending
  have shown : (instruction.id, InstructionStatus.pending) ∈ (registerOf db).instructions :=
    List.mem_map.mpr ⟨instruction, member, by rw [status]⟩
  refine ⟨registered, ⟨_, shown, rfl⟩, fun row inside same => ?_⟩
  obtain rfl : row = (instruction.id, .pending) :=
    List.inj_on_of_nodup_map registered.instructions.distinct inside shown same
  exact ⟨nofun, nofun⟩

theorem Underway.advance {instructionId : Uuid} {fromStatus toStatus : InstructionStatus}
    {reason : Text} {trace : TraceContext} {db after : Database} {value : Unit}
    (underway : Underway instructionId db)
    (unfinished : toStatus ≠ .confirmed ∧ toStatus ≠ .failed)
    (ran : advanceStatus instructionId fromStatus toStatus reason trace db = .ok (value, after)) :
    Underway instructionId after := by
  obtain ⟨recorded, opened⟩ := underway.opened.advance unfinished ran
  exact ⟨underway.registered.recorded recorded, opened⟩

/-- The instruction is open in the committed state and in what has been made of it. -/
abbrev Going (instructionId : Uuid) : Connection Database → Prop :=
  Live Registered (Underway instructionId) (Underway instructionId)

/-- The session has raised and the instruction is open in the committed state. -/
abbrev Raised (instructionId : Uuid) : Connection Database → Prop :=
  Escaped Registered (Underway instructionId)

/-- What is left to commit is told of. -/
abbrev Closing : Connection Database → Prop := Live Registered Registered Registered

variable {instruction : SettlementInstruction} {trace : TraceContext}

/-- The last transaction of a session. -/
theorem triple_last {α : Type} {code : Sql Unit} {instructionId : Uuid} {result : α}
    (records : ∀ db after, Underway instructionId db → code db = .ok ((), after) →
      Recorded db after) :
    Triple (Going instructionId)
      (do execute (server backend) code; commit (server backend); pure result)
      (fun _ => Closing) (Raised instructionId) := by
  have wrote : ∀ db (value : Unit) after, Underway instructionId db → code db = .ok (value, after) →
      Registered after :=
    fun db _ after underway ran => underway.registered.recorded (records db after underway ran)
  exact triple_bind (triple_execute wrote) fun _ =>
    triple_bind (triple_commit fun _ registered => registered) fun _ =>
      triple_pure fun _ closing => closing

/-- A transaction after which the instruction is still open. -/
theorem triple_onward {α : Type} {code : Sql Unit} {here : Database → Prop}
    {next : Unit → Session Database Failure α} {post : α → Connection Database → Prop}
    {escape : Connection Database → Prop}
    (moves : ∀ db after, Underway instruction.id db → code db = .ok ((), after) →
      Underway instruction.id after)
    (raised : ∀ connection, Escaped Registered here connection → escape connection)
    (rest : Triple (Going instruction.id) (next ()) post escape) :
    Triple (Live Registered here (Underway instruction.id))
      (execute (server backend) code >>= fun _ => commit (server backend) >>= next) post
      escape := by
  have wrote : Triple (Live Registered here (Underway instruction.id))
      (execute (server backend) code)
      (fun _ => Live Registered here (Underway instruction.id)) (Escaped Registered here) :=
    triple_execute fun db _ after underway ran => moves db after underway ran
  have committed : Triple (Live Registered here (Underway instruction.id))
      (commit (server backend)) (fun _ => Going instruction.id) (Escaped Registered here) :=
    triple_commit fun _ underway => underway.registered
  exact triple_bind (triple_mono (fun _ live => live) wrote (fun _ _ live => live) raised)
    fun _ => triple_bind
      (triple_mono (fun _ live => live) committed (fun _ _ live => live) raised) fun _ => rest

theorem triple_failOnChain (failure : Failure) :
    Triple (Raised instruction.id) (failOnChain backend instruction trace failure)
      (fun _ => Closing) (Raised instruction.id) :=
  triple_bind (triple_requireIdle (fun _ escaped idle => escaped.live idle)
    fun _ escaped => escaped) fun _ =>
      triple_last fun _ _ underway ran => underway.opened.fail ran

theorem triple_external {α : Type} (result : Except Text α) :
    Triple (Going instruction.id) (external result) (fun _ => Going instruction.id)
      (Raised instruction.id) := by
  cases result with
  | ok value => exact triple_pure fun _ going => going
  | error message => exact triple_raise fun _ going => going.escaped

theorem triple_disableAutocommit :
    Triple (Going instruction.id) disableAutocommit (fun _ => Going instruction.id)
      (Raised instruction.id) :=
  triple_requireIdle (fun _ going _ => going) fun _ going => going.escaped

theorem triple_concludeOnChain (adapter : ChainAdapter) (txHash : String) :
    Triple (Going instruction.id) (concludeOnChain backend instruction adapter txHash trace)
      (fun _ => Closing) (Raised instruction.id) := by
  refine triple_bind (triple_external _) fun _ => triple_bind (triple_external _) fun txResult =>
    triple_bind triple_disableAutocommit fun _ => ?_
  split
  · exact triple_last fun _ _ underway ran => underway.opened.finalize ran
  · exact triple_last fun _ _ underway ran => underway.opened.fail ran

theorem triple_submitOnChain (adapter : ChainAdapter) (signedTx : Bytes) :
    Triple (Going instruction.id) (submitOnChain backend instruction adapter signedTx trace)
      (fun _ => Closing) (Raised instruction.id) := by
  refine triple_bind (triple_external _) fun result =>
    triple_bind triple_disableAutocommit fun _ => ?_
  have hashed : ∀ db (value : Unit) after, Underway instruction.id db →
      updateInstruction instruction.id (fun row => { row with txHash := some result.txHash }) db =
        .ok (value, after) → Underway instruction.id after := fun db _ after underway ran => by
    have unshown : Unshown db after := silent_updateInstruction (by intro; rfl) ran
    exact ⟨underway.registered.recorded (recorded_of_unshown unshown),
      underway.opened.of_unshown unshown⟩
  exact triple_bind (triple_execute hashed) fun _ =>
    triple_onward (fun _ _ underway ran => underway.advance (by decide) ran)
      (fun _ raised => raised) (triple_concludeOnChain _ _)

theorem triple_transferOnChain (contractAddress : Option String) (chainId : String)
    (adapter : ChainAdapter) (sign : Bytes → String → Except Text Bytes) :
    Triple (Going instruction.id)
      (transferOnChain backend instruction contractAddress chainId adapter sign trace)
      (fun _ => Closing) (Raised instruction.id) :=
  triple_bind (triple_external _) fun _ => triple_bind (triple_external _) fun _ =>
    triple_bind triple_disableAutocommit fun _ =>
      triple_onward (fun _ _ underway ran => underway.advance (by decide) ran)
        (fun _ raised => raised) (triple_submitOnChain _ _)

theorem triple_settleDvp (contractAddress : Option String)
    (chainRegistry : String → Option ChainAdapter) (sign : Bytes → String → Except Text Bytes) :
    Triple (Live Registered Registered (Underway instruction.id))
      (settleDvp backend instruction contractAddress chainRegistry sign trace)
      (fun _ => Closing) (Escaped Registered Registered) := by
  rw [settleDvp]
  split
  · have failing : ∀ db (value : Unit) after, Underway instruction.id db →
        failInstruction instruction.id .pending [.literal "No chain_id for DVP settlement"] trace
          db = .ok (value, after) → Registered after := fun db _ after underway ran =>
      underway.registered.recorded (underway.opened.fail ran)
    exact triple_bind (triple_execute failing) fun _ => triple_pure fun _ closing => closing
  · split
    · exact triple_raise fun _ live => live.escaped
    · exact triple_onward (fun _ _ underway ran => underway.advance (by decide) ran)
        (fun _ raised => raised)
        (triple_mono (fun _ going => going)
          (triple_attempt (triple_transferOnChain _ _ _ _) triple_failOnChain)
          (fun _ _ closing => closing)
          fun _ raised => raised.mono fun _ underway => underway.registered)

/-- A settlement leaves everything told of, wherever it commits and however it ends. -/
theorem triple_settleInstruction (instructionId : Uuid)
    (chainRegistry : String → Option ChainAdapter) (sign : Bytes → String → Except Text Bytes) :
    Triple Closing (settleInstruction backend instructionId chainRegistry sign trace)
      (fun _ => Closing) (Escaped Registered Registered) := by
  apply triple_bind triple_read
  intro db
  cases pending : pendingInstruction db instructionId with
  | none => exact triple_pure fun _ live => live.mono (fun _ here => here) fun _ read => read.2
  | some found =>
      obtain ⟨instruction, instrument⟩ := found
      have starts : ∀ connection,
          Live Registered Registered (fun state => state = db ∧ Registered state) connection →
            Live Registered Registered (Underway instruction.id) connection :=
        fun connection live => live.mono (fun _ here => here) fun state read => by
          obtain ⟨rfl, registered⟩ := read
          exact underway_of_pending registered pending
      refine triple_mono starts ?_ (fun _ _ closing => closing) fun _ escaped => escaped
      unfold settlePending
      dsimp only
      split
      · exact triple_execute fun db result after underway ran =>
          underway.registered.recorded (underway.opened.settleCash ran)
      · exact triple_settleDvp _ _ _
      · exact triple_settleDvp _ _ _

end Settlement

namespace Consumers

theorem respects_novateTrade {tradeId : Uuid} {data : Novation.TradeData} {trace : TraceContext} :
    Transaction.Respects Recorded (Novation.novateTrade backend tradeId data trace) :=
  fun _ _ _ ran => .single (Novation.step_novateTrade ran)

theorem respects_rejectTrade {tradeId : Uuid} {reason : Text} {trace : TraceContext} :
    Transaction.Respects Recorded (Novation.rejectTrade tradeId reason trace) :=
  fun _ _ _ ran => .single (Novation.step_rejectTrade ran)

/-- Whatever a message holds, its handler leaves the rows announced. -/
theorem keeps_body (service : Service) (event : Payload) (surroundings : Surroundings) :
    Keeps Registered Recorded (service.body backend event surroundings) := by
  cases service with
  | tradeIngestion =>
      exact keeps_processTradeEvent registered_survives (fun _ _ => respects_novateTrade)
        fun _ _ => respects_rejectTrade
  | nettingEngine =>
      exact keeps_handleNettingTrigger registered_survives fun _ _ _ _ _ ran =>
        .single (Netting.step_runNettingCycle ran)
  | marginEngine => exact keeps_dropped (Margin.recorded_recalculateMargins _ _)
  | collateralManager =>
      exact keeps_handleCollateralEvent
        (fun _ _ _ => recorded_of_silent (Collateral.silent_depositCollateral ..))
        fun _ _ => recorded_of_silent
          (Collateral.respects_transferToMargin admitsPostings_unshown ..)
  | liquidationEngine =>
      exact keeps_handleDefaultEvent fun _ _ _ _ _ _ ran => Waterfall.step_executeWaterfall ran

end Consumers

/-- The operations of the services with the arguments of their callers, and the handlers of
messages. -/
inductive HouseOperation
  | submitTrade (taken : List String) (key : Text) (request : Gateway.TradeSubmitRequest)
      (trace : TraceContext)
  | handle (service : Consumers.Service) (event : Payload) (surroundings : Consumers.Surroundings)
  | settleInstruction (instructionId : Uuid)
      (chainRegistry : String → Option Settlement.ChainAdapter)
      (sign : Settlement.Bytes → String → Except Text Settlement.Bytes) (trace : TraceContext)
  | processTrade (data : Novation.TradeData) (trace : TraceContext)
  | runNettingCycle (cycleType : NettingCycleType) (cutOffTime : Timestamp) (trace : TraceContext)
  | recalculateMargins (deadline : Timestamp) (trace : TraceContext)
  | executeWaterfall (memberId : Uuid) (triggerReason : Text) (totalExposure : ℚ)
      (trace : Option TraceContext)
  | depositCollateral (memberId : Uuid) (amount : ℚ) (currency : String)
  | withdrawCollateral (memberId : Uuid) (amount : ℚ) (currency : String)
  | transferToMargin (memberId : Uuid) (amount : ℚ) (marginType : AccountType)
  | seedDefaultFund (memberIds : String → Uuid) (ccpId : Uuid)

namespace HouseOperation

/-- What is called over a connection. -/
def body (backend : Backend) : HouseOperation → Session Database Failure Unit
  | submitTrade taken key request trace => do
      let _ ← execute (server backend) (Gateway.submitTrade backend taken key request trace)
  | handle service event surroundings => service.body backend event surroundings
  | settleInstruction instructionId chainRegistry sign trace => do
      let _ ← Settlement.settleInstruction backend instructionId chainRegistry sign trace
  | processTrade data trace => Novation.processTrade backend data trace
  | runNettingCycle cycleType cutOffTime trace => do
      let _ ← execute (server backend) (Netting.runNettingCycle backend cycleType cutOffTime trace)
  | recalculateMargins deadline trace => do
      let _ ← execute (server backend) (Margin.recalculateMargins backend deadline trace)
  | executeWaterfall memberId triggerReason totalExposure trace => do
      let _ ← execute (server backend)
        (Waterfall.executeWaterfall backend memberId triggerReason totalExposure trace)
  | depositCollateral memberId amount currency => do
      let _ ← execute (server backend)
        (Collateral.depositCollateral backend memberId amount currency)
  | withdrawCollateral memberId amount currency => do
      let _ ← execute (server backend)
        (Collateral.withdrawCollateral backend memberId amount currency)
  | transferToMargin memberId amount marginType => do
      let _ ← execute (server backend)
        (Collateral.transferToMargin backend memberId amount marginType)
  | seedDefaultFund memberIds ccpId =>
      execute (server backend) (Seeding.seedDefaultFund backend memberIds ccpId)

/-- Every operation but a settlement works in the transaction of its caller or a savepoint. -/
theorem keeps_body {operation : HouseOperation}
    (other : ∀ instructionId chainRegistry sign trace,
      operation ≠ settleInstruction instructionId chainRegistry sign trace) :
    Keeps Registered Recorded (operation.body backend) := by
  cases operation with
  | submitTrade taken key request trace =>
      exact Consumers.keeps_dropped fun _ _ _ ran => .single (Gateway.step_submitTrade ran)
  | handle service event surroundings => exact Consumers.keeps_body service event surroundings
  | settleInstruction instructionId chainRegistry sign trace => exact absurd rfl (other _ _ _ _)
  | processTrade data trace =>
      exact Novation.keeps_processTrade registered_survives Consumers.respects_novateTrade
        fun _ => Consumers.respects_rejectTrade
  | runNettingCycle cycleType cutOffTime trace =>
      exact Consumers.keeps_dropped fun _ _ _ ran => .single (Netting.step_runNettingCycle ran)
  | recalculateMargins deadline trace =>
      exact Consumers.keeps_dropped (Margin.recorded_recalculateMargins _ _)
  | executeWaterfall memberId triggerReason totalExposure trace =>
      exact Consumers.keeps_dropped fun _ _ _ ran => Waterfall.step_executeWaterfall ran
  | depositCollateral memberId amount currency =>
      exact Consumers.keeps_dropped (recorded_of_silent (Collateral.silent_depositCollateral ..))
  | withdrawCollateral memberId amount currency =>
      exact Consumers.keeps_dropped (recorded_of_silent (Collateral.silent_withdrawCollateral ..))
  | transferToMargin memberId amount marginType =>
      exact Consumers.keeps_dropped
        (recorded_of_silent (Collateral.respects_transferToMargin admitsPostings_unshown ..))
  | seedDefaultFund memberIds ccpId =>
      exact keeps_execute
        (recorded_of_silent (Seeding.respects_seedDefaultFund admitsPostings_unshown _ _))

end HouseOperation

/-- A call up to the commit of its caller, who may insert a mark first and commits no more than that
if it is there already. -/
def called (backend : Backend) (mark : Option (String × Text))
    (body : Session Database Failure Unit) : Session Database Failure Unit :=
  match mark with
  | none => do
      body
      commit (server backend)
  | some (serviceName, eventId) => do
      let isNew ← execute (server backend) (processIfNew serviceName eventId)
      if isNew then do
        body
        commit (server backend)
      else commit (server backend)

theorem keeps_called {mark : Option (String × Text)} {body : Session Database Failure Unit}
    (keeps : Keeps Registered Recorded body) :
    Keeps Registered Recorded (called backend mark body) := by
  have finishes : Keeps Registered Recorded (do body; commit (server backend)) :=
    keeps_bind keeps fun _ => keeps_commit registered_survives
  cases mark with
  | none => exact finishes
  | some mark =>
      refine keeps_bind (keeps_execute (recorded_of_silent (silent_processIfNew ..)))
        fun isNew => ?_
      split
      · exact finishes
      · exact keeps_commit registered_survives

theorem triple_called {mark : Option (String × Text)} {body : Session Database Failure Unit}
    (triple : Triple Settlement.Closing body (fun _ => Settlement.Closing)
      (Escaped Registered Registered)) :
    Triple Settlement.Closing (called backend mark body) (fun _ => Settlement.Closing)
      (Escaped Registered Registered) := by
  have commits : Triple Settlement.Closing (commit (server backend))
      (fun _ => Settlement.Closing) (Escaped Registered Registered) :=
    triple_commit fun _ registered => registered
  cases mark with
  | none => exact triple_bind triple fun _ => commits
  | some mark =>
      have marks : ∀ db value after, Registered db →
          processIfNew mark.1 mark.2 db = .ok (value, after) → Registered after :=
        fun db _ _ registered ran =>
          registered.recorded (recorded_of_unshown (silent_processIfNew _ _ ran))
      apply triple_bind (triple_execute marks)
      intro isNew
      split
      · exact triple_bind triple fun _ => commits
      · exact commits

theorem registered_of_operation {operation : HouseOperation} {mark : Option (String × Text)}
    {db after : Database} (registered : Registered db)
    (committed : after ∈ committedStates (called backend mark (operation.body backend)) db) :
    Registered after := by
  by_cases settles : ∃ instructionId chainRegistry sign trace,
      operation = .settleInstruction instructionId chainRegistry sign trace
  · obtain ⟨instructionId, chainRegistry, sign, trace, rfl⟩ := settles
    have drops : Triple Settlement.Closing
        ((HouseOperation.settleInstruction instructionId chainRegistry sign trace).body backend)
        (fun _ => Settlement.Closing) (Escaped Registered Registered) :=
      triple_bind (Settlement.triple_settleInstruction instructionId chainRegistry sign)
        fun _ => triple_pure fun _ closing => closing
    exact committedStates_of_triple (triple_called drops) registered after committed
  · have other : ∀ instructionId chainRegistry sign trace,
        operation ≠ .settleInstruction instructionId chainRegistry sign trace :=
      fun instructionId chainRegistry sign trace same =>
        settles ⟨instructionId, chainRegistry, sign, trace, same⟩
    exact committedStates_of_keeps (keeps_called (HouseOperation.keeps_body other)) registered
      after committed

/-- What is called. -/
inductive HouseLabel
  | operation (operation : HouseOperation) (mark : Option (String × Text))
  | elsewhere

/-- The house goes from one committed state to another: to any state that an operation commits,
since it may be interrupted there, or by a statement that changes none of the rows concerned. -/
inductive Operates (backend : Backend) : Database → HouseLabel → Database → Prop
  | operation {db after : Database} {operation : HouseOperation} {mark : Option (String × Text)}
      (committed : after ∈ committedStates (called backend mark (operation.body backend)) db) :
      Operates backend db (.operation operation mark) after
  | elsewhere {db after : Database} (unshown : Unshown db after) :
      Operates backend db .elsewhere after

/-- A house without rows that call for an event, and without such events. -/
structure Blank (db : Database) : Prop where
  trades : db.trades = []
  legs : db.novatedTrades = []
  instructions : db.settlementInstructions = []
  marginCalls : db.marginCalls = []
  defaultEvents : db.defaultEvents = []
  untold : ∀ kind, told kind db = []

theorem registered_of_blank {db : Database} (blank : Blank db) : Registered db := by
  have untold : ∀ kind, about kind (registerOf db).news = [] := fun kind => by
    rw [← told_eq_about, blank.untold]
  have trades : (registerOf db).trades = [] := by simp [registerOf, blank.trades]
  have legs : (registerOf db).legs = [] := by simp [registerOf, blank.legs]
  have instructions : (registerOf db).instructions = [] := by
    simp [registerOf, blank.instructions]
  have calls : (registerOf db).marginCalls = [] := by simp [registerOf, blank.marginCalls]
  have defaults : (registerOf db).defaultEvents = [] := by simp [registerOf, blank.defaultEvents]
  have identified : ∀ {ids : List Uuid}, ids = [] →
      Register.Identified ids (registerOf db).next := by
    rintro _ rfl
    exact ⟨List.nodup_nil, by simp⟩
  exact
    { trades := identified (by rw [trades]; rfl)
      instructions := identified (by rw [instructions]; rfl)
      marginCalls := identified calls
      defaultEvents := identified defaults
      submitted := by rw [untold, trades]; rfl
      novated := ⟨[], by rw [untold]; rfl, by rw [legs]; rfl, List.nodup_nil, by simp⟩
      created := by rw [untold, instructions]; rfl
      completed := by rw [untold, instructions]; rfl
      failed := by rw [untold, instructions]; rfl
      issued := by rw [untold, calls]; rfl
      declared := by rw [untold, defaults]; rfl
      resolved := by rw [untold, defaults]; rfl }

/-- Of the events of a kind exactly one names each row that calls for it, with its legs, and none
names anything else. -/
structure Agreement (kind : Announcement) (db : Database) : Prop where
  distinct : ((rowsOf kind db).map List.head?).Nodup
  once : ∀ row ∈ rowsOf kind db,
    ((told kind db).filter fun names => names.head? = row.head?.map some) = [row.map some]
  genuine : ∀ names ∈ told kind db, ∃ row ∈ rowsOf kind db, names = row.map some

theorem agreement_of_announced {kind : Announcement} {db : Database}
    (announced : (registerOf db).Announced kind) : Agreement kind db := by
  obtain ⟨distinct, news⟩ := announced
  rw [Register.rows_registerOf] at distinct news
  rw [← told_eq_about] at news
  refine ⟨distinct, fun row member => ?_, fun names member => ?_⟩
  · have single : ((rowsOf kind db).filter fun other => other.head? = row.head?).Perm [row] := by
      refine (List.perm_ext_iff_of_nodup ((distinct.of_map _).filter _)
        (List.nodup_singleton row)).mpr fun other => ?_
      rw [List.mem_filter, decide_eq_true_eq, List.mem_singleton]
      constructor
      · rintro ⟨inside, same⟩
        exact List.inj_on_of_nodup_map distinct inside member same
      · rintro rfl
        exact ⟨member, rfl⟩
    have heads : ∀ other : List Uuid,
        (other.map some).head? = row.head?.map some ↔ other.head? = row.head? := fun other => by
      rw [List.head?_map]
      exact (Option.map_injective (Option.some_injective Uuid)).eq_iff
    have filtered := news.filter fun names => names.head? = row.head?.map some
    rw [List.filter_map] at filtered
    simp only [Function.comp_def, heads] at filtered
    exact List.perm_singleton.mp (filtered.trans (single.map _))
  · obtain ⟨row, inside, same⟩ := List.mem_map.mp (news.mem_iff.mp member)
    exact ⟨row, inside, same.symm⟩

/-- From a blank house every committed state agrees with its events. -/
theorem agreement_of_run {first last : Database} (blank : Blank first)
    (run : Run (Operates backend) unrestricted first last) (kind : Announcement) :
    Agreement kind last := by
  have preserved : ∀ before label after, Registered before → unrestricted before label →
      Operates backend before label after → Registered after := by
    intro before label after registered _ operates
    cases operates with
    | operation committed => exact registered_of_operation registered committed
    | elsewhere unshown => exact registered.recorded (recorded_of_unshown unshown)
  have registered := run.invariant preserved (registered_of_blank blank)
  exact agreement_of_announced (Register.announced_of_agrees registered kind)

/-- The house of the trade before its submission. -/
def tradelessHouse : Database := { Consumers.tradeHouse with trades := [] }

/-- Member 1 sells member 2 ten units. -/
def tenUnits : HouseOperation :=
  .submitTrade [] [] ⟨"T1", 3, 2, 1, 10, 9⟩ ⟨6, "alice", none⟩

/-- The trade ingestion is called with the message. -/
def submittedUnits : HouseOperation :=
  .handle .tradeIngestion
    [("trade_id", .uuid 20), ("instrument_id", .uuid 3), ("buyer_member_id", .uuid 2),
      ("seller_member_id", .uuid 1), ("quantity", .decimal 10), ("price", .decimal 9),
      ("actor", .literal "alice"), ("event_id", .uuid 21), ("trace_id", .uuid 6)]
    ⟨0, 0, 30⟩

private theorem novated_tradelessHouse :
    ∃ middle ∈ committedStates (called decimalBackend none (tenUnits.body decimalBackend))
        tradelessHouse,
      ∃ last ∈ committedStates
        (called decimalBackend (some ("trade-ingestion", [.uuid 21]))
          (submittedUnits.body decimalBackend)) middle,
        rowsOf .tradeNovated last = [[20, 23, 24]] := by
  decide +kernel

/-- A trade is submitted and novated. -/
theorem agreement_of_run_tradelessHouse :
    ∃ last, Run (Operates decimalBackend) unrestricted tradelessHouse last ∧
      rowsOf .tradeNovated last = [[20, 23, 24]] ∧ Agreement .tradeNovated last := by
  obtain ⟨middle, submitted, last, novated, rows⟩ := novated_tradelessHouse
  have run : Run (Operates decimalBackend) unrestricted tradelessHouse last :=
    .snoc (.snoc (.refl _) trivial (.operation submitted)) trivial (.operation novated)
  have blank : Blank tradelessHouse := ⟨rfl, rfl, rfl, rfl, rfl, fun _ => rfl⟩
  exact ⟨last, run, rows, agreement_of_run blank run .tradeNovated⟩

end ClearingHouse
