import ClearingHouse.Events.Consumers

/-!
# The register of the house

What the business tables and the outbox have to do with each other, in terms of identifiers: a
register lists the rows with their statuses and what the events tell about them.  Its steps are the
changes that the operations of the services make; they keep every row announced once.
-/

namespace ClearingHouse

open Consumers (uuid?)

/-- The types of events that announce a row or its final status. -/
inductive Announcement
  | tradeSubmitted
  | tradeNovated
  | instructionCreated
  | settlementCompleted
  | settlementFailed
  | marginCallIssued
  | defaultDeclared
  | defaultResolved
  deriving DecidableEq, Repr

namespace Announcement

/-- The `event_type`. -/
def eventType : Announcement → String
  | tradeSubmitted => "trade.submitted"
  | tradeNovated => "trade.novated"
  | instructionCreated => "settlement.instruction.created"
  | settlementCompleted => "settlement.completed"
  | settlementFailed => "settlement.failed"
  | marginCallIssued => "margin.call.issued"
  | defaultDeclared => "default.declared"
  | defaultResolved => "default.resolved"

/-- The fields of the payload that name the rows. -/
def keys : Announcement → List String
  | tradeSubmitted => ["trade_id"]
  | tradeNovated => ["trade_id", "buyer_novated_id", "seller_novated_id"]
  | instructionCreated | settlementCompleted | settlementFailed => ["instruction_id"]
  | marginCallIssued => ["margin_call_id"]
  | defaultDeclared | defaultResolved => ["default_event_id"]

/-- The announcement with an `event_type`. -/
def ofType (eventType : String) : Option Announcement :=
  [tradeSubmitted, tradeNovated, instructionCreated, settlementCompleted, settlementFailed,
    marginCallIssued, defaultDeclared, defaultResolved].find? fun kind =>
      kind.eventType = eventType

theorem ofType_eventType (kind : Announcement) : ofType kind.eventType = some kind := by
  cases kind <;> decide

theorem eventType_of_ofType {eventType : String} {kind : Announcement}
    (found : ofType eventType = some kind) : kind.eventType = eventType := by
  simpa using List.find?_some found

end Announcement

/-- The uuid in a field of a payload. -/
def Payload.uuidAt (payload : Payload) (key : String) : Option Uuid :=
  match payload.get? key with
  | some (.string text) => uuid? text
  | _ => none

/-- What an event tells: its kind and the identifiers it names. -/
abbrev News := Announcement × List (Option Uuid)

/-- The news in the payload of an event. -/
def newsIn (eventType : String) (payload : Payload) : Option News :=
  (Announcement.ofType eventType).map fun kind => (kind, kind.keys.map payload.uuidAt)

/-- The news of an event. -/
def newsOf (event : OutboxEvent) : Option News := newsIn event.eventType event.payload

/-- What the events of a kind name, in the order of the outbox. -/
def told (kind : Announcement) (db : Database) : List (List (Option Uuid)) :=
  (db.outboxEvents.filter fun event => event.eventType = kind.eventType).map fun event =>
    kind.keys.map event.payload.uuidAt

/-- The rows that call for an event of a kind: a novated trade with its legs, an instruction with
the final status, and every row of the other tables. -/
def rowsOf (kind : Announcement) (db : Database) : List (List Uuid) :=
  match kind with
  | .tradeSubmitted => db.trades.map fun trade => [trade.id]
  | .tradeNovated =>
      (db.trades.filter fun trade =>
          trade.id ∈ db.novatedTrades.map NovatedTrade.originalTradeId).map fun trade =>
        trade.id ::
          (db.novatedTrades.filter fun leg => leg.originalTradeId = trade.id).map NovatedTrade.id
  | .instructionCreated => db.settlementInstructions.map fun row => [row.id]
  | .settlementCompleted =>
      (db.settlementInstructions.filter fun row => row.status = .confirmed).map fun row => [row.id]
  | .settlementFailed =>
      (db.settlementInstructions.filter fun row => row.status = .failed).map fun row => [row.id]
  | .marginCallIssued => db.marginCalls.map fun call => [call.id]
  | .defaultDeclared | .defaultResolved => db.defaultEvents.map fun event => [event.id]

/-- Trades and instructions with their statuses, legs with their trades, margin calls, default
events, and the news in the order in which they were told. -/
structure Register where
  trades : List (Uuid × TradeStatus)
  legs : List (Uuid × Uuid)
  instructions : List (Uuid × InstructionStatus)
  marginCalls : List Uuid
  defaultEvents : List Uuid
  news : List News
  next : Uuid

/-- The register of a database. -/
def registerOf (db : Database) : Register where
  trades := db.trades.map fun trade => (trade.id, trade.status)
  legs := db.novatedTrades.map fun leg => (leg.originalTradeId, leg.id)
  instructions := db.settlementInstructions.map fun row => (row.id, row.status)
  marginCalls := db.marginCalls.map MarginCall.id
  defaultEvents := db.defaultEvents.map DefaultEvent.id
  news := db.outboxEvents.filterMap newsOf
  next := db.nextUuid

/-- The news of a kind. -/
def about (kind : Announcement) (news : List News) : List (List (Option Uuid)) :=
  (news.filter fun item => item.1 = kind).map Prod.snd

@[simp] theorem about_append (kind : Announcement) (news more : List News) :
    about kind (news ++ more) = about kind news ++ about kind more := by
  simp [about]

@[simp] theorem about_nil (kind : Announcement) : about kind [] = [] := rfl

@[simp] theorem about_cons (kind : Announcement) (item : News) (news : List News) :
    about kind (item :: news) = (if item.1 = kind then [item.2] else []) ++ about kind news := by
  by_cases same : item.1 = kind <;> simp [about, same]

theorem about_map (kind other : Announcement) (ids : List Uuid) :
    about kind (ids.map fun id => (other, [some id])) =
      if other = kind then ids.map fun id => [some id] else [] := by
  by_cases same : other = kind <;> simp [about, List.filter_map, Function.comp_def, same]

theorem told_eq_about (kind : Announcement) (db : Database) :
    told kind db = about kind (registerOf db).news := by
  unfold told registerOf
  induction db.outboxEvents with
  | nil => rfl
  | cons event events induction =>
      cases found : Announcement.ofType event.eventType with
      | none =>
          have silent : newsOf event = none := by simp [newsOf, newsIn, found]
          have other : event.eventType ≠ kind.eventType := fun same => by
            simp [same, Announcement.ofType_eventType] at found
          simpa [List.filterMap_cons_none silent, other] using induction
      | some kind' =>
          have item : newsOf event = some (kind', kind'.keys.map event.payload.uuidAt) := by
            simp [newsOf, newsIn, found]
          have type := Announcement.eventType_of_ofType found
          by_cases same : kind' = kind
          · subst same
            simpa [List.filterMap_cons_some item, type.symm] using induction
          · have other : event.eventType ≠ kind.eventType := fun equal => same
              (Option.some.inj (found.symm.trans (equal ▸ Announcement.ofType_eventType kind)))
            simpa [List.filterMap_cons_some item, other, same] using induction

namespace Register

/-- A row changes its status. -/
def setStatus {status : Type} (id : Uuid) (new : status) (row : Uuid × status) : Uuid × status :=
  if row.1 = id then (row.1, new) else row

/-- The instruction is known and has no final status. -/
def Open (register : Register) (id : Uuid) : Prop :=
  (∃ row ∈ register.instructions, row.1 = id) ∧
    ∀ row ∈ register.instructions, row.1 = id → row.2 ≠ .confirmed ∧ row.2 ≠ .failed

/-- What is told of an instruction with a status. -/
def settlementNews (id : Uuid) : InstructionStatus → List News
  | .confirmed => [(.settlementCompleted, [some id])]
  | .failed => [(.settlementFailed, [some id])]
  | _ => []

/-- An instruction without a final status stays open. -/
theorem Open.setStatus {register after : Register} {id : Uuid} (opened : register.Open id)
    {status : InstructionStatus} (unfinished : status ≠ .confirmed ∧ status ≠ .failed)
    (moved : after.instructions = register.instructions.map (setStatus id status)) :
    after.Open id := by
  obtain ⟨⟨row, member, same⟩, others⟩ := opened
  refine ⟨⟨(row.1, status), ?_, same⟩, fun row' member' same' => ?_⟩
  · rw [moved]
    exact List.mem_map.mpr ⟨row, member, if_pos same⟩
  · rw [moved] at member'
    obtain ⟨old, inside, rfl⟩ := List.mem_map.mp member'
    unfold Register.setStatus at same' ⊢
    split
    · exact unfinished
    · next apart =>
        rw [if_neg apart] at same'
        exact absurd same' apart

/-- Unused identifiers for new rows. -/
structure Fresh (register : Register) (ids : List Uuid) (next : Uuid) : Prop where
  unused : ∀ id ∈ ids, register.next ≤ id ∧ id < next
  distinct : ids.Nodup
  later : register.next ≤ next

/-- What the operations do to a register. -/
inductive Step : Register → Register → Prop
  /-- Nothing is told, and no row that needs an announcement changes. -/
  | quiet {register : Register} {next : Uuid} (later : register.next ≤ next) :
      Step register { register with next }
  | submit {register : Register} {tradeId next : Uuid} (fresh : register.Fresh [tradeId] next) :
      Step register
        { register with
          trades := register.trades ++ [(tradeId, .submitted)]
          news := register.news ++ [(.tradeSubmitted, [some tradeId])]
          next }
  | novate {register : Register} {tradeId buyId sellId next : Uuid}
      (submitted : (tradeId, .submitted) ∈ register.trades) (later : register.next ≤ next) :
      Step register
        { register with
          trades := register.trades.map (setStatus tradeId .novated)
          legs := register.legs ++ [(tradeId, buyId), (tradeId, sellId)]
          news := register.news ++ [(.tradeNovated, [some tradeId, some buyId, some sellId])]
          next }
  | reject {register : Register} {tradeId next : Uuid} (later : register.next ≤ next) :
      Step register
        { register with trades := register.trades.map (setStatus tradeId .rejected), next }
  | instruct {register : Register} {ids : List Uuid} {next : Uuid}
      (fresh : register.Fresh ids next) :
      Step register
        { register with
          instructions := register.instructions ++ ids.map fun id => (id, .pending)
          news := register.news ++ ids.map fun id => (.instructionCreated, [some id])
          next }
  /-- An open instruction gets a status; a final one is told. -/
  | settle {register : Register} {id next : Uuid} {status : InstructionStatus}
      (opened : register.Open id) (later : register.next ≤ next) :
      Step register
        { register with
          instructions := register.instructions.map (setStatus id status)
          news := register.news ++ settlementNews id status
          next }
  | issue {register : Register} {callId next : Uuid} (fresh : register.Fresh [callId] next) :
      Step register
        { register with
          marginCalls := register.marginCalls ++ [callId]
          news := register.news ++ [(.marginCallIssued, [some callId])]
          next }
  | default {register : Register} {eventId next : Uuid} (fresh : register.Fresh [eventId] next) :
      Step register
        { register with
          defaultEvents := register.defaultEvents ++ [eventId]
          news := register.news ++ [(.defaultDeclared, [some eventId]),
            (.defaultResolved, [some eventId])]
          next }

/-- Rows are identified by numbers that have been used. -/
structure Identified (ids : List Uuid) (next : Uuid) : Prop where
  distinct : ids.Nodup
  used : ∀ id ∈ ids, id < next

theorem Identified.mono {ids : List Uuid} {next later : Uuid} (identified : Identified ids next)
    (le : next ≤ later) : Identified ids later :=
  ⟨identified.distinct, fun id member => (identified.used id member).trans_le le⟩

theorem Identified.append {register : Register} {ids new : List Uuid} {next : Uuid}
    (identified : Identified ids register.next) (fresh : register.Fresh new next) :
    Identified (ids ++ new) next := by
  refine ⟨List.nodup_append.mpr ⟨identified.distinct, fresh.distinct, fun id old id' added => ?_⟩,
    fun id member => ?_⟩
  · exact ne_of_lt ((identified.used id old).trans_le (fresh.unused id' added).1)
  · rcases List.mem_append.mp member with old | added
    · exact (identified.used id old).trans_le fresh.later
    · exact (fresh.unused id added).2

/-- The identifiers of rows. -/
def ids {status : Type} (rows : List (Uuid × status)) : List Uuid := rows.map Prod.fst

@[simp] theorem ids_append {status : Type} (rows more : List (Uuid × status)) :
    ids (rows ++ more) = ids rows ++ ids more := List.map_append

@[simp] theorem ids_singleton {status : Type} (row : Uuid × status) : ids [row] = [row.1] := rfl

@[simp] theorem ids_map_pair {status : Type} (new : List Uuid) (value : status) :
    ids (new.map fun id => (id, value)) = new := by
  simp [ids, Function.comp_def]

/-- The names by which events refer to rows. -/
def named (ids : List Uuid) : List (List (Option Uuid)) := ids.map fun id => [some id]

@[simp] theorem named_append (ids more : List Uuid) :
    named (ids ++ more) = named ids ++ named more := List.map_append

@[simp] theorem named_singleton (id : Uuid) : named [id] = [[some id]] := rfl

/-- The identifiers of the rows with a status. -/
def withStatus {status : Type} [DecidableEq status] (final : status) (rows : List (Uuid × status)) :
    List Uuid :=
  ids (rows.filter fun row => row.2 = final)

theorem mem_withStatus {status : Type} [DecidableEq status] {final : status}
    {rows : List (Uuid × status)} {id : Uuid} :
    id ∈ withStatus final rows ↔ (id, final) ∈ rows := by
  simp only [withStatus, ids, List.mem_map, List.mem_filter, decide_eq_true_eq]
  constructor
  · rintro ⟨row, ⟨member, rfl⟩, rfl⟩
    exact member
  · exact fun member => ⟨(id, final), ⟨member, rfl⟩, rfl⟩

theorem nodup_withStatus {status : Type} [DecidableEq status] (final : status)
    {rows : List (Uuid × status)} (distinct : (ids rows).Nodup) :
    (withStatus final rows).Nodup :=
  distinct.sublist (List.filter_sublist.map _)

@[simp] theorem ids_setStatus {status : Type} (id : Uuid) (new : status)
    (rows : List (Uuid × status)) : ids (rows.map (setStatus id new)) = ids rows := by
  rw [ids, List.map_map]
  apply List.map_congr_left
  intro row _
  simp only [Function.comp_apply, setStatus]
  split <;> rfl

theorem mem_map_setStatus {status : Type} {id other : Uuid} {new final : status}
    {rows : List (Uuid × status)} :
    (other, final) ∈ rows.map (setStatus id new) ↔
      (other ≠ id ∧ (other, final) ∈ rows) ∨
        (other = id ∧ final = new ∧ ∃ row ∈ rows, row.1 = id) := by
  simp only [List.mem_map, setStatus]
  constructor
  · rintro ⟨row, member, changed⟩
    split at changed
    · next same =>
        cases changed
        exact .inr ⟨same, rfl, row, member, same⟩
    · next apart =>
        subst changed
        exact .inl ⟨apart, member⟩
  · rintro (⟨apart, member⟩ | ⟨rfl, rfl, row, member, same⟩)
    · exact ⟨_, member, if_neg apart⟩
    · exact ⟨row, member, by rw [if_pos same, same]⟩

/-- An open instruction gets a status. -/
theorem withStatus_setStatus {register : Register} {id : Uuid} {final : InstructionStatus}
    (distinct : (ids register.instructions).Nodup) (opened : register.Open id)
    (isFinal : final = .confirmed ∨ final = .failed) (status : InstructionStatus) :
    (withStatus final (register.instructions.map (setStatus id status))).Perm
      (withStatus final register.instructions ++ if status = final then [id] else []) := by
  obtain ⟨known, unfinished⟩ := opened
  have absent : (id, final) ∉ register.instructions := fun member => by
    have other := unfinished _ member rfl
    rcases isFinal with rfl | rfl
    · exact other.1 rfl
    · exact other.2 rfl
  have nodup : (withStatus final register.instructions ++
      if status = final then [id] else []).Nodup := by
    refine List.nodup_append.mpr ⟨nodup_withStatus final distinct, by split <;> simp,
      fun other old other' new => ?_⟩
    rintro rfl
    split at new
    · rw [List.mem_singleton.mp new, mem_withStatus] at old
      exact absent old
    · cases new
  refine (List.perm_ext_iff_of_nodup (nodup_withStatus final (by rwa [ids_setStatus]))
    nodup).mpr
    fun other => ?_
  rw [mem_withStatus, mem_map_setStatus, List.mem_append, mem_withStatus]
  constructor
  · rintro (⟨apart, member⟩ | ⟨rfl, rfl, -⟩)
    · exact .inl member
    · exact .inr (by simp)
  · rintro (member | new)
    · refine .inl ⟨?_, member⟩
      rintro rfl
      exact absent member
    · split at new
      · next same => exact .inr ⟨List.mem_singleton.mp new, same.symm, known⟩
      · cases new

/-- A trade, its buy leg and its sell leg. -/
abbrev Novation := Uuid × Uuid × Uuid

/-- The novations of a register: every one is told once and has its two legs, and its trade is
submitted no more. -/
structure Novated (register : Register) (novations : List Novation) : Prop where
  told : about .tradeNovated register.news =
    novations.map fun item => [some item.1, some item.2.1, some item.2.2]
  legs : register.legs = novations.flatMap fun item => [(item.1, item.2.1), (item.1, item.2.2)]
  distinct : (novations.map Prod.fst).Nodup
  processed : ∀ item ∈ novations, ∃ row ∈ register.trades, row.1 = item.1 ∧ row.2 ≠ .submitted

/-- Every row is announced once, as its status asks for, and nothing else is. -/
structure Agrees (register : Register) : Prop where
  trades : Identified (ids register.trades) register.next
  instructions : Identified (ids register.instructions) register.next
  marginCalls : Identified register.marginCalls register.next
  defaultEvents : Identified register.defaultEvents register.next
  submitted : about .tradeSubmitted register.news = named (ids register.trades)
  novated : ∃ novations, Novated register novations
  created : about .instructionCreated register.news = named (ids register.instructions)
  completed : (about .settlementCompleted register.news).Perm
    (named (withStatus .confirmed register.instructions))
  failed : (about .settlementFailed register.news).Perm
    (named (withStatus .failed register.instructions))
  issued : about .marginCallIssued register.news = named register.marginCalls
  declared : about .defaultDeclared register.news = named register.defaultEvents
  resolved : about .defaultResolved register.news = named register.defaultEvents

variable {before after : Register}

/-- Novations stay told if trades are only added or processed. -/
theorem Novated.mono {register after : Register} {novations : List Novation}
    (novated : Novated register novations)
    (told : about .tradeNovated after.news = about .tradeNovated register.news)
    (legs : after.legs = register.legs)
    (kept : ∀ row ∈ register.trades, row.2 ≠ .submitted →
      ∃ row' ∈ after.trades, row'.1 = row.1 ∧ row'.2 ≠ .submitted) :
    Novated after novations := by
  refine ⟨told.trans novated.told, legs.trans novated.legs, novated.distinct, fun item member => ?_⟩
  obtain ⟨row, inside, same, processed⟩ := novated.processed item member
  obtain ⟨row', inside', same', processed'⟩ := kept row inside processed
  exact ⟨row', inside', same'.trans same, processed'⟩

/-- A processed trade stays processed when a trade is processed. -/
theorem processed_setStatus {trades : List (Uuid × TradeStatus)} {tradeId : Uuid}
    {status : TradeStatus} (processing : status ≠ .submitted) {row : Uuid × TradeStatus}
    (member : row ∈ trades) (processed : row.2 ≠ .submitted) :
    ∃ row' ∈ trades.map (setStatus tradeId status), row'.1 = row.1 ∧ row'.2 ≠ .submitted := by
  refine ⟨setStatus tradeId status row, List.mem_map_of_mem member, ?_⟩
  rw [setStatus]
  split
  · exact ⟨rfl, processing⟩
  · exact ⟨rfl, processed⟩

theorem agrees_quiet {next : Uuid} (agrees : Agrees before) (later : before.next ≤ next) :
    Agrees { before with next } where
  trades := agrees.trades.mono later
  instructions := agrees.instructions.mono later
  marginCalls := agrees.marginCalls.mono later
  defaultEvents := agrees.defaultEvents.mono later
  submitted := agrees.submitted
  novated := by
    obtain ⟨novations, novated⟩ := agrees.novated
    exact ⟨novations, novated.mono rfl rfl fun row member processed =>
      ⟨row, member, rfl, processed⟩⟩
  created := agrees.created
  completed := agrees.completed
  failed := agrees.failed
  issued := agrees.issued
  declared := agrees.declared
  resolved := agrees.resolved

theorem agrees_submit {tradeId next : Uuid} (agrees : Agrees before)
    (fresh : before.Fresh [tradeId] next) :
    Agrees
      { before with
        trades := before.trades ++ [(tradeId, .submitted)]
        news := before.news ++ [(.tradeSubmitted, [some tradeId])]
        next } where
  trades := by simpa using agrees.trades.append fresh
  instructions := agrees.instructions.mono fresh.later
  marginCalls := agrees.marginCalls.mono fresh.later
  defaultEvents := agrees.defaultEvents.mono fresh.later
  submitted := by simp [agrees.submitted]
  novated := by
    obtain ⟨novations, novated⟩ := agrees.novated
    exact ⟨novations, novated.mono (by simp) rfl fun row member processed =>
      ⟨row, List.mem_append_left _ member, rfl, processed⟩⟩
  created := by simp [agrees.created]
  completed := by simpa using agrees.completed
  failed := by simpa using agrees.failed
  issued := by simp [agrees.issued]
  declared := by simp [agrees.declared]
  resolved := by simp [agrees.resolved]

/-- A submitted trade has not been novated. -/
theorem Novated.unnovated {novations : List Novation} {tradeId : Uuid}
    (novated : Novated before novations) (distinct : (ids before.trades).Nodup)
    (submitted : (tradeId, .submitted) ∈ before.trades) : tradeId ∉ novations.map Prod.fst := by
  intro member
  obtain ⟨item, inside, same⟩ := List.mem_map.mp member
  obtain ⟨row, there, trade, processed⟩ := novated.processed item inside
  have equal : row = (tradeId, .submitted) :=
    List.inj_on_of_nodup_map distinct there submitted (trade.trans same)
  exact processed (congrArg Prod.snd equal)

theorem agrees_novate {tradeId buyId sellId next : Uuid} (agrees : Agrees before)
    (submitted : (tradeId, .submitted) ∈ before.trades) (later : before.next ≤ next) :
    Agrees
      { before with
        trades := before.trades.map (setStatus tradeId .novated)
        legs := before.legs ++ [(tradeId, buyId), (tradeId, sellId)]
        news := before.news ++ [(.tradeNovated, [some tradeId, some buyId, some sellId])]
        next } where
  trades := by simpa using agrees.trades.mono later
  instructions := agrees.instructions.mono later
  marginCalls := agrees.marginCalls.mono later
  defaultEvents := agrees.defaultEvents.mono later
  submitted := by simp [agrees.submitted]
  novated := by
    obtain ⟨novations, novated⟩ := agrees.novated
    have unnovated := novated.unnovated agrees.trades.distinct submitted
    refine ⟨novations ++ [(tradeId, buyId, sellId)], by simp [novated.told],
      by simp [novated.legs], ?_, fun item member => ?_⟩
    · rw [List.map_append]
      refine List.nodup_append.mpr ⟨novated.distinct, by simp, fun id old id' new => ?_⟩
      rw [List.map_singleton, List.mem_singleton] at new
      rw [new]
      exact ne_of_mem_of_not_mem old unnovated
    · rcases List.mem_append.mp member with old | new
      · obtain ⟨row, inside, same, processed⟩ := novated.processed item old
        have processing : TradeStatus.novated ≠ .submitted := nofun
        obtain ⟨row', inside', same', processed'⟩ :
            ∃ row' ∈ before.trades.map (setStatus tradeId .novated),
              row'.1 = row.1 ∧ row'.2 ≠ .submitted :=
          processed_setStatus processing inside processed
        exact ⟨row', inside', same'.trans same, processed'⟩
      · rw [List.mem_singleton.mp new]
        exact ⟨(tradeId, .novated), List.mem_map.mpr ⟨_, submitted, if_pos rfl⟩, rfl, nofun⟩
  created := by simp [agrees.created]
  completed := by simpa using agrees.completed
  failed := by simpa using agrees.failed
  issued := by simp [agrees.issued]
  declared := by simp [agrees.declared]
  resolved := by simp [agrees.resolved]

theorem agrees_reject {tradeId next : Uuid} (agrees : Agrees before)
    (later : before.next ≤ next) :
    Agrees { before with trades := before.trades.map (setStatus tradeId .rejected), next } where
  trades := by simpa using agrees.trades.mono later
  instructions := agrees.instructions.mono later
  marginCalls := agrees.marginCalls.mono later
  defaultEvents := agrees.defaultEvents.mono later
  submitted := by simp [agrees.submitted]
  novated := by
    obtain ⟨novations, novated⟩ := agrees.novated
    have processing : TradeStatus.rejected ≠ .submitted := nofun
    exact ⟨novations, novated.mono rfl rfl fun _ => processed_setStatus processing⟩
  created := agrees.created
  completed := agrees.completed
  failed := agrees.failed
  issued := agrees.issued
  declared := agrees.declared
  resolved := agrees.resolved

theorem withStatus_append_pending {final : InstructionStatus} (isFinal : .pending ≠ final)
    (rows : List (Uuid × InstructionStatus)) (new : List Uuid) :
    withStatus final (rows ++ new.map fun id => (id, .pending)) = withStatus final rows := by
  have none : (new.map fun id => (id, InstructionStatus.pending)).filter
      (fun row => row.2 = final) = [] := by
    simp [List.filter_eq_nil_iff, isFinal]
  rw [withStatus, List.filter_append, none, List.append_nil, withStatus]

theorem agrees_instruct {new : List Uuid} {next : Uuid} (agrees : Agrees before)
    (fresh : before.Fresh new next) :
    Agrees
      { before with
        instructions := before.instructions ++ new.map fun id => (id, .pending)
        news := before.news ++ new.map fun id => (.instructionCreated, [some id])
        next } where
  trades := agrees.trades.mono fresh.later
  instructions := by simpa using agrees.instructions.append fresh
  marginCalls := agrees.marginCalls.mono fresh.later
  defaultEvents := agrees.defaultEvents.mono fresh.later
  submitted := by simp [agrees.submitted, about_map]
  novated := by
    obtain ⟨novations, novated⟩ := agrees.novated
    exact ⟨novations, novated.mono (by simp [about_map]) rfl fun row member processed =>
      ⟨row, member, rfl, processed⟩⟩
  created := by simp [agrees.created, about_map, named]
  completed := by
    have same := withStatus_append_pending (nofun : InstructionStatus.pending ≠ .confirmed)
      before.instructions new
    simpa [about_map, same] using agrees.completed
  failed := by
    have same := withStatus_append_pending (nofun : InstructionStatus.pending ≠ .failed)
      before.instructions new
    simpa [about_map, same] using agrees.failed
  issued := by simp [agrees.issued, about_map]
  declared := by simp [agrees.declared, about_map]
  resolved := by simp [agrees.resolved, about_map]

theorem about_settlementNews (id : Uuid) (status : InstructionStatus) (kind : Announcement) :
    about kind (settlementNews id status) =
      if (kind = .settlementCompleted ∧ status = .confirmed) ∨
          (kind = .settlementFailed ∧ status = .failed) then named [id]
      else [] := by
  cases status <;> cases kind <;> rfl

/-- An open instruction gets a status, and it is told if it is a final one. -/
theorem agrees_settle {id next : Uuid} {status : InstructionStatus} (agrees : Agrees before)
    (opened : before.Open id) (later : before.next ≤ next) :
    Agrees
      { before with
        instructions := before.instructions.map (setStatus id status)
        news := before.news ++ settlementNews id status
        next } where
  trades := agrees.trades.mono later
  instructions := by simpa using agrees.instructions.mono later
  marginCalls := agrees.marginCalls.mono later
  defaultEvents := agrees.defaultEvents.mono later
  submitted := by simp [agrees.submitted, about_settlementNews]
  novated := by
    obtain ⟨novations, novated⟩ := agrees.novated
    exact ⟨novations, novated.mono (by simp [about_settlementNews]) rfl
      fun row member processed => ⟨row, member, rfl, processed⟩⟩
  created := by simp [agrees.created, about_settlementNews]
  completed := by
    have more := withStatus_setStatus agrees.instructions.distinct opened (.inl rfl) status
    have told := (agrees.completed.append_right
      (about .settlementCompleted (settlementNews id status)))
    have same : named (withStatus .confirmed before.instructions) ++
        about .settlementCompleted (settlementNews id status) =
      named (withStatus .confirmed before.instructions ++
        if status = .confirmed then [id] else []) := by
      rw [named_append, about_settlementNews]
      cases status <;> rfl
    rw [about_append]
    exact told.trans (same ▸ (more.map _).symm)
  failed := by
    have more := withStatus_setStatus agrees.instructions.distinct opened (.inr rfl) status
    have told := (agrees.failed.append_right
      (about .settlementFailed (settlementNews id status)))
    have same : named (withStatus .failed before.instructions) ++
        about .settlementFailed (settlementNews id status) =
      named (withStatus .failed before.instructions ++
        if status = .failed then [id] else []) := by
      rw [named_append, about_settlementNews]
      cases status <;> rfl
    rw [about_append]
    exact told.trans (same ▸ (more.map _).symm)
  issued := by simp [agrees.issued, about_settlementNews]
  declared := by simp [agrees.declared, about_settlementNews]
  resolved := by simp [agrees.resolved, about_settlementNews]

theorem agrees_issue {callId next : Uuid} (agrees : Agrees before)
    (fresh : before.Fresh [callId] next) :
    Agrees
      { before with
        marginCalls := before.marginCalls ++ [callId]
        news := before.news ++ [(.marginCallIssued, [some callId])]
        next } where
  trades := agrees.trades.mono fresh.later
  instructions := agrees.instructions.mono fresh.later
  marginCalls := agrees.marginCalls.append fresh
  defaultEvents := agrees.defaultEvents.mono fresh.later
  submitted := by simp [agrees.submitted]
  novated := by
    obtain ⟨novations, novated⟩ := agrees.novated
    exact ⟨novations, novated.mono (by simp) rfl fun row member processed =>
      ⟨row, member, rfl, processed⟩⟩
  created := by simp [agrees.created]
  completed := by simpa using agrees.completed
  failed := by simpa using agrees.failed
  issued := by simp [agrees.issued]
  declared := by simp [agrees.declared]
  resolved := by simp [agrees.resolved]

theorem agrees_default {eventId next : Uuid} (agrees : Agrees before)
    (fresh : before.Fresh [eventId] next) :
    Agrees
      { before with
        defaultEvents := before.defaultEvents ++ [eventId]
        news := before.news ++ [(.defaultDeclared, [some eventId]),
          (.defaultResolved, [some eventId])]
        next } where
  trades := agrees.trades.mono fresh.later
  instructions := agrees.instructions.mono fresh.later
  marginCalls := agrees.marginCalls.mono fresh.later
  defaultEvents := agrees.defaultEvents.append fresh
  submitted := by simp [agrees.submitted]
  novated := by
    obtain ⟨novations, novated⟩ := agrees.novated
    exact ⟨novations, novated.mono (by simp) rfl fun row member processed =>
      ⟨row, member, rfl, processed⟩⟩
  created := by simp [agrees.created]
  completed := by simpa using agrees.completed
  failed := by simpa using agrees.failed
  issued := by simp [agrees.issued]
  declared := by simp [agrees.declared]
  resolved := by simp [agrees.resolved]

theorem agrees_step (agrees : Agrees before) (step : Step before after) : Agrees after := by
  cases step with
  | quiet later => exact agrees_quiet agrees later
  | submit fresh => exact agrees_submit agrees fresh
  | novate submitted later => exact agrees_novate agrees submitted later
  | reject later => exact agrees_reject agrees later
  | instruct fresh => exact agrees_instruct agrees fresh
  | settle opened later => exact agrees_settle agrees opened later
  | issue fresh => exact agrees_issue agrees fresh
  | default fresh => exact agrees_default agrees fresh

theorem agrees_of_steps (agrees : Agrees before)
    (steps : Relation.ReflTransGen Step before after) : Agrees after := by
  induction steps with
  | refl => exact agrees
  | tail _ step induction => exact agrees_step induction step

/-- The rows of a register that call for an event of a kind. -/
def rows (register : Register) : Announcement → List (List Uuid)
  | .tradeSubmitted => (ids register.trades).map fun id => [id]
  | .tradeNovated =>
      ((ids register.trades).filter fun id => id ∈ register.legs.map Prod.fst).map fun id =>
        id :: (register.legs.filter fun leg => leg.1 = id).map Prod.snd
  | .instructionCreated => (ids register.instructions).map fun id => [id]
  | .settlementCompleted => (withStatus .confirmed register.instructions).map fun id => [id]
  | .settlementFailed => (withStatus .failed register.instructions).map fun id => [id]
  | .marginCallIssued => register.marginCalls.map fun id => [id]
  | .defaultDeclared | .defaultResolved => register.defaultEvents.map fun id => [id]

theorem rows_registerOf (kind : Announcement) (db : Database) :
    (registerOf db).rows kind = rowsOf kind db := by
  cases kind <;>
    simp [rows, rowsOf, registerOf, ids, withStatus, List.filter_map, Function.comp_def]

/-- The events of a kind name the rows that call for one, each row once. -/
structure Announced (register : Register) (kind : Announcement) : Prop where
  distinct : ((register.rows kind).map List.head?).Nodup
  told : (about kind register.news).Perm ((register.rows kind).map (List.map some))

theorem announced_of_ids {register : Register} {kind : Announcement} {rowIds : List Uuid}
    (rows : register.rows kind = rowIds.map fun id => [id]) (distinct : rowIds.Nodup)
    (told : (about kind register.news).Perm (named rowIds)) : register.Announced kind := by
  refine ⟨?_, ?_⟩
  · rw [rows, List.map_map]
    exact distinct.map fun _ _ same => Option.some_injective _ same
  · rw [rows, List.map_map]
    exact told

/-- The legs of a novated trade. -/
theorem Novated.legs_of_mem {register : Register} {novations : List Novation}
    (novated : Novated register novations) {item : Novation} (member : item ∈ novations) :
    (register.legs.filter fun leg => leg.1 = item.1).map Prod.snd = [item.2.1, item.2.2] := by
  obtain ⟨told, legs, distinct, -⟩ := novated
  rw [legs]
  clear told legs
  induction novations with
  | nil => cases member
  | cons head tail induction =>
      obtain ⟨apart, distinct⟩ := List.nodup_cons.mp distinct
      rw [List.flatMap_cons, List.filter_append, List.map_append]
      rcases List.mem_cons.mp member with rfl | later
      · have others : (tail.flatMap fun other =>
          [(other.1, other.2.1), (other.1, other.2.2)]).filter
            (fun leg => leg.1 = item.1) = [] := by
          rw [List.filter_eq_nil_iff]
          intro leg inside
          obtain ⟨other, there, is_leg⟩ := List.mem_flatMap.mp inside
          have trade : leg.1 = other.1 := by
            rcases List.mem_pair.mp is_leg with rfl | rfl <;> rfl
          rw [decide_eq_true_eq, trade]
          exact fun same => apart (same ▸ List.mem_map_of_mem there)
        simp [others]
      · have other : head.1 ≠ item.1 := fun same =>
          apart (same ▸ List.mem_map_of_mem (f := Prod.fst) later)
        rw [induction later distinct]
        simp [other]

theorem announced_tradeNovated {register : Register} (agrees : Agrees register) :
    register.Announced .tradeNovated := by
  obtain ⟨novations, novated⟩ := agrees.novated
  have trades : ((ids register.trades).filter fun id =>
      id ∈ register.legs.map Prod.fst).Perm (novations.map Prod.fst) := by
    refine (List.perm_ext_iff_of_nodup (agrees.trades.distinct.filter _) novated.distinct).mpr
      fun id => ?_
    have legs : id ∈ register.legs.map Prod.fst ↔ id ∈ novations.map Prod.fst := by
      rw [novated.legs]
      simp only [List.mem_map, List.mem_flatMap, List.mem_pair]
      constructor
      · rintro ⟨leg, ⟨item, inside, rfl | rfl⟩, rfl⟩ <;> exact ⟨item, inside, rfl⟩
      · rintro ⟨item, inside, rfl⟩
        exact ⟨_, ⟨item, inside, .inl rfl⟩, rfl⟩
    rw [List.mem_filter, decide_eq_true_eq, legs, and_iff_right_iff_imp]
    intro member
    obtain ⟨item, inside, rfl⟩ := List.mem_map.mp member
    obtain ⟨row, there, same, -⟩ := novated.processed item inside
    exact same ▸ List.mem_map_of_mem there
  have rows : (register.rows .tradeNovated).Perm
      (novations.map fun item => [item.1, item.2.1, item.2.2]) := by
    apply (trades.map _).trans
    rw [List.map_map]
    refine .of_eq (List.map_congr_left fun item member => ?_)
    rw [Function.comp_apply, novated.legs_of_mem member]
  refine ⟨?_, ?_⟩
  · apply (rows.map List.head?).nodup_iff.mpr
    have trades := novated.distinct.map (Option.some_injective Uuid)
    rw [List.map_map] at trades ⊢
    exact trades
  · rw [novated.told]
    refine List.Perm.trans (.of_eq ?_) (rows.map (List.map some)).symm
    rw [List.map_map]
    rfl

/-- What agrees is announced. -/
theorem announced_of_agrees {register : Register} (agrees : Agrees register)
    (kind : Announcement) : register.Announced kind := by
  have final : ∀ status, (withStatus status register.instructions).Nodup := fun status =>
    nodup_withStatus status agrees.instructions.distinct
  cases kind with
  | tradeSubmitted => exact announced_of_ids rfl agrees.trades.distinct (.of_eq agrees.submitted)
  | tradeNovated => exact announced_tradeNovated agrees
  | instructionCreated =>
      exact announced_of_ids rfl agrees.instructions.distinct (.of_eq agrees.created)
  | settlementCompleted => exact announced_of_ids rfl (final _) agrees.completed
  | settlementFailed => exact announced_of_ids rfl (final _) agrees.failed
  | marginCallIssued =>
      exact announced_of_ids rfl agrees.marginCalls.distinct (.of_eq agrees.issued)
  | defaultDeclared =>
      exact announced_of_ids rfl agrees.defaultEvents.distinct (.of_eq agrees.declared)
  | defaultResolved =>
      exact announced_of_ids rfl agrees.defaultEvents.distinct (.of_eq agrees.resolved)

end Register

end ClearingHouse
