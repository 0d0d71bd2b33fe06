import ClearingHouse.Settlement

/-!
# What a settlement keeps

The session of a settlement executes five kinds of transactions between its calls to the chain.  A
relation that they respect and an invariant that their commits keep is kept by the whole session,
whatever the chain and the signer answer.
-/

namespace ClearingHouse

namespace Settlement

open Transactions Transactions.Session
open Transaction (respects_bind respects_ite respects_pure respects_raise respects_read)

/-- The transactions of a settlement respect a relation. -/
structure Respected (backend : Backend) (relation : Database → Database → Prop) : Prop where
  update : ∀ instructionId change,
    Transaction.Respects relation (updateInstruction instructionId change)
  advance : ∀ instructionId fromStatus toStatus reason trace,
    Transaction.Respects relation (advanceStatus instructionId fromStatus toStatus reason trace)
  fail : ∀ instructionId fromStatus reason trace,
    Transaction.Respects relation (failInstruction instructionId fromStatus reason trace)
  finalize : ∀ instruction blockNumber confirmations trace,
    Transaction.Respects relation
      (finalizeRows backend instruction blockNumber confirmations trace)
  cash : ∀ instruction trace, Transaction.Respects relation (settleCash backend instruction trace)

/-- The transactions of a settlement with one trace respect a relation. -/
structure RespectedFor (backend : Backend) (relation : Database → Database → Prop)
    (trace : TraceContext) : Prop where
  update : ∀ instructionId change,
    Transaction.Respects relation (updateInstruction instructionId change)
  advance : ∀ instructionId fromStatus toStatus reason,
    Transaction.Respects relation (advanceStatus instructionId fromStatus toStatus reason trace)
  fail : ∀ instructionId fromStatus reason,
    Transaction.Respects relation (failInstruction instructionId fromStatus reason trace)
  finalize : ∀ instruction blockNumber confirmations,
    Transaction.Respects relation
      (finalizeRows backend instruction blockNumber confirmations trace)
  cash : ∀ instruction, Transaction.Respects relation (settleCash backend instruction trace)

variable {backend : Backend} {invariant : Database → Prop}
  {relation : Database → Database → Prop}

theorem Respected.withTrace (respected : Respected backend relation) (trace : TraceContext) :
    RespectedFor backend relation trace where
  update := respected.update
  advance := fun _ _ _ _ => respected.advance _ _ _ _ _
  fail := fun _ _ _ => respected.fail _ _ _ _
  finalize := fun _ _ _ => respected.finalize _ _ _ _
  cash := fun _ => respected.cash _ _

/-- A weaker relation is respected as well. -/
theorem Respected.mono {weaker : Database → Database → Prop}
    (respected : Respected backend relation)
    (implies : ∀ {db after}, relation db after → weaker db after) : Respected backend weaker where
  update := fun _ _ _ _ _ ran => implies (respected.update _ _ ran)
  advance := fun _ _ _ _ _ _ _ _ ran => implies (respected.advance _ _ _ _ _ ran)
  fail := fun _ _ _ _ _ _ _ ran => implies (respected.fail _ _ _ _ ran)
  finalize := fun _ _ _ _ _ _ _ ran => implies (respected.finalize _ _ _ _ ran)
  cash := fun _ _ _ _ _ ran => implies (respected.cash _ _ ran)

theorem RespectedFor.mono {weaker : Database → Database → Prop} {trace : TraceContext}
    (respected : RespectedFor backend relation trace)
    (implies : ∀ {db after}, relation db after → weaker db after) :
    RespectedFor backend weaker trace where
  update := fun _ _ _ _ _ ran => implies (respected.update _ _ ran)
  advance := fun _ _ _ _ _ _ _ ran => implies (respected.advance _ _ _ _ ran)
  fail := fun _ _ _ _ _ _ ran => implies (respected.fail _ _ _ ran)
  finalize := fun _ _ _ _ _ _ ran => implies (respected.finalize _ _ _ ran)
  cash := fun _ _ _ _ ran => implies (respected.cash _ ran)

/-- The transactions respect what their statements respect. -/
theorem respectedFor_of [Std.Refl relation] [IsTrans Database relation] {trace : TraceContext}
    (admits : AdmitsPostings backend relation)
    (update : ∀ instructionId change,
      Transaction.Respects relation (updateInstruction instructionId change))
    (transition : ∀ instructionId fromStatus toStatus reason, Transaction.Respects relation
      (recordTransition instructionId fromStatus toStatus reason trace))
    (event : ∀ instructionId eventType aggregateId, Transaction.Respects relation
      (emitSettlementEvent instructionId eventType aggregateId trace)) :
    RespectedFor backend relation trace := by
  have advance : ∀ instructionId fromStatus toStatus reason, Transaction.Respects relation
      (advanceStatus instructionId fromStatus toStatus reason trace) := fun _ _ _ _ =>
    respects_bind (respects_ite (respects_pure ()) (respects_raise _)) fun _ =>
      respects_bind (update _ _) fun _ => transition ..
  have fail : ∀ instructionId fromStatus reason, Transaction.Respects relation
      (failInstruction instructionId fromStatus reason trace) := fun _ _ _ =>
    respects_bind (update _ _) fun _ => respects_bind (transition ..) fun _ => event ..
  refine ⟨update, advance, fail, fun instruction blockNumber confirmations => ?_,
    fun instruction => ?_⟩
  · exact respects_bind (respects_finalizeEntries admits _) fun _ =>
      respects_bind (update _ _) fun _ =>
        respects_bind (advance ..) fun _ => event ..
  · refine respects_bind respects_read fun db => ?_
    split
    · exact respects_bind (advance ..) fun _ =>
        respects_bind (advance ..) fun _ =>
          respects_bind (advance ..) fun _ =>
            respects_bind admits.uuid4 fun _ =>
              respects_bind
                (respects_runWhen _ (respects_postSettlement admits ..)) fun _ =>
                respects_bind (advance ..) fun _ =>
                  respects_bind (event ..) fun _ => respects_pure _
    · exact respects_bind (fail ..) fun _ => respects_pure _

theorem respected_of_traces (each : ∀ trace, RespectedFor backend relation trace) :
    Respected backend relation where
  update := (each ⟨0, "", none⟩).update
  advance := fun _ _ _ _ trace => (each trace).advance _ _ _ _
  fail := fun _ _ _ trace => (each trace).fail _ _ _
  finalize := fun _ _ _ trace => (each trace).finalize _ _ _
  cash := fun _ trace => (each trace).cash _

theorem keeps_external {α : Type} (result : Except Text α) :
    Keeps invariant relation (external result) := by
  cases result with
  | ok value => exact keeps_pure value
  | error message => exact keeps_raise _

section Session

variable [Std.Refl relation] [IsTrans Database relation] {trace : TraceContext}
  (respected : RespectedFor backend relation trace)
  (survives : ∀ old new, invariant old → relation old new →
    (server backend).deferred old new = .ok () → invariant new)
include respected survives

theorem keeps_concludeOnChain (instruction : SettlementInstruction) (adapter : ChainAdapter)
    (txHash : String) :
    Keeps invariant relation (concludeOnChain backend instruction adapter txHash trace) := by
  refine keeps_bind (keeps_external _) fun _ => keeps_bind (keeps_external _) fun _ =>
    keeps_bind (keeps_requireIdle _) fun _ => ?_
  split
  · exact keeps_bind (keeps_execute (respected.finalize _ _ _)) fun _ =>
      keeps_bind (keeps_commit survives) fun _ => keeps_pure _
  · exact keeps_bind (keeps_execute (respected.fail _ _ _)) fun _ =>
      keeps_bind (keeps_commit survives) fun _ => keeps_pure _

theorem keeps_submitOnChain (instruction : SettlementInstruction) (adapter : ChainAdapter)
    (signedTx : Bytes) :
    Keeps invariant relation (submitOnChain backend instruction adapter signedTx trace) :=
  keeps_bind (keeps_external _) fun _ => keeps_bind (keeps_requireIdle _) fun _ =>
    keeps_bind (keeps_execute (respected.update _ _)) fun _ =>
      keeps_bind (keeps_execute (respected.advance _ _ _ _)) fun _ =>
        keeps_bind (keeps_commit survives) fun _ =>
          keeps_concludeOnChain respected survives _ _ _

theorem keeps_transferOnChain (instruction : SettlementInstruction)
    (contractAddress : Option String) (chainId : String) (adapter : ChainAdapter)
    (sign : Bytes → String → Except Text Bytes) :
    Keeps invariant relation
      (transferOnChain backend instruction contractAddress chainId adapter sign trace) :=
  keeps_bind (keeps_external _) fun _ => keeps_bind (keeps_external _) fun _ =>
    keeps_bind (keeps_requireIdle _) fun _ =>
      keeps_bind (keeps_execute (respected.advance _ _ _ _)) fun _ =>
        keeps_bind (keeps_commit survives) fun _ =>
          keeps_submitOnChain respected survives _ _ _

theorem keeps_settleDvp (instruction : SettlementInstruction) (contractAddress : Option String)
    (chainRegistry : String → Option ChainAdapter) (sign : Bytes → String → Except Text Bytes) :
    Keeps invariant relation
      (settleDvp backend instruction contractAddress chainRegistry sign trace) := by
  rw [settleDvp]
  split
  · exact keeps_bind (keeps_execute (respected.fail _ _ _)) fun _ => keeps_pure _
  · split
    · exact keeps_raise _
    · refine keeps_bind (keeps_execute (respected.advance _ _ _ _)) fun _ =>
        keeps_bind (keeps_commit survives) fun _ =>
          keeps_attempt (keeps_transferOnChain respected survives _ _ _ _ _) fun failure => ?_
      exact keeps_bind (keeps_requireIdle _) fun _ =>
        keeps_bind (keeps_execute (respected.fail _ _ _)) fun _ =>
          keeps_bind (keeps_commit survives) fun _ => keeps_pure _

/-- The rule for the session of a settlement with one trace. -/
theorem keeps_settleInstruction_trace (instructionId : Uuid)
    (chainRegistry : String → Option ChainAdapter) (sign : Bytes → String → Except Text Bytes) :
    Keeps invariant relation
      (settleInstruction backend instructionId chainRegistry sign trace) := by
  apply keeps_bind (keeps_execute Transaction.respects_read)
  intro db
  unfold settlePending
  split
  · exact keeps_pure _
  · split
    · exact keeps_execute (respected.cash _)
    · exact keeps_settleDvp respected survives _ _ _ _
    · exact keeps_settleDvp respected survives _ _ _ _

end Session

/-- The rule for the session of a settlement. -/
theorem keeps_settleInstruction [Std.Refl relation] [IsTrans Database relation]
    (respected : Respected backend relation)
    (survives : ∀ old new, invariant old → relation old new →
      (server backend).deferred old new = .ok () → invariant new) (instructionId : Uuid)
    (chainRegistry : String → Option ChainAdapter) (sign : Bytes → String → Except Text Bytes)
    (trace : TraceContext) :
    Keeps invariant relation
      (settleInstruction backend instructionId chainRegistry sign trace) :=
  keeps_settleInstruction_trace (respected.withTrace trace) survives _ _ _

end Settlement

end ClearingHouse
