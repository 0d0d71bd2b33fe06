import ClearingHouse.Library.StepSystem
import ClearingHouse.Settlement.Log

/-!
# Calls in progress

Any number of calls of `settle_instruction` work on one database, each on a connection of its own.
A call performs its script act by act; it can be cut off anywhere, and in between other calls and
other services commit.
-/

namespace ClearingHouse

namespace Settlement

open StepSystem Transactions
open Transactions.Session (committedStates)

/-- Settlement journals that refer to an instruction. -/
def settlementJournals (db : Database) (instructionId : Uuid) : List Journal :=
  db.journals.filter fun journal =>
    journal.journalType = .settlement ∧ journal.referenceId = some instructionId

/-- Entries of a journal. -/
def entriesOf (db : Database) (journalId : Uuid) : List JournalEntry :=
  db.journalEntries.filter fun entry => entry.journalId = journalId

/-- A row as the netting engine has inserted it, without a trace in the tables of settlements. -/
structure Untouched (backend : Backend) (db : Database) (row : SettlementInstruction) : Prop where
  pending : row.status = .pending
  amount : row.amount ∈ backend.grid
  unlogged : logOf db row.id = []
  unpaid : settlementJournals db row.id = []

/-- No journal and no entry belongs to an identifier that is not given out yet. -/
structure FreshLedger (db : Database) : Prop where
  entries : FreshJournals db
  journals : ∀ journal ∈ db.journals, journal.id < db.nextUuid

/-- What services other than the settlement engine may commit: new rows, and nothing about rows that
exist. -/
structure Undisturbed (backend : Backend) (db after : Database)
    (new : List SettlementInstruction) : Prop where
  rows : after.settlementInstructions = db.settlementInstructions ++ new
  distinct : (after.settlementInstructions.map SettlementInstruction.id).Nodup
  untouched : ∀ row ∈ new, Untouched backend db row
  located : ∀ row ∈ new, ∃ instrument ∈ after.instruments, instrument.id = row.instrumentId
  logs : ∀ id, logOf after id = logOf db id
  journals : ∀ id, settlementJournals after id = settlementJournals db id
  entries : ∀ id, ∀ journal ∈ settlementJournals db id,
    entriesOf after journal.id = entriesOf db journal.id
  accounts : db.accounts ⊆ after.accounts
  instruments : db.instruments ⊆ after.instruments
  processed : db.processedEvents ⊆ after.processedEvents
  fresh : FreshLedger after

/-- A database whose instructions are all new. -/
structure Unsettled (backend : Backend) (db : Database) : Prop where
  distinct : (db.settlementInstructions.map SettlementInstruction.id).Nodup
  untouched : ∀ row ∈ db.settlementInstructions, Untouched backend db row
  located : ∀ row ∈ db.settlementInstructions, ∃ instrument ∈ db.instruments,
    instrument.id = row.instrumentId
  fresh : FreshLedger db

/-- A call that has read its row, and what it has left to do. -/
structure Call where
  instruction : SettlementInstruction
  actions : List Action

/-- The committed database and the calls in progress. -/
structure Calls where
  committed : Database
  running : List Call

/-- What happens next: a call of an instruction reads its row, a call performs its next act or is
cut off, or another service commits. -/
inductive CallLabel
  | read (instructionId : Uuid) (chainRegistry : String → Option ChainAdapter)
      (sign : Bytes → String → Except Text Bytes) (trace : TraceContext)
  | act (position : ℕ)
  | stop (position : ℕ)
  | elsewhere (new : List SettlementInstruction)

/-- One step; calls are numbered by their position. -/
inductive CallStep (backend : Backend) : Calls → CallLabel → Calls → Prop
  | read {db : Database} {running : List Call} {instructionId : Uuid}
      {chainRegistry : String → Option ChainAdapter} {sign : Bytes → String → Except Text Bytes}
      {trace : TraceContext} {instruction : SettlementInstruction} {instrument : Instrument}
      {actions : List Action}
      (pending : pendingInstruction db instructionId = some (instruction, instrument))
      (scripted : script backend chainRegistry sign trace instruction instrument = some actions) :
      CallStep backend ⟨db, running⟩ (.read instructionId chainRegistry sign trace)
        ⟨db, running ++ [⟨instruction, actions⟩]⟩
  | commit {db after : Database} {front back : List Call} {instruction : SettlementInstruction}
      {code : Sql Unit} {rest : List Action} (ran : code db = .ok ((), after))
      (accepted : (server backend).deferred db after = .ok ()) :
      CallStep backend ⟨db, front ++ ⟨instruction, .commit code :: rest⟩ :: back⟩
        (.act front.length) ⟨after, front ++ ⟨instruction, rest⟩ :: back⟩
  | submit {db : Database} {front back : List Call} {instruction : SettlementInstruction}
      {signedTx : Bytes} {rest : List Action} :
      CallStep backend ⟨db, front ++ ⟨instruction, .submit signedTx :: rest⟩ :: back⟩
        (.act front.length) ⟨db, front ++ ⟨instruction, rest⟩ :: back⟩
  | stop {db : Database} {front back : List Call} {call : Call} :
      CallStep backend ⟨db, front ++ call :: back⟩ (.stop front.length) ⟨db, front ++ back⟩
  | elsewhere {db after : Database} {running : List Call} {new : List SettlementInstruction}
      (undisturbed : Undisturbed backend db after new) :
      CallStep backend ⟨db, running⟩ (.elsewhere new) ⟨after, running⟩

/-- A call of an instruction starts after the ones before it have ended. -/
def InSequence (calls : Calls) : CallLabel → Prop
  | .read instructionId _ _ _ => ∀ call ∈ calls.running, call.instruction.id ≠ instructionId
  | _ => True

variable {backend : Backend}

/-- Acts performed one after the other, with no step of anyone else between them. -/
theorem run_of_runActions {allowed : Calls → CallLabel → Prop} (instruction : SettlementInstruction)
    {actions : List Action} {db after : Database}
    (permitted : ∀ state ∈ db :: runActions backend actions db, ∀ rest,
      allowed ⟨state, [⟨instruction, rest⟩]⟩ (.act 0))
    (member : after ∈ runActions backend actions db) :
    ∃ rest, Run (CallStep backend) allowed ⟨db, [⟨instruction, actions⟩]⟩
      ⟨after, [⟨instruction, rest⟩]⟩ := by
  induction actions generalizing db with
  | nil => cases member
  | cons action actions induction =>
      have now := permitted db (by simp)
      cases action with
      | submit signedTx =>
          obtain ⟨rest, run⟩ := induction permitted member
          have taken : CallStep backend ⟨db, [] ++ ⟨instruction, .submit signedTx :: actions⟩ :: []⟩
            (.act 0) ⟨db, [] ++ ⟨instruction, actions⟩ :: []⟩ := .submit
          exact ⟨rest, (Run.snoc (.refl _) (now _) taken).trans run⟩
      | commit code =>
          cases ran : code db with
          | error failure => simp [runActions, ran] at member
          | ok pair =>
              obtain ⟨⟨⟩, committed⟩ := pair
              cases checked : (server backend).deferred db committed with
              | error failure => simp [runActions, ran, checked] at member
              | ok accepted =>
                  have taken : CallStep backend
                      ⟨db, [] ++ ⟨instruction, .commit code :: actions⟩ :: []⟩ (.act 0)
                      ⟨committed, [] ++ ⟨instruction, actions⟩ :: []⟩ := .commit ran checked
                  have first := Run.snoc (Run.refl _) (now _) taken
                  have states : runActions backend (.commit code :: actions) db =
                      committed :: runActions backend actions committed := by
                    simp only [runActions, ran, checked]
                  rw [states] at permitted member
                  rcases List.mem_cons.mp member with rfl | inside
                  · exact ⟨actions, first⟩
                  · obtain ⟨rest, run⟩ := induction
                      (fun state later => permitted state (List.mem_cons_of_mem _ later)) inside
                    exact ⟨rest, first.trans run⟩

/-- Every state that a call of `settle_instruction` commits is reached by its steps. -/
theorem run_of_committedStates (allowed : Calls → CallLabel → Prop) {db : Database}
    (fresh : FreshJournals db) (instructionId : Uuid)
    (chainRegistry : String → Option ChainAdapter) (sign : Bytes → String → Except Text Bytes)
    (trace : TraceContext)
    (opened : allowed ⟨db, []⟩ (.read instructionId chainRegistry sign trace))
    (permitted : ∀ instruction instrument,
      pendingInstruction db instructionId = some (instruction, instrument) →
        ∀ state ∈ db :: committedBy backend chainRegistry sign trace instructionId db, ∀ rest,
          allowed ⟨state, [⟨instruction, rest⟩]⟩ (.act 0))
    {after : Database}
    (member : after ∈ committedStates
      (settlementCall backend instructionId chainRegistry sign trace) db) :
    ∃ running, Run (CallStep backend) allowed ⟨db, []⟩ ⟨after, running⟩ := by
  obtain ⟨extra, commits, repeats⟩ :=
    committedStates_settlementCall chainRegistry sign trace backend instructionId fresh
  have inside : after ∈ committedBy backend chainRegistry sign trace instructionId db ∨
      after = db := by
    rw [commits, List.mem_append] at member
    rcases member with first | again
    · exact .inl first
    · rw [repeats after again]
      cases states : committedBy backend chainRegistry sign trace instructionId db with
      | nil => exact .inr rfl
      | cons state states =>
          rw [List.getLastD_cons]
          exact .inl List.getLastD_mem_cons
  rcases inside with inside | rfl
  · cases pending : pendingInstruction db instructionId with
    | none => simp [committedBy, pending] at inside
    | some pair =>
        obtain ⟨instruction, instrument⟩ := pair
        cases scripted : script backend chainRegistry sign trace instruction instrument with
        | none => simp [committedBy, pending, scripted] at inside
        | some actions =>
            have states : committedBy backend chainRegistry sign trace instructionId db =
                runActions backend actions db := by
              simp only [committedBy, pending, scripted]
            have taken : CallStep backend ⟨db, []⟩ (.read instructionId chainRegistry sign trace)
                ⟨db, [] ++ [⟨instruction, actions⟩]⟩ := .read pending scripted
            have free := permitted _ _ pending
            rw [states] at free inside
            obtain ⟨rest, run⟩ := run_of_runActions instruction free inside
            exact ⟨_, (Run.snoc (.refl _) opened taken).trans run⟩
  · exact ⟨[], .refl _⟩

end Settlement

end ClearingHouse
