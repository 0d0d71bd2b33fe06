import ClearingHouse.Settlement.Finality
import ClearingHouse.Signing

/-!
# Settlement with the signing client

Whatever chains are registered and whatever the nodes answer, the signing client raises.  Every
instruction that is settled on a chain is therefore approved and then failed, and nothing is
submitted.
-/

namespace ClearingHouse

namespace Settlement

open Transactions
open Transactions.Session (committedStates)
open Signing (Nodes Settings SigningFailure postSign sign_raises)

/-- `signing_client.sign` and the decoding of what it returns, with the texts of what they raise. -/
def signingClient (intOf : String → Option ℤ) (gateway : Signing.JsonObject →
      Except Signing.HttpError Signing.JsonObject) (str : SigningFailure → Text)
    (incorrectPadding : Text) (unsignedTx : Bytes) (chainId : String) : Except Text Bytes :=
  match Signing.sign intOf gateway (unsignedTx.map UInt8.ofNat) (.str chainId) with
  | .error failure => .error (str failure)
  | .ok signResponse =>
      (Base64.b64decode signResponse.signedTxBytes).elim (.error incorrectPadding) fun signedTx =>
        .ok (signedTx.map UInt8.toNat)

section Client

variable (sha256 : List UInt8 → List UInt8) (intOf : String → Option ℤ) (settings : Settings)
  (nodes : Nodes) (str : SigningFailure → Text) (incorrectPadding : Text)

theorem signingClient_raises (unsignedTx : Bytes) (chainId : String) :
    ∃ message, signingClient intOf (postSign sha256 settings nodes) str incorrectPadding unsignedTx
      chainId = .error message := by
  obtain ⟨failure, raised⟩ :=
    sign_raises sha256 intOf settings nodes (unsignedTx.map UInt8.ofNat) (.str chainId)
  exact ⟨str failure, by simp only [signingClient, raised]⟩

/-- No transaction is signed, whatever the adapter builds. -/
theorem signedTransaction_raises (instruction : SettlementInstruction) (adapter : ChainAdapter)
    (contractAddress : Option String) (chainId : String) :
    ∃ message, signedTransaction instruction adapter contractAddress chainId
      (signingClient intOf (postSign sha256 settings nodes) str incorrectPadding) =
        .error message := by
  rw [signedTransaction]
  cases adapter.buildDvpTx (dvpInstruction instruction contractAddress chainId) with
  | error message => exact ⟨message, rfl⟩
  | ok unsignedTx =>
      exact signingClient_raises sha256 intOf settings nodes str incorrectPadding unsignedTx chainId

variable {db : Database} {instructionId : Uuid} {chainRegistry : String → Option ChainAdapter}

/-- No call reaches the chain. -/
theorem isEmpty_submission :
    IsEmpty (Submission db instructionId chainRegistry
      (signingClient intOf (postSign sha256 settings nodes) str incorrectPadding)) := by
  refine ⟨fun submission => ?_⟩
  obtain ⟨message, raised⟩ := signedTransaction_raises sha256 intOf settings nodes str
    incorrectPadding submission.instruction submission.adapter
    submission.instrument.contractAddress submission.chainId
  have signed := submission.signed
  rw [raised] at signed
  cases signed

/-- A call on a registered chain commits the approval of its instruction, and then its failure. -/
theorem committedStates_unsigned (backend : Backend) (trace : TraceContext)
    (fresh : FreshJournals db)
    (unique : (db.settlementInstructions.map SettlementInstruction.id).Nodup)
    (call : ChainCall db instructionId chainRegistry) :
    ∃ approved failed extra,
      committedStates
          (settlementCall backend instructionId chainRegistry
            (signingClient intOf (postSign sha256 settings nodes) str incorrectPadding) trace) db =
        approved :: failed :: extra ∧
      StatusAt instructionId .approved approved ∧ StatusAt instructionId .failed failed ∧
      ∀ state ∈ extra, state = failed := by
  obtain ⟨instruction, instrument, chainId, adapter, found, onChain, chain, named, registered⟩ :=
    call
  obtain ⟨rfl, pending⟩ := statusAt_of_pending unique found
  obtain ⟨extra, commits, repeats⟩ := committedStates_settlementCall chainRegistry
    (signingClient intOf (postSign sha256 settings nodes) str incorrectPadding) trace backend
    instruction.id fresh
  obtain ⟨message, raised⟩ := signedTransaction_raises sha256 intOf settings nodes str
    incorrectPadding instruction adapter instrument.contractAddress chainId
  have approve := advanceStatus_apply instruction.id .pending .approved (by decide)
    [.literal "DVP validation passed"] trace db
  generalize advanced instruction.id .pending .approved [.literal "DVP validation passed"]
    trace db = approved at approve
  have approves := writes_advanceStatus approve
  have at_approved := pending.of_writes approves
  obtain ⟨after, ran, -, -, -, entries, -⟩ :=
    failInstruction_apply instruction.id .approved message trace approved
  have states : committedBy backend chainRegistry
      (signingClient intOf (postSign sha256 settings nodes) str incorrectPadding) trace
      instruction.id db = [approved, after] := by
    simp only [committedBy, found, script_of_onChain onChain chain named registered]
    rw [runActions_commit approve approves.ledger.2]
    simp only [transferring, raised, failed, runActions_commit ran entries, runActions]
  rw [states] at commits repeats
  exact ⟨approved, after, extra, commits, at_approved,
    at_approved.of_writes (writes_failInstruction ran), repeats⟩

end Client

end Settlement

end ClearingHouse
