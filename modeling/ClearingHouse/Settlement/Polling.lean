import ClearingHouse.Settlement.Commits

/-!
# Polling the chain

Which answer of the chain the polling ends with, and when a transfer that has been submitted is
recorded as failed although the chain has not reported so.
-/

namespace ClearingHouse

namespace Settlement

open Transactions

/-- An answer that stops the polling: failed, or confirmed deep enough. -/
def TransactionResult.Conclusive (required : ℕ) (answer : TransactionResult) : Prop :=
  (answer.status = .confirmed ∧ required ≤ answer.confirmations) ∨ answer.status = .failed

/-- The chain has been asked a number of times about a transaction without an answer that stops
the polling. -/
def Inconclusive (adapter : ChainAdapter) (txHash : String) (required asked : ℕ) : Prop :=
  ∀ earlier < asked, ∃ answer, adapter.getTxStatus txHash earlier = .ok answer ∧
    ¬answer.Conclusive required

/-- The polling returns the first answer that stops it, the first exception, or the last answer. -/
private theorem pollConfirmations_stops_from (adapter : ChainAdapter) (txHash : String)
    (required asked polls : ℕ) : ∃ k ≤ polls,
      pollConfirmations adapter txHash required asked polls =
        adapter.getTxStatus txHash (asked + k) ∧
      (∀ j < k, ∃ answer, adapter.getTxStatus txHash (asked + j) = .ok answer ∧
        ¬answer.Conclusive required) ∧
      (k < polls → ∀ answer, adapter.getTxStatus txHash (asked + k) = .ok answer →
        answer.Conclusive required) := by
  induction polls generalizing asked with
  | zero => exact ⟨0, le_rfl, rfl, by simp, by simp⟩
  | succ polls induction =>
      rw [pollConfirmations]
      cases first : adapter.getTxStatus txHash asked with
      | error message => exact ⟨0, by omega, first.symm, by simp, by simp [first]⟩
      | ok result =>
          by_cases conclusive : result.Conclusive required
          · refine ⟨0, by omega, ?_, by simp, fun _ answer same => ?_⟩
            · rcases conclusive with deep | failed
              · simp [deep, first]
              · simp [failed, first]
            · rw [Nat.add_zero, first, Except.ok.injEq] at same
              exact same ▸ conclusive
          · obtain ⟨k, bounded, returned, earlier, stopped⟩ := induction (asked + 1)
            have deep : ¬(result.status = .confirmed ∧ required ≤ result.confirmations) :=
              fun deep => conclusive (.inl deep)
            have failed : ¬result.status = .failed := fun failed => conclusive (.inr failed)
            have shift : ∀ j, asked + 1 + j = asked + (j + 1) := fun j => by omega
            refine ⟨k + 1, by omega, ?_, fun j before => ?_, fun left => ?_⟩
            · rw [← shift k]
              simp only [if_neg deep, if_neg failed]
              exact returned
            · cases j with
              | zero => exact ⟨result, first, conclusive⟩
              | succ j =>
                  rw [← shift j]
                  exact earlier j (by omega)
            · rw [← shift k]
              exact stopped (by omega)

theorem pollConfirmations_stops (adapter : ChainAdapter) (txHash : String) (required : ℕ) :
    ∃ asked ≤ maxConfirmationPolls,
      pollConfirmations adapter txHash required 0 maxConfirmationPolls =
        adapter.getTxStatus txHash asked ∧
      Inconclusive adapter txHash required asked ∧
      (asked < maxConfirmationPolls → ∀ answer, adapter.getTxStatus txHash asked = .ok answer →
        answer.Conclusive required) := by
  obtain ⟨asked, bounded, returned, earlier, stopped⟩ :=
    pollConfirmations_stops_from adapter txHash required 0 maxConfirmationPolls
  simp only [Nat.zero_add] at returned earlier stopped
  exact ⟨asked, bounded, returned, earlier, stopped⟩

/-- The chain answers everything it is asked about a transaction. -/
def Answered (adapter : ChainAdapter) (txHash : String) : Prop :=
  ∃ required, adapter.getRequiredConfirmations = .ok required ∧
    ∀ asked ≤ maxConfirmationPolls, Inconclusive adapter txHash required asked →
      ∃ answer, adapter.getTxStatus txHash asked = .ok answer

/-- The chain has reported a transaction as failed when it was asked. -/
def ReportedFailed (adapter : ChainAdapter) (txHash : String) : Prop :=
  ∃ required, adapter.getRequiredConfirmations = .ok required ∧
    ∃ asked ≤ maxConfirmationPolls, Inconclusive adapter txHash required asked ∧
      ∃ answer, adapter.getTxStatus txHash asked = .ok answer ∧ answer.status = .failed

/-- The polling ends with an answer that settles the matter: nothing it asks raises, and one of the
answers stops it or the last one is not pending. -/
def PollEnds (adapter : ChainAdapter) (txHash : String) : Prop :=
  ∃ required, adapter.getRequiredConfirmations = .ok required ∧
    ∃ asked ≤ maxConfirmationPolls, Inconclusive adapter txHash required asked ∧
      ∃ answer, adapter.getTxStatus txHash asked = .ok answer ∧
        (answer.Conclusive required ∨ (asked = maxConfirmationPolls ∧ answer.status ≠ .pending))

theorem polled_of_answered {adapter : ChainAdapter} {txHash : String}
    (answered : Answered adapter txHash) : ∃ answer, polled adapter txHash = .ok answer := by
  obtain ⟨required, known, answers⟩ := answered
  obtain ⟨asked, bounded, returned, earlier, -⟩ := pollConfirmations_stops adapter txHash required
  obtain ⟨answer, got⟩ := answers asked bounded earlier
  exact ⟨answer, by rw [polled, known]; exact returned.trans got⟩

/-- Two points at which the polling could stop are one. -/
private theorem stop_unique {adapter : ChainAdapter} {txHash : String}
    {required asked asked' : ℕ} (earlier : Inconclusive adapter txHash required asked)
    (earlier' : Inconclusive adapter txHash required asked')
    (stopped : asked < maxConfirmationPolls → ∀ answer,
      adapter.getTxStatus txHash asked = .ok answer → answer.Conclusive required)
    (bounded' : asked' ≤ maxConfirmationPolls) {answer' : TransactionResult}
    (got' : adapter.getTxStatus txHash asked' = .ok answer')
    (conclusive' : answer'.Conclusive required ∨ asked' = maxConfirmationPolls)
    (bounded : asked ≤ maxConfirmationPolls) : asked = asked' := by
  rcases lt_trichotomy asked asked' with before | same | after
  · obtain ⟨answer, got, inconclusive⟩ := earlier' asked before
    exact absurd (stopped (by omega) answer got) inconclusive
  · exact same
  · obtain ⟨answer, got, inconclusive⟩ := earlier asked' after
    rw [got', Except.ok.injEq] at got
    rcases conclusive' with conclusive' | last
    · exact absurd (got ▸ conclusive') inconclusive
    · omega

/-- The polling of a transaction returns what it ends with. -/
theorem polled_of_pollEnds {adapter : ChainAdapter} {txHash : String}
    (ends : PollEnds adapter txHash) : ∃ answer, polled adapter txHash = .ok answer ∧
      (answer.status = .confirmed ∨ (answer.status = .failed ∧ ReportedFailed adapter txHash)) := by
  obtain ⟨required, known, asked', bounded', earlier', answer, got, settled⟩ := ends
  obtain ⟨asked, bounded, returned, earlier, stopped⟩ :=
    pollConfirmations_stops adapter txHash required
  obtain rfl := stop_unique earlier earlier' stopped bounded' got (settled.imp_right And.left)
    bounded
  refine ⟨answer, by rw [polled, known]; exact returned.trans got, ?_⟩
  have reported : answer.status = .failed → ReportedFailed adapter txHash := fun failed =>
    ⟨required, known, asked, bounded, earlier, answer, got, failed⟩
  cases status : answer.status with
  | confirmed => exact .inl rfl
  | failed => exact .inr ⟨rfl, reported status⟩
  | pending =>
      rcases settled with (⟨confirmed, -⟩ | failed) | ⟨-, other⟩
      · rw [status] at confirmed
        cases confirmed
      · rw [status] at failed
        cases failed
      · exact absurd status other

theorem pollEnds_of_reportedFailed {adapter : ChainAdapter} {txHash : String}
    (reported : ReportedFailed adapter txHash) : PollEnds adapter txHash := by
  obtain ⟨required, known, asked, bounded, earlier, answer, got, failed⟩ := reported
  exact ⟨required, known, asked, bounded, earlier, answer, got, .inl (.inr failed)⟩

/-- Otherwise the polling raises or returns a transaction that is pending. -/
theorem polled_of_not_pollEnds {adapter : ChainAdapter} {txHash : String}
    (open_ended : ¬PollEnds adapter txHash) : ∀ answer, polled adapter txHash = .ok answer →
      answer.status = .pending := by
  intro answer returned
  rw [polled] at returned
  cases known : adapter.getRequiredConfirmations with
  | error message => simp [known] at returned
  | ok required =>
      simp only [known] at returned
      obtain ⟨asked, bounded, same, earlier, stopped⟩ :=
        pollConfirmations_stops adapter txHash required
      rw [same] at returned
      by_contra settled
      refine open_ended ⟨required, known, asked, bounded, earlier, answer, returned, ?_⟩
      rcases bounded.lt_or_eq with before | last
      · exact .inl (stopped before answer returned)
      · exact .inr ⟨last, settled⟩

end Settlement

end ClearingHouse
