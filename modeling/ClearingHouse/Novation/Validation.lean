import ClearingHouse.Novation.Session

/-!
# Validation of trades

A trade whose validation has succeeded is between two active members, in an active instrument, and
for a positive quantity and price; only such a trade gets to the novation.
-/

namespace ClearingHouse

namespace Novation

open Transactions Transactions.Session

variable {backend : Backend} {data : TradeData} {trace : TraceContext}

/-- A member that may trade an instrument. -/
structure Eligible (db : Database) (memberId instrumentId : Uuid) : Prop where
  member : ∃ member ∈ db.members, member.id = memberId ∧ member.status = .active
  instrument : ∃ instrument ∈ db.instruments,
    instrument.id = instrumentId ∧ instrument.isActive = true

/-- A trade that `_validate_trade` lets through. -/
structure Validated (data : TradeData) (db : Database) : Prop where
  apart : data.buyerMemberId ≠ data.sellerMemberId
  quantity : 0 < data.quantity
  price : 0 < data.price
  buyer : Eligible db data.buyerMemberId data.instrumentId
  seller : Eligible db data.sellerMemberId data.instrumentId

theorem verifyMemberActive_eq_ok {memberId : Uuid} {role : String} {db after : Database}
    (ran : verifyMemberActive memberId role db = .ok ((), after)) :
    (∃ member ∈ db.members, member.id = memberId ∧ member.status = .active) ∧ db = after := by
  rw [verifyMemberActive, Transaction.bind_of_ok (Transaction.read_apply db)] at ran
  cases found : db.members.find? fun member => member.id = memberId with
  | none => simp [found, invalid] at ran
  | some member =>
      rw [found] at ran
      have named : member.id = memberId := by simpa using List.find?_some found
      by_cases active : member.status = .active
      · simp only [active, if_true, Transaction.pure_apply, Except.ok.injEq, Prod.mk.injEq,
          true_and] at ran
        exact ⟨⟨member, List.mem_of_find?_eq_some found, named, active⟩, ran⟩
      · simp [active, invalid] at ran

theorem verifyInstrumentActive_eq_ok {instrumentId : Uuid} {db after : Database}
    (ran : verifyInstrumentActive instrumentId db = .ok ((), after)) :
    (∃ instrument ∈ db.instruments, instrument.id = instrumentId ∧ instrument.isActive = true) ∧
      db = after := by
  rw [verifyInstrumentActive, Transaction.bind_of_ok (Transaction.read_apply db)] at ran
  cases found : db.instruments.find? fun instrument => instrument.id = instrumentId with
  | none => simp [found, invalid] at ran
  | some instrument =>
      rw [found] at ran
      have named : instrument.id = instrumentId := by simpa using List.find?_some found
      by_cases active : instrument.isActive = true
      · simp only [active, if_true, Transaction.pure_apply, Except.ok.injEq, Prod.mk.injEq,
          true_and] at ran
        exact ⟨⟨instrument, List.mem_of_find?_eq_some found, named, active⟩, ran⟩
      · simp [active, invalid] at ran

/-- A validation that succeeds leaves a transaction open in a state that lets the trade through. -/
theorem validateTrade_eq_ok {connection after : Connection Database}
    (ran : validateTrade backend data connection = (.ok (), after)) :
    Validated data connection.working ∧
      after = { connection with status := .inTransaction } := by
  obtain ⟨⟨⟩, _, distinct, ran⟩ := bind_eq_ok ran
  obtain ⟨apart, rfl⟩ := require_eq_ok distinct
  obtain ⟨⟨⟩, _, positive, ran⟩ := bind_eq_ok ran
  obtain ⟨quantity, rfl⟩ := require_eq_ok positive
  obtain ⟨⟨⟩, _, priced, ran⟩ := bind_eq_ok ran
  obtain ⟨price, rfl⟩ := require_eq_ok priced
  obtain ⟨⟨⟩, _, bought, ran⟩ := bind_eq_ok ran
  obtain ⟨_, verified, rfl⟩ := execute_eq_ok bought
  obtain ⟨buyer, rfl⟩ := verifyMemberActive_eq_ok verified
  obtain ⟨⟨⟩, _, sold, ran⟩ := bind_eq_ok ran
  obtain ⟨_, verified, rfl⟩ := execute_eq_ok sold
  obtain ⟨seller, rfl⟩ := verifyMemberActive_eq_ok verified
  obtain ⟨_, verified, rfl⟩ := execute_eq_ok ran
  obtain ⟨instrument, rfl⟩ := verifyInstrumentActive_eq_ok verified
  exact ⟨⟨apart, quantity, price, ⟨buyer, instrument⟩, ⟨seller, instrument⟩⟩, rfl⟩

/-- The rule for a session whose novation respects a relation once the trade is validated. -/
theorem keeps_processTrade_of_validated {invariant : Database → Prop}
    {relation : Database → Database → Prop} [Std.Refl relation] [IsTrans Database relation]
    (survives : ∀ old new, invariant old → relation old new →
      (server backend).deferred old new = .ok () → invariant new)
    (novates : ∀ committed db after ids, invariant committed → relation committed db →
      Validated data db → novateTrade backend data.tradeId data trace db = .ok (ids, after) →
        relation db after)
    (rejects : ∀ reason, Transaction.Respects relation (rejectTrade data.tradeId reason trace)) :
    Keeps invariant relation (processTrade backend data trace) := by
  refine keeps_attempt ?_ fun failure => keeps_transaction survives (rejects _)
  intro connection sound
  rw [bind_apply]
  cases validation : validateTrade backend data connection with
  | mk outcome validated =>
      cases outcome with
      | error failure =>
          have checks : Keeps invariant relation (validateTrade backend data) :=
            keeps_bind (keeps_require _ _) fun _ => keeps_bind (keeps_require _ _) fun _ =>
              keeps_bind (keeps_require _ _) fun _ =>
                keeps_bind (keeps_execute (respects_of_reads (reads_verifyMemberActive _ _)))
                  fun _ => keeps_bind
                    (keeps_execute (respects_of_reads (reads_verifyMemberActive _ _)))
                    fun _ => keeps_execute (respects_of_reads (reads_verifyInstrumentActive _))
          simpa [validation] using checks connection sound
      | ok done =>
          obtain ⟨valid, rfl⟩ := validateTrade_eq_ok validation
          have held : Sound invariant relation { connection with status := .inTransaction } :=
            ⟨sound.committed, sound.working, sound.history⟩
          simp only [bind_apply, transaction]
          cases novation : novateTrade backend data.tradeId data trace connection.working with
          | error failure => exact held
          | ok pair =>
              exact ⟨sound.committed,
                IsTrans.trans _ _ _ sound.working
                  (novates _ _ _ _ sound.committed sound.working valid novation), sound.history⟩

end Novation

end ClearingHouse
