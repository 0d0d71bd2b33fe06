import ClearingHouse.Events.HandledMessages

/-!
# No lost messages

When the loops commit no offset of a message whose effects are not committed, over whole runs: any
messages in any order and as often as they are delivered, connections that fail, processes that die,
and commits of other services in between.
-/

namespace ClearingHouse

namespace ConsumeLoops

open Consumers StepSystem Transactions

/-- A delivered message can be decoded, and calls for nothing, or was processed before, or is one
that its loop handles, on connections that are opened and not lost.  A process that dies between
two commits of a block leaves no new mark behind, or dies behind a block that has handled its
message. -/
def Smooth (progress : Progress) : LoopLabel → Prop
  | .deliver delivery fault => ∃ event, delivery.message = .ok event ∧
      (delivery.loop.idle event = true ∨
        (eventId event ≠ [] ∧ delivery.mark event ∈ progress.committed.processedEvents) ∨
        (fault = none ∧ delivery.Handles event progress.committed))
  | .crash delivery fault => ∀ event, delivery.message = .ok event →
      eventId event = [] ∨ delivery.loop.idle event = true ∨
        delivery.mark event ∈ progress.committed.processedEvents ∨
        fault = some .refused ∨ fault = some (.lost 0) ∨ delivery.loop.commitsOnce = true ∨
        (fault = none ∧ delivery.Handles event progress.committed)
  | .elsewhere => True

/-- No message is dropped, the settled events are those with a mark, and the journals are in
order. -/
structure Sound (progress : Progress) : Prop where
  dropped : progress.dropped = []
  settled : ∀ mark, Ours mark →
    (mark ∈ progress.committed.processedEvents ↔ mark ∈ progress.settled)
  journals : JournalsConfirmed progress.committed

variable {progress : Progress} {delivery : Delivery} {event : Payload} {after : Database}

theorem freshJournals_of_confirmed {db : Database} (journals : JournalsConfirmed db) :
    Settlement.FreshJournals db := by
  intro entry member
  obtain ⟨journal, inside, own⟩ := List.mem_map.mp (journals.posted entry member)
  exact own ▸ journals.numbered journal inside

theorem ours_mark (delivery : Delivery) (event : Payload) : Ours (delivery.mark event) :=
  ⟨delivery.loop, rfl⟩

/-- What is known is what is marked. -/
theorem knows_iff (sound : Sound progress) (delivery : Delivery) (event : Payload) :
    progress.knows delivery event = true ↔
      eventId event ≠ [] ∧ delivery.mark event ∈ progress.committed.processedEvents := by
  rw [Progress.knows, decide_eq_true_iff, sound.settled _ (ours_mark delivery event)]

/-- A connection that is lost behind the last commit is not missed. -/
theorem deliver_lost_behind {backend : Backend} {commits : ℕ}
    (behind : (delivery.pass backend progress.committed).commits.length ≤ commits) :
    progress.deliver backend delivery (some (.lost commits)) =
      progress.deliver backend delivery none := by
  have same : progress.leaves backend delivery (some (.lost commits)) =
      progress.leaves backend delivery none := if_pos behind
  rw [Progress.deliver, Progress.deliver, Progress.process, Progress.process, same]

/-- A connection that is lost before the first commit leaves nothing. -/
theorem commits_of_lost_zero {backend : Backend} (progress : Progress) (delivery : Delivery) :
    (progress.leaves backend delivery (some (.lost 0))).commits = [] := by
  rw [Progress.leaves, Pass.under]
  split
  · next none => exact List.length_eq_zero_iff.mp (Nat.le_zero.mp none)
  · rfl

/-- The marks stay settled if a new one is. -/
theorem settled_settle {finished : Bool} (sound : Sound progress)
    (adds : Adds (delivery.Own event) progress.committed after)
    (marked : eventId event ≠ [] → delivery.mark event ∈ progress.committed.processedEvents ∨
      delivery.mark event ∉ after.processedEvents ∨ finished = true) :
    ∀ mark, Ours mark → (mark ∈ after.processedEvents ↔
      mark ∈ progress.settle (delivery.mark event) finished after) := by
  intro mark ours
  rw [Progress.settle]
  constructor
  · intro member
    rcases adds.new mark member with old | ⟨identified, rfl⟩
    · have before := (sound.settled mark ours).mp old
      split
      · exact List.mem_append_left _ before
      · exact before
    · rcases marked identified with old | absent | done
      · have before := (sound.settled _ ours).mp old
        split
        · exact List.mem_append_left _ before
        · exact before
      · exact absurd member absent
      · rw [if_pos ⟨done, member⟩]
        simp
  · intro member
    split at member
    · next here =>
        rcases List.mem_append.mp member with before | new
        · exact adds.kept ((sound.settled mark ours).mpr before)
        · rw [List.mem_singleton.mp new]
          exact here.2
    · exact adds.kept ((sound.settled mark ours).mpr member)

/-- What a block has left, under a condition on the mark of its message. -/
theorem sound_process {backend : Backend} {fault : Option Fault} (sound : Sound progress)
    (marked : ∀ event, delivery.message = .ok event → eventId event ≠ [] →
      delivery.mark event ∈ progress.committed.processedEvents ∨
        (progress.leaves backend delivery fault).commits = [] ∨
        delivery.finishes event (progress.leaves backend delivery fault) = true) :
    Sound (progress.process backend delivery fault) := by
  have states : ∀ state ∈ (progress.leaves backend delivery fault).commits,
      state ∈ (delivery.pass backend progress.committed).commits := fun _ => mem_of_under
  have journals : JournalsConfirmed
      ((progress.leaves backend delivery fault).commits.getLastD progress.committed) :=
    getLastD_of_forall sound.journals fun state member =>
      journals_pass delivery sound.journals state (states state member)
  cases decoded : delivery.message with
  | error failure =>
      have nothing : (progress.leaves backend delivery fault).commits = [] := by
        apply List.eq_nil_iff_forall_not_mem.mpr
        intro state member
        have inside := states state member
        rw [pass_of_error decoded] at inside
        cases inside
      have unchanged : progress.process backend delivery fault = progress := by
        rw [Progress.process, decoded]
        simp only [nothing, List.getLastD_nil]
      rw [unchanged]
      exact sound
  | ok event =>
      have adds : Adds (delivery.Own event) progress.committed
          ((progress.leaves backend delivery fault).commits.getLastD progress.committed) :=
        getLastD_of_forall (refl _) fun state member =>
          adds_pass decoded state (states state member)
      have settled := settled_settle sound adds fun identified => by
        rcases marked event decoded identified with old | nothing | finished
        · exact .inl old
        · rw [nothing]
          exact (em _).imp_right .inl
        · exact .inr (.inr finished)
      rw [Progress.process, decoded]
      exact ⟨sound.dropped, settled, journals⟩

/-- A message that its loop handles is finished, or known already. -/
theorem finishes_of_handles (sound : Sound progress) (decoded : delivery.message = .ok event)
    (handles : delivery.Handles event progress.committed) :
    (eventId event ≠ [] ∧ delivery.mark event ∈ progress.committed.processedEvents) ∨
      delivery.finishes event (progress.leaves migratedBackend delivery none) = true := by
  by_cases marked : eventId event ≠ [] ∧
      delivery.mark event ∈ progress.committed.processedEvents
  · exact .inl marked
  · refine .inr ?_
    rw [Delivery.finishes, decide_eq_true_iff]
    exact .inr (handled_of_handles decoded (fun identified member => marked ⟨identified, member⟩)
      (freshJournals_of_confirmed sound.journals) handles)

/-- So is one that calls for nothing. -/
theorem finishes_of_idle {left : Pass} (idle : delivery.loop.idle event = true) :
    delivery.finishes event left = true := by
  rw [Delivery.finishes, decide_eq_true_iff]
  exact .inl idle

/-- Where mark and effects are committed at once, a block that commits finishes its message or has
found it marked. -/
theorem finishes_of_commitsOnce {fault : Option Fault} (decoded : delivery.message = .ok event)
    (once : delivery.loop.commitsOnce = true)
    (committed : (progress.leaves migratedBackend delivery fault).commits ≠ []) :
    delivery.mark event ∈ progress.committed.processedEvents ∨
      delivery.finishes event (progress.leaves migratedBackend delivery fault) = true := by
  obtain ⟨state, member⟩ := List.exists_mem_of_ne_nil _ committed
  have inside := List.ne_nil_of_mem (mem_of_under member)
  obtain ⟨single, exit⟩ := exit_of_commits once inside
  have whole : progress.leaves migratedBackend delivery fault =
      delivery.pass migratedBackend progress.committed := by
    rcases fault with - | - | commits
    · rfl
    · exact absurd rfl committed
    · rcases Nat.eq_zero_or_pos commits with rfl | positive
      · exact absurd (commits_of_lost_zero _ _) committed
      · exact if_pos (single.le.trans positive)
  rcases exit with handled | duplicate
  · refine .inr ?_
    rw [Delivery.finishes, decide_eq_true_iff, whole]
    exact .inr handled
  · exact .inl (processed_of_duplicate decoded duplicate).2

theorem sound_step {next : Progress} {label : LoopLabel} (sound : Sound progress)
    (smooth : Smooth progress label) (step : LoopStep migratedBackend progress label next) :
    Sound next := by
  cases step with
  | deliver delivery fault =>
      obtain ⟨event, decoded, condition⟩ := smooth
      have settles :
          (eventId event ≠ [] ∧ delivery.mark event ∈ progress.committed.processedEvents) ∨
            delivery.finishes event (progress.leaves migratedBackend delivery fault) = true := by
        rcases condition with idle | marked | ⟨rfl, handles⟩
        · exact .inr (finishes_of_idle idle)
        · exact .inl marked
        · exact finishes_of_handles sound decoded handles
      have processed : Sound (progress.process migratedBackend delivery fault) := by
        apply sound_process sound
        intro other same identified
        cases decoded.symm.trans same
        rcases settles with marked | finished
        · exact .inl marked.2
        · exact .inr (.inr finished)
      refine ⟨?_, processed.settled, processed.journals⟩
      rw [Progress.deliver]
      rw [decoded]
      refine (if_neg ?_).trans sound.dropped
      rw [decide_eq_true_iff]
      rintro ⟨-, unfinished, unknown⟩
      rcases settles with marked | finished
      · rw [(knows_iff sound delivery event).mpr marked] at unknown
        cases unknown
      · rw [finished] at unfinished
        cases unfinished
  | crash delivery fault =>
      apply sound_process sound
      intro event decoded identified
      rcases smooth event decoded with
        anonymous | idle | marked | rfl | rfl | once | ⟨rfl, handles⟩
      · exact absurd anonymous identified
      · exact .inr (.inr (finishes_of_idle idle))
      · exact .inl marked
      · exact .inr (.inl rfl)
      · exact .inr (.inl (commits_of_lost_zero _ _))
      · by_cases committed : (progress.leaves migratedBackend delivery fault).commits = []
        · exact .inr (.inl committed)
        · exact (finishes_of_commitsOnce decoded once committed).imp_right .inr
      · exact (finishes_of_handles sound decoded handles).imp And.right .inr
  | elsewhere journals foreign =>
      exact ⟨sound.dropped, fun mark ours => (foreign mark ours).trans (sound.settled mark ours),
        journals⟩

/-- The message of a transfer that the chain confirms. -/
def transferMessage : Delivery where
  loop := .settlementEngine
  message := .ok [("event_id", .uuid 30), ("instruction_id", .uuid 5), ("trace_id", .uuid 31)]
  surroundings := ⟨0, 0, 0⟩
  chainRegistry := fun _ => some (Settlement.chainReporting .confirmed 2)
  sign := Settlement.echoSigner

/-- The message of a trade, for the margin engine. -/
def novatedMessage : Delivery :=
  { transferMessage with
    loop := .marginEngine
    message := .ok [("event_id", .uuid 32), ("event_type", .literal "trade.novated")] }

/-- Nothing has been delivered. -/
def beforeMessages : Progress := ⟨Settlement.dvpHouse, [], []⟩

/-- The engine has died before it committed anything. -/
def afterCrash : Progress :=
  beforeMessages.process migratedBackend transferMessage (some (.lost 0))

/-- Then the transfer is settled. -/
def afterTransfer : Progress := afterCrash.deliver migratedBackend transferMessage none

/-- And the margins are recalculated. -/
def afterNovation : Progress := afterTransfer.deliver migratedBackend novatedMessage none

end ConsumeLoops

end ClearingHouse
