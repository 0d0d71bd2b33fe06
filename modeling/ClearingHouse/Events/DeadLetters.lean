import Mathlib.Tactic

/-!
# Dead letters

`KafkaConsumer.poll_loop` commits the offset of a message that has failed behind
`_send_to_dlq`, which swallows every exception of its insert.  So the message is in the dead letter
queue exactly if the row is accepted: the text that is kept of the payload has to be `jsonb`, and
the other texts have to fit their columns.
-/

namespace ClearingHouse

namespace DeadLetters

/-- A `str`, as its code points. -/
abbrev Str := List ℕ

/-- `bytes`. -/
abbrev Bytes := List UInt8

/-- The code point of a sequence that owes some continuation bytes, the first of them in a range,
and the bytes behind the sequence, or behind the part of it that is well formed. -/
def continuation : (owed value low high : ℕ) → List ℕ → Option ℕ × List ℕ
  | 0, value, _, _, rest => (some value, rest)
  | _ + 1, _, _, _, [] => (none, [])
  | owed + 1, value, low, high, byte :: rest =>
      if low ≤ byte ∧ byte ≤ high then continuation owed (value * 64 + (byte - 128)) 128 191 rest
      else (none, byte :: rest)

/-- The first code point of some bytes. -/
def codePoint (lead : ℕ) (rest : List ℕ) : Option ℕ × List ℕ :=
  if lead < 128 then (some lead, rest)
  else if 194 ≤ lead ∧ lead ≤ 223 then continuation 1 (lead - 192) 128 191 rest
  else if 224 ≤ lead ∧ lead ≤ 239 then
    continuation 2 (lead - 224) (if lead = 224 then 160 else 128) (if lead = 237 then 159 else 191)
      rest
  else if 240 ≤ lead ∧ lead ≤ 244 then
    continuation 3 (lead - 240) (if lead = 240 then 144 else 128) (if lead = 244 then 143 else 191)
      rest
  else (none, rest)

/-- The code points of some bytes, at most as many as the bytes. -/
def codePoints : ℕ → List ℕ → List (Option ℕ)
  | 0, _ => []
  | _ + 1, [] => []
  | fuel + 1, lead :: rest =>
      (codePoint lead rest).1 :: codePoints fuel (codePoint lead rest).2

/-- The code points of bytes, none for each part that is not well formed. -/
def scanned (bytes : Bytes) : List (Option ℕ) :=
  codePoints bytes.length (bytes.map UInt8.toNat)

/-- `bytes.decode("utf-8")`, where it does not raise. -/
def decode (bytes : Bytes) : Option Str := (scanned bytes).mapM id

/-- `bytes.decode("utf-8", errors="replace")`. -/
def decodeReplacing (bytes : Bytes) : Str :=
  (scanned bytes).map fun point => point.getD 65533

theorem map_getD_of_mapM {points : List (Option ℕ)} {text : Str} {replacement : ℕ}
    (decoded : points.mapM id = some text) :
    points.map (fun point => point.getD replacement) = text := by
  induction points generalizing text with
  | nil =>
      cases decoded
      rfl
  | cons point points induction =>
      cases point with
      | none => simp at decoded
      | some value =>
          cases rest : points.mapM id with
          | none => simp [rest] at decoded
          | some tail =>
              have text_eq : value :: tail = text := by simpa [rest] using decoded
              rw [List.map_cons, induction rest, ← text_eq]
              rfl

/-- Well-formed bytes are replaced nowhere. -/
theorem decodeReplacing_of_decode {bytes : Bytes} {text : Str}
    (decoded : decode bytes = some text) : decodeReplacing bytes = text :=
  map_getD_of_mapM decoded

/-- A text that the driver can send: no zero byte and no lone surrogate. -/
def Sendable (text : Str) : Prop := ∀ point ∈ text, point ≠ 0 ∧ ¬(55296 ≤ point ∧ point ≤ 57343)

instance (text : Str) : Decidable (Sendable text) :=
  inferInstanceAs (Decidable (∀ point ∈ text, _))

/-- A text that fits `VARCHAR(limit)`: only blanks are cut off. -/
def Fits (limit : ℕ) (text : Str) : Prop := ∀ point ∈ text.drop limit, point = 32

instance (limit : ℕ) (text : Str) : Decidable (Fits limit text) :=
  inferInstanceAs (Decidable (∀ point ∈ text.drop limit, _))

/-- Exceptions as the loop tells them apart; the last is no `Exception`. -/
inductive ExceptionKind
  | jsonDecodeError
  | unicodeDecodeError
  | exception
  | baseException
  deriving DecidableEq, Repr

/-- An exception, with `str(exc)` and its traceback. -/
structure Raised where
  kind : ExceptionKind
  message : Str
  traceback : Str
  deriving DecidableEq, Repr

/-- What the loop calls: `json`, `str` and the exception of an undecodable text, and what the
server accepts as `jsonb`. -/
structure Runtime where
  Value : Type
  loads : Str → Except Raised Value
  isDict : Value → Bool
  dumps : Value → Except Raised Str
  str : Value → Except Raised Str
  undecodable : Bytes → Raised
  jsonb : Str → Bool

/-- A polled message. -/
structure Message where
  topic : Str
  key : Option Bytes
  value : Bytes
  deriving DecidableEq, Repr

/-- What the callback does with topic, key and value: the value as it leaves it, and how it ends. -/
abbrev Callback (runtime : Runtime) :=
  Str → Option Str → runtime.Value → runtime.Value × Except Raised Unit

/-- What a call of `poll` returns, with what the callback will do. -/
inductive Polled (runtime : Runtime)
  | nothing
  | partitionEof
  | consumerError
  | message (message : Message) (callback : Callback runtime)

/-- What is handed to `_send_to_dlq`: the bytes of the message, or its decoded value. -/
inductive Kept (runtime : Runtime)
  | bytes (bytes : Bytes)
  | value (value : runtime.Value)

/-- A row of `dead_letter_events`. -/
structure DeadLetter where
  serviceName : Str
  topic : Str
  eventKey : Option Str
  payload : Str
  errorMessage : Str
  errorTraceback : Str
  deriving DecidableEq, Repr

variable (runtime : Runtime)

/-- `bytes.decode("utf-8")`. -/
def decodeOrRaise (bytes : Bytes) : Except Raised Str :=
  match decode bytes with
  | some text => .ok text
  | none => .error { runtime.undecodable bytes with kind := .unicodeDecodeError }

/-- `msg.key().decode("utf-8") if msg.key() is not None else None`. -/
def decodeKey (message : Message) : Except Raised (Option Str) :=
  match message.key with
  | none => .ok none
  | some key => some <$> decodeOrRaise runtime key

/-- `json.loads(msg.value().decode("utf-8"))`. -/
def decodeValue (message : Message) : Except Raised runtime.Value := do
  runtime.loads (← decodeOrRaise runtime message.value)

/-- How a message ends: an exception leaves the loop, the callback returns, or it is sent to the
dead letter queue. -/
inductive Handling
  | escapes (raised : Raised)
  | succeeds
  | fails (topic : Str) (key : Option Str) (payload : Kept runtime) (raised : Raised)

/-- The body of the loop up to the dead letter and the offset. -/
def handle (message : Message) (callback : Callback runtime) : Handling runtime :=
  match decodeKey runtime message with
  | .error raised => .escapes raised
  | .ok key =>
      match decodeValue runtime message with
      | .error raised =>
          if raised.kind ∈ [.jsonDecodeError, .unicodeDecodeError] then
            .fails message.topic key (.bytes message.value) raised
          else .escapes raised
      | .ok value =>
          match callback message.topic key value with
          | (_, .ok ()) => .succeeds
          | (left, .error raised) =>
              if raised.kind = .baseException then .escapes raised
              else .fails message.topic key (.value left) raised

/-- `json_payload`. -/
def jsonPayload : Kept runtime → Except Raised Str
  | .bytes bytes => .ok (decodeReplacing bytes)
  | .value value => if runtime.isDict value then runtime.dumps value else runtime.str value

/-- The row is inserted: its texts can be sent and fit their columns, and the payload is `jsonb`. -/
structure DeadLetter.Accepted (row : DeadLetter) : Prop where
  serviceName : Sendable row.serviceName ∧ Fits 100 row.serviceName
  topic : Sendable row.topic ∧ Fits 100 row.topic
  eventKey : ∀ key ∈ row.eventKey, Sendable key ∧ Fits 255 key
  payload : Sendable row.payload ∧ runtime.jsonb row.payload = true
  error : Sendable row.errorMessage ∧ Sendable row.errorTraceback

instance (row : DeadLetter) : Decidable (row.Accepted runtime) :=
  decidable_of_iff
    ((Sendable row.serviceName ∧ Fits 100 row.serviceName) ∧
      (Sendable row.topic ∧ Fits 100 row.topic) ∧
        (∀ key ∈ row.eventKey, Sendable key ∧ Fits 255 key) ∧
          (Sendable row.payload ∧ runtime.jsonb row.payload = true) ∧
            (Sendable row.errorMessage ∧ Sendable row.errorTraceback))
    ⟨fun ⟨serviceName, topic, eventKey, payload, error⟩ =>
      ⟨serviceName, topic, eventKey, payload, error⟩,
      fun ⟨serviceName, topic, eventKey, payload, error⟩ =>
        ⟨serviceName, topic, eventKey, payload, error⟩⟩

/-- The row for a failed message, if its payload can be written down. -/
def rowFor (groupId topic : Str) (key : Option Str) (payload : Kept runtime) (raised : Raised) :
    Option DeadLetter :=
  match jsonPayload runtime payload with
  | .error _ => none
  | .ok text => some ⟨groupId, topic, key, text, raised.message, raised.traceback⟩

/-- `_send_to_dlq` with a database that can be reached: the row that is committed, if any. -/
def sendToDlq (groupId topic : Str) (key : Option Str) (payload : Kept runtime)
    (raised : Raised) : Option DeadLetter :=
  (rowFor runtime groupId topic key payload raised).filter fun row => row.Accepted runtime

/-- What the loop has committed, for the polls at their positions. -/
inductive Effect
  | deadLetter (position : ℕ) (row : DeadLetter)
  | offset (position : ℕ)
  deriving DecidableEq, Repr

/-- One iteration of the loop, unless an exception leaves it. -/
def visit (groupId : Str) (position : ℕ) : Polled runtime → Option (List Effect)
  | .nothing => some []
  | .partitionEof => some []
  | .consumerError => some []
  | .message message callback =>
      match handle runtime message callback with
      | .escapes _ => none
      | .succeeds => some [.offset position]
      | .fails topic key payload raised =>
          some (((sendToDlq runtime groupId topic key payload raised).map
            (Effect.deadLetter position)).toList ++ [.offset position])

/-- `poll_loop`, from a position on. -/
def pollLoop (groupId : Str) : ℕ → List (Polled runtime) → List Effect
  | _, [] => []
  | position, polled :: rest =>
      match visit runtime groupId position polled with
      | none => []
      | some effects => effects ++ pollLoop groupId (position + 1) rest

variable {runtime}

/-- The poll is a message that is sent to the dead letter queue. -/
def Polled.Fails (polled : Polled runtime) (topic : Str) (key : Option Str)
    (payload : Kept runtime) (raised : Raised) : Prop :=
  ∃ message callback, polled = .message message callback ∧
    handle runtime message callback = .fails topic key payload raised

/-- The offset of a failed message is committed behind its dead letter. -/
def ReachesQueue (polls : List (Polled runtime)) (effects : List Effect) : Prop :=
  ∀ position before after, effects = before ++ .offset position :: after →
    ∀ polled topic key payload raised, polls[position]? = some polled →
      polled.Fails topic key payload raised → ∃ row, .deadLetter position row ∈ before

/-- The row for a failed message can be written, and the server accepts it. -/
def Storable (groupId : Str) (polled : Polled runtime) : Prop :=
  ∀ topic key payload raised, polled.Fails topic key payload raised →
    ∃ row, rowFor runtime groupId topic key payload raised = some row ∧ row.Accepted runtime

/-- An exception of the message leaves the loop. -/
def Polled.escapes : Polled runtime → Bool
  | .nothing => false
  | .partitionEof => false
  | .consumerError => false
  | .message polled callback =>
      match handle runtime polled callback with
      | .escapes _ => true
      | _ => false

/-- The polls before the first exception that leaves the loop. -/
def reached (polls : List (Polled runtime)) : List (Polled runtime) :=
  polls.takeWhile fun polled => !polled.escapes

/-- The poll of an effect. -/
def Effect.position : Effect → ℕ
  | .deadLetter position _ => position
  | .offset position => position

theorem Polled.Fails.unique {polled : Polled runtime} {topic topic' : Str} {key key' : Option Str}
    {payload payload' : Kept runtime} {raised raised' : Raised}
    (fails : polled.Fails topic key payload raised)
    (again : polled.Fails topic' key' payload' raised') :
    topic = topic' ∧ key = key' ∧ payload = payload' ∧ raised = raised' := by
  obtain ⟨message, callback, polled_eq, handled⟩ := fails
  obtain ⟨message', callback', polled_eq', handled'⟩ := again
  rw [polled_eq] at polled_eq'
  injection polled_eq' with message_eq callback_eq
  rw [← message_eq, ← callback_eq, handled] at handled'
  simpa using handled'

/-- An iteration commits nothing, an offset, or an offset behind what became of the dead letter. -/
theorem visit_cases {groupId : Str} {position : ℕ} {polled : Polled runtime}
    {effects : List Effect} (visited : visit runtime groupId position polled = some effects) :
    (effects ⊆ [.offset position] ∧
      ∀ topic key payload raised, ¬polled.Fails topic key payload raised) ∨
      ∃ topic key payload raised, polled.Fails topic key payload raised ∧
        effects = ((sendToDlq runtime groupId topic key payload raised).map
          (Effect.deadLetter position)).toList ++ [.offset position] := by
  cases polled with
  | message message callback =>
      cases handled : handle runtime message callback with
      | escapes raised => simp [visit, handled] at visited
      | succeeds =>
          left
          refine ⟨by simp_all [visit], ?_⟩
          rintro topic key payload raised ⟨message', callback', polled_eq, fails⟩
          injection polled_eq with message_eq callback_eq
          rw [← message_eq, ← callback_eq, handled] at fails
          cases fails
      | fails topic key payload raised =>
          right
          refine ⟨topic, key, payload, raised, ⟨message, callback, rfl, handled⟩, ?_⟩
          simpa [visit, handled] using visited.symm
  | _ =>
      left
      refine ⟨by simp_all [visit], ?_⟩
      rintro topic key payload raised ⟨message, callback, polled_eq, -⟩
      cases polled_eq

theorem position_of_visit {groupId : Str} {position : ℕ} {polled : Polled runtime}
    {effects : List Effect} (visited : visit runtime groupId position polled = some effects) :
    ∀ effect ∈ effects, effect.position = position := by
  intro effect member
  rcases visit_cases visited with ⟨bounded, -⟩ | ⟨topic, key, payload, raised, -, effects_eq⟩
  · have offset : effect = .offset position := by simpa using bounded member
    rw [offset]
    rfl
  · rw [effects_eq, List.mem_append] at member
    rcases member with kept | offset
    · obtain ⟨row, -, effect_eq⟩ : ∃ row, sendToDlq runtime groupId topic key payload raised =
          some row ∧ .deadLetter position row = effect := by simpa using kept
      rw [← effect_eq]
      rfl
    · rw [List.mem_singleton.1 offset]
      rfl

theorem isNone_visit (groupId : Str) (position : ℕ) (polled : Polled runtime) :
    (visit runtime groupId position polled).isNone = polled.escapes := by
  cases polled with
  | message message callback =>
      cases handled : handle runtime message callback <;> simp [visit, Polled.escapes, handled]
  | _ => rfl

theorem sendToDlq_eq_some {groupId topic : Str} {key : Option Str} {payload : Kept runtime}
    {raised : Raised} {row : DeadLetter} :
    sendToDlq runtime groupId topic key payload raised = some row ↔
      rowFor runtime groupId topic key payload raised = some row ∧ row.Accepted runtime := by
  simp [sendToDlq, Option.filter_eq_some_iff]

/-- A failed message is storable exactly if its dead letter is committed. -/
theorem storable_iff_of_fails {groupId topic : Str} {polled : Polled runtime} {key : Option Str}
    {payload : Kept runtime} {raised : Raised} (fails : polled.Fails topic key payload raised) :
    Storable groupId polled ↔
      ∃ row, sendToDlq runtime groupId topic key payload raised = some row := by
  constructor
  · intro storable
    obtain ⟨row, written, accepted⟩ := storable topic key payload raised fails
    exact ⟨row, sendToDlq_eq_some.2 ⟨written, accepted⟩⟩
  · rintro ⟨row, sent⟩ topic' key' payload' raised' again
    obtain ⟨rfl, rfl, rfl, rfl⟩ := fails.unique again
    exact ⟨row, sendToDlq_eq_some.1 sent⟩

/-- `ReachesQueue` for a loop that starts at a position. -/
def ReachesQueueFrom (start : ℕ) (polls : List (Polled runtime)) (effects : List Effect) : Prop :=
  ∀ index before after, effects = before ++ .offset (start + index) :: after →
    ∀ polled topic key payload raised, polls[index]? = some polled →
      polled.Fails topic key payload raised → ∃ row, .deadLetter (start + index) row ∈ before

theorem reachesQueueFrom_zero {polls : List (Polled runtime)} {effects : List Effect} :
    ReachesQueueFrom 0 polls effects ↔ ReachesQueue polls effects := by
  simp only [ReachesQueueFrom, ReachesQueue, Nat.zero_add]

/-- What one iteration adds: its own dead letter, in front of its own offset. -/
theorem reachesQueueFrom_cons {groupId : Str} {start : ℕ} {polled : Polled runtime}
    {polls : List (Polled runtime)} {effects tail : List Effect}
    (visited : visit runtime groupId start polled = some effects) :
    ReachesQueueFrom start (polled :: polls) (effects ++ tail) ↔
      Storable groupId polled ∧ ReachesQueueFrom (start + 1) polls tail := by
  have positions := position_of_visit visited
  constructor
  · intro reaches
    constructor
    · intro topic key payload raised fails
      rcases visit_cases visited with ⟨-, never⟩ |
        ⟨topic', key', payload', raised', again, effects_eq⟩
      · exact absurd fails (never topic key payload raised)
      · obtain ⟨rfl, rfl, rfl, rfl⟩ := fails.unique again
        obtain ⟨row, kept⟩ := reaches 0
          ((sendToDlq runtime groupId topic key payload raised).map
            (Effect.deadLetter start)).toList tail (by simp [effects_eq]) polled topic key payload
          raised rfl fails
        exact ⟨row, sendToDlq_eq_some.1 (by simpa using kept)⟩
    · intro index before after tail_eq later topic key payload raised at_index fails
      have shifted : start + 1 + index = start + (index + 1) := by omega
      obtain ⟨row, kept⟩ := reaches (index + 1) (effects ++ before) after
        (by simp [tail_eq, shifted]) later topic key payload raised (by simpa using at_index) fails
      refine ⟨row, ?_⟩
      rcases List.mem_append.1 kept with own | kept
      · have same : start + (index + 1) = start := positions _ own
        omega
      · simpa [shifted] using kept
  · rintro ⟨storable, reaches⟩
    intro index before after split later topic key payload raised at_index fails
    cases index with
    | zero =>
        obtain rfl : polled = later := by simpa using at_index
        obtain ⟨row, sent⟩ := (storable_iff_of_fails fails).1 storable
        rcases visit_cases visited with ⟨-, never⟩ |
          ⟨topic', key', payload', raised', again, effects_eq⟩
        · exact absurd fails (never topic key payload raised)
        · obtain ⟨rfl, rfl, rfl, rfl⟩ := fails.unique again
          -- The first effect is the dead letter, so something stands before any offset.
          cases before with
          | nil => simp [effects_eq, sent] at split
          | cons first before =>
              have first_eq : Effect.deadLetter start row = first := by
                simpa [effects_eq, sent] using congrArg List.head? split
              exact ⟨row, by simp [first_eq]⟩
    | succ index =>
        have shifted : start + (index + 1) = start + 1 + index := by omega
        rw [shifted] at split ⊢
        rcases List.append_eq_append_iff.1 split with
          ⟨middle, before_eq, tail_eq⟩ | ⟨middle, effects_eq, rest_eq⟩
        · obtain ⟨row, kept⟩ := reaches index middle after tail_eq later topic key payload raised
            (by simpa using at_index) fails
          exact ⟨row, by simp [before_eq, kept]⟩
        · cases middle with
          | nil =>
              obtain ⟨row, kept⟩ := reaches index [] after (by simpa using rest_eq.symm) later topic
                key payload raised (by simpa using at_index) fails
              simp at kept
          | cons first middle =>
              -- An offset of a later poll is not among the effects of this one.
              obtain ⟨rfl, -⟩ : .offset (start + 1 + index) = first ∧ _ := by simpa using rest_eq
              have same : start + 1 + index = start :=
                positions (.offset (start + 1 + index)) (by simp [effects_eq])
              omega

theorem reached_cons_of_visit {groupId : Str} {position : ℕ} {polled : Polled runtime}
    {polls : List (Polled runtime)} {effects : List Effect}
    (visited : visit runtime groupId position polled = some effects) :
    reached (polled :: polls) = polled :: reached polls := by
  have stays : polled.escapes = false := by
    rw [← isNone_visit groupId position, visited]
    rfl
  simp [reached, stays]

theorem reached_cons_of_escape {groupId : Str} {position : ℕ} {polled : Polled runtime}
    {polls : List (Polled runtime)} (left : visit runtime groupId position polled = none) :
    reached (polled :: polls) = [] := by
  have leaves : polled.escapes = true := by
    rw [← isNone_visit groupId position, left]
    rfl
  simp [reached, leaves]

theorem reachesQueueFrom_iff (groupId : Str) (start : ℕ) (polls : List (Polled runtime)) :
    ReachesQueueFrom start polls (pollLoop runtime groupId start polls) ↔
      ∀ polled ∈ reached polls, Storable groupId polled := by
  induction polls generalizing start with
  | nil => simp [ReachesQueueFrom, pollLoop, reached]
  | cons polled polls induction =>
      cases visited : visit runtime groupId start polled with
      | none =>
          rw [reached_cons_of_escape visited]
          simp [ReachesQueueFrom, pollLoop, visited]
      | some effects =>
          rw [reached_cons_of_visit visited, List.forall_mem_cons, ← induction (start + 1),
            ← reachesQueueFrom_cons visited]
          simp [pollLoop, visited]

/-- A failed message reaches the queue exactly if its row can be written and is accepted: the
failure of the insert is swallowed, and the offset is committed without it. -/
theorem reachesQueue_iff (runtime : Runtime) (groupId : Str) (polls : List (Polled runtime)) :
    ReachesQueue polls (pollLoop runtime groupId 0 polls) ↔
      ∀ polled ∈ reached polls, Storable groupId polled := by
  rw [← reachesQueueFrom_zero]
  exact reachesQueueFrom_iff groupId 0 polls

/-- A message whose value is not decoded is sent on as it came. -/
theorem fails_of_undecoded {message : Message} {callback : Callback runtime} {key : Option Str}
    {text : Str} {raised : Raised} (keyed : decodeKey runtime message = .ok key)
    (decoded : decode message.value = some text) (rejected : runtime.loads text = .error raised)
    (kind : raised.kind = .jsonDecodeError) :
    (Polled.message message callback).Fails message.topic key (.bytes message.value) raised := by
  have value : decodeValue runtime message = .error raised := by
    simp [decodeValue, decodeOrRaise, decoded, bind, Except.bind, rejected]
  exact ⟨message, callback, rfl, by simp [handle, keyed, value, kind]⟩

/-- A well-formed text that is not JSON is never storable, where `jsonb` takes only JSON: it is
kept as it came. -/
theorem not_storable_of_jsonDecodeError
    (jsonb_json : ∀ text raised, runtime.jsonb text = true →
      runtime.loads text = .error raised → raised.kind ≠ .jsonDecodeError)
    {groupId : Str} {message : Message} {callback : Callback runtime} {key : Option Str}
    {text : Str} {raised : Raised} (keyed : decodeKey runtime message = .ok key)
    (decoded : decode message.value = some text) (rejected : runtime.loads text = .error raised)
    (kind : raised.kind = .jsonDecodeError) : ¬Storable groupId (.message message callback) := by
  intro storable
  obtain ⟨row, written, accepted⟩ := storable message.topic key (.bytes message.value) raised
    (fails_of_undecoded keyed decoded rejected kind)
  have payload : row.payload = text := by
    have row_eq : DeadLetter.mk groupId message.topic key (decodeReplacing message.value)
        raised.message raised.traceback = row := by
      simpa [rowFor, jsonPayload] using written
    rw [← row_eq]
    exact decodeReplacing_of_decode decoded
  apply jsonb_json text raised _ rejected kind
  rw [← payload]
  exact accepted.payload.2

/-- The code points of some characters. -/
def pointsOf (characters : String) : Str := characters.toList.map Char.toNat

/-- Values of the texts that hold a single token. -/
inductive Token
  | none
  | bool (value : Bool)
  | nan
  | emptyDict
  deriving DecidableEq, Repr

/-- The exception of `json.loads` on a text that starts with none of them. -/
def expectingValue : Raised where
  kind := .jsonDecodeError
  message := pointsOf "Expecting value: line 1 column 1 (char 0)"
  traceback := pointsOf "Traceback"

/-- `json`, `str` and `jsonb` on the texts that hold a single token. -/
def tokens : Runtime where
  Value := Token
  loads text :=
    if text = pointsOf "null" then .ok .none
    else if text = pointsOf "true" then .ok (.bool true)
    else if text = pointsOf "false" then .ok (.bool false)
    else if text = pointsOf "NaN" then .ok .nan
    else if text = pointsOf "{}" then .ok .emptyDict
    else .error expectingValue
  isDict
    | .emptyDict => true
    | _ => false
  dumps
    | .none => .ok (pointsOf "null")
    | .bool true => .ok (pointsOf "true")
    | .bool false => .ok (pointsOf "false")
    | .nan => .ok (pointsOf "NaN")
    | .emptyDict => .ok (pointsOf "{}")
  str
    | .none => .ok (pointsOf "None")
    | .bool true => .ok (pointsOf "True")
    | .bool false => .ok (pointsOf "False")
    | .nan => .ok (pointsOf "nan")
    | .emptyDict => .ok (pointsOf "{}")
  undecodable _ := ⟨.unicodeDecodeError, pointsOf "invalid start byte", pointsOf "Traceback"⟩
  jsonb text :=
    decide (text ∈ [pointsOf "null", pointsOf "true", pointsOf "false", pointsOf "{}"])

/-- A callback that raises. -/
def raising : Callback tokens := fun _ _ value =>
  (value, .error ⟨.exception, pointsOf "boom", pointsOf "Traceback"⟩)

/-- A message under no key. -/
def unkeyed (characters : String) : Message :=
  { topic := pointsOf "trades.submitted"
    key := none
    value := characters.toUTF8.data.toList }

/-- The offset of a text that is not JSON is committed, and no dead letter is. -/
theorem not_reachesQueue_notJson :
    ¬∀ polls : List (Polled tokens),
      ReachesQueue polls (pollLoop tokens (pointsOf "margin-engine") 0 polls) := by
  intro reaches
  have dropped : pollLoop tokens (pointsOf "margin-engine") 0
      [.message (unkeyed "not json") raising] = [.offset 0] := by
    decide +kernel
  have decoded : decode (unkeyed "not json").value = some (pointsOf "not json") := by
    decide +kernel
  have rejected : tokens.loads (pointsOf "not json") = .error expectingValue := rfl
  obtain ⟨row, kept⟩ := reaches _ 0 [] [] dropped (.message (unkeyed "not json") raising) _ _ _ _
    rfl (fails_of_undecoded rfl decoded rejected rfl)
  cases kept

/-- A callback that raises on an object leaves a dead letter, one that raises on `null` does not:
`str(None)` is not `jsonb`. -/
example :
    (pollLoop tokens (pointsOf "margin-engine") 0
      [.message (unkeyed "{}") raising, .message (unkeyed "null") raising]).map Effect.position =
        [0, 0, 1] := by
  decide +kernel

end DeadLetters

end ClearingHouse
