import BeeOrm.Foundation.GoStrings

/-! `LazyFlushConsumer`: `Digest` flattens the flush records of a batch of
stream events and `handleEvents` executes them in one go. When that panics with
a MySQL error, the deferred `recover` replays the records one at a time: a
record that executes, or whose failure a resolver accepts, has its event
acknowledged, and the first record that neither lands nor is resolved panics
again. The flusher and the resolvers are parameters; a panic is part of the
result. -/

namespace BeeOrm.LazyFlush

/-- `*mysql.MySQLError`. -/
structure MySQLError where
  number : Nat
  message : String
deriving DecidableEq, Repr

/-- A value `recover` returns. -/
inductive PanicValue where
  | mySQLError (error : MySQLError)
  | runtimeError (message : String)
  | other (message : String)
deriving DecidableEq, Repr

/-- A stream event; `Unserialize` gives its flush records. -/
structure Event (Record : Type) where
  payload : List Record

/-- What `flusher.execute(false, true)` does: on the batch of all records, and on
the record at position `i` of the replay alone; `none` is a normal return. -/
structure Flusher (Record : Type) where
  executeBatch : List Record → Option PanicValue
  executeOne : Nat → Record → Option PanicValue

/-- A MySQL error. -/
def duplicateEntry : MySQLError := ⟨1062, "Duplicate entry"⟩

/-- A flusher whose batch fails, and whose replay of the record at position 1
fails. -/
def secondRecordFails : Flusher Nat where
  executeBatch := fun _ => some (.mySQLError duplicateEntry)
  executeOne := fun i _ => if i = 1 then some (.mySQLError duplicateEntry) else none

/-- A flusher whose batch fails and whose replay of every record succeeds. -/
def replayLands : Flusher Nat where
  executeBatch := fun _ => some (.mySQLError duplicateEntry)
  executeOne := fun _ _ => none

/-- Two events carrying one record each. -/
def singleRecordEvents : List (Event Nat) := [⟨[0]⟩, ⟨[1]⟩]

/-- A `LazyFlushQueryErrorResolver` on one record and the error it is given;
`true` when it returns nil. -/
abbrev Resolver (Record : Type) := Record → MySQLError → Bool

/-- How `handleEvents` ends: the events acknowledged, by index and in order,
whether it flushed the cache setters, and the panic it ends with, if any. -/
structure HandleOutcome where
  acked : List Nat
  cacheSettersFlushed : Bool
  panic : Option PanicValue
deriving DecidableEq, Repr

section

variable {Record : Type} (flusher : Flusher Record) (resolvers : List (Resolver Record))
  (eventCount : Nat) (batchError : MySQLError)

/-- Whether the record replayed at position `i` lands: it executes alone, or it
panics and a resolver, given the batch's error `rec` rather than its own,
returns nil. -/
def landed (i : Nat) (e : Record) : Bool :=
  match flusher.executeOne i e with
  | none => true
  | some _ => resolvers.any fun resolve => resolve e batchError

/-- The replay loop of the deferred `recover`, from record position `i` on, with
`events` of length `eventCount`: a landed record acknowledges `events[i]`, which
panics when `i` is out of range, and a record that does not land panics with its
own error. -/
def replayFrom : Nat → List Record → List Nat × Option PanicValue
  | _, [] => ([], none)
  | i, e :: rest =>
      if landed flusher resolvers batchError i e then
        if i < eventCount then
          let replayed := replayFrom (i + 1) rest
          (i :: replayed.1, replayed.2)
        else ([], some (.runtimeError (indexOutOfRange i eventCount)))
      else ([], flusher.executeOne i e)

/-- `r.handleEvents(events, lazyEvents)`. -/
def handleEvents (events : List (Event Record)) (lazyEvents : List Record) : HandleOutcome :=
  match flusher.executeBatch lazyEvents with
  | none => { acked := [], cacheSettersFlushed := true, panic := none }
  | some (.mySQLError batchError) =>
      let replayed := replayFrom flusher resolvers events.length batchError 0 lazyEvents
      { acked := replayed.1, cacheSettersFlushed := false, panic := replayed.2 }
  | some rec => { acked := [], cacheSettersFlushed := false, panic := some rec }

/-- The handler `Digest` gives `Consume`: the records of all events, in order. -/
def digestEvents (events : List (Event Record)) : HandleOutcome :=
  handleEvents flusher resolvers events (events.flatMap (·.payload))

/-! ## The replay loop -/

/-- The loop acknowledges the positions it replays, in order, until it stops:
a prefix of the records, all of which landed. -/
theorem replayFrom_acked (i : Nat) (records : List Record) :
    ∃ k, ∃ bounded : k ≤ records.length,
      (replayFrom flusher resolvers eventCount batchError i records).1 = List.range' i k ∧
      ∀ j (short : j < k), landed flusher resolvers batchError (i + j)
        (records.get ⟨j, Nat.lt_of_lt_of_le short bounded⟩) = true := by
  induction records generalizing i with
  | nil => exact ⟨0, le_refl _, rfl, fun j short => absurd short (Nat.not_lt_zero j)⟩
  | cons e rest induction =>
      rw [replayFrom]
      split
      next lands =>
        split
        · obtain ⟨k, bounded, acked, landedBefore⟩ := induction (i + 1)
          refine ⟨k + 1, by simpa using bounded, by simp [acked, List.range'_succ], ?_⟩
          intro j short
          cases j with
          | zero => simpa using lands
          | succ j =>
              have := landedBefore j (by omega)
              rwa [show i + 1 + j = i + (j + 1) by omega] at this
        · exact ⟨0, Nat.zero_le _, rfl, fun j short => absurd short (Nat.not_lt_zero j)⟩
      · exact ⟨0, Nat.zero_le _, rfl, fun j short => absurd short (Nat.not_lt_zero j)⟩

/-- When the loop ends without a panic, every record landed and had an event to
acknowledge. -/
theorem replayFrom_normal (i : Nat) (records : List Record)
    (normal : (replayFrom flusher resolvers eventCount batchError i records).2 = none) :
    (replayFrom flusher resolvers eventCount batchError i records).1 =
        List.range' i records.length ∧
      ∀ j (short : j < records.length),
        landed flusher resolvers batchError (i + j) (records.get ⟨j, short⟩) = true ∧
        i + j < eventCount := by
  induction records generalizing i with
  | nil => exact ⟨rfl, fun j short => absurd short (Nat.not_lt_zero j)⟩
  | cons e rest induction =>
      rw [replayFrom] at normal ⊢
      split at normal
      next lands =>
        split at normal
        next inRange =>
          obtain ⟨acked, every⟩ := induction (i + 1) normal
          rw [if_pos lands, if_pos inRange]
          refine ⟨by simp [acked, List.range'_succ], ?_⟩
          intro j short
          cases j with
          | zero => exact ⟨by simpa using lands, by simpa using inRange⟩
          | succ j =>
              have := every j (by simpa using short)
              rwa [show i + 1 + j = i + (j + 1) by omega] at this
        · cases normal
      next stuck =>
        simp only [landed] at stuck
        split at stuck
        · exact absurd rfl stuck
        next failed => rw [failed] at normal; cases normal

/-! ## The handler -/

variable {events : List (Event Record)}

/-- When `handleEvents` returns normally, every flush record of every event was
executed, in the batch or alone, or resolved. -/
theorem digestEvents_normal_all_landed
    (normal : (digestEvents flusher resolvers events).panic = none) :
    flusher.executeBatch (events.flatMap (·.payload)) = none ∨
      ∃ batchError, flusher.executeBatch (events.flatMap (·.payload)) =
          some (.mySQLError batchError) ∧
        ∀ j (short : j < (events.flatMap (·.payload)).length),
          landed flusher resolvers batchError j ((events.flatMap (·.payload)).get ⟨j, short⟩) =
            true := by
  unfold digestEvents handleEvents at normal
  split at normal
  next executed => exact .inl executed
  next batchError failed =>
    refine .inr ⟨batchError, failed, fun j short => ?_⟩
    simpa using ((replayFrom_normal flusher resolvers _ batchError 0 _ normal).2 j short).1
  next rec failed notMySQL => cases normal

theorem replayLands_digestEvents_normal :
    (digestEvents replayLands [] singleRecordEvents).panic = none ∧
      (replayLands.executeBatch (singleRecordEvents.flatMap (·.payload)) = none ∨
        ∃ batchError, replayLands.executeBatch (singleRecordEvents.flatMap (·.payload)) =
            some (.mySQLError batchError) ∧
          ∀ j (short : j < (singleRecordEvents.flatMap (·.payload)).length),
            landed replayLands [] batchError j
              ((singleRecordEvents.flatMap (·.payload)).get ⟨j, short⟩) = true) :=
  ⟨by decide, digestEvents_normal_all_landed replayLands [] (by decide)⟩

theorem length_flatMap_of_single (single : ∀ event ∈ events, event.payload.length = 1) :
    (events.flatMap (·.payload)).length = events.length := by
  induction events with
  | nil => rfl
  | cons event rest induction =>
      simp [single event (List.mem_cons_self _ _),
        induction fun event member => single event (List.mem_cons_of_mem _ member),
        Nat.add_comm]

/-- With one record per event, the record at a position is the record of the
event at that position. -/
theorem payload_eq_of_single (single : ∀ event ∈ events, event.payload.length = 1) :
    ∀ j (inRange : j < events.length),
      ∃ short : j < (events.flatMap (·.payload)).length,
        (events.get ⟨j, inRange⟩).payload = [(events.flatMap (·.payload)).get ⟨j, short⟩] := by
  induction events with
  | nil => intro j inRange; exact absurd inRange (Nat.not_lt_zero j)
  | cons event rest induction =>
      obtain ⟨record, only⟩ := List.length_eq_one.1 (single event (List.mem_cons_self _ _))
      intro j inRange
      cases j with
      | zero => exact ⟨by simp [only], by simp [only]⟩
      | succ j =>
          obtain ⟨short, same⟩ := induction
            (fun event member => single event (List.mem_cons_of_mem _ member)) j
            (by simpa using inRange)
          exact ⟨by simpa [only] using short, by simpa [only] using same⟩

/-- With one flush record per event, an event is acknowledged only when its
record was executed or resolved. -/
theorem digestEvents_single_record_acks_landed {batchError : MySQLError}
    (single : ∀ event ∈ events, event.payload.length = 1)
    (failed : flusher.executeBatch (events.flatMap (·.payload)) = some (.mySQLError batchError))
    (j : Nat) (acked : j ∈ (digestEvents flusher resolvers events).acked) :
    ∃ inRange : j < events.length, ∀ record ∈ (events.get ⟨j, inRange⟩).payload,
      landed flusher resolvers batchError j record = true := by
  simp only [digestEvents, handleEvents, failed] at acked
  obtain ⟨k, bounded, prefixAcked, landedBefore⟩ :=
    replayFrom_acked flusher resolvers events.length batchError 0 (events.flatMap (·.payload))
  rw [prefixAcked, List.mem_range'_1] at acked
  have lengths := length_flatMap_of_single single
  have inRange : j < events.length := by omega
  obtain ⟨short, only⟩ := payload_eq_of_single single j inRange
  refine ⟨inRange, fun record member => ?_⟩
  rw [only, List.mem_singleton] at member
  subst member
  simpa using landedBefore j (by omega)

theorem replayLands_single_record_acks_landed :
    (∀ event ∈ singleRecordEvents, event.payload.length = 1) ∧
      replayLands.executeBatch (singleRecordEvents.flatMap (·.payload)) =
        some (.mySQLError duplicateEntry) ∧
      0 ∈ (digestEvents replayLands [] singleRecordEvents).acked ∧
      ∃ inRange : 0 < singleRecordEvents.length,
        ∀ record ∈ (singleRecordEvents.get ⟨0, inRange⟩).payload,
          landed replayLands [] duplicateEntry 0 record = true :=
  ⟨by decide, rfl, by decide,
    digestEvents_single_record_acks_landed replayLands [] (by decide) rfl 0 (by decide)⟩

end

/-- The first event carries records 0 and 1. Record 0 lands and, at position 0,
acknowledges the first event; record 1 then fails with no resolver, so the
first event is acknowledged though one of its records was neither executed nor
resolved. -/
theorem digestEvents_acks_event_with_failed_record :
    digestEvents secondRecordFails [] [⟨[0, 1]⟩, ⟨[2]⟩] =
        { acked := [0], cacheSettersFlushed := false,
          panic := some (.mySQLError duplicateEntry) } ∧
      landed secondRecordFails [] duplicateEntry 1 1 = false := by
  decide

/-- A MySQL error other than the batch's. -/
def foreignKeyFails : MySQLError := ⟨1452, "Cannot add or update a child row"⟩

/-- A flusher whose batch fails with a duplicate entry, and whose replay of
record 0 fails with its own MySQL error and of any other record with a runtime
panic. -/
def ownErrorsDiffer : Flusher Nat where
  executeBatch := fun _ => some (.mySQLError duplicateEntry)
  executeOne := fun _ record =>
    if record = 0 then some (.mySQLError foreignKeyFails)
    else some (.runtimeError "invalid memory address or nil pointer dereference")

/-- A resolver that accepts a failed foreign key and nothing else. -/
def resolvesForeignKey : Resolver Nat := fun _ error => decide (error = foreignKeyFails)

/-- A resolver that accepts every failure. -/
def resolvesAll : Resolver Nat := fun _ _ => true

/-- The recovery closure type-switches on the batch's recovered value, not its
own: a resolver for the record's own error is given the batch's error and
declines, so the event stays unacknowledged; and a runtime panic of the replay
reaches the resolvers, which acknowledge its event. -/
theorem digestEvents_resolvers_see_batch_error :
    resolvesForeignKey 0 foreignKeyFails = true ∧
    digestEvents ownErrorsDiffer [resolvesForeignKey] [⟨[0]⟩] =
      { acked := [], cacheSettersFlushed := false,
        panic := some (.mySQLError foreignKeyFails) } ∧
    digestEvents ownErrorsDiffer [resolvesAll] [⟨[1]⟩] =
      { acked := [0], cacheSettersFlushed := false, panic := none } := by
  decide

end BeeOrm.LazyFlush
