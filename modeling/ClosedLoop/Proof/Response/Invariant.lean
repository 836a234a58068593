import ClosedLoop.Proof.Response.Protocol
import ClosedLoop.Library.Trace

namespace ClosedLoop.Response

open ClosedLoop.Library

/-- The guards of a record agree with each other and with the claimed intents. -/
structure Sound (intents : List String) (record : Snapshot) : Prop where
  claimed : record.responseId ∈ intents ↔ record.adapterReference.isSome
  named : ∀ reference ∈ record.adapterReference, reference ≠ ""
  authorized : record.adapterReference.isSome → record.authorized = true
  pending : record.pendingOperation.isSome → record.adapterReference.isSome ∧ record.state.terminal = false
  resting : record.adapterReference.isSome → record.pendingOperation = none →
    record.state ∈ [.applied, .verified, .expired, .rolledBack]
  held : record.state ∈ [.applied, .verified, .expired, .rolledBack] → record.adapterReference.isSome
  counted : 0 < record.transitionNumber ∧ (record.state = .requested ↔ record.transitionNumber = 1)

/-- A record that holds its target has a reference and has not ended. -/
theorem Sound.engaged {intents : List String} {record : Snapshot} (sound : Sound intents record)
    (engaged : record.engaged) : record.adapterReference.isSome ∧ record.state.terminal = false := by
  rcases engaged with pending | ⟨failed, referenced⟩ | applied | verified
  · exact sound.pending pending
  · exact ⟨referenced, by rw [failed]; rfl⟩
  · exact ⟨sound.held (by simp [applied]), by rw [applied]; rfl⟩
  · exact ⟨sound.held (by simp [verified]), by rw [verified]; rfl⟩

/-- A claimed record that has not ended still holds its target. -/
theorem Sound.stranded {intents : List String} {record : Snapshot} (sound : Sound intents record)
    (claimed : record.responseId ∈ intents) (live : record.state.terminal = false) :
    (∃ reference ∈ record.adapterReference, reference ≠ "") ∧
      (record.state = .applied ∨ record.state = .verified ∨ record.pendingOperation.isSome) := by
  have referenced := sound.claimed.mp claimed
  obtain ⟨reference, present⟩ := Option.isSome_iff_exists.mp referenced
  refine ⟨⟨reference, present, sound.named reference present⟩, ?_⟩
  rcases idle : record.pendingOperation with _ | operation
  · have resting := sound.resting referenced idle
    simp only [List.mem_cons, List.not_mem_nil, or_false] at resting
    rcases resting with applied | verified | expired | rolledBack
    · exact Or.inl applied
    · exact Or.inr (Or.inl verified)
    · simp [expired, ResponseState.terminal] at live
    · simp [rolledBack, ResponseState.terminal] at live
  · exact Or.inr (Or.inr rfl)

/-- A legal transition of a committed record. -/
structure Legal (old new : Snapshot) (event : AuditEvent) : Prop where
  stamp : Stamp (some old) new event
  responseId : new.responseId = old.responseId
  command : new.command = old.command
  expiresAt : new.expiresAt = old.expiresAt
  number : new.transitionNumber = old.transitionNumber + 1
  live : old.state.terminal = false
  permitted : new.state ∈ allowed (some old.state)
  intent : old.state = .failed ∨ (old.state = .requested ∧ new.state = .rolledBack) → event.actionIntent.isSome
  applied : new.state = .applied → event.application.isSome
  verified : new.state = .verified → event.application.isSome ∧ event.Proven
  ended : new.state.terminal = true → event.rollback.isSome
  failed : new.state = .failed → event.failure.isSome

section Changes

variable {python : Python} {trusted : CommandAuthenticator → Prop} {records : Table String Snapshot}
  {log : List Entry} {catalog : PolicyCatalog} {authenticator : CommandAuthenticator} {intents : List String}

theorem Sound.waiting {old : Snapshot} (sound : Sound intents old) (waiting : old.waiting) :
    old.responseId ∉ intents := by
  rw [sound.claimed, waiting.2.1]
  simp

/-- A change keeps the guards of a record in agreement. -/
theorem Change.sound {old : Option Snapshot} {new : Snapshot} {event : Option AuditEvent}
    (change : Change python trusted records log catalog authenticator old new event)
    (before : ∀ record ∈ old, Sound intents record) (fresh : old = none → new.responseId ∉ intents) :
    Sound (intents ++ newIntents new event) new := by
  cases change with
  | request identified waiting first unauthorized stamp signed =>
      obtain ⟨state, reference, idle⟩ := waiting
      have unclaimed := fresh rfl
      exact ⟨by simp [newIntents, reference, unclaimed], by simp [reference], by simp [reference],
        by simp [idle], by simp [reference], by simp [state], by simp [state, first]⟩
  | @authorize old raw now event waiting admitted =>
      have sound := before old rfl
      obtain ⟨state, reference, idle⟩ := waiting
      have unclaimed := sound.waiting ⟨state, reference, idle⟩
      have counted := sound.counted
      exact ⟨by simp [newIntents, reference, idle, unclaimed], by simp [reference], by simp [reference],
        by simp [idle], by simp [reference], by simp [state], counted⟩
  | @decline old event waiting stamp failure =>
      have sound := before old rfl
      obtain ⟨state, reference, idle⟩ := waiting
      have unclaimed := sound.waiting ⟨state, reference, idle⟩
      have counted := sound.counted
      exact ⟨by simp [newIntents, Snapshot.moved, reference, unclaimed], by simp [Snapshot.moved, reference],
        by simp [Snapshot.moved, reference], by simp [Snapshot.moved, idle],
        by simp [Snapshot.moved, reference], by simp [Snapshot.moved], by simp [Snapshot.moved]; omega⟩
  | @intendApply old reference startedAt waiting authorized named free =>
      have sound := before old rfl
      obtain ⟨state, _, _⟩ := waiting
      have counted := sound.counted
      exact ⟨by simp [newIntents, Snapshot.intending], by simpa [Snapshot.intending] using named,
        by simp [Snapshot.intending, authorized],
        by simp [Snapshot.intending, state, ResponseState.terminal], by simp [Snapshot.intending],
        by simp [Snapshot.intending], counted⟩
  | @intendRevert old startedAt engaged =>
      have sound := before old rfl
      have held := sound.engaged engaged
      have claimed := sound.claimed
      exact ⟨by simpa [newIntents, Snapshot.intending] using claimed, sound.named, sound.authorized,
        fun _ => held, by simp [Snapshot.intending], sound.held, sound.counted⟩
  | @confirmApply old reference event pending state named stamp application =>
      have sound := before old rfl
      have held := (sound.pending (by simp [pending])).1
      have counted := sound.counted
      exact ⟨by simpa [newIntents, Snapshot.cleared, Snapshot.moved, held] using sound.claimed,
        by simpa [Snapshot.cleared, Snapshot.moved] using named,
        fun _ => sound.authorized held, by simp [Snapshot.cleared], by simp [Snapshot.cleared, Snapshot.moved],
        by simp [Snapshot.cleared, Snapshot.moved], by simp [Snapshot.cleared, Snapshot.moved]; omega⟩
  | @confirmVerify old event state idle stamp application proven =>
      have sound := before old rfl
      have held := sound.held (by simp [state])
      have counted := sound.counted
      exact ⟨by simpa [newIntents, Snapshot.moved] using sound.claimed, sound.named, sound.authorized,
        by simp [Snapshot.moved, idle], by simp [Snapshot.moved], fun _ => held, by simp [Snapshot.moved]; omega⟩
  | @breakOff old event pending stamp failure =>
      have sound := before old rfl
      have held := sound.pending pending
      have counted := sound.counted
      exact ⟨by simpa [newIntents, Snapshot.moved] using sound.claimed, sound.named, sound.authorized,
        fun _ => ⟨held.1, rfl⟩, by
          intro _ idle
          simp only [Snapshot.moved] at idle
          simp [idle] at pending, fun _ => held.1, by simp [Snapshot.moved]; omega⟩
  | @conclude old terminal event pending ends expiry stamp rollback =>
      have sound := before old rfl
      have held := (sound.pending (by simp [pending])).1
      have counted := sound.counted
      have last : terminal = .expired ∨ terminal = .rolledBack := by
        cases terminal <;> simp_all [ResponseState.terminal]
      refine ⟨by simpa [newIntents, Snapshot.cleared, Snapshot.moved] using sound.claimed, sound.named,
        sound.authorized, by simp [Snapshot.cleared], ?_, fun _ => held, ?_⟩
      · intro _ _
        rcases last with same | same <;> simp [Snapshot.cleared, Snapshot.moved, same]
      · rcases last with same | same <;> simp [Snapshot.cleared, Snapshot.moved, same] <;> omega

/-- A change with an event moves the record legally. -/
theorem Change.legal {old new : Snapshot} {event : AuditEvent}
    (change : Change python trusted records log catalog authenticator (some old) new (some event))
    (sound : Sound intents old) : Legal old new event := by
  cases change with
  | decline waiting stamp failure =>
      obtain ⟨state, _, _⟩ := waiting
      exact ⟨stamp, rfl, rfl, rfl, rfl, by simp [state, ResponseState.terminal],
        by simp [state, Snapshot.moved, allowed], by simp [state, Snapshot.moved], by simp [Snapshot.moved],
        by simp [Snapshot.moved], by simp [Snapshot.moved, ResponseState.terminal], fun _ => failure⟩
  | confirmApply pending state named stamp application =>
      exact ⟨stamp, rfl, rfl, rfl, rfl, by simp [state, ResponseState.terminal],
        by simp [state, Snapshot.cleared, Snapshot.moved, allowed],
        by simp [state, Snapshot.cleared, Snapshot.moved], fun _ => application,
        by simp [Snapshot.cleared, Snapshot.moved],
        by simp [Snapshot.cleared, Snapshot.moved, ResponseState.terminal],
        by simp [Snapshot.cleared, Snapshot.moved]⟩
  | confirmVerify state idle stamp application proven =>
      exact ⟨stamp, rfl, rfl, rfl, rfl, by simp [state, ResponseState.terminal],
        by simp [state, Snapshot.moved, allowed], by simp [state], fun _ => application,
        fun _ => ⟨application, proven⟩, by simp [Snapshot.moved, ResponseState.terminal],
        by simp [Snapshot.moved]⟩
  | breakOff pending stamp failure =>
      have live := (sound.pending pending).2
      have intent : event.actionIntent.isSome := by simpa [stamp.intent] using pending
      refine ⟨stamp, rfl, rfl, rfl, rfl, live, ?_, fun _ => intent, by simp [Snapshot.moved],
        by simp [Snapshot.moved], by simp [Snapshot.moved, ResponseState.terminal], fun _ => failure⟩
      cases state : old.state <;> simp_all [Snapshot.moved, allowed, ResponseState.terminal]
  | @conclude _ terminal _ pending ends expiry stamp rollback =>
      have live := (sound.pending (by simp [pending])).2
      have intent : event.actionIntent.isSome := by simp [stamp.intent, pending]
      refine ⟨stamp, rfl, rfl, rfl, rfl, live, ?_, fun _ => intent, ?_, ?_, fun _ => rollback, ?_⟩
      · cases state : old.state <;> cases terminal <;>
          simp_all [Snapshot.cleared, Snapshot.moved, allowed, ResponseState.terminal]
      · cases terminal <;> simp_all [Snapshot.cleared, Snapshot.moved, ResponseState.terminal]
      · cases terminal <;> simp_all [Snapshot.cleared, Snapshot.moved, ResponseState.terminal]
      · cases terminal <;> simp_all [Snapshot.cleared, Snapshot.moved, ResponseState.terminal]

/-- A change without an event keeps the identity, the state, and the number of a record. -/
theorem Change.silent {old : Option Snapshot} {new : Snapshot}
    (change : Change python trusted records log catalog authenticator old new none) :
    ∃ before, old = some before ∧ new.responseId = before.responseId ∧ new.command = before.command ∧
      new.expiresAt = before.expiresAt ∧ new.state = before.state ∧
      new.transitionNumber = before.transitionNumber := by
  cases change with
  | @authorize old => exact ⟨old, rfl, rfl, rfl, rfl, rfl, rfl⟩
  | @intendApply old => exact ⟨old, rfl, rfl, rfl, rfl, rfl, rfl⟩
  | @intendRevert old => exact ⟨old, rfl, rfl, rfl, rfl, rfl, rfl⟩

end Changes

/-- An event is well placed after the events before it. -/
def Orderly (earlier : List AuditEvent) (event : AuditEvent) : Prop :=
  event.transitionNumber = earlier.length + 1 ∧
  event.previousState = earlier.getLast?.map (·.state) ∧
  (earlier = [] ↔ event.state = .requested) ∧
  (event.state = .applied → ∀ item ∈ earlier, item.state ≠ .applied) ∧
  (event.state = .verified → event.previousState = some .applied ∧ event.Proven) ∧
  (event.state = .expired → event.previousState = some .verified) ∧
  (event.state = .rolledBack → event.previousState = some .requested → event.actionIntent.isSome) ∧
  (∀ item ∈ earlier, item.state.terminal = false) ∧
  event.AllOf

/-- The audit history of a record tells how the record came to its state. -/
structure Chronicle (python : Python) (trusted : CommandAuthenticator → Prop) (history : List AuditEvent)
    (record : Snapshot) : Prop where
  orderly : Always Orderly history
  counted : history.length = record.transitionNumber
  latest : ∃ last ∈ history.getLast?, last.state = record.state ∧ last.transitionNumber = record.transitionNumber
  described : ∀ event ∈ history, event.describes record.command record.expiresAt
  signed : ∃ first ∈ history.head?, ∃ authenticator, trusted authenticator ∧
    authenticator.verify python record.command first.timestamp.parse = .ok ()

/-- Which state may stand before a state. -/
theorem allowed_previous (state : ResponseState) :
    .requested ∉ allowed (some state) ∧ (.applied ∈ allowed (some state) → state = .requested) ∧
      (.verified ∈ allowed (some state) → state = .applied) ∧
      (.expired ∈ allowed (some state) → state = .verified) ∧
      (.rolledBack ∈ allowed (some state) →
        some state ∈ [some .requested, some .applied, some .verified, some .failed]) := by
  cases state <;> decide

section Histories

variable {python : Python} {trusted : CommandAuthenticator → Prop} {history : List AuditEvent}
  {old new : Snapshot} {event : AuditEvent}

theorem Chronicle.length_pos (chronicle : Chronicle python trusted history old) : history ≠ [] := by
  obtain ⟨last, found, -⟩ := chronicle.latest
  intro empty
  simp [empty] at found

/-- The last event before a legal transition carries the old state. -/
theorem Chronicle.previous (chronicle : Chronicle python trusted history old) :
    history.getLast?.map (·.state) = some old.state := by
  obtain ⟨last, found, state, -⟩ := chronicle.latest
  rw [Option.mem_def.mp found, Option.map_some, state]

/-- No event of a live record ended it. -/
theorem Chronicle.live (chronicle : Chronicle python trusted history old) (live : old.state.terminal = false) :
    ∀ item ∈ history, item.state.terminal = false := by
  obtain ⟨last, found, state, -⟩ := chronicle.latest
  obtain ⟨front, split⟩ := List.getLast?_eq_some_iff.mp found
  have placed := chronicle.orderly front last [] split
  intro item member
  rw [split, List.mem_append, List.mem_singleton] at member
  rcases member with earlier | same
  · exact placed.2.2.2.2.2.2.2.1 item earlier
  · rw [same, state, live]

/-- A requested record has only its first event. -/
theorem Chronicle.requested (chronicle : Chronicle python trusted history old) (state : old.state = .requested) :
    ∀ item ∈ history, item.state = .requested := by
  obtain ⟨last, found, lastState, -⟩ := chronicle.latest
  obtain ⟨front, split⟩ := List.getLast?_eq_some_iff.mp found
  have placed := chronicle.orderly front last [] split
  have alone : front = [] := placed.2.2.1.mpr (lastState.trans state)
  intro item member
  rw [split, alone, List.nil_append, List.mem_singleton] at member
  rw [member, lastState, state]

/-- The event of a legal transition is well placed after the history of the record. -/
theorem Legal.orderly (legal : Legal old new event) (chronicle : Chronicle python trusted history old) :
    Orderly history event := by
  have previous : event.previousState = some old.state := legal.stamp.previous
  have state := legal.stamp.state
  obtain ⟨started, applied, verified, expired, rolledBack⟩ := allowed_previous old.state
  have permitted := legal.permitted
  rw [← state] at permitted
  refine ⟨?_, ?_, ?_, ?_, ?_, ?_, ?_, chronicle.live legal.live, ?_⟩
  · rw [legal.stamp.number, legal.number, chronicle.counted]
  · rw [previous, chronicle.previous]
  · exact ⟨fun empty => absurd empty chronicle.length_pos, fun same => absurd (same ▸ permitted) started⟩
  · intro same item member
    rw [chronicle.requested (applied (same ▸ permitted)) item member]
    decide
  · intro same
    exact ⟨by rw [previous, verified (same ▸ permitted)], (legal.verified (state ▸ same)).2⟩
  · intro same
    rw [previous, expired (same ▸ permitted)]
  · intro same requested
    rw [previous, Option.some.injEq] at requested
    exact legal.intent (Or.inr ⟨requested, state ▸ same⟩)
  · refine ⟨legal.stamp.routed.1, legal.stamp.routed.2, fun same => absurd (same ▸ permitted) started, ?_, ?_, ?_,
      ?_, fun same => legal.failed (state ▸ same)⟩
    · intro same
      exact ⟨legal.applied (state ▸ same), by rw [previous, applied (same ▸ permitted)]⟩
    · intro same
      obtain ⟨application, verification, present, proven, -⟩ := legal.verified (state ▸ same)
      exact ⟨application, ⟨verification, present, proven⟩, by rw [previous, verified (same ▸ permitted)]⟩
    · intro same
      exact ⟨legal.ended (by rw [← state, same]; rfl), by rw [previous, expired (same ▸ permitted)]⟩
    · intro same
      refine ⟨legal.ended (by rw [← state, same]; rfl), ?_, ?_⟩
      · rw [previous]
        exact rolledBack (same ▸ permitted)
      · intro requested
        rw [previous, Option.some.injEq] at requested
        exact legal.intent (Or.inr ⟨requested, state ▸ same⟩)

/-- A legal transition extends the history of its record. -/
theorem Legal.chronicle (legal : Legal old new event) (chronicle : Chronicle python trusted history old) :
    Chronicle python trusted (history ++ [event]) new := by
  refine ⟨chronicle.orderly.snoc (legal.orderly chronicle), ?_, ?_, ?_, ?_⟩
  · rw [List.length_append, List.length_singleton, chronicle.counted, legal.number]
  · exact ⟨event, by simp, legal.stamp.state, legal.stamp.number⟩
  · intro item member
    rw [List.mem_append, List.mem_singleton] at member
    rcases member with earlier | same
    · rw [legal.command, legal.expiresAt]
      exact chronicle.described item earlier
    · rw [same]
      exact legal.stamp.describes
  · obtain ⟨first, found, signed⟩ := chronicle.signed
    rw [legal.command]
    exact ⟨first, by simp [Option.mem_def.mp found], signed⟩

/-- The store accepts the event of a legal transition. -/
theorem Legal.validates (legal : Legal old new event) (chronicle : Chronicle python trusted history old)
    (identified : new.responseId ≠ "") : validateTransition event history = .ok () := by
  have previous : event.previousState = some old.state := legal.stamp.previous
  have state := legal.stamp.state
  unfold validateTransition
  simp only [Check.bind_ok, Check.guard_ok, exists_const, chronicle.previous, previous, true_and]
  refine ⟨by rw [legal.stamp.responseId]; exact identified, state ▸ legal.permitted, ?_, ?_⟩
  · intro recovery
    simp only [Option.some.injEq, state] at recovery
    exact Or.inr (legal.intent recovery)
  · rw [legal.stamp.number, legal.number, chronicle.counted]

/-- A first event begins a history. -/
theorem chronicle_first (stamp : Stamp none new event) (state : new.state = .requested)
    (first : new.transitionNumber = 1)
    (signed : ∃ authenticator now, trusted authenticator ∧
      authenticator.verify python new.command now = .ok () ∧ event.timestamp = rfc3339 now) :
    Chronicle python trusted [event] new := by
  have eventState : event.state = .requested := stamp.state.trans state
  have previous : event.previousState = none := stamp.previous
  have placed : Orderly [] event := by
    refine ⟨by rw [stamp.number, first]; rfl, previous, by simp [eventState], by simp [eventState],
      by simp [eventState], by simp [eventState], by simp [eventState], by simp, ?_⟩
    exact ⟨stamp.routed.1, stamp.routed.2, fun _ => previous, by simp [eventState], by simp [eventState],
      by simp [eventState], by simp [eventState], by simp [eventState]⟩
  refine ⟨?_, by simp [first], ⟨event, by simp, stamp.state, stamp.number⟩, ?_, ?_⟩
  · simpa using (Always.nil Orderly).snoc placed
  · intro item member
    rw [List.mem_singleton] at member
    exact member ▸ stamp.describes
  · obtain ⟨authenticator, now, known, verified, written⟩ := signed
    refine ⟨event, by simp, authenticator, known, ?_⟩
    rw [written]
    exact verify_earlier (parse_rfc3339_le now) verified

theorem validates_first (stamp : Stamp none new event) (state : new.state = .requested)
    (first : new.transitionNumber = 1) (identified : new.responseId ≠ "") :
    validateTransition event [] = .ok () := by
  unfold validateTransition
  simp [Check.bind_ok, stamp.responseId, identified, stamp.previous, stamp.state, state, allowed, stamp.number, first]

/-- A change without an event keeps the history of its record. -/
theorem Chronicle.keep (chronicle : Chronicle python trusted history old) (command : new.command = old.command)
    (expiresAt : new.expiresAt = old.expiresAt) (state : new.state = old.state)
    (number : new.transitionNumber = old.transitionNumber) : Chronicle python trusted history new := by
  obtain ⟨orderly, counted, latest, described, signed⟩ := chronicle
  exact ⟨orderly, by rw [counted, number], by rw [state, number]; exact latest,
    by rw [command, expiresAt]; exact described, by rw [command]; exact signed⟩

/-- The numbers of a history count its events. -/
theorem Chronicle.numbered (chronicle : Chronicle python trusted history old) :
    Always (fun earlier event => event.transitionNumber = earlier.length + 1) history :=
  chronicle.orderly.weaken fun _ _ placed => placed.1

end Histories

end ClosedLoop.Response
