import ClosedLoop.Proof.Response.History

namespace ClosedLoop.Response

open ClosedLoop.Library ClosedLoop.Library.Program

variable {python : Python} {trusted : CommandAuthenticator → Prop} {session : Session} {record : ResponseRecord}
  {timestamp : Int} {responseId : String}

/-- The log grew and shows no new call of `adapter.apply`. -/
def Unapplied (session after : Session) : Prop :=
  ∃ more, after.log = session.log ++ more ∧ ∀ entry ∈ more, ∀ responseId, ¬ entry.applies responseId

instance : IsPreorder Session Unapplied where
  refl session := ⟨[], by simp, by simp⟩
  trans first second third := by
    rintro ⟨earlier, firstLog, quietEarlier⟩ ⟨later, secondLog, quietLater⟩
    refine ⟨earlier ++ later, by rw [secondLog, firstLog, List.append_assoc], fun entry member => ?_⟩
    rcases List.mem_append.mp member with early | late
    · exact quietEarlier entry early
    · exact quietLater entry late

/-- A program that never calls `adapter.apply`. -/
abbrev Quiet {α : Type} (program : Op α) : Prop := Keeps Unapplied program

/-- A relation that holds over every change of a session that neither logs a call of `adapter.apply` nor
replaces the catalog. -/
class Lenient (keeps : Session → Session → Prop) : Prop extends IsPreorder Session keeps where
  observe : ∀ (session : Session) (occurrence : Occurrence),
    (∀ record now, occurrence ≠ .invoked .apply record now) → keeps session (session.observed occurrence)
  silent : ∀ session after : Session, after.log = session.log →
    after.orchestrator.catalog = session.orchestrator.catalog → keeps session after

instance : Lenient Unapplied where
  observe session occurrence plain := by
    refine ⟨_, rfl, fun entry member responseId applies => ?_⟩
    rw [List.mem_singleton] at member
    subst member
    obtain ⟨record, now, seen, -⟩ := applies
    exact plain record now seen
  silent session after same _ := ⟨[], by simp [same], by simp⟩

/-- An observation that neither calls an adapter nor commits an application. -/
def Occurrence.plain : Occurrence → Prop
  | .invoked _ _ _ => False
  | .committed _ (some event) => event.state ≠ .applied
  | _ => True

/-- A relation that holds over every change of a session that logs only plain observations and does not replace
the catalog. -/
class Recording (keeps : Session → Session → Prop) : Prop extends IsPreorder Session keeps where
  recorded : ∀ (session : Session) (occurrence : Occurrence), occurrence.plain →
    keeps session (session.observed occurrence)
  unlogged : ∀ session after : Session, after.log = session.log →
    after.orchestrator.catalog = session.orchestrator.catalog → keeps session after

instance lenientRecording (keeps : Session → Session → Prop) [Lenient keeps] : Recording keeps where
  recorded session occurrence plain := Lenient.observe session occurrence fun _ _ same => by
    rw [same] at plain
    exact plain
  unlogged := Lenient.silent

section Recorded

variable {keeps : Session → Session → Prop} [Recording keeps]

/-- Noting a plain occurrence keeps what the log keeps. -/
theorem note_recorded {occurrence : Occurrence} (plain : occurrence.plain) : Keeps keeps (note occurrence) :=
  keeps_update fun session => Recording.recorded session occurrence plain

/-- A change outside the log keeps it. -/
theorem silent_quiet {change : Session → Session} (silent : ∀ session, (change session).log = session.log)
    (same : ∀ session, (change session).orchestrator.catalog = session.orchestrator.catalog) :
    Keeps keeps (update change : Op Unit) :=
  keeps_update fun session => Recording.unlogged session _ (silent session) (same session)

/-- Drawing an outcome keeps it. -/
theorem draw_quiet {α : Type} {read : Tape → List α} {write : Tape → List α → Tape} {good : α} :
    Keeps keeps (draw read write good) := by
  intro session
  exact draw_ends (fun _ => refl_of keeps session) fun answer rest _ => Recording.unlogged session _ rfl rfl

theorem remember_quiet : Keeps keeps (remember record) := silent_quiet (fun _ => rfl) fun _ => rfl

theorem halt_quiet {error : PyError} : Keeps keeps (halt error) := by
  unfold halt
  refine Keeps.bind (note_recorded trivial) fun _ => Keeps.bind (silent_quiet (fun _ => rfl) fun _ => rfl) fun _ =>
    keeps_raise

/-- A checkpoint keeps what the log entry of its commit keeps. -/
theorem checkpoint_recorded {event : Option AuditEvent}
    (noted : Keeps keeps (note (.committed record.asdict event))) : Keeps keeps (checkpoint record event) := by
  have commits : ∀ journal, Keeps keeps (commit journal record.asdict event) := fun journal =>
    Keeps.bind (silent_quiet (fun _ => rfl) fun _ => rfl) fun _ => noted
  refine keeps_gets.bind fun journal => Keeps.bind ?_ fun _ => ?_
  · cases event with
    | none => exact keeps_pure
    | some payload => exact note_recorded trivial
  · cases journal.checkpoint record.asdict event with
    | error error => exact halt_quiet
    | ok committed =>
        refine draw_quiet.bind fun fate => ?_
        cases fate with
        | durable => exact commits committed
        | lost => exact halt_quiet
        | unacknowledged => exact (commits committed).bind fun _ => halt_quiet
        | crashBefore => exact keeps_crash
        | crashAfter => exact (commits committed).bind fun _ => keeps_crash

theorem readLedger_quiet {α : Type} {read : Journal → α} : Keeps keeps (readLedger read) := by
  refine draw_quiet.bind fun fate => ?_
  cases fate with
  | read => exact keeps_gets
  | failed => exact keeps_raise

/-- An intent is written to memory and committed without an event. -/
theorem beginOperation_quiet {operation : Operation} : Keeps keeps (beginOperation record operation timestamp) := by
  refine remember_quiet.bind fun _ => Keeps.bind ?_ fun _ => keeps_pure
  exact checkpoint_recorded (note_recorded trivial)

/-- A transition into another state than APPLIED logs only plain observations. -/
theorem transition_recorded {state : ResponseState} {evidence : Evidence} {clearIntent : Bool}
    (other : state ≠ .applied) : Keeps keeps (transition python record state timestamp evidence clearIntent) := by
  refine keeps_gets.bind fun _ => Keeps.bind ?_ fun _ => remember_quiet.bind fun _ => keeps_pure
  exact checkpoint_recorded (note_recorded other)

theorem fail_quiet {code message : String} : Keeps keeps (fail python record timestamp code message) :=
  (transition_recorded (by decide)).bind fun _ => keeps_pure

/-- What follows the log entry of an adapter call keeps every such relation. -/
theorem invoke_observed {session : Session} {method : AdapterMethod} {errorCode : String} :
    Ends (invoke method record timestamp errorCode) session
      ⟨fun _ after => keeps (session.observed (.invoked method record timestamp)) after,
        fun _ after => keeps (session.observed (.invoked method record timestamp)) after,
        keeps (session.observed (.invoked method record timestamp))⟩ := by
  unfold invoke
  rw [ends_bind, ends_note]
  refine Keeps.bind draw_quiet (fun reply => ?_) _
  cases reply with
  | answered outcome =>
      dsimp only
      split <;> exact keeps_pure
  | malformed => exact keeps_pure
  | raised => exact keeps_pure
  | interrupted => exact keeps_raise
  | crashed => exact keeps_crash

/-- An adapter call keeps what its log entry keeps. -/
theorem invoke_noted {session : Session} {method : AdapterMethod} {errorCode : String}
    (noted : keeps session (session.observed (.invoked method record timestamp))) :
    Ends (invoke method record timestamp errorCode) session
      ⟨fun _ after => keeps session after, fun _ after => keeps session after, keeps session⟩ :=
  invoke_observed.weaken (fun _ _ later => trans_of keeps noted later) (fun _ _ later => trans_of keeps noted later)
    fun _ later => trans_of keeps noted later

theorem findRecord_quiet : Keeps keeps (findRecord responseId) := by
  refine keeps_gets.bind fun records => ?_
  split
  · exact keeps_pure
  · exact keeps_raise

/-- A serialised method keeps what its body keeps. -/
theorem serialized_quiet {α : Type} {call : PublicCall} {method : Op α} (body : Keeps keeps method) :
    Keeps keeps (serialized call method) := by
  refine Keeps.bind (note_recorded ?_) fun _ => keeps_gets.bind fun failed => ?_
  · trivial
  split
  · exact keeps_raise
  · exact body

end Recorded

variable {keeps : Session → Session → Prop} [Lenient keeps]

/-- Noting anything but an application is quiet. -/
theorem note_quiet {occurrence : Occurrence} (plain : ∀ record now, occurrence ≠ .invoked .apply record now) :
    Keeps keeps (note occurrence) :=
  keeps_update fun session => Lenient.observe session occurrence plain

/-- A transition is quiet. -/
theorem transition_quiet {state : ResponseState} {evidence : Evidence} {clearIntent : Bool} :
    Keeps keeps (transition python record state timestamp evidence clearIntent) :=
  keeps_gets.bind fun _ => (checkpoint_recorded (note_quiet (by simp))).bind fun _ => remember_quiet.bind fun _ =>
    keeps_pure

/-- Every adapter call but an application is quiet. -/
theorem invoke_quiet {method : AdapterMethod} {errorCode : String} (other : method ≠ .apply) :
    Keeps keeps (invoke method record timestamp errorCode) := fun session =>
  invoke_noted (Lenient.observe session _ fun _ _ same => other (Occurrence.invoked.inj same).1)

/-- What follows the call of `adapter.revert` in `_revert`. -/
theorem revert_quiet {terminal : ResponseState} {cause : RollbackCause} :
    Keeps keeps (revert python record timestamp terminal cause) := by
  refine keeps_require.bind fun _ => beginOperation_quiet.bind fun intended => ?_
  refine (invoke_quiet (by simp)).bind fun outcome => ?_
  dsimp only
  split
  · exact fail_quiet.bind fun _ => keeps_pure
  · exact readLedger_quiet.bind fun _ => transition_quiet.bind fun _ => keeps_pure

theorem expireRecord_quiet : Keeps keeps (expireRecord python timestamp responseId) := by
  refine findRecord_quiet.bind fun record => ?_
  split
  · exact keeps_pure
  · exact revert_quiet.bind fun _ => keeps_pure

theorem recoverRecord_quiet : Keeps keeps (recoverRecord python timestamp responseId) := by
  refine findRecord_quiet.bind fun record => ?_
  split
  · exact keeps_pure
  · exact revert_quiet.bind fun _ => keeps_pure

/-- Nor does the sweep. -/
theorem expireDue_quiet {now : Moment} : Keeps keeps (expireDue python now) :=
  serialized_quiet (keeps_ofExcept.bind fun _ => keeps_gets.bind fun _ => keeps_collect fun _ => expireRecord_quiet)

theorem recoverPending_quiet {now : Moment} : Keeps keeps (recoverPending python now) :=
  serialized_quiet (keeps_ofExcept.bind fun _ => keeps_gets.bind fun _ => keeps_collect fun _ => recoverRecord_quiet)

/-- Nor does a rollback. -/
theorem rollback_quiet {cause : String} {now : Moment} : Keeps keeps (rollback python responseId cause now) := by
  refine serialized_quiet ?_
  split
  · exact keeps_raise
  · exact keeps_ofExcept.bind fun _ => findRecord_quiet.bind fun _ => keeps_require.bind fun _ => revert_quiet

end ClosedLoop.Response
