import ClosedLoop.Proof.Response.Admission

namespace ClosedLoop.Response

open ClosedLoop.Library ClosedLoop.Library.Program

variable {python : Python} {trusted : CommandAuthenticator → Prop} {session : Session} {record : ResponseRecord}
  {timestamp : Int} {responseId : String}

/-- A live process is in sync with its store, or it has halted. -/
def Steady (python : Python) (trusted : CommandAuthenticator → Prop) (session : Session) : Prop :=
  Synced python trusted session ∨ Halted python trusted session

/-- Every way in which a call on a live process ends. -/
def sane {α : Type} (python : Python) (trusted : CommandAuthenticator → Prop) : Post Session PyError α where
  returned _ after := Steady python trusted after
  raised error after := Stops python trusted error after
  crashed after := Reached python trusted after.journal after.log

/-- A program that ends in sync or halted is sane. -/
theorem sane_of_safe {α : Type} {program : Op α} (ended : Ends program session (safe python trusted)) :
    Ends program session (sane python trusted) :=
  ended.weaken (fun _ _ synced => Or.inl synced) (fun _ _ stops => stops) (fun _ crashed => crashed)

section Queries

/-- Listing the work to apply is safe. -/
theorem pendingApply_safe (synced : Synced python trusted session) :
    Ends pendingApply session (safe python trusted) :=
  serialized_ends synced fun seen => seen

theorem awaitingVerification_safe (synced : Synced python trusted session) :
    Ends awaitingVerification session (safe python trusted) :=
  serialized_ends synced fun seen => seen

theorem snapshot_safe (synced : Synced python trusted session) :
    Ends (snapshot responseId) session (safe python trusted) :=
  serialized_ends synced fun seen => findRecord_ends (fun _ => seen.stops (by simp)) fun _ _ => seen

/-- Reading the ledger is safe. -/
theorem readLedger_safe {α : Type} {read : Journal → α} (synced : Synced python trusted session) :
    Ends (readLedger read) session (safe python trusted) := by
  refine safe_of_upon (readLedger_ends synced) fun value after ⟨_, tape, same⟩ => ?_
  subst same
  exact synced.tape tape

theorem auditHistory_safe (synced : Synced python trusted session) :
    Ends (auditHistory responseId) session (safe python trusted) :=
  serialized_ends synced fun seen =>
    findRecord_ends (fun _ => seen.stops (by simp)) fun _ _ => readLedger_safe seen

/-- In a store with records the recovery of a fresh orchestrator is refused, and in an empty one it restores
nothing. -/
theorem restoreRecovery_safe (synced : Synced python trusted session) :
    Ends (restoreRecovery python) session (safe python trusted) := by
  unfold restoreRecovery
  refine serialized_ends synced fun seen => ?_
  rw [ends_bind, ends_gets]
  dsimp only
  refine require_ends (fun _ => seen.stops (by simp)) fun empty => ?_
  refine safe_of_upon (upon_bind (readLedger_ends seen)
    fun journal after ⟨same, tape, ended⟩ _ => ?_) fun _ _ kept => kept
  have read : journal = session.journal := same
  subst read ended
  have none : session.journal.records = [] := by
    rw [← synced.mirror, Session.view, show session.orchestrator.records = [] from empty]
    rfl
  have commands : session.journal.commands = [] := by rw [Journal.commands, none]; rfl
  rw [commands, ends_bind, ends_ofExcept]
  refine ⟨fun restored passed => ?_, fun error failed => by cases failed⟩
  cases passed
  dsimp only
  rw [ends_bind, ends_update]
  have kept := seen.tape tape
  refine ⟨?_, Consumed.refl _⟩
  exact ⟨kept.running, kept.keyRing, kept.reached,
    by rw [← kept.mirror, Session.view, Session.view,
      show (session.observed (.called .restoreRecovery)).orchestrator.records = [] from empty]; rfl, kept.quiet⟩

end Queries

section Halting

/-- A halted process stays so over occurrences that harm nothing. -/
theorem Halted.observe (halted : Halted python trusted session) (occurrence : Occurrence)
    (harmless : Harmless python session.log (session.entry occurrence)) (still : occurrence ≠ .opened) :
    Halted python trusted (session.observed occurrence) := by
  refine ⟨halted.stopped, halted.keyRing, halted.reached.observe rfl harmless, halted.kept, ?_⟩
  rw [Session.observed, raisedSinceOpen_append]
  cases occurrence <;> simp_all [Session.entry, halted.raised]

/-- A live process refuses a call when it has halted. -/
theorem serialized_sane {α : Type} {call : PublicCall} {method : Op α}
    (safely : Synced python trusted session → Ends (serialized call method) session (safe python trusted))
    (steady : Steady python trusted session) : Ends (serialized call method) session (sane python trusted) := by
  rcases steady with synced | halted
  · exact sane_of_safe (safely synced)
  · refine serialized_halted halted.stopped ⟨by simp, Or.inr ?_⟩
    exact halted.observe _ trivial (by simp)

/-- Every public operation leaves a live process in sync or halted. -/
theorem performOperation_sane (call : PublicCall) (steady : Steady python trusted session) :
    Ends (performOperation python call) session (sane python trusted) := by
  cases call <;> unfold performOperation <;> rw [ends_bind] <;>
    refine (serialized_sane (fun synced => ?_) steady).returning fun _ _ kept => kept
  · exact submit_safe synced
  · exact restoreRecovery_safe synced
  · exact apply_safe synced
  · exact verify_safe synced
  · exact expireDue_safe synced
  · exact rollback_safe synced
  · exact recoverPending_safe synced
  · exact pendingApply_safe synced
  · exact awaitingVerification_safe synced
  · exact snapshot_safe synced
  · exact auditHistory_safe synced

/-- A halted process raises in every public operation and changes neither the store nor an adapter. -/
theorem performOperation_halted (call : PublicCall) (stopped : session.orchestrator.storageFailed = true) :
    performOperation python call session = (.raised (.runtimeError
      "response persistence failed; close and reopen the store before recovery"), session.observed (.called call)) := by
  rw [← ends_raised]
  cases call <;> unfold performOperation <;> rw [ends_bind] <;> exact serialized_halted stopped ⟨rfl, rfl⟩

end Halting

section Exporting

/-- An export mark is no part of the state that is in sync or halted. -/
theorem Steady.mark (steady : Steady python trusted session) (auditId : String) :
    Steady python trusted { session with journal := session.journal.markExported auditId } := by
  have tables : (session.journal.markExported auditId).records = session.journal.records ∧
      (session.journal.markExported auditId).audit = session.journal.audit ∧
      (session.journal.markExported auditId).applyIntents = session.journal.applyIntents ∧
      (session.journal.markExported auditId).admissions = session.journal.admissions := by
    unfold Journal.markExported
    split <;> exact ⟨rfl, rfl, rfl, rfl⟩
  obtain ⟨records, audit, intents, admissions⟩ := tables
  rcases steady with synced | halted
  · exact Or.inl ⟨synced.running, synced.keyRing, synced.reached.housekeeping records audit intents (Or.inl admissions),
      synced.mirror.trans records.symm, synced.quiet⟩
  · refine Or.inr ⟨halted.stopped, halted.keyRing, halted.reached.housekeeping records audit intents (Or.inl admissions),
      ⟨?_, halted.kept.separate⟩, halted.raised⟩
    have histories : (session.journal.markExported auditId).history = session.journal.history := by
      funext key
      rw [Journal.history, audit]
      rfl
    rw [histories, intents]
    exact halted.kept.guarded

/-- The outcomes that are still to come are no part of a steady state. -/
theorem Steady.tape (steady : Steady python trusted session) (tape : Tape) :
    Steady python trusted { session with tape } := by
  rcases steady with synced | halted
  · exact Or.inl (synced.tape tape)
  · exact Or.inr ⟨halted.stopped, halted.keyRing, halted.reached, halted.kept, halted.raised⟩

/-- Nor is the service's own state. -/
theorem Steady.service (steady : Steady python trusted session) (service : Service) :
    Steady python trusted { session with service } := by
  rcases steady with synced | halted
  · exact Or.inl ⟨synced.running, synced.keyRing, synced.reached, synced.mirror, synced.quiet⟩
  · exact Or.inr ⟨halted.stopped, halted.keyRing, halted.reached, halted.kept, halted.raised⟩

/-- A steady process stays so over occurrences that harm nothing. -/
theorem Steady.observe (steady : Steady python trusted session) (occurrence : Occurrence)
    (harmless : Harmless python session.log (session.entry occurrence))
    (still : occurrence ≠ .opened ∧ occurrence ≠ .checkpointRaised) :
    Steady python trusted (session.observed occurrence) := by
  rcases steady with synced | halted
  · exact Or.inl (synced.observe occurrence harmless still)
  · exact Or.inr (halted.observe occurrence harmless still.1)

/-- The journal of a steady process was reached by committed steps. -/
theorem Steady.reached (steady : Steady python trusted session) :
    Reached python trusted session.journal session.log := by
  rcases steady with synced | halted
  · exact synced.reached
  · exact halted.reached

/-- An error that is no failed assertion stops a steady process where it stands. -/
theorem Steady.stops (steady : Steady python trusted session) {error : PyError} (known : error ≠ .assertionError) :
    Stops python trusted error session := ⟨known, steady⟩

theorem markExported_sane {auditId : String} (steady : Steady python trusted session) :
    Ends (markExported auditId) session (sane python trusted) := by
  unfold markExported
  rw [ends_bind]
  refine nextCommit_ends fun fate tape _ _ => ?_
  have kept := steady.tape tape
  cases fate with
  | durable => exact kept.mark auditId
  | lost => exact kept.stops (by simp)
  | unacknowledged => exact (kept.mark auditId).stops (by simp)
  | crashBefore => exact kept.reached
  | crashAfter => exact (kept.mark auditId).reached

theorem deliver_sane {delivered : Nat} {events : List (String × AuditEvent)}
    (steady : Steady python trusted session) : Ends (deliver delivered events) session (sane python trusted) := by
  induction events generalizing session delivered with
  | nil => exact steady
  | cons row rest ih =>
      unfold deliver
      rw [ends_bind, ends_note]
      dsimp only
      rw [ends_bind]
      refine nextDelivery_ends fun reply tape _ _ => ?_
      have kept := (steady.observe (.sent row.2) trivial ⟨by simp, by simp⟩).tape tape
      dsimp only
      cases reply with
      | delivered =>
          dsimp only
          rw [ends_bind]
          exact (markExported_sane kept).returning fun _ after marked => ih marked
      | blocked code => exact kept
      | raised => exact kept.stops (by simp)
      | crashed => exact kept.reached

/-- One batch of the export is sane. -/
theorem exportAudit_sane {limit : Nat} (steady : Steady python trusted session) :
    Ends (exportAudit limit) session (sane python trusted) := by
  unfold exportAudit readLedger
  rw [ends_bind, ends_note]
  dsimp only
  have seen := steady.observe .exportRan trivial ⟨by simp, by simp⟩
  rw [ends_bind, ends_bind]
  refine nextRead_ends fun fate tape _ _ => ?_
  cases fate with
  | read => exact deliver_sane (seen.tape tape)
  | failed => exact (seen.tape tape).stops (by simp)

theorem exportPass_sane (steady : Steady python trusted session) :
    Ends exportPass session (sane python trusted) := by
  unfold exportPass
  rw [ends_bind, ends_gets]
  dsimp only
  split
  · rw [ends_bind, ends_rescue]
    refine (exportAudit_sane steady).weaken (fun _ after kept => ?_) (fun _ after stops => ?_)
      (fun _ crashed => crashed)
    · exact kept.service _
    · exact Steady.service stops.2 _
  · exact steady

end Exporting

section Calls

/-- A change of the service returns with that change. -/
@[simp] theorem ends_changeService {change : Service → Service} {post : Post Session PyError Unit} :
    Ends (changeService change) session post ↔
      post.returned () { session with service := change session.service } := Iff.rfl

theorem start_sane {now : Moment} (steady : Steady python trusted session) :
    Ends (start python now) session (sane python trusted) := by
  unfold start
  rw [ends_bind]
  exact (serialized_sane (fun synced => recoverPending_safe synced) steady).returning
    fun _ after kept => kept.service _

/-- Accepting a delivery is sane. -/
theorem accept_sane {command : Json} {now : Moment} (steady : Steady python trusted session) :
    Ends (accept python command now) session (sane python trusted) := by
  unfold accept
  rw [ends_bind, ends_gets]
  dsimp only
  split
  · exact steady.service _
  · refine require_ends (fun _ => steady.stops (by simp)) fun _ => ?_
    unfold submitReport
    rw [ends_rescue, ends_bind]
    refine (serialized_sane (fun synced => submit_safe synced) steady).weaken (fun _ after kept => ?_)
      (fun error after stops => ?_) (fun _ crashed => crashed)
    · exact kept.service _
    · cases error with
      | commandRejected message => exact Steady.service stops.2 _
      | _ => exact stops

/-- A loop of safe operations is safe. -/
theorem collect_safe {α β : Type} {body : β → Op (Option α)} {items : List β}
    (turn : ∀ item session, Synced python trusted session → Ends (body item) session (safe python trusted))
    (synced : Synced python trusted session) : Ends (collect body items) session (safe python trusted) :=
  ends_collect (fun _ after => Synced python trusted after)
    (fun item _ state inside => turn item state inside) (fun _ _ kept => kept) synced

/-- One lifecycle pass is safe. -/
theorem lifecyclePass_safe {now : Moment} (synced : Synced python trusted session) :
    Ends (lifecyclePass python now) session (safe python trusted) := by
  unfold lifecyclePass
  rw [ends_bind]
  refine (pendingApply_safe synced).returning fun queued first kept => ?_
  rw [ends_bind]
  refine (collect_safe (fun item state inside => ?_) kept).returning fun applied second kept => ?_
  · rw [ends_bind]
    exact (apply_safe inside).returning fun _ _ kept => kept
  rw [ends_bind]
  refine (awaitingVerification_safe kept).returning fun awaiting third kept => ?_
  rw [ends_bind]
  refine (collect_safe (fun item state inside => ?_) kept).returning fun verified fourth kept => ?_
  · rw [ends_bind]
    exact (verify_safe inside).returning fun _ _ kept => kept
  rw [ends_bind]
  refine (expireDue_safe kept).returning fun expired fifth kept => ?_
  rw [ends_bind, ends_changeService]
  dsimp only
  have counted : Synced python trusted { fifth with service := { fifth.service with ticks := fifth.service.ticks + 1 } } :=
    ⟨kept.running, kept.keyRing, kept.reached, kept.mirror, kept.quiet⟩
  rw [ends_bind, ends_gets]
  dsimp only
  split
  · rw [ends_bind]
    exact (recoverPending_safe counted).returning fun _ _ kept => kept
  · exact counted

/-- A tick is sane. -/
theorem tick_sane {now : Moment} (steady : Steady python trusted session) :
    Ends (tick python now) session (sane python trusted) := by
  unfold tick
  rw [ends_bind, ends_gets]
  dsimp only
  have rest : ∀ (report : TickReport) (after : Session), Steady python trusted after →
      Ends (do
        changeService fun service => { service with counters := addReport report service.counters }
        exportPass
        return report) after (sane python trusted) := by
    intro report after kept
    rw [ends_bind, ends_changeService]
    dsimp only
    rw [ends_bind]
    exact (exportPass_sane (kept.service _)).returning fun _ _ kept => kept
  split
  · rcases steady with synced | halted
    · rw [ends_bind]
      exact (sane_of_safe (lifecyclePass_safe synced)).returning fun report after kept => rest report after kept
    · unfold lifecyclePass
      rw [ends_bind, ends_bind]
      refine serialized_halted halted.stopped ⟨by simp, Or.inr ?_⟩
      exact halted.observe _ trivial (by simp)
  · exact rest _ _ steady

/-- Every call leaves a live process in sync or halted. -/
theorem perform_sane (call : Call) (steady : Steady python trusted session) :
    Ends (perform python call) session (sane python trusted) := by
  cases call with
  | operation call => exact performOperation_sane call steady
  | start now => exact start_sane steady
  | accept command now =>
      unfold perform
      rw [ends_bind]
      exact (accept_sane steady).returning fun _ _ kept => kept
  | tick now =>
      unfold perform
      rw [ends_bind]
      exact (tick_sane steady).returning fun _ _ kept => kept

end Calls

end ClosedLoop.Response
