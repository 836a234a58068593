import ClosedLoop.Proof.Response.Safety

namespace ClosedLoop.Response

open ClosedLoop.Library ClosedLoop.Library.Program

variable {python : Python} {record : ResponseRecord} {timestamp : Int} {responseId : String}

section Recorded

variable {keeps : Session → Session → Prop} [Recording keeps]

/-- A denial keeps what every transition keeps. -/
theorem deny_kept {code reason message : String} : Keeps keeps (deny python record timestamp code reason message) :=
  fail_quiet.bind fun _ => keeps_pure

theorem refuse_kept {code message : String} : Keeps keeps (refuse python record timestamp code message) :=
  fail_quiet.bind fun _ => keeps_pure

/-- Admission of a command does too. -/
theorem admitCommand_kept {command : Command} : Keeps keeps (admitCommand python command timestamp) := by
  refine keeps_gets.bind fun catalog => (transition_recorded (by decide)).bind fun accepted => ?_
  refine Keeps.bind (silent_quiet (fun _ => rfl) fun _ => rfl) fun _ => ?_
  split
  · exact deny_kept
  · refine readLedger_quiet.bind fun submissions => ?_
    split
    · exact deny_kept
    · exact remember_quiet.bind fun _ => Keeps.bind (checkpoint_recorded (note_recorded trivial)) fun _ => keeps_pure

theorem duplicateResult_kept : Keeps keeps (duplicateResult responseId) :=
  findRecord_quiet.bind fun _ => readLedger_quiet.bind fun _ => keeps_pure

theorem pruneDedup_kept : Keeps keeps (pruneDedup timestamp) := silent_quiet (fun _ => rfl) fun _ => rfl

/-- A submission keeps what its transitions keep. -/
theorem submit_kept {command : Json} {now : Moment} : Keeps keeps (submit python command now) := by
  refine serialized_quiet (keeps_ofExcept.bind fun _ => keeps_gets.bind fun _ => keeps_ofExcept.bind fun normalized =>
    pruneDedup_kept.bind fun _ => keeps_gets.bind fun pruned => ?_)
  dsimp only
  split
  · exact duplicateResult_kept
  · split
    · exact duplicateResult_kept
    · exact admitCommand_kept

theorem recoveryReference_kept : Keeps keeps recoveryReference := by
  refine draw_quiet.bind fun reply => ?_
  split
  · split
    · exact keeps_raise
    · exact keeps_pure
  · exact keeps_raise
  · exact keeps_raise
  · exact keeps_crash

theorem appliedAt_kept : Keeps keeps (appliedAt record) := by
  refine readLedger_quiet.bind fun application => ?_
  split
  · exact keeps_pure
  · exact keeps_raise

theorem confirm_kept {evidenceRefs : List String} : Keeps keeps (confirm python record timestamp evidenceRefs) :=
  appliedAt_kept.bind fun _ => (transition_recorded (by decide)).bind fun _ => keeps_pure

/-- The recovery of every open record is a run of transitions. -/
theorem restoreRecovery_kept : Keeps keeps (restoreRecovery python) := by
  refine serialized_quiet (keeps_gets.bind fun _ => keeps_require.bind fun _ => readLedger_quiet.bind fun _ =>
    keeps_ofExcept.bind fun restored => ?_)
  exact Keeps.bind (silent_quiet (fun _ => rfl) fun _ => rfl) fun _ => keeps_pure

theorem pendingApply_kept : Keeps keeps pendingApply := serialized_quiet keeps_gets

theorem awaitingVerification_kept : Keeps keeps awaitingVerification := serialized_quiet keeps_gets

theorem snapshot_kept : Keeps keeps (snapshot responseId) :=
  serialized_quiet (findRecord_quiet.bind fun _ => keeps_pure)

theorem auditHistory_kept : Keeps keeps (auditHistory responseId) :=
  serialized_quiet (findRecord_quiet.bind fun _ => readLedger_quiet)

theorem changeService_kept {change : Service → Service} : Keeps keeps (changeService change) :=
  silent_quiet (fun _ => rfl) fun _ => rfl

theorem accept_kept {command : Json} {now : Moment} : Keeps keeps (accept python command now) := by
  refine keeps_gets.bind fun service => ?_
  split
  · exact changeService_kept.bind fun _ => keeps_pure
  · refine keeps_require.bind fun _ => keeps_rescue ?_ fun error => ?_
    · exact submit_kept.bind fun _ => changeService_kept.bind fun _ => keeps_pure
    · split
      · exact changeService_kept.bind fun _ => keeps_pure
      · exact keeps_raise

theorem markExported_kept {auditId : String} : Keeps keeps (markExported auditId) := by
  refine draw_quiet.bind fun fate => ?_
  have mark : Keeps keeps (update fun session =>
      { session with journal := session.journal.markExported auditId } : Op Unit) :=
    silent_quiet (fun _ => rfl) fun _ => rfl
  cases fate with
  | durable => exact mark
  | lost => exact keeps_raise
  | unacknowledged => exact mark.bind fun _ => keeps_raise
  | crashBefore => exact keeps_crash
  | crashAfter => exact mark.bind fun _ => keeps_crash

theorem deliver_kept {delivered : Nat} {events : List (String × AuditEvent)} :
    Keeps keeps (deliver delivered events) := by
  induction events generalizing delivered with
  | nil => exact keeps_pure
  | cons event rest ih =>
      refine Keeps.bind (note_recorded ?_) fun _ => draw_quiet.bind fun reply => ?_
      · trivial
      cases reply with
      | delivered => exact markExported_kept.bind fun _ => ih
      | blocked code => exact keeps_pure
      | raised => exact keeps_raise
      | crashed => exact keeps_crash

theorem exportPass_kept : Keeps keeps exportPass := by
  refine keeps_gets.bind fun service => ?_
  split
  · refine Keeps.bind (keeps_rescue ?_ fun _ => keeps_pure) fun _ => changeService_kept
    refine Keeps.bind (note_recorded ?_) fun _ => readLedger_quiet.bind fun _ => deliver_kept
    trivial
  · exact keeps_pure

end Recorded

section Calls

variable {keeps : Session → Session → Prop} [Lenient keeps]
  (calls : ∀ (session : Session) (record : ResponseRecord) (now : Int),
    keeps session (session.observed (.invoked .apply record now)))

/-- An adapter call keeps what its record in the log keeps. -/
theorem invoke_kept (calls : ∀ (session : Session) (record : ResponseRecord) (now : Int),
      keeps session (session.observed (.invoked .apply record now))) {method : AdapterMethod} {errorCode : String} :
    Keeps keeps (invoke method record timestamp errorCode) := by
  by_cases apply : method = .apply
  · subst apply
    exact fun session => invoke_noted (calls session record timestamp)
  · exact invoke_quiet apply

include calls in
/-- Enforcement is one intent, one call and one outcome. -/
theorem enforce_kept : Keeps keeps (enforce python record timestamp) := by
  refine recoveryReference_kept.bind fun reference => beginOperation_quiet.bind fun intended =>
    (invoke_kept calls).bind fun outcome => ?_
  dsimp only
  split
  · exact fail_quiet.bind fun _ => keeps_pure
  · exact remember_quiet.bind fun _ => transition_quiet.bind fun _ => keeps_pure

include calls in
/-- Application keeps what its steps keep. -/
theorem apply_kept {now : Moment} : Keeps keeps (apply python responseId now) := by
  refine serialized_quiet (keeps_ofExcept.bind fun time => findRecord_quiet.bind fun found =>
    keeps_require.bind fun _ => keeps_require.bind fun _ => keeps_require.bind fun _ => ?_)
  split
  · exact refuse_kept
  · refine keeps_gets.bind fun orchestrator => ?_
    split
    · exact refuse_kept
    · exact refuse_kept
    · exact keeps_raise
    · exact keeps_require.bind fun _ => enforce_kept calls

theorem retract_kept {outcome : AdapterOutcome} : Keeps keeps (retract python record timestamp outcome) := by
  refine beginOperation_quiet.bind fun intended => (invoke_quiet (by simp)).bind fun rollback => ?_
  dsimp only
  split
  · exact appliedAt_kept.bind fun _ => transition_quiet.bind fun _ => keeps_pure
  · exact fail_quiet.bind fun _ => keeps_pure

/-- Verification keeps what its steps keep. -/
theorem verify_kept {now : Moment} : Keeps keeps (verify python responseId now) := by
  refine serialized_quiet (keeps_ofExcept.bind fun time => findRecord_quiet.bind fun found =>
    keeps_require.bind fun _ => keeps_require.bind fun _ => ?_)
  split
  · exact revert_quiet
  · refine keeps_require.bind fun _ => (invoke_quiet (by simp)).bind fun outcome => ?_
    split
    · exact confirm_kept
    · exact retract_kept

include calls in
/-- Every public call keeps what its steps keep. -/
theorem performOperation_kept (call : PublicCall) : Keeps keeps (performOperation python call) := by
  cases call with
  | submit command now => exact submit_kept.bind fun _ => keeps_pure
  | restoreRecovery => exact restoreRecovery_kept.bind fun _ => keeps_pure
  | apply responseId now => exact (apply_kept calls).bind fun _ => keeps_pure
  | verify responseId now => exact verify_kept.bind fun _ => keeps_pure
  | expireDue now => exact expireDue_quiet.bind fun _ => keeps_pure
  | rollback responseId cause now => exact rollback_quiet.bind fun _ => keeps_pure
  | recoverPending now => exact recoverPending_quiet.bind fun _ => keeps_pure
  | pendingApply => exact pendingApply_kept.bind fun _ => keeps_pure
  | awaitingVerification => exact awaitingVerification_kept.bind fun _ => keeps_pure
  | snapshot responseId => exact snapshot_kept.bind fun _ => keeps_pure
  | auditHistory responseId => exact auditHistory_kept.bind fun _ => keeps_pure

include calls in
/-- One lifecycle pass keeps what its operations keep. -/
theorem lifecyclePass_kept {now : Moment} : Keeps keeps (lifecyclePass python now) := by
  refine pendingApply_kept.bind fun queued => Keeps.bind (keeps_collect fun _ => ?_) fun applied =>
    awaitingVerification_kept.bind fun awaiting => Keeps.bind (keeps_collect fun _ => ?_) fun verified =>
    expireDue_quiet.bind fun expired => changeService_kept.bind fun _ => keeps_gets.bind fun service => ?_
  · exact (apply_kept calls).bind fun _ => keeps_pure
  · exact verify_kept.bind fun _ => keeps_pure
  · dsimp only
    split
    · exact recoverPending_quiet.bind fun _ => keeps_pure
    · exact keeps_pure.bind fun _ => keeps_pure

include calls in
/-- A call on a running process keeps every lenient relation that allows a call of `adapter.apply`. -/
theorem perform_kept (call : Call) : Keeps keeps (perform python call) := by
  cases call with
  | operation call => exact performOperation_kept calls call
  | start now => exact recoverPending_quiet.bind fun _ => changeService_kept
  | accept command now => exact accept_kept.bind fun _ => keeps_pure
  | tick now =>
      refine Keeps.bind (keeps_gets.bind fun service => ?_) fun _ => keeps_pure
      have rest : ∀ report, Keeps keeps (do
          changeService fun service => { service with counters := addReport report service.counters }
          exportPass
          return report) := fun report => changeService_kept.bind fun _ => exportPass_kept.bind fun _ => keeps_pure
      dsimp only
      split
      · exact (lifecyclePass_kept calls).bind rest
      · exact keeps_pure.bind rest

end Calls

section Catalogs

/-- The catalog stays, and every new entry of the log shows it. -/
def Configured (session after : Session) : Prop :=
  after.orchestrator.catalog = session.orchestrator.catalog ∧
    ∃ more, after.log = session.log ++ more ∧ ∀ entry ∈ more, entry.catalog = session.orchestrator.catalog

instance : Lenient Configured where
  refl session := ⟨rfl, [], by simp, by simp⟩
  trans first second third := by
    rintro ⟨firstCatalog, earlier, firstLog, earlierCatalogs⟩ ⟨secondCatalog, later, secondLog, laterCatalogs⟩
    refine ⟨secondCatalog.trans firstCatalog, earlier ++ later, by rw [secondLog, firstLog, List.append_assoc],
      fun entry member => ?_⟩
    rcases List.mem_append.mp member with early | late
    · exact earlierCatalogs entry early
    · exact (laterCatalogs entry late).trans firstCatalog
  observe session occurrence _ := ⟨rfl, _, rfl, by simp [Session.entry]⟩
  silent session after log catalog := ⟨catalog, [], by simp [log], by simp⟩

/-- Every launch of a step uses this catalog. -/
def Step.configures (catalog : PolicyCatalog) : Step → Prop
  | .launch config => config.catalog = catalog
  | _ => True

/-- The live process and every log entry use one catalog. -/
def World.Uses (world : World) (catalog : PolicyCatalog) : Prop :=
  (∀ process ∈ world.process, process.orchestrator.catalog = catalog) ∧
    ∀ entry ∈ world.log, entry.catalog = catalog

variable {world : World} {catalog : PolicyCatalog}

/-- A new orchestrator holds the catalog of its configuration. -/
theorem construct_catalog {config : Config} {journal : Journal} {orchestrator : Orchestrator}
    (built : construct python config journal = .ok orchestrator) : orchestrator.catalog = config.catalog := by
  unfold construct at built
  simp only [Check.bind_ok, Check.pure_ok] at built
  obtain ⟨_, _, _, _, _, _, rfl⟩ := built
  rfl

/-- A launch with the same catalog goes on using it. -/
theorem World.Uses.launch (uses : world.Uses catalog) {config : Config} (same : config.catalog = catalog) :
    (world.launch python config).Uses catalog := by
  unfold World.launch
  split
  · exact uses
  · rename_i idle
    dsimp only
    split
    · refine ⟨fun process member => ?_, uses.2⟩
      simp [idle] at member
    · rename_i orchestrator built
      refine ⟨fun process member => ?_, fun entry member => ?_⟩
      · cases member
        exact (construct_catalog built).trans same
      · rcases List.mem_append.mp member with old | new
        · exact uses.2 entry old
        · rw [List.mem_singleton] at new
          subst new
          exact same

/-- A call does not change the catalog. -/
theorem World.Uses.call (uses : world.Uses catalog) {process : Process} (live : world.process = some process)
    (call : Call) (tape : Tape) : (world.step python (.call call tape)).Uses catalog := by
  rw [World.step_live _ live]
  have kept : Keeps Configured (perform python call) :=
    perform_kept (fun _ _ _ => ⟨rfl, _, rfl, by simp [Session.entry]⟩) call
  obtain ⟨same, more, log, catalogs⟩ := kept.state (world.session process tape)
  have old : process.orchestrator.catalog = catalog := uses.1 process live
  refine ⟨fun other member => ?_, fun entry member => ?_⟩
  · simp only [Session.world] at member
    split at member
    · cases member
    · cases member
      exact same.trans old
  · rw [Session.world, log] at member
    rcases List.mem_append.mp member with before | new
    · exact uses.2 entry before
    · exact (catalogs entry new).trans old

/-- A step that configures no other catalog keeps the one in use. -/
theorem World.Uses.step (uses : world.Uses catalog) {step : Step} (configures : step.configures catalog) :
    (world.step python step).Uses catalog := by
  cases step with
  | launch config => exact uses.launch configures
  | stop => exact ⟨fun process member => by simp [World.step] at member, uses.2⟩
  | call call tape =>
      rcases live : world.process with _ | process
      · rw [World.step_idle live]
        exact uses
      · exact uses.call live call tape

/-- A run whose launches share one catalog uses this catalog only. -/
theorem run_uses (steps : List Step) (configured : ∀ step ∈ steps, step.configures catalog) :
    (World.run python steps).Uses catalog := by
  have later : ∀ world : World, world.Uses catalog → (steps.foldl (World.step python) world).Uses catalog := by
    induction steps with
    | nil => exact fun _ uses => uses
    | cons step rest ih =>
        intro world uses
        exact ih (fun other member => configured other (List.mem_cons_of_mem _ member)) _
          (uses.step (configured step List.mem_cons_self))
  exact later {} ⟨by simp, by simp⟩

end Catalogs

end ClosedLoop.Response
