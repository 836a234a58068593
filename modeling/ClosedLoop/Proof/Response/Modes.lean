import ClosedLoop.Proof.Response.Starvation

namespace ClosedLoop.Response

open ClosedLoop.Library ClosedLoop.Library.Program

variable {python : Python} {trusted : CommandAuthenticator → Prop} {session : Session} {now : Int}
  {world : World} {config : Config}

/-- The process is replaced by one in the given mode, which starts and ticks once. -/
def World.restart (python : Python) (world : World) (config : Config) (mode : Mode) (now : Int)
    (starting ticking : Tape) : World :=
  (((world.step python .stop).step python (.launch { config with mode })).step python
    (.call (.start (.aware now)) starting)).step python (.call (.tick (.aware now)) ticking)

/-- The responses on which a restart attempts `adapter.revert`. -/
def World.attempts (python : Python) (world : World) (config : Config) (mode : Mode) (now : Int)
    (starting ticking : Tape) : List String :=
  reverted ((world.restart python config mode now starting ticking).log.drop world.log.length)

/-- In a calm environment both modes attempt the same reverts of elapsed records. -/
def SameExpiry (python : Python) (world : World) (config : Config) (now : Int) : Prop :=
  ∀ starting ticking starting' ticking', Calm starting → Calm ticking → Calm starting' → Calm ticking' →
    ∀ responseId record, world.journal.records.find? responseId = some record → record.expiresAt.parse ≤ now →
      (responseId ∈ world.attempts python config .enforce now starting ticking ↔
        responseId ∈ world.attempts python config .observe now starting' ticking')

/-- A due containment has no unfinished operation. -/
def Overdue (orchestrator : Orchestrator) (now : Int) : Prop :=
  ∃ responseId record, orchestrator.records.find? responseId = some record ∧ record.due now = true ∧
    record.pendingOperation = none

/-- A candidate wants a target that a finished application holds or that another candidate wants. -/
def Contested (python : Python) (orchestrator : Orchestrator) (now : Int) : Prop :=
  ∃ firstId first secondId second, orchestrator.records.find? firstId = some first ∧
    orchestrator.records.find? secondId = some second ∧ firstId ≠ secondId ∧
    first.candidate python orchestrator now = true ∧
    ((second.engaged = true ∧ second.pendingOperation = none) ∨
      second.candidate python orchestrator now = true) ∧
    identity python second.command = identity python first.command

section Starting

/-- The session after startup recovery. -/
structure Started (python : Python) (trusted : CommandAuthenticator → Prop) (session after : Session) : Prop where
  swept : ∃ middle, Swept python trusted ResponseRecord.unfinished session session.orchestrator.records.keys middle ∧
    after.orchestrator = middle.orchestrator ∧ after.log = middle.log
  synced : Synced python trusted after
  mode : after.service.mode = session.service.mode

variable (now) in
/-- The service starts in sync. -/
theorem start_ends (synced : Synced python trusted session) :
    Ends (start python (.aware now)) session (upon python trusted session fun _ after =>
      Started python trusted session after) := by
  unfold start
  refine upon_bind (recoverPending_ends now synced) fun recovered middle swept _ => ?_
  refine ⟨⟨⟨middle, swept, rfl, rfl⟩, ?_, ?_⟩, Consumed.refl _⟩
  · exact ⟨swept.synced.running, swept.synced.keyRing, swept.synced.reached, swept.synced.mirror, swept.synced.quiet⟩
  · change middle.service.mode = _
    rw [swept.service]

variable (python session now) in
/-- A tick in observe mode reverts nothing. -/
theorem tick_observe (mode : session.service.mode = .observe) :
    Ends (tick python (.aware now)) session ⟨fun _ after => Unreverted session after, fun _ _ => False,
      fun _ => ¬ Calm session.tape⟩ := by
  unfold tick
  rw [ends_bind, ends_gets]
  dsimp only
  rw [mode, if_neg (by simp), ends_bind, ends_pure]
  dsimp only
  rw [ends_bind, ends_changeService]
  dsimp only
  rw [ends_bind]
  refine exportPass_ends.weaken (fun _ after exported => ?_) (fun _ _ never => never) (fun _ uncalm => uncalm)
  obtain ⟨more, log, none, -⟩ := exported
  exact ⟨more, log, none⟩

variable {after : Session}

/-- Startup recovery touches only the unfinished records. -/
theorem Started.spared (started : Started python trusted session after) {responseId : String}
    {record : ResponseRecord} (found : session.orchestrator.records.find? responseId = some record)
    (idle : record.pendingOperation = none) :
    after.orchestrator.records.find? responseId = some record := by
  obtain ⟨middle, swept, same, -⟩ := started.swept
  rw [same, swept.spared responseId (Or.inr (by simp [selected, found, ResponseRecord.unfinished, idle])), found]

/-- A record after startup recovery is unchanged or was unfinished. -/
theorem Started.origin (started : Started python trusted session after) {responseId : String}
    {later : ResponseRecord} (present : after.orchestrator.records.find? responseId = some later) :
    ∃ record, session.orchestrator.records.find? responseId = some record ∧
      ((record.pendingOperation = none ∧ later = record) ∨
        (record.Ended later ∧ ((∀ reply ∈ session.tape.replies, reply.Good) → later.state.terminal = true))) := by
  obtain ⟨middle, swept, same, -⟩ := started.swept
  have known : responseId ∈ session.orchestrator.records.keys := by
    rw [← swept.keys, ← same]
    exact Table.mem_keys_iff.mpr ⟨later, present⟩
  obtain ⟨record, found⟩ := Table.mem_keys_iff.mp known
  refine ⟨record, found, ?_⟩
  rcases idle : record.pendingOperation with _ | operation
  · have kept := started.spared found idle
    rw [present] at kept
    exact Or.inl ⟨rfl, Option.some.inj kept⟩
  · obtain ⟨changed, inMiddle, ended, good⟩ := swept.chosen responseId known record found
      (by simp [ResponseRecord.unfinished, idle])
    rw [same, inMiddle] at present
    cases present
    exact Or.inr ⟨ended, good⟩

/-- The start changes nothing about who passes a check. -/
theorem Started.passes (started : Started python trusted session after) :
    ResponseRecord.passes python after.orchestrator now = ResponseRecord.passes python session.orchestrator now := by
  obtain ⟨middle, swept, same, -⟩ := started.swept
  rw [same, swept.frame]
  rfl

/-- Nor about who is a candidate. -/
theorem Started.candidate (started : Started python trusted session after) (record : ResponseRecord) :
    record.candidate python after.orchestrator now = record.candidate python session.orchestrator now := by
  rw [ResponseRecord.candidate, ResponseRecord.candidate, started.passes]

/-- A candidate has no operation in flight. -/
theorem candidate_idle {record : ResponseRecord} {orchestrator : Orchestrator}
    (candidate : record.candidate python orchestrator now = true) : record.pendingOperation = none := by
  simp only [ResponseRecord.candidate, Bool.and_eq_true] at candidate
  exact (queued_asdict candidate.1).1.2.2

/-- A contested store blocks the tick after every startup recovery. -/
theorem Started.blocks (started : Started python trusted session after)
    (contested : Contested python session.orchestrator now) (tape : Tape) :
    Blocked python after.orchestrator tape now := by
  obtain ⟨firstId, first, secondId, second, foundFirst, foundSecond, different, candidate, held, same⟩ := contested
  have secondIdle : second.pendingOperation = none := by
    rcases held with ⟨-, idle⟩ | alsoCandidate
    · exact idle
    · exact candidate_idle alsoCandidate
  refine Or.inl ⟨firstId, first, secondId, second, started.spared foundFirst (candidate_idle candidate),
    started.spared foundSecond secondIdle, different, by rwa [started.candidate], ?_, same⟩
  rcases held with ⟨engaged, -⟩ | alsoCandidate
  · exact Or.inl engaged
  · exact Or.inr (by rwa [started.candidate])

/-- A record that has ended is neither engaged nor queued. -/
theorem ended_free {record later : ResponseRecord} (ended : record.Ended later)
    (terminal : later.state.terminal = true) : later.engaged = false ∧ later.queued = false := by
  have idle : later.pendingOperation = none := by
    rcases ended.2 with ⟨-, idle⟩ | ⟨failed, -⟩
    · exact idle
    · rw [failed] at terminal
      cases terminal
  cases state : later.state <;>
    simp_all [ResponseRecord.engaged, ResponseRecord.recoverable, ResponseRecord.queued, ResponseState.terminal]

/-- After a startup recovery without failures only a contested store blocks the tick. -/
theorem Started.contested (started : Started python trusted session after)
    (good : ∀ reply ∈ session.tape.replies, reply.Good) (blocked : Blocked python after.orchestrator {} now) :
    Contested python session.orchestrator now := by
  have unchanged : ∀ {responseId later}, after.orchestrator.records.find? responseId = some later →
      later.engaged = true ∨ later.queued = true →
      session.orchestrator.records.find? responseId = some later ∧ later.pendingOperation = none := by
    intro responseId later present held
    obtain ⟨record, found, ⟨idle, rfl⟩ | ⟨ended, terminal⟩⟩ := started.origin present
    · exact ⟨found, idle⟩
    · have free := ended_free ended (terminal good)
      simp [free.1, free.2] at held
  rcases blocked with ⟨firstId, first, secondId, second, foundFirst, foundSecond, different, candidate, held, same⟩ |
    ⟨reply, member, -⟩
  · have queued : ∀ {record : ResponseRecord}, record.candidate python after.orchestrator now = true →
        record.queued = true := by
      intro record passed
      simp only [ResponseRecord.candidate, Bool.and_eq_true] at passed
      exact passed.1
    have firstBefore := unchanged foundFirst (Or.inr (queued candidate))
    rcases held with engaged | alsoCandidate
    · have secondBefore := unchanged foundSecond (Or.inl engaged)
      exact ⟨firstId, first, secondId, second, firstBefore.1, secondBefore.1, different,
        by rwa [started.candidate] at candidate, Or.inl ⟨engaged, secondBefore.2⟩, same⟩
    · have secondBefore := unchanged foundSecond (Or.inr (queued alsoCandidate))
      exact ⟨firstId, first, secondId, second, firstBefore.1, secondBefore.1, different,
        by rwa [started.candidate] at candidate, Or.inr (by rwa [started.candidate] at alsoCandidate), same⟩
  · simp at member

end Starting

section Restarting

variable {orchestrator : Orchestrator} {mode : Mode} {starting ticking : Tape}

/-- The session that a restart opens. -/
def World.reopened (world : World) (config : Config) (orchestrator : Orchestrator) (mode : Mode) (tape : Tape) :
    Session where
  orchestrator
  service := { mode, exporter := config.exporter, recoverEvery := max 1 config.recoverEvery }
  journal := world.journal.backfillAdmissions
  tape
  log := world.log ++ [⟨.opened, config.catalog, config.authenticator, world.journal.backfillAdmissions⟩]

/-- The unfinished responses of the reloaded records. -/
def unfinishedKeys (orchestrator : Orchestrator) : List String :=
  orchestrator.records.keys.filter (selected ResponseRecord.unfinished orchestrator.records)

/-- A process that stops and is launched again reads the journal. -/
theorem World.relaunch (built : construct python config world.journal.backfillAdmissions = .ok orchestrator) :
    (world.step python .stop).step python (.launch { config with mode }) =
      { process := some ⟨orchestrator, (world.reopened config orchestrator mode {}).service⟩
        journal := world.journal.backfillAdmissions, log := (world.reopened config orchestrator mode {}).log } := by
  have again : construct python { config with mode } world.journal.backfillAdmissions = .ok orchestrator := built
  change (World.launch python { world with process := none } { config with mode }) = _
  unfold World.launch
  dsimp only
  rw [again]
  rfl

variable (now mode ticking) in
/-- A restart in a calm environment recovers and then ticks. -/
theorem Coherent.restart (coherent : Coherent python trusted world) (known : trusted config.authenticator)
    (built : construct python config world.journal.backfillAdmissions = .ok orchestrator) (calm : Calm starting) :
    ∃ after, Started python trusted (world.reopened config orchestrator mode starting) after ∧
      (world.restart python config mode now starting ticking).log =
        (tick python (.aware now) { after with tape := ticking }).2.log := by
  obtain ⟨records, audit, intents⟩ := backfill_tables world.journal
  have reached := coherent.reached.housekeeping records audit intents (Or.inr rfl)
  have synced : Synced python trusted (world.reopened config orchestrator mode starting) :=
    opened_synced reached known (reached.durable.construct_ok built)
  have ended := start_ends now synced
  unfold Ends at ended
  rcases result : start python (.aware now) (world.reopened config orchestrator mode starting) with ⟨outcome, after⟩
  rw [result] at ended
  cases outcome with
  | returned value =>
      have first : World.step python ((world.step python .stop).step python (.launch { config with mode }))
          (.call (.start (.aware now)) starting) = after.world (.returned value) := by
        rw [World.relaunch built, World.step_live ⟨orchestrator, _⟩ rfl]
        exact congrArg (fun ended : Outcome PyError Unit × Session => ended.2.world ended.1) result
      refine ⟨after, ended.1, ?_⟩
      unfold World.restart
      rw [first, World.step_live ⟨after.orchestrator, after.service⟩ rfl]
      change ((tick python (.aware now)) >>= fun _ => (pure () : Op Unit)) { after with tape := ticking } |>.2.log = _
      change (andThen (tick python (.aware now)) _ _).2.log = _
      unfold andThen
      rcases tick python (.aware now) { after with tape := ticking } with ⟨outcome, last⟩
      cases outcome <;> rfl
  | raised error => exact absurd calm ended.2
  | crashed => exact absurd calm ended.2

/-- The reverts of a restart are those of the recovery and then those of the tick. -/
theorem Started.attempts {after last : Session} {more : List Entry}
    (started : Started python trusted (world.reopened config orchestrator mode starting) after)
    (log : last.log = after.log ++ more) :
    reverted (last.log.drop world.log.length) = unfinishedKeys orchestrator ++ reverted more := by
  obtain ⟨middle, swept, -, sameLog⟩ := started.swept
  obtain ⟨first, longer, done, -⟩ := swept.log
  rw [log, sameLog, longer]
  simp only [World.reopened, List.append_assoc, List.drop_left]
  rw [reverted, List.filterMap_append, List.filterMap_append]
  rw [show first.filterMap _ = _ from done]
  rfl

variable (now) in
/-- In observe mode a calm tick attempts what the start recovers and nothing else. -/
theorem Coherent.attempts_observe (coherent : Coherent python trusted world) (known : trusted config.authenticator)
    (built : construct python config world.journal.backfillAdmissions = .ok orchestrator) (calm : Calm starting)
    (alsoCalm : Calm ticking) :
    world.attempts python config .observe now starting ticking = unfinishedKeys orchestrator := by
  obtain ⟨after, started, log⟩ := coherent.restart now .observe ticking known built calm
  have ended := tick_observe python { after with tape := ticking } now started.mode
  have quiet : ∃ more, (tick python (.aware now) { after with tape := ticking }).2.log = after.log ++ more ∧
      reverted more = [] := by
    unfold Ends at ended
    generalize tick python (.aware now) { after with tape := ticking } = result at ended ⊢
    obtain ⟨outcome, last⟩ := result
    cases outcome with
    | returned value => exact ended
    | raised error => exact ended.elim
    | crashed => exact absurd alsoCalm ended
  obtain ⟨more, longer, none⟩ := quiet
  unfold World.attempts
  rw [log, started.attempts longer, none, List.append_nil]

variable (now) in
/-- In enforce mode a calm tick is blocked or attempts what is due. -/
theorem Coherent.attempts_enforce (coherent : Coherent python trusted world) (known : trusted config.authenticator)
    (built : construct python config world.journal.backfillAdmissions = .ok orchestrator) (calm : Calm starting)
    (alsoCalm : Calm ticking) :
    ∃ after, Started python trusted (world.reopened config orchestrator .enforce starting) after ∧
      ((Blocked python after.orchestrator ticking now ∧
        world.attempts python config .enforce now starting ticking = unfinishedKeys orchestrator) ∨
      (¬ Blocked python after.orchestrator ticking now ∧ ∃ more, Served now { after with tape := ticking } more ∧
        world.attempts python config .enforce now starting ticking =
          unfinishedKeys orchestrator ++ reverted more)) := by
  obtain ⟨after, started, log⟩ := coherent.restart now .enforce ticking known built calm
  have ended := tick_ends now (started.synced.tape ticking) started.mode
  refine ⟨after, started, ?_⟩
  unfold World.attempts
  rw [log]
  unfold Ends at ended
  generalize tick python (.aware now) { after with tape := ticking } = result at ended ⊢
  obtain ⟨outcome, last⟩ := result
  cases outcome with
  | returned value =>
      obtain ⟨⟨more, longer, served⟩, clear⟩ := ended
      exact Or.inr ⟨clear, more, served, started.attempts longer⟩
  | raised error =>
      obtain ⟨blocked, more, longer, none, -⟩ := ended alsoCalm
      refine Or.inl ⟨blocked, ?_⟩
      rw [started.attempts longer, none, List.append_nil]
  | crashed => exact absurd alsoCalm ended

end Restarting

section Comparing

variable {orchestrator : Orchestrator}

/-- A key is unfinished when its record has an operation in flight. -/
theorem mem_unfinishedKeys {responseId : String} : responseId ∈ unfinishedKeys orchestrator ↔
    ∃ record, orchestrator.records.find? responseId = some record ∧ record.pendingOperation.isSome = true := by
  unfold unfinishedKeys
  rw [List.mem_filter, Table.mem_keys_iff]
  constructor
  · rintro ⟨⟨record, found⟩, chosen⟩
    rw [selected, found] at chosen
    exact ⟨record, found, chosen⟩
  · rintro ⟨record, found, unfinished⟩
    refine ⟨⟨record, found⟩, ?_⟩
    rw [selected, found]
    exact unfinished

/-- The tick after a restart attempts no elapsed record that was not due before. -/
theorem Started.only {after : Session} {tape : Tape} {more : List Entry}
    (started : Started python trusted session after) (served : Served now { after with tape } more)
    {responseId : String} {record : ResponseRecord}
    (found : session.orchestrator.records.find? responseId = some record) (late : record.expiresAt ≤ now)
    (called : responseId ∈ reverted more) : record.due now = true := by
  rcases idle : record.pendingOperation with _ | operation
  · exact served.only responseId called record (started.spared found idle) late
  · exact ResponseRecord.due_iff.mpr
      ⟨ResponseRecord.engaged_of_unfinished (by simp [ResponseRecord.unfinished, idle]), late⟩

/-- Both modes attempt the same reverts exactly when no due containment is without an unfinished operation, or when
the enforce mode is blocked as well. -/
theorem Coherent.sameExpiry_iff (coherent : Coherent python trusted world) (known : trusted config.authenticator)
    (built : construct python config world.journal.backfillAdmissions = .ok orchestrator) :
    SameExpiry python world config now ↔
      ¬ Overdue orchestrator now ∨ Contested python orchestrator now := by
  obtain ⟨records, audit, intents⟩ := backfill_tables world.journal
  have reopened := (coherent.reached.housekeeping records audit intents (Or.inr rfl)).durable.construct_ok built
  have reloaded : ∀ {responseId record}, world.journal.records.find? responseId = some record →
      orchestrator.records.find? responseId = some record.record := by
    intro responseId record found
    rw [reopened.records, Table.find?_mapValues, records, found]
    rfl
  constructor
  · intro same
    by_contra neither
    rw [not_or, not_not] at neither
    obtain ⟨⟨responseId, record, found, due, idle⟩, free⟩ := neither
    obtain ⟨after, started, outcome⟩ := coherent.attempts_enforce now known built calm_empty calm_empty
    have observed := coherent.attempts_observe now known built calm_empty calm_empty
    have stored : ∃ snapshot, world.journal.records.find? responseId = some snapshot ∧ snapshot.record = record := by
      rw [reopened.records, Table.find?_mapValues, records, Option.map_eq_some_iff] at found
      exact found
    obtain ⟨snapshot, present, rfl⟩ := stored
    have agree := same {} {} {} {} calm_empty calm_empty calm_empty calm_empty responseId snapshot present
      (ResponseRecord.due_iff.mp due).2
    rw [observed] at agree
    rcases outcome with ⟨blocked, -⟩ | ⟨-, more, served, attempted⟩
    · exact free (started.contested (by simp [World.reopened]) blocked)
    · rw [attempted] at agree
      have called := agree.mp (List.mem_append_right _
        (served.complete responseId snapshot.record (started.spared found idle) due))
      obtain ⟨other, alsoFound, unfinished⟩ := mem_unfinishedKeys.mp called
      rw [found] at alsoFound
      cases alsoFound
      rw [idle] at unfinished
      cases unfinished
  · intro condition starting ticking starting' ticking' calm alsoCalm calm' alsoCalm' responseId record found late
    obtain ⟨after, started, outcome⟩ := coherent.attempts_enforce now known built calm alsoCalm
    rw [coherent.attempts_observe now known built calm' alsoCalm']
    rcases outcome with ⟨-, attempted⟩ | ⟨clear, more, served, attempted⟩
    · rw [attempted]
    · rcases condition with timely | contested
      · rw [attempted, List.mem_append, or_iff_left_iff_imp]
        intro called
        have due := started.only served (reloaded found) late called
        rw [mem_unfinishedKeys]
        refine ⟨record.record, reloaded found, ?_⟩
        by_contra finished
        exact timely ⟨responseId, record.record, reloaded found, due, by simpa using finished⟩
      · exact absurd (started.blocks contested ticking) clear

/-- A store that only an enforce-mode service wrote. -/
def Step.enforcing : Step → Prop
  | .launch config => config.mode = .enforce
  | _ => True

/-- The steps of the example run in enforce mode. -/
theorem labSteps_enforcing : ∀ step ∈ labSteps, step.enforcing := by
  intro step member
  simp only [labSteps, List.mem_cons, List.not_mem_nil, or_false] at member
  rcases member with rfl | rfl | rfl | rfl <;> simp [Step.enforcing, labConfig]

/-- At the end of the lab containment only the restart in enforce mode reverts it. -/
theorem labSteps_prolongs :
    (construct labPython (labConfig .enforce) (World.run labPython labSteps).journal.backfillAdmissions).isOk = true ∧
    ((World.run labPython labSteps).journal.records.find? "resp-ff79968c49633feffb257582").any
      (fun record => record.expiresAt.parse ≤ labExpiry) = true ∧
    "resp-ff79968c49633feffb257582" ∈
      (World.run labPython labSteps).attempts labPython (labConfig .enforce) .enforce labExpiry {} {} ∧
    "resp-ff79968c49633feffb257582" ∉
      (World.run labPython labSteps).attempts labPython (labConfig .enforce) .observe labExpiry {} {} := by
  decide +kernel

/-- The journal that they leave can be opened again. -/
theorem labSteps_restarts : ∃ orchestrator, construct labPython (labConfig .enforce)
    (World.run labPython labSteps).journal.backfillAdmissions = .ok orchestrator := by
  have built := labSteps_prolongs.1
  revert built
  cases construct labPython (labConfig .enforce) (World.run labPython labSteps).journal.backfillAdmissions with
  | error error => simp [Except.isOk, Except.toBool]
  | ok orchestrator => exact fun _ => ⟨orchestrator, rfl⟩

end Comparing

end ClosedLoop.Response
