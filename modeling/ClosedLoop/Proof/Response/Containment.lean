import ClosedLoop.Proof.Response.Safety

namespace ClosedLoop.Response

open ClosedLoop.Library ClosedLoop.Library.Program

variable {python : Python} {trusted : CommandAuthenticator → Prop} {session : Session} {record : ResponseRecord}
  {timestamp : Int} {responseId : String}

/-- The log grew and shows a call of `adapter.revert` for this response. -/
def Reverts (responseId : String) (session after : Session) : Prop :=
  ∃ more, after.log = session.log ++ more ∧ responseId ∈ reverted more

/-- The next transaction commits. -/
def Tape.commitsNext (tape : Tape) : Prop := tape.commits.head?.getD .durable = .durable

/-- However the program ends, it has called `adapter.revert` for this response. -/
def reaches {α : Type} (responseId : String) (session : Session) : Post Session PyError α :=
  ⟨fun _ after => Reverts responseId session after, fun _ after => Reverts responseId session after,
    Reverts responseId session⟩

section Reaching

/-- A reversal stays in the log. -/
theorem Reverts.later {middle after : Session} (reverts : Reverts responseId session middle)
    (quiet : Unapplied middle after) : Reverts responseId session after := by
  obtain ⟨more, log, member⟩ := reverts
  obtain ⟨rest, longer, -⟩ := quiet
  refine ⟨more ++ rest, by rw [longer, log, List.append_assoc], ?_⟩
  rw [reverted, List.filterMap_append]
  exact List.mem_append_left _ member

/-- Quiet occurrences before a reversal do not matter. -/
theorem Reverts.earlier {middle after : Session} (quiet : Unapplied session middle)
    (reverts : Reverts responseId middle after) : Reverts responseId session after := by
  obtain ⟨more, log, -⟩ := quiet
  obtain ⟨rest, longer, member⟩ := reverts
  refine ⟨more ++ rest, by rw [longer, log, List.append_assoc], ?_⟩
  rw [reverted, List.filterMap_append]
  exact List.mem_append_right _ member

/-- What follows a call of the adapter cannot undo it. -/
theorem Reverts.rest {α : Type} {program : Op α} {middle : Session} (reverts : Reverts responseId session middle)
    (quiet : Quiet program) : Ends program middle (reaches responseId session) :=
  (quiet middle).weaken (fun _ _ later => reverts.later later) (fun _ _ later => reverts.later later)
    (fun _ later => reverts.later later)

/-- A tape that commits next does so. -/
theorem nextCommit_durable {post : Post Session PyError CommitFate} (commits : session.tape.commitsNext)
    (answer : ∀ tape, post.returned .durable { session with tape }) : Ends nextCommit session post := by
  refine draw_ends (fun _ => answer _) fun fate rest answers => ?_
  have same : fate = .durable := by simpa [Tape.commitsNext, answers] using commits
  subst same
  exact answer _

/-- A checkpoint that the store accepts and commits returns. -/
theorem checkpoint_durable {post : Post Session PyError Unit} {next : Journal}
    (accepted : session.journal.checkpoint record.asdict none = .ok next) (commits : session.tape.commitsNext)
    (returned : ∀ after, Unapplied session after → post.returned () after) :
    Ends (checkpoint record none) session post := by
  unfold checkpoint noteValidation
  rw [ends_bind, ends_gets]
  dsimp only
  rw [ends_bind, ends_pure]
  dsimp only
  rw [accepted]
  dsimp only
  rw [ends_bind]
  refine nextCommit_durable commits fun tape => ?_
  refine returned _ ⟨_, rfl, fun entry member => ?_⟩
  rw [List.mem_singleton] at member
  subst member
  rintro other ⟨_, _, seen, -⟩
  cases seen

/-- `_revert` of an engaged record calls the adapter if its intent is committed. -/
theorem revert_reaches {terminal : ResponseState} {cause : RollbackCause} (synced : Synced python trusted session)
    (found : session.orchestrator.records.find? record.responseId = some record)
    (engaged : record.engaged = true) (commits : session.tape.commitsNext) :
    Ends (revert python record timestamp terminal cause) session (reaches record.responseId session) := by
  obtain ⟨reference, present, -⟩ := synced.referenced found engaged
  have change : Change python trusted session.journal.records session.log session.orchestrator.catalog
      session.orchestrator.authenticator (session.journal.records.find? record.responseId)
      (record.intending .revert timestamp).asdict none := by
    rw [synced.stored found]
    exact Change.intendRevert (engaged_asdict.mp engaged)
  obtain ⟨next, accepted⟩ := Change.accepted (record.intending .revert timestamp).asdict synced.reached.durable change
  unfold revert
  refine require_ends (fun missing => absurd (by rw [Option.mem_def.mp present]; rfl) missing) fun _ => ?_
  unfold beginOperation
  rw [ends_bind, ends_bind, ends_remember]
  dsimp only
  rw [ends_bind]
  refine checkpoint_durable accepted commits fun after quiet => ?_
  dsimp only
  rw [ends_pure]
  dsimp only
  unfold invoke
  rw [ends_bind, ends_bind, ends_note]
  have called : Reverts record.responseId session
      (after.observed (.invoked .revert (record.intending .revert timestamp) timestamp)) :=
    Reverts.earlier quiet ⟨_, rfl, List.mem_singleton.mpr rfl⟩
  dsimp only
  refine (called.rest (draw_quiet.bind fun reply => ?_)).weaken (fun outcome last reverts => ?_)
    (fun _ _ reverts => reverts) (fun _ reverts => reverts)
  · cases reply with
    | answered outcome =>
        dsimp only
        split <;> exact keeps_pure
    | malformed => exact keeps_pure
    | raised => exact keeps_pure
    | interrupted => exact keeps_raise
    | crashed => exact keeps_crash
  · refine reverts.rest ?_
    split
    · exact fail_quiet.bind fun _ => keeps_pure
    · exact readLedger_quiet.bind fun _ => transition_quiet.bind fun _ => keeps_pure

/-- A call that is noted applies nothing. -/
theorem called_quiet (call : PublicCall) : Unapplied session (session.observed (.called call)) :=
  ⟨_, rfl, by simp [Entry.applies, Session.entry]⟩

/-- A reversal inside a call is one after it was noted. -/
theorem reaches_called {α : Type} {program : Op α} {call : PublicCall}
    (ended : Ends program (session.observed (.called call))
      (reaches responseId (session.observed (.called call)))) :
    Ends program (session.observed (.called call)) (reaches responseId session) :=
  ended.weaken (fun _ _ reverts => reverts.earlier (called_quiet call))
    (fun _ _ reverts => reverts.earlier (called_quiet call)) (fun _ reverts => reverts.earlier (called_quiet call))

/-- `rollback` of an engaged record reaches the adapter if its intent is committed. -/
theorem rollback_reaches {cause : String} {known : RollbackCause} (synced : Synced python trusted session)
    (found : session.orchestrator.records.find? responseId = some record) (engaged : record.engaged = true)
    (named : rollbackCause cause = some known) (commits : session.tape.commitsNext) :
    Ends (rollback python responseId cause (.aware timestamp)) session (reaches responseId session) := by
  have key := synced.keyed found
  subst key
  unfold rollback
  refine serialized_ends synced fun seen => ?_
  rw [named]
  dsimp only
  rw [asUtc_aware]
  refine findRecord_found found (require_ends (fun free => absurd engaged free) fun _ => ?_)
  exact reaches_called (revert_reaches seen found engaged commits)

/-- A turn of the expiry loop reaches the adapter for a due record if its intent is committed. -/
theorem expireRecord_reaches (synced : Synced python trusted session)
    (found : session.orchestrator.records.find? record.responseId = some record) (due : record.due timestamp = true)
    (commits : session.tape.commitsNext) :
    Ends (expireRecord python timestamp record.responseId) session (reaches record.responseId session) := by
  obtain ⟨engaged, late⟩ : record.engaged = true ∧ record.expiresAt ≤ timestamp := by
    simpa [ResponseRecord.due] using due
  unfold expireRecord
  refine findRecord_found found ?_
  rw [if_neg (by simp [engaged, not_lt.mpr late]), ends_bind]
  exact (revert_reaches synced found engaged commits).returning fun _ _ reverts => reverts

/-- The expiry loop reaches the adapter for a due record if it comes to the record and the intent is
committed. -/
theorem expireDue_reaches {before rest : List String} {results : List OrchestrationResult} {middle : Session}
    (synced : Synced python trusted session)
    (found : session.orchestrator.records.find? responseId = some record) (due : record.due timestamp = true)
    (keys : session.orchestrator.records.keys = before ++ responseId :: rest)
    (come : collect (expireRecord python timestamp) before
      (session.observed (.called (.expireDue (.aware timestamp)))) = (.returned results, middle))
    (commits : middle.tape.commitsNext) :
    Ends (expireDue python (.aware timestamp)) session (reaches responseId session) := by
  unfold expireDue
  refine serialized_ends synced fun seen => reaches_called ?_
  rw [asUtc_aware, ends_bind, ends_gets]
  dsimp only
  rw [show (session.observed (.called (.expireDue (.aware timestamp)))).orchestrator.records.keys =
    before ++ responseId :: rest from keys, ends_collect_append]
  have distinct := synced.distinct
  rw [keys] at distinct
  obtain ⟨distinctBefore, -, apart⟩ := List.nodup_append.mp distinct
  have swept := sweep_ends (@expireRecord_turns python trusted timestamp) before
    distinctBefore seen fun other member => by
      change other ∈ session.orchestrator.records.keys
      rw [keys]
      exact List.mem_append_left _ member
  have quiet : Keeps Unapplied (collect (expireRecord python timestamp) before) :=
    keeps_collect fun _ => expireRecord_quiet
  have grown := quiet (session.observed (.called (.expireDue (.aware timestamp))))
  unfold Ends at swept grown ⊢
  rw [come] at swept grown ⊢
  have present : middle.orchestrator.records.find? responseId = some record := by
    rw [swept.1.spared responseId (Or.inl fun member => apart responseId member responseId List.mem_cons_self rfl)]
    exact found
  have key := swept.1.synced.keyed present
  subst key
  change Ends (collect _ _) middle _
  unfold collect
  rw [ends_bind]
  refine (expireRecord_reaches swept.1.synced present due commits).weaken (fun result after reverts => ?_)
    (fun _ after reverts => reverts.earlier grown) (fun after reverts => reverts.earlier grown)
  exact ((reverts.earlier grown).rest ((keeps_collect fun _ => expireRecord_quiet).bind fun _ => keeps_pure)).weaken
    (fun _ _ reverts => reverts) (fun _ _ reverts => reverts) (fun _ reverts => reverts)

end Reaching

section Stranding

/-- The log entries that a step adds. -/
def World.added (python : Python) (world : World) (step : Step) : List Entry :=
  (world.step python step).log.drop world.log.length

variable {world : World} {process : Process}

/-- The entries that a call adds are those of its session. -/
theorem World.added_call (call : Call) {tape : Tape} {more : List Entry} (live : world.process = some process)
    (log : (perform python call (world.session process tape)).2.log = world.log ++ more) :
    world.added python (.call call tape) = more := by
  unfold World.added
  rw [World.step_live process live]
  change (perform python call (world.session process tape)).2.log.drop _ = _
  rw [log, List.drop_left]

/-- A live process adds the reversal to the log. -/
theorem reaches_added {call : PublicCall} {tape : Tape} (live : world.process = some process)
    (ended : Ends (performOperation python call) (world.session process tape)
      (reaches responseId (world.session process tape))) :
    responseId ∈ reverted (world.added python (.call (.operation call) tape)) := by
  have reverts : Reverts responseId (world.session process tape)
      (performOperation python call (world.session process tape)).2 := by
    unfold Ends at ended
    generalize performOperation python call (world.session process tape) = result at ended ⊢
    obtain ⟨outcome, after⟩ := result
    cases outcome <;> exact ended
  obtain ⟨more, log, member⟩ := reverts
  rw [World.added_call (.operation call) live log]
  exact member

/-- Both ways to end a containment reach `adapter.revert`. -/
structure Reversible (python : Python) (world : World) (process : Process) (responseId : String)
    (record : ResponseRecord) : Prop where
  rollback : ∀ cause known now tape, rollbackCause cause = some known → tape.commitsNext →
    responseId ∈ reverted (world.added python (.call (.operation (.rollback responseId cause (.aware now))) tape))
  expireDue : ∀ now tape, record.expiresAt ≤ now → Calm tape →
    responseId ∈ reverted (world.added python (.call (.operation (.expireDue (.aware now))) tape))
  expireTurn : ∀ now tape before rest results middle, record.expiresAt ≤ now →
    process.orchestrator.records.keys = before ++ responseId :: rest →
    collect (expireRecord python now) before ((world.session process tape).observed
      (.called (.expireDue (.aware now)))) = (.returned results, middle) → middle.tape.commitsNext →
    responseId ∈ reverted (world.added python (.call (.operation (.expireDue (.aware now))) tape))

/-- An engaged record of a synced process can be reverted. -/
theorem Synced.reversible (live : world.process = some process)
    (synced : ∀ tape, Synced python trusted (world.session process tape))
    (found : process.orchestrator.records.find? responseId = some record) (engaged : record.engaged = true) :
    Reversible python world process responseId record := by
  refine ⟨fun cause known now tape named commits => ?_, fun now tape late calm => ?_,
    fun now tape before rest results middle late keys come commits => ?_⟩
  · refine reaches_added live ?_
    unfold performOperation
    rw [ends_bind]
    exact (rollback_reaches (synced tape) found engaged named commits).returning fun _ _ reverts => reverts
  · refine reaches_added live ?_
    unfold performOperation
    rw [ends_bind]
    refine (expireDue_ends now (synced tape)).weaken (fun results after ⟨swept, _⟩ => ?_)
      (fun _ _ stops => absurd calm stops.2) (fun _ crashed => absurd calm crashed.2)
    obtain ⟨more, log, done, -⟩ := swept.log
    refine ⟨more, log, ?_⟩
    rw [done]
    refine List.mem_filter.mpr ⟨Table.mem_keys_iff.mpr ⟨record, found⟩, ?_⟩
    rw [selected, show (world.session process tape).orchestrator.records.find? responseId = some record from found]
    simp [ResponseRecord.due, engaged, late]
  · refine reaches_added live ?_
    unfold performOperation
    rw [ends_bind]
    exact (expireDue_reaches (synced tape) found (by simp [ResponseRecord.due, engaged, late]) keys come
      commits).returning fun _ _ reverts => reverts

/-- A contained record is engaged. -/
theorem engaged_of_contained (contained : record.asdict.contained) : record.engaged = true := by
  obtain ⟨⟨reference, present, -⟩, held⟩ := contained
  rw [engaged_asdict]
  rcases held with applied | verified | pending | failed
  · exact Or.inr (Or.inr (Or.inl applied))
  · exact Or.inr (Or.inr (Or.inr verified))
  · exact Or.inl pending
  · exact Or.inr (Or.inl ⟨failed, by rw [Option.mem_def.mp present]; rfl⟩)

/-- A live process keeps every containment that the store has not ended. -/
theorem Steady.contained {tape : Tape} (steady : Steady python trusted (world.session process tape))
    (claimed : responseId ∈ world.journal.applyIntents)
    (unended : ∀ event ∈ world.journal.history responseId, event.state.terminal = false)
    (found : process.orchestrator.records.find? responseId = some record) : record.asdict.contained := by
  have kept : Kept python world.journal (world.session process tape).view := by
    rcases steady with synced | halted
    · rw [synced.mirror]
      exact synced.reached.durable.kept
    · exact halted.kept
  rcases kept.guarded (responseId, record.asdict) (List.mem_map_of_mem (Table.mem_of_find? found)) claimed with
    contained | ⟨event, present, ended⟩
  · exact contained
  · rw [unended event present] at ended
    cases ended

/-- No assertion fails in a live process. -/
theorem Steady.asserts {call : Call} (steady : Steady python trusted session) :
    (perform python call session).1 ≠ .raised .assertionError := by
  have ended := perform_sane call steady
  unfold Ends at ended
  generalize perform python call session = result at ended ⊢
  obtain ⟨outcome, after⟩ := result
  cases outcome with
  | returned value => simp
  | raised error =>
      intro same
      cases same
      exact ended.1 rfl
  | crashed => simp

/-- A response whose apply was called and whose end is not committed keeps its reference and a state from which
it is reverted, and no assertion about the reference ever fails. -/
theorem no_stranded_containment (python : Python) (steps : List Step) :
    (∀ process ∈ (World.run python steps).process, ∀ call tape,
      (perform python call ((World.run python steps).session process tape)).1 ≠ .raised .assertionError) ∧
    ∀ responseId, (∃ entry ∈ (World.run python steps).log, entry.applies responseId) →
      (∀ event ∈ (World.run python steps).journal.events responseId, event.state.terminal = false) →
      (∃ record, (World.run python steps).journal.records.find? responseId = some record ∧ record.contained) ∧
      ∀ process ∈ (World.run python steps).process,
        (∀ record, process.orchestrator.records.find? responseId = some record → record.asdict.contained) ∧
        (process.orchestrator.storageFailed = false →
          ∃ record, process.orchestrator.records.find? responseId = some record ∧
            Reversible python (World.run python steps) process responseId record) := by
  have coherent := run_reached python steps
  have durable := coherent.reached.durable
  refine ⟨fun process live call tape => (coherent.live process live tape).asserts,
    fun responseId ⟨entry, member, applies⟩ unended => ?_⟩
  have claimed := coherent.reached.claimed member applies
  rw [durable.events] at unended
  obtain ⟨stored, found⟩ : ∃ stored, (World.run python steps).journal.records.find? responseId = some stored := by
    rcases found : (World.run python steps).journal.records.find? responseId with _ | stored
    · exact absurd claimed (durable.silent _ found).2
    · exact ⟨stored, rfl⟩
  have storedContained : stored.contained := by
    rcases durable.contained found claimed with contained | ⟨event, present, ended⟩
    · exact contained
    · rw [unended event present] at ended
      cases ended
  refine ⟨⟨stored, found, storedContained⟩, fun process live =>
    ⟨fun record present => (coherent.live process live {}).contained claimed unended present, fun running => ?_⟩⟩
  have synced : ∀ tape, Synced python (fun _ => True) ((World.run python steps).session process tape) := by
    intro tape
    rcases coherent.live process live tape with synced | halted
    · exact synced
    · have stopped : process.orchestrator.storageFailed = true := halted.stopped
      rw [running] at stopped
      cases stopped
  have mirror := (synced {}).mirror
  rw [show ((World.run python steps).session process {}).journal = (World.run python steps).journal from rfl] at mirror
  rw [← mirror, Session.view, Table.find?_mapValues, Option.map_eq_some_iff] at found
  obtain ⟨record, present, same⟩ := found
  refine ⟨record, present, Synced.reversible live synced present (engaged_of_contained ?_)⟩
  rw [same]
  exact storedContained

/-- The lab run keeps its containment. -/
theorem no_stranded_containment_lab :
    ∃ record, (World.run labPython labSteps).journal.records.find? "resp-ff79968c49633feffb257582" = some record ∧
      record.contained :=
  ((no_stranded_containment labPython labSteps).2 "resp-ff79968c49633feffb257582" labSteps_applies.1
    labSteps_applies.2).1

end Stranding

end ClosedLoop.Response
