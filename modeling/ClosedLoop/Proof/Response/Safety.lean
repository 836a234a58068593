import ClosedLoop.Proof.Response.Quiet

namespace ClosedLoop.Response

open ClosedLoop.Library ClosedLoop.Library.Program

variable {python : Python}

/-- Every run is coherent, whatever key rings it uses. -/
theorem run_reached (python : Python) (steps : List Step) :
    Coherent python (fun _ => True) (World.run python steps) :=
  run_coherent steps fun step _ => by cases step <;> trivial

section AtMostOnce

/-- A step that only opens the store, ends a process, or reverses actions. -/
def Step.reverses : Step → Bool
  | .launch _ | .stop => true
  | .call made _ => match made with
    | .start _ | .operation (.recoverPending _) | .operation (.expireDue _)
    | .operation (.rollback _ _ _) => true
    | _ => false

/-- The entry commits an apply intent with a reference, and the intent is claimed in the store. -/
def Entry.intends (entry : Entry) (record : ResponseRecord) : Prop :=
  entry.occurrence = .committed record.asdict none ∧ record.pendingOperation = some .apply ∧
    (∃ reference ∈ record.adapterReference, reference ≠ "") ∧ record.responseId ∈ entry.journal.applyIntents

theorem start_quiet {now : Moment} : Quiet (start python now) :=
  recoverPending_quiet.bind fun _ => silent_quiet (fun _ => rfl) fun _ => rfl

/-- No step that opens or reverses calls `adapter.apply`. -/
theorem World.step_reverses (world : World) {step : Step} (reverses : step.reverses = true) :
    ∃ more, (world.step python step).log = world.log ++ more ∧
      ∀ entry ∈ more, ∀ responseId, ¬ entry.applies responseId := by
  have calls : ∀ {call : Call} {tape : Tape}, Quiet (perform python call) →
      ∃ more, (world.step python (.call call tape)).log = world.log ++ more ∧
        ∀ entry ∈ more, ∀ responseId, ¬ entry.applies responseId := by
    intro call tape quiet
    rcases live : world.process with _ | process
    · rw [World.step_idle live]
      exact ⟨[], by simp, by simp⟩
    · rw [World.step_live _ live]
      exact quiet.state (world.session process tape)
  have discards : ∀ {α : Type} {program : Op α}, Quiet program →
      Quiet (program >>= fun _ => (pure () : Op Unit)) := fun quiet => quiet.bind fun _ => keeps_pure
  cases step with
  | launch config =>
      change ∃ more, (world.launch python config).log = _ ∧ _
      unfold World.launch
      split
      · exact ⟨[], by simp, by simp⟩
      · dsimp only
        split
        · exact ⟨[], by simp, by simp⟩
        · exact ⟨_, rfl, by simp [Entry.applies]⟩
  | stop => exact ⟨[], by simp [World.step], by simp⟩
  | call call tape =>
      cases call with
      | start now => exact calls start_quiet
      | accept command now => simp [Step.reverses] at reverses
      | tick now => simp [Step.reverses] at reverses
      | operation call =>
          cases call with
          | recoverPending now => exact calls (discards recoverPending_quiet)
          | expireDue now => exact calls (discards expireDue_quiet)
          | rollback responseId cause now => exact calls (discards rollback_quiet)
          | _ => simp [Step.reverses] at reverses

/-- The warrant of an adapter call rests on a committed intent. -/
theorem Reached.intended {trusted : CommandAuthenticator → Prop} {journal : Journal} {log : List Entry}
    (reached : Reached python trusted journal log) :
    Always (fun earlier entry => ∀ record now, entry.occurrence = .invoked .apply record now →
      ∃ before called committed, earlier = before ++ [called, committed] ∧
        called.occurrence = .called (.apply record.responseId (.aware now)) ∧ committed.intends record) log := by
  intro earlier entry later split record now seen
  have warrant := reached.warranted earlier entry later split record now seen
  obtain ⟨before, called, committed, log, call, commit⟩ := warrant.intended
  have reachedThere : Reached python trusted committed.journal (before ++ [called] ++ [committed]) :=
    reached.entries (before ++ [called]) committed (entry :: later) (by rw [split, log]; simp)
  have stored : committed.journal.records.find? record.responseId = some record.asdict := by
    rw [reachedThere.lastCommitted, lastCommitted_append, commit]
    exact if_pos rfl
  have sound := reachedThere.durable.sound _ _ stored
  have referenced := (sound.pending (by simp [ResponseRecord.asdict, warrant.pending])).1
  obtain ⟨reference, present⟩ := Option.isSome_iff_exists.mp referenced
  exact ⟨before, called, committed, log, call, commit, warrant.pending,
    ⟨reference, present, sound.named reference present⟩, sound.claimed.mpr referenced⟩

/-- Over the whole life of a store `adapter.apply` is called at most once for a response, only directly after
its intent is committed within a call of `apply`, and never by a step that opens or reverses. -/
theorem apply_at_most_once (python : Python) (steps : List Step) (responseId : String) :
    (World.run python steps).log.countP (fun entry => decide (entry.applies responseId)) ≤ 1 ∧
    Always (fun earlier entry => ∀ record now, entry.occurrence = .invoked .apply record now →
      ∃ before called committed, earlier = before ++ [called, committed] ∧
        called.occurrence = .called (.apply record.responseId (.aware now)) ∧ committed.intends record)
      (World.run python steps).log ∧
    ∀ step : Step, step.reverses = true → ∃ more,
      ((World.run python steps).step python step).log = (World.run python steps).log ++ more ∧
        ∀ entry ∈ more, ∀ other, ¬ entry.applies other := by
  have reached := (run_reached python steps).reached
  refine ⟨Always.countP_le_one ?_, reached.intended,
    fun step reverses => World.step_reverses _ reverses⟩
  refine reached.warranted.weaken fun earlier entry warrant => ?_
  rintro ⟨record, now, seen, rfl⟩
  exact (warrant record now seen).fresh

end AtMostOnce

section Authorization

/-- Within one submission REQUESTED was committed, the checks passed, and then the authorization was
committed. -/
structure Authorized (python : Python) (log : List Entry) (record : ResponseRecord) : Prop where
  submission : ∃ before called validated requested authorized after granted raw now event,
    log = before ++ [called, validated, requested, authorized] ++ after ∧
    called.occurrence = .called (.submit raw (.aware now)) ∧
    validateCommand python authorized.catalog authorized.authenticator raw now = .ok record.command ∧
    requested.occurrence = .committed { granted with authorized := false } (some event) ∧
    event.state = .requested ∧
    assertTargetAllowed python authorized.catalog.protections record.command.action record.command.target = .ok () ∧
    requested.journal.requestedSince record.command.policy.id
      (now - seconds authorized.catalog.rateLimit.windowSeconds) ≤ authorized.catalog.rateLimit.maxActions ∧
    authorized.occurrence = .committed granted none ∧
    granted.authorized = true ∧ granted.responseId = record.responseId ∧ granted.command = record.command

/-- The gate of every privileged call. -/
structure Gated (python : Python) (earlier : List Entry) (entry : Entry) (record : ResponseRecord) (now : Int) :
    Prop where
  signed : entry.authenticator.verify python record.command now = .ok ()
  policy : ∃ policy, entry.catalog.policy record.command.policy.id = .ok policy ∧
    record.command.policy = ⟨policy.id, policy.version, policy.sha256⟩ ∧ record.command.action = policy.action ∧
    record.command.ttlSeconds.value = policy.ttlSeconds
  allowed : assertTargetAllowed python entry.catalog.protections record.command.action record.command.target = .ok ()
  inTime : now < record.expiresAt
  authorized : Authorized python earlier record

/-- The submission of a granted record is in the log. -/
theorem Granted.authorized {log : List Entry} {record : ResponseRecord} {before after : List Entry}
    {requested authorized : Entry} {granted : Snapshot} {raw : Json} {now : Int} {event : AuditEvent}
    (grant : Granted python log record.asdict before requested authorized after granted raw now event) :
    Authorized python log record := by
  obtain ⟨front, called, validated, last, split, call, -, request, limit⟩ := grant.admitted.submitted
  have command : granted.command = record.command := grant.command
  have parts : before = front ++ [called, validated] ∧ requested = last := by
    have same : before ++ [requested] = (front ++ [called, validated]) ++ [last] := by simpa using split
    have heads := List.append_inj' same rfl
    exact ⟨heads.1, by simpa using heads.2⟩
  obtain ⟨rfl, rfl⟩ := parts
  rw [command] at limit
  refine ⟨front, called, validated, requested, authorized, after, granted, raw, now, event, ?_, call, ?_, request,
    grant.admitted.requested, ?_, limit, grant.authorizes, grant.marked, grant.responseId, command⟩
  · rw [grant.split]
    simp
  · rw [← command]
    exact grant.admitted.valid
  · rw [← command]
    exact grant.admitted.allowed

/-- An applied record was granted before its call. -/
theorem Reached.gated {trusted : CommandAuthenticator → Prop} {journal : Journal} {log : List Entry}
    (reached : Reached python trusted journal log) :
    Always (fun earlier entry => ∀ record now, entry.occurrence = .invoked .apply record now →
      Gated python earlier entry record now) log := by
  intro earlier entry later split record now seen
  have warrant := reached.warranted earlier entry later split record now seen
  have reachedThere := reached.entries earlier entry later split
  obtain ⟨before, requested, authorized, after, granted, raw, time, event, grant⟩ :=
    reachedThere.granted warrant.stored warrant.authorized
  refine ⟨warrant.confirmed.signed, warrant.confirmed.policy, warrant.allowed, warrant.inTime, ?_⟩
  -- The authorization is not the call itself, so it stands before the call.
  rcases List.eq_nil_or_concat after with empty | ⟨rest, last, ends⟩
  · have same := grant.split
    rw [empty, show before ++ [requested, authorized] = (before ++ [requested]) ++ [authorized] by simp] at same
    have lastIs : entry = authorized := by simpa using (List.append_inj' same rfl).2
    have clash := grant.authorizes
    rw [← lastIs, seen] at clash
    cases clash
  · have same := grant.split
    rw [ends, List.concat_eq_append, ← List.cons_append, ← List.cons_append, ← List.append_assoc] at same
    have earlierIs := (List.append_inj' same rfl).1
    exact Granted.authorized ⟨earlierIs, grant.admitted, grant.requests, grant.authorizes, grant.marked,
      grant.responseId, grant.command⟩

/-- The next entry after a committed REQUESTED authorizes the record. -/
def AuthorizedNext (record : Snapshot) (later : List Entry) : Prop :=
  ∃ authorized rest, later = authorized :: rest ∧
    authorized.occurrence = .committed { record with authorized := true } none

/-- A response that was not authorized directly after its request is never applied. -/
theorem Reached.unauthorized {trusted : CommandAuthenticator → Prop} {journal : Journal} {log : List Entry}
    (reached : Reached python trusted journal log) :
    Always (fun earlier entry => ∀ record later, entry.requests record → log = earlier ++ entry :: later →
      ¬ AuthorizedNext record later → ∀ other ∈ log, ¬ other.applies record.responseId) log := by
  intro earlier entry later _ record rest requests split unauthorized other member applies
  obtain ⟨applied, now, seen, key⟩ := applies
  obtain ⟨front, back, there, gate⟩ := reached.warranted.of_mem member
  have warrant := gate applied now seen
  have reachedThere := reached.entries front other back there
  obtain ⟨before, requested, authorized, after, granted, raw, time, event, grant⟩ :=
    reachedThere.granted warrant.stored warrant.authorized
  have grantedId : granted.responseId = record.responseId := grant.responseId.trans key
  -- The response has one committed REQUESTED, so the granted request is the request of the statement.
  have once : Always (fun earlier entry => (∃ row, entry.requests row ∧ row.responseId = record.responseId) →
      ∀ other ∈ earlier, ¬ ∃ row, other.requests row ∧ row.responseId = record.responseId) log := by
    refine reached.requestedOnce.weaken fun earlier entry first => ?_
    rintro ⟨row, request, same⟩ other inside ⟨found, ⟨event, seen, -⟩, alsoSame⟩
    exact first row request other inside found (some event) seen (alsoSame.trans same.symm)
  have whole : log = before ++ requested :: authorized :: (after ++ back) := by
    have cut : log = (front ++ [other]) ++ back := by rw [there]; simp
    rw [cut, grant.split]
    simp
  have request : requested.requests { granted with authorized := false } := ⟨event, grant.requests, grant.admitted.requested⟩
  obtain ⟨-, sameEntry, sameRest⟩ := once.split_unique split whole ⟨record, requests, rfl⟩ ⟨_, request, grantedId⟩
  refine unauthorized ⟨authorized, after ++ back, sameRest, ?_⟩
  obtain ⟨first, seenFirst, -⟩ := requests
  have clash := seenFirst
  rw [sameEntry, grant.requests] at clash
  cases clash
  rw [grant.authorizes]
  have marked := grant.marked
  cases granted
  simp only at marked
  subst marked
  rfl

/-- Whenever `adapter.apply` is called, the command is confirmed by the active configuration, it is in time, and
one earlier submission passed every check. A submission that was not authorized is never applied. -/
theorem authorization_gate (python : Python) (steps : List Step) :
    Always (fun earlier entry => ∀ record now, entry.occurrence = .invoked .apply record now →
      Gated python earlier entry record now) (World.run python steps).log ∧
    ∀ earlier entry later record, (World.run python steps).log = earlier ++ entry :: later →
      entry.requests record → ¬ AuthorizedNext record later →
      ∀ other ∈ (World.run python steps).log, ¬ other.applies record.responseId := by
  have reached := (run_reached python steps).reached
  refine ⟨reached.gated, fun earlier entry later record split requests => ?_⟩
  exact reached.unauthorized earlier entry later split record later requests split

end Authorization

section Targets

/-- No two records that are active or unresolved have the same action and the same normalized target, in the
store and in the memory of the live process. -/
theorem one_containment_per_target (python : Python) (steps : List Step) :
    (∀ first ∈ (World.run python steps).journal.records, ∀ second ∈ (World.run python steps).journal.records,
      first.1 ≠ second.1 → first.2.engaged → second.2.engaged →
      identity python first.2.command ≠ identity python second.2.command) ∧
    ∀ process ∈ (World.run python steps).process, ∀ first ∈ process.orchestrator.records,
      ∀ second ∈ process.orchestrator.records, first.1 ≠ second.1 → first.2.engaged = true →
      second.2.engaged = true → identity python first.2.command ≠ identity python second.2.command := by
  have coherent := run_reached python steps
  refine ⟨coherent.reached.durable.separate, fun process live first firstIn second secondIn different held alsoHeld => ?_⟩
  have separate : Separate python (process.orchestrator.records.mapValues (·.asdict)) := by
    rcases coherent.live process live {} with synced | halted
    · rw [show process.orchestrator.records.mapValues (·.asdict) = _ from synced.mirror]
      exact coherent.reached.durable.separate
    · exact halted.kept.separate
  exact separate (first.1, first.2.asdict) (List.mem_map_of_mem firstIn) (second.1, second.2.asdict)
    (List.mem_map_of_mem secondIn) different (engaged_asdict.mp held) (engaged_asdict.mp alsoHeld)

end Targets

section Histories

/-- The store accepts every event that the engine builds, and every committed history is well formed. -/
theorem histories_well_formed (python : Python) (steps : List Step) :
    (∀ entry ∈ (World.run python steps).log, ∀ event verdict, entry.occurrence = .validated event verdict →
      verdict = .ok ()) ∧
    ∀ responseId, Always Orderly ((World.run python steps).journal.events responseId) := by
  have reached := (run_reached python steps).reached
  refine ⟨reached.validated_ok, fun responseId => ?_⟩
  rw [reached.durable.events]
  rcases found : (World.run python steps).journal.records.find? responseId with _ | record
  · rw [(reached.durable.silent _ found).1]
    exact Always.nil _
  · exact (reached.durable.chronicle _ _ found).orderly

end Histories

section Lab

/-- The SHA-256 digests that the lab run needs. -/
def labDigests : Table String String :=
  [("idemp-1", "ff79968c49633feffb25758293bd4114dd7ba3ee6276ed94e174712112bc3b8b"),
    ("resp-ff79968c49633feffb257582:1:REQUESTED", "7bd42e5e1ec1728e6a5bb531d0b43f20423d43a0e579e49841d45f9ef3784de0"),
    ("resp-ff79968c49633feffb257582:2:APPLIED", "cf4132b4102dc29fdaa8dbfe01d23a202253315c4886de3d20436555c80c136b"),
    ("resp-ff79968c49633feffb257582:3:VERIFIED", "7f88988cab49e82fec826469909347dd79548751a79767ad58d30f88f5d42cdf"),
    ("resp-ff79968c49633feffb257582:4:EXPIRED", "166a70bd8f0d43077f8a7ab17e76106cfc72ff79b2e38ca554e115ef6a3a97c5"),
    ("idemp-2", "ef9d611321e92da5584bad9598e06dfba7ddea5b14b3214fa48c8d773a027dea"),
    ("resp-ef9d611321e92da5584bad95:1:REQUESTED", "f233883a1e4e04b8594345b381478cd8d87bb305c5a36c382aeb5fedcdd921a8")]

/-- The first second of the year 2026 in microseconds. -/
def newYear : Int := 1767225600000000

def labPython : Python where
  sha256Hex text := (labDigests.find? text).getD ""
  fromIsoformat text :=
    if text = "2026-01-01T00:00:00Z" then some (.aware newYear)
    else if text = "2026-01-01T00:10:00Z" then some (.aware (newYear + seconds 600)) else none
  lower := String.toLower
  upper := String.toUpper
  repr text := "'" ++ text ++ "'"

def labCatalog : PolicyCatalog where
  protections := ⟨[], [], [], [], [], [], false⟩
  rateLimit := ⟨10, 60⟩
  dedupSeconds := 60
  commandValidForSeconds := 900
  evidenceMaxAgeSeconds := 900
  policies := [("block", ⟨"block", "1", "policy-sha256", .blockIp, 300, 1, [⟨.suricata, none, none⟩], by decide⟩)]
  commandValidBounds := by decide
  keyed := by simp

/-- A key ring with one key of 32 letters k, which signed the two lab commands. -/
def labRing : CommandAuthenticator where
  ring := ["lab"]
  signatureShape text := text.toList.length = 43
  signatureValid keyId signature _ := keyId = "lab" && (signature = "lc9jeDvw2lugnd4FMM8FZ2BAjT_CPT9DO7JpimlIn4c" ||
    signature = "OzQtBMpTs437Qcytg_TB2e03n5bxV_j_CIalLGoRcpI")

def labCommand (number signature : String) : Command where
  requestId := "req-" ++ number
  decisionEventId := "dec-" ++ number
  correlationId := "cor-" ++ number
  policy := ⟨"block", "1", "policy-sha256"⟩
  target := ⟨.ip, "203.0.113.7"⟩
  action := .blockIp
  ttlSeconds := ⟨300, false⟩
  idempotencyKey := "idemp-" ++ number
  authorization := ⟨"lab", signature, "2026-01-01T00:00:00Z", "2026-01-01T00:10:00Z"⟩
  suited := by decide

def labFirst : Command := labCommand "1" "lc9jeDvw2lugnd4FMM8FZ2BAjT_CPT9DO7JpimlIn4c"

def labConfig (mode : Mode) : Config where
  catalog := labCatalog
  authenticator := labRing
  adapters := [⟨"block_ip", "vyos"⟩, ⟨"isolate_host", "wazuh"⟩]
  mode
  exporter := true
  recoverEvery := 6

/-- A command is accepted and one scheduler pass follows. -/
def labSteps : List Step :=
  [.launch (labConfig .enforce), .call (.start (.aware newYear)) {},
    .call (.accept labFirst.toJson (.aware newYear)) {}, .call (.tick (.aware newYear)) {}]

/-- In the lab run the adapter is called, and the containment does not end. -/
theorem labSteps_applies :
    (∃ entry ∈ (World.run labPython labSteps).log, entry.applies "resp-ff79968c49633feffb257582") ∧
    ∀ event ∈ (World.run labPython labSteps).journal.events "resp-ff79968c49633feffb257582",
      event.state.terminal = false := by
  decide +kernel

theorem apply_at_most_once_lab :
    (World.run labPython labSteps).log.countP
      (fun entry => decide (entry.applies "resp-ff79968c49633feffb257582")) ≤ 1 ∧
    ∃ entry ∈ (World.run labPython labSteps).log, entry.applies "resp-ff79968c49633feffb257582" :=
  ⟨(apply_at_most_once labPython labSteps "resp-ff79968c49633feffb257582").1, labSteps_applies.1⟩

/-- The adapter is called for an authorized submission. -/
theorem authorization_gate_lab :
    ∃ earlier entry record now, Gated labPython earlier entry record now ∧
      record.responseId = "resp-ff79968c49633feffb257582" := by
  obtain ⟨entry, member, record, now, seen, key⟩ := labSteps_applies.1
  obtain ⟨earlier, _, _, gate⟩ := (authorization_gate labPython labSteps).1.of_mem member
  exact ⟨earlier, entry, record, now, gate record now seen, key⟩

end Lab

end ClosedLoop.Response
