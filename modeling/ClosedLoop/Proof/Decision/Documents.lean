import ClosedLoop.Proof.Decision.Retrying
import ClosedLoop.Proof.Workers.Delivery

/-! How many documents the retries of one anomaly leave in the indices of the decisions. -/

namespace ClosedLoop.Workers

open ClosedLoop.Library

section Days

/-- The day of a time, counted from the epoch. -/
def dayNumber (time : Int) : Int := time / 86400000000

/-- Two times name the same index exactly when they are on the same day. -/
theorem day_inj {first second : Int} : day first = day second ↔ dayNumber first = dayNumber second := by
  constructor
  · intro same
    have chars := String.ofList_injective same
    obtain ⟨years, rests⟩ := List.append_inj' chars (by simp [Calendar.length_lastDigits])
    simp only [List.cons_append, List.cons.injEq, true_and] at rests
    obtain ⟨months, days⟩ := Calendar.block_unique rests
    have ordinals := Calendar.ordinal_unique years months (Calendar.lastDigits_unique days)
    unfold dayNumber
    omega
  · intro same
    unfold dayNumber at same
    rw [day, day, dateOf, dateOf, same]

end Days

section Places

variable {α : Type} {documents : List (Stored α)} {id : String}

/-- A list without repetitions has at most one item exactly when all its items are the same. -/
theorem length_le_one_iff {items : List α} (once : items.Nodup) :
    items.length ≤ 1 ↔ ∀ first ∈ items, ∀ second ∈ items, first = second := by
  cases items with
  | nil => simp
  | cons head tail =>
      cases tail with
      | nil => simp
      | cons next rest =>
          have different : head ≠ next := fun same => (List.nodup_cons.mp once).1 (same ▸ List.mem_cons_self)
          simp [different]

/-- The indices with a document under an id. -/
def indicesOf (id : String) (documents : List (Stored α)) : List String :=
  (documents.filter fun document => document.id = id).map (·.index)

/-- The server takes an id once in each index. -/
theorem indicesOf_insert (index : String) (source : α) : indicesOf id (insert documents index id source) =
    if index ∈ indicesOf id documents then indicesOf id documents else indicesOf id documents ++ [index] := by
  have known : index ∈ indicesOf id documents ↔ exists? documents index id = true := by
    rw [exists?_iff, indicesOf, List.mem_map]
    constructor
    · rintro ⟨document, listed, rfl⟩
      obtain ⟨member, named⟩ := List.mem_filter.mp listed
      exact ⟨document, member, rfl, of_decide_eq_true named⟩
    · rintro ⟨document, member, rfl, named⟩
      exact ⟨document, List.mem_filter.mpr ⟨member, decide_eq_true named⟩, rfl⟩
  by_cases there : index ∈ indicesOf id documents
  · rw [if_pos there, insert, if_pos (known.mp there)]
  · rw [if_neg there, insert, if_neg (mt known.mpr there)]
    simp [indicesOf]

/-- Creations under one id leave it once in each index that one of them names. -/
theorem indicesOf_creations {made : List (Stored α)} (named : ∀ document ∈ made, document.id = id)
    (once : (indicesOf id documents).Nodup) :
    let after := made.foldl (fun documents document => insert documents document.index document.id document.source) documents
    (indicesOf id after).Nodup ∧ ∀ index, index ∈ indicesOf id after ↔
      index ∈ indicesOf id documents ∨ ∃ document ∈ made, document.index = index := by
  induction made generalizing documents with
  | nil => exact ⟨once, by simp⟩
  | cons document rest ih =>
      obtain ⟨here, others⟩ := List.forall_mem_cons.mp named
      have step : indicesOf id (insert documents document.index id document.source) = _ :=
        indicesOf_insert document.index document.source
      have grown : (indicesOf id (insert documents document.index document.id document.source)).Nodup ∧
          ∀ index, index ∈ indicesOf id (insert documents document.index document.id document.source) ↔
            index ∈ indicesOf id documents ∨ document.index = index := by
        rw [here, step]
        split
        · rename_i there
          refine ⟨once, fun index => ⟨Or.inl, ?_⟩⟩
          rintro (listed | rfl)
          · exact listed
          · exact there
        · rename_i absent
          refine ⟨List.nodup_append.mpr ⟨once, by simp, ?_⟩, fun index => by simp [eq_comm]⟩
          intro index listed other single same
          rw [List.mem_singleton] at single
          exact absent (single ▸ same ▸ listed)
      obtain ⟨nodup, listed⟩ := ih others grown.1
      refine ⟨nodup, fun index => (listed index).trans ?_⟩
      rw [grown.2 index]
      simp [or_assoc]

end Places

end ClosedLoop.Workers

namespace ClosedLoop.Response

open ClosedLoop.Library
open ClosedLoop.Workers (AnomalyEvent DeliveryError Fault Stored indicesOf indicesOf_creations length_le_one_iff dayNumber)

section Writing

variable (python : Python) (runner : DecisionRunner) (document : AnomalyEvent)

/-- The document that one call of `handle` leaves in an empty index. -/
def DecisionRunner.writes (answers : Answers) : List (Stored DecisionEvent) :=
  (handle python runner {} document answers).2.responses

/-- The documents after the creation of others. -/
def created (documents made : List (Stored DecisionEvent)) : List (Stored DecisionEvent) :=
  made.foldl (fun documents document => Workers.insert documents document.index document.id document.source) documents

/-- The document of a decision, unless the request for it has no effect. -/
def landed (event : DecisionEvent) (fault : Option Fault) : List (Stored DecisionEvent) :=
  if event.eventId = "" ∨ 512 < event.eventId.toList.length ∨ fault.any (fun fault => !fault.effect) = true then []
  else [⟨"soc-response-" ++ Workers.day event.timestamp.parse, event.eventId, event⟩]

variable {python runner document} {answers : Answers}

/-- A decision that is written may create one document. -/
theorem writeDecision_responses (state : DecisionState) (event : DecisionEvent) (fault : Option Fault) :
    (writeDecision state event fault).2.responses = created state.responses (landed event fault) := by
  unfold writeDecision Workers.create landed
  by_cases refused : event.eventId = "" ∨ 512 < event.eventId.toList.length
  · rw [if_pos refused, if_pos (by tauto)]
    rfl
  · rw [if_neg refused]
    cases fault with
    | none => rw [if_neg (by simpa using refused)]; rfl
    | some fault =>
        cases effect : fault.effect with
        | false => rw [if_pos (by simp [effect])]; simp [Workers.put, effect, created]
        | true => rw [if_neg (by simpa [effect] using refused)]; simp [Workers.put, effect, created]

/-- A failed delivery creates none. -/
theorem deliveryFailed_responses (state : DecisionState) (anomalyId : String) (error : DeliveryError) :
    (deliveryFailed state anomalyId error).2.responses = state.responses := by
  unfold deliveryFailed
  split <;> rfl

variable (runner) in
/-- The decision that is written. In observe mode a request is written as an alert. -/
def published (result : DecisionResult) (event : DecisionEvent) : DecisionEvent :=
  if result.eligible && !runner.enforce then observeEvent event else event

/-- The last part of `handle` writes one decision. -/
theorem conclude_responses (state : DecisionState) (anomalyId : String) (result : DecisionResult)
    (event : DecisionEvent) : (conclude runner state anomalyId result event answers).2.responses =
      created state.responses (landed (published runner result event) answers.writeFault) := by
  unfold conclude published
  by_cases enforced : (result.eligible && runner.enforce) = true
  · obtain ⟨eligible, enforce⟩ := Bool.and_eq_true_iff.mp enforced
    rw [if_pos enforced, eligible, enforce, if_neg (by decide), ← writeDecision_responses]
    split
    · rename_i answer
      rw [deliveryFailed_responses, answer]
    · rename_i answer
      rw [answer]
    · rename_i answer
      dsimp only
      split
      · rw [deliveryFailed_responses, answer]
        rfl
      · rw [answer]
        rfl
  · have observes : (result.eligible && !runner.enforce) = result.eligible := by
      cases eligible : result.eligible <;> cases enforce : runner.enforce <;> simp_all
    rw [if_neg enforced, observes, ← writeDecision_responses]
    dsimp only
    split
    · rename_i answer
      rw [deliveryFailed_responses, answer]
    · rename_i answer
      rw [answer]
    · rename_i answer
      rw [answer]
      rfl

/-- The first write creates its document. -/
theorem created_landed (event : DecisionEvent) (fault : Option Fault) :
    created [] (landed event fault) = landed event fault := by
  unfold landed
  split <;> rfl

/-- A call writes the same document in every state. -/
theorem handle_responses (state : DecisionState) : (handle python runner state document answers).2.responses =
    created state.responses (runner.writes python document answers) := by
  unfold DecisionRunner.writes handle
  split
  · rfl
  · split
    · rfl
    · split
      · split <;> rfl
      · split
        · rfl
        · rfl
        · rfl
        · split
          · rfl
          · rw [conclude_responses, conclude_responses, created_landed]

/-- The documents after some attempts are those that their writes created. -/
theorem attempts_responses (state : DecisionState) (calls : List Answers) :
    (runner.attempts python document state calls).responses =
      created state.responses (calls.flatMap (runner.writes python document)) := by
  induction calls generalizing state with
  | nil => rfl
  | cons answers rest ih =>
      rw [DecisionRunner.attempts, List.foldl_cons]
      refine (ih _).trans ?_
      rw [handle_responses, List.flatMap_cons, created, created, created, List.foldl_append]

/-- The event of a decision names the evidence and the time of the decision. -/
theorem Concluded.event {engine : DecisionEngine} {correlationId : Json} {findings : Findings} {result : DecisionResult}
    (concluded : Concluded python engine correlationId findings result) {event : DecisionEvent}
    (recorded : result.decisionEvent = some event) :
    event.eventId = findings.decisionEventId python ∧ event.timestamp = rfc3339 findings.timestamp := by
  cases concluded with
  | alone none => cases recorded
  | rejected some labelled unwarranted =>
      obtain rfl := Option.some.inj recorded
      exact ⟨rfl, rfl⟩
  | requested some labelled warranted signed =>
      unfold request at signed
      simp only [Check.bind_ok, Check.pure_ok] at signed
      obtain ⟨signature, -, rfl⟩ := signed
      obtain rfl := Option.some.inj recorded
      exact ⟨rfl, rfl⟩

/-- A published decision has the identifier and the time of its event. -/
theorem published_event (result : DecisionResult) (event : DecisionEvent) :
    (published runner result event).eventId = event.eventId ∧
      (published runner result event).timestamp = event.timestamp := by
  unfold published
  split <;> exact ⟨rfl, rfl⟩

/-- A write lands under the event's identifier, in the index of its day. -/
theorem mem_landed {event : DecisionEvent} {fault : Option Fault} {made : Stored DecisionEvent}
    (member : made ∈ landed event fault) :
    made.id = event.eventId ∧ made.index = "soc-response-" ++ Workers.day event.timestamp.parse := by
  unfold landed at member
  split at member
  · cases member
  · obtain rfl := List.mem_singleton.mp member
    exact ⟨rfl, rfl⟩

/-- A document that a call writes is the decision on its findings, in the index of the day of the call. -/
theorem writes_findings {made : Stored DecisionEvent} (wrote : made ∈ runner.writes python document answers) :
    ∃ findings, runner.Finds python document answers findings ∧ made.id = findings.decisionEventId python ∧
      made.index = "soc-response-" ++ Workers.day answers.now := by
  unfold DecisionRunner.writes handle at wrote
  split at wrote
  · cases wrote
  · rename_i type entity aimed
    split at wrote
    · cases wrote
    · rename_i policyId chosen
      split at wrote
      · split at wrote <;> cases wrote
      · split at wrote
        · cases wrote
        · cases wrote
        · cases wrote
        · rename_i result decided
          split at wrote
          · cases wrote
          · rename_i event recorded
            rw [conclude_responses, created_landed] at wrote
            obtain ⟨findings, validated, concluded⟩ := evaluate_ok decided
            obtain ⟨named, timed⟩ := concluded.event recorded
            obtain ⟨same, moment⟩ : (published runner result event).eventId = event.eventId ∧
                (published runner result event).timestamp = event.timestamp := published_event result event
            obtain ⟨id, index⟩ := mem_landed wrote
            refine ⟨findings, ⟨type, entity, policyId, aimed, chosen, validated⟩, id.trans (same.trans named), ?_⟩
            have now : findings.timestamp = answers.now := (Moment.aware.inj validated.timestamp).symm
            rw [index, moment, timed, now]
            refine congrArg _ (Workers.day_inj.mpr ?_)
            simp only [rfc3339, Rfc3339.parse, dayNumber]
            omega

/-- Calls with one telemetry find out one decision. -/
theorem Finds.event {other : Answers} {first second : Findings} (finds : runner.Finds python document answers first)
    (again : runner.Finds python document other second) (unchanged : answers.telemetry = other.telemetry) :
    first.decisionEventId python = second.decisionEventId python := by
  have here := Finds.evidence finds
  have there := Finds.evidence again
  obtain ⟨policies, anomalies, targets⟩ := Finds.same finds again
  have evidence : runner.evidence python document answers = runner.evidence python document other := by
    rw [DecisionRunner.evidence, DecisionRunner.evidence, unchanged]
  have perm : first.signals.Perm second.signals :=
    (List.map_perm_map_iff (Option.some_injective _)).mp (here.symm.trans (evidence ▸ there))
  obtain ⟨_, _, _, _, _, validated⟩ := finds
  obtain ⟨_, _, _, _, _, validated'⟩ := again
  unfold Findings.decisionEventId Findings.material
  rw [policies, anomalies, targets, signals_eq validated validated' perm]

end Writing

section Retries

variable {python : Python} {runner : DecisionRunner} {document : AnomalyEvent}

/-- Every decision that some calls write has one document at most in all indices. -/
def OneDocument (python : Python) (runner : DecisionRunner) (document : AnomalyEvent) (calls : List Answers)
    (state : DecisionState) : Prop :=
  ∀ answers ∈ calls, ∀ made ∈ runner.writes python document answers,
    (state.responses.filter fun stored => stored.id = made.id).length ≤ 1

/-- Retries with unchanged telemetry leave one document of their decision exactly when all calls that write it are made
on one day. -/
theorem one_document_iff (python : Python) (runner : DecisionRunner) (document : AnomalyEvent) (state : DecisionState)
    (calls : List Answers)
    (unchanged : ∀ answers ∈ calls, ∀ other ∈ calls, answers.telemetry = other.telemetry)
    (fresh : ∀ answers ∈ calls, ∀ made ∈ runner.writes python document answers, ∀ stored ∈ state.responses,
      stored.id ≠ made.id) :
    OneDocument python runner document calls (runner.attempts python document state calls) ↔
      ∀ answers ∈ calls, ∀ other ∈ calls, runner.writes python document answers ≠ [] →
        runner.writes python document other ≠ [] → dayNumber answers.now = dayNumber other.now := by
  -- All calls write under one id, so that only the indices differ.
  have single : ∀ answers ∈ calls, ∀ made ∈ runner.writes python document answers,
      ∀ other ∈ calls, ∀ another ∈ runner.writes python document other, another.id = made.id := by
    intro answers called made wrote other alsoCalled another alsoWrote
    obtain ⟨first, finds, named, -⟩ := writes_findings wrote
    obtain ⟨second, again, alsoNamed, -⟩ := writes_findings alsoWrote
    rw [named, alsoNamed]
    exact (Finds.event finds again (unchanged _ called _ alsoCalled)).symm
  have places : ∀ answers ∈ calls, ∀ made ∈ runner.writes python document answers,
      (indicesOf made.id (runner.attempts python document state calls).responses).Nodup ∧
        ∀ index, index ∈ indicesOf made.id (runner.attempts python document state calls).responses ↔
          ∃ other ∈ calls, runner.writes python document other ≠ [] ∧
            index = "soc-response-" ++ Workers.day other.now := by
    intro answers called made wrote
    have none : indicesOf made.id state.responses = [] := by
      rw [indicesOf, List.map_eq_nil_iff, List.filter_eq_nil_iff]
      exact fun stored member => by simpa using fresh answers called made wrote stored member
    have named : ∀ another ∈ calls.flatMap (runner.writes python document), another.id = made.id := by
      intro another member
      obtain ⟨other, alsoCalled, alsoWrote⟩ := List.mem_flatMap.mp member
      exact single answers called made wrote other alsoCalled another alsoWrote
    have unused : (indicesOf made.id state.responses).Nodup := none ▸ List.nodup_nil
    obtain ⟨nodup, listed⟩ := indicesOf_creations named unused
    rw [attempts_responses]
    refine ⟨nodup, fun index => (listed index).trans ?_⟩
    rw [none]
    constructor
    · rintro (impossible | ⟨another, member, rfl⟩)
      · cases impossible
      · obtain ⟨other, alsoCalled, alsoWrote⟩ := List.mem_flatMap.mp member
        obtain ⟨_, _, _, place⟩ := writes_findings alsoWrote
        exact ⟨other, alsoCalled, List.ne_nil_of_mem alsoWrote, place⟩
    · rintro ⟨other, alsoCalled, some, rfl⟩
      obtain ⟨another, alsoWrote⟩ := List.exists_mem_of_ne_nil _ some
      obtain ⟨_, _, _, place⟩ := writes_findings alsoWrote
      exact Or.inr ⟨another, List.mem_flatMap.mpr ⟨other, alsoCalled, alsoWrote⟩, place⟩
  have index : ∀ first second : Int, "soc-response-" ++ Workers.day first = "soc-response-" ++ Workers.day second ↔
      dayNumber first = dayNumber second := fun first second =>
    (String.append_right_inj _).trans Workers.day_inj
  constructor
  · intro one answers called other alsoCalled some alsoSome
    obtain ⟨made, wrote⟩ := List.exists_mem_of_ne_nil _ some
    obtain ⟨-, listed⟩ := places answers called made wrote
    have here := (listed _).mpr ⟨answers, called, some, rfl⟩
    have there := (listed _).mpr ⟨other, alsoCalled, alsoSome, rfl⟩
    have few : (indicesOf made.id (runner.attempts python document state calls).responses).length ≤ 1 := by
      rw [indicesOf, List.length_map]
      exact one answers called made wrote
    exact (index _ _).mp ((length_le_one_iff (places answers called made wrote).1).mp few _ here _ there)
  · intro days answers called made wrote
    obtain ⟨nodup, listed⟩ := places answers called made wrote
    have few : (indicesOf made.id (runner.attempts python document state calls).responses).length ≤ 1 := by
      refine (length_le_one_iff nodup).mpr fun first member second alsoMember => ?_
      obtain ⟨other, called, some, rfl⟩ := (listed first).mp member
      obtain ⟨another, alsoCalled, alsoSome, rfl⟩ := (listed second).mp alsoMember
      exact (index _ _).mpr (days other called another alsoCalled some alsoSome)
    rwa [indicesOf, List.length_map] at few

end Retries

section Midnight

variable {python : Python} {runner : DecisionRunner} {document : AnomalyEvent} {answers : Answers}

/-- A request with a signer that never fails records its decision. -/
theorem request_anytime {engine : DecisionEngine} (signs : ∀ body, ∃ signature, engine.sign body = .ok signature)
    (policy : ResponsePolicy) (anomaly : Anomaly) (signals : List Signal) (target : Target)
    (decisionEventId correlation : String) (timestamp : Int) :
    ∃ result, request python engine policy anomaly signals target decisionEventId correlation timestamp = .ok result ∧
      result.decisionEvent.isSome = true := by
  unfold request
  simp only [Check.bind_ok, Check.pure_ok]
  obtain ⟨signature, signed⟩ := signs _
  exact ⟨_, ⟨signature, signed, rfl⟩, rfl⟩

/-- With a signer that never fails, a decision that is recorded at one time is recorded at every time. -/
theorem evaluate_anytime {engine : DecisionEngine} (signs : ∀ body, ∃ signature, engine.sign body = .ok signature)
    {policyId : String} {anomaly independentSignals target correlationId : Json} {now : Int} {result : DecisionResult}
    (passed : evaluate python engine policyId anomaly independentSignals target (.aware now) correlationId = .ok result)
    (recorded : result.decisionEvent.isSome = true) (other : Int) :
    ∃ later, evaluate python engine policyId anomaly independentSignals target (.aware other) correlationId = .ok later ∧
      later.decisionEvent.isSome = true := by
  unfold evaluate at passed ⊢
  simp only [Check.bind_ok, Check.guard_ok] at passed ⊢
  obtain ⟨policy, active, _, _, anomalyData, anomalous, targetData, aimed, signalData, observed, _, sameTarget, _,
    independent, next⟩ := passed
  split at next
  · rename_i none
    cases next
    cases recorded
  · rename_i some
    obtain ⟨correlation, labelled, -⟩ := Check.bind_ok.mp next
    cases refused : rejectionReason python engine.catalog policy anomalyData signalData targetData other with
    | some rejection =>
        let denied := reject policy anomalyData signalData targetData
          (identifierOf python "dec" (decisionMaterial policy anomalyData targetData signalData)) correlation other rejection
        refine ⟨denied, ⟨policy, active, other, rfl, anomalyData, anomalous, targetData, aimed, signalData, observed, (),
          sameTarget, (), independent, ?_⟩, rfl⟩
        rw [if_neg some]
        exact Check.bind_ok.mpr ⟨correlation, labelled, by rw [refused]; rfl⟩
    | none =>
        obtain ⟨later, signed, recorded⟩ := request_anytime signs policy anomalyData signalData targetData
          (identifierOf python "dec" (decisionMaterial policy anomalyData targetData signalData)) correlation other
        refine ⟨later, ⟨policy, active, other, rfl, anomalyData, anomalous, targetData, aimed, signalData, observed, (),
          sameTarget, (), independent, ?_⟩, recorded⟩
        rw [if_neg some]
        exact Check.bind_ok.mpr ⟨correlation, labelled, by rw [refused]; exact signed⟩

/-- A call without faults on the way to the index writes a recorded decision. -/
theorem writes_of_decides {result : DecisionResult} (decided : runner.Decides python document answers result)
    (recorded : result.decisionEvent.isSome = true) (gathered : answers.evidenceFault = none)
    (wrote : answers.writeFault = none) : runner.writes python document answers ≠ [] := by
  obtain ⟨type, entity, policyId, aimed, chosen, verdict⟩ := decided
  obtain ⟨event, found⟩ := Option.isSome_iff_exists.mp recorded
  obtain ⟨findings, -, concluded⟩ := evaluate_ok verdict
  have named := (concluded.event found).1
  have plain := written_identifier named
  unfold DecisionRunner.writes handle
  simp only [aimed, chosen, gathered, verdict, found]
  rw [conclude_responses, created_landed, wrote]
  have accepted : ¬ ((published runner result event).eventId = "" ∨
      512 < (published runner result event).eventId.toList.length ∨
      (none : Option Fault).any (fun fault => !fault.effect) = true) := by
    rw [(published_event result event).1]
    simpa [written] using plain
  rw [landed, if_neg accepted]
  exact List.cons_ne_nil _ _

/-- A call of `handle` at the desk on a later day. -/
def lateCall (days : Int) (fault : Option Fault) : Answers where
  telemetry := deskTelemetry 20 []
  now := deskTime + seconds 720 + days * 86400000000
  sendFault := fault

/-- Every late call of the example writes. -/
theorem lateCall_writes (days : Int) (fault : Option Fault) :
    deskRunner.writes fieldPython deskEvent (lateCall days fault) ≠ [] := by
  obtain ⟨result, ⟨type, entity, policyId, aimed, chosen, decided⟩, eligible⟩ := desk_requests (le_refl 20) (by decide)
  have recorded : result.decisionEvent.isSome = true := by
    obtain ⟨findings, -, concluded⟩ := evaluate_ok decided
    cases concluded with
    | alone none => cases eligible
    | rejected some labelled unwarranted => cases eligible
    | requested some labelled warranted signed =>
        obtain ⟨event, -, recorded, -⟩ := request_event signed
        rw [recorded]
        rfl
  obtain ⟨later, verdict, still⟩ := evaluate_anytime (fun _ => ⟨_, rfl⟩) decided recorded (lateCall days fault).now
  exact writes_of_decides ⟨type, entity, policyId, aimed, chosen, verdict⟩ still rfl rfl

/-- The late calls of the example see the same telemetry. -/
theorem lateCalls_unchanged {calls : List Answers} (late : ∀ answers ∈ calls, ∃ days fault, answers = lateCall days fault) :
    ∀ answers ∈ calls, ∀ other ∈ calls, answers.telemetry = other.telemetry := by
  intro answers called other alsoCalled
  obtain ⟨_, _, rfl⟩ := late answers called
  obtain ⟨_, _, rfl⟩ := late other alsoCalled
  rfl

/-- A retry on the next day leaves a second document of the decision. -/
theorem retry_after_midnight : ¬ OneDocument fieldPython deskRunner deskEvent [lateCall 0 lostAnswer, lateCall 1 none]
    (deskRunner.attempts fieldPython deskEvent {} [lateCall 0 lostAnswer, lateCall 1 none]) := by
  intro one
  have days := (one_document_iff fieldPython deskRunner deskEvent {} _ (lateCalls_unchanged (by simp)) (by simp)).mp one
    (lateCall 0 lostAnswer) (by simp) (lateCall 1 none) (by simp) (lateCall_writes _ _) (lateCall_writes _ _)
  exact absurd days (by decide)

/-- A retry on the same day finds the document there. -/
theorem retry_on_one_day : OneDocument fieldPython deskRunner deskEvent [lateCall 0 lostAnswer, lateCall 0 none]
    (deskRunner.attempts fieldPython deskEvent {} [lateCall 0 lostAnswer, lateCall 0 none]) := by
  refine (one_document_iff fieldPython deskRunner deskEvent {} _ (lateCalls_unchanged (by simp)) (by simp)).mpr ?_
  intro answers called other alsoCalled _ _
  have now : ∀ answers ∈ [lateCall 0 lostAnswer, lateCall 0 none], answers.now = (lateCall 0 none).now := by
    simp [lateCall]
  rw [now answers called, now other alsoCalled]

end Midnight

end ClosedLoop.Response
