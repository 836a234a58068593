import ClosedLoop.Proof.Decision.Corroboration
import ClosedLoop.Proof.Decision.Identity

namespace ClosedLoop.Response

open ClosedLoop.Library
open ClosedLoop.Workers (AnomalyEvent DeliveryError Fault)

section Sending

variable (python : Python) (runner : DecisionRunner) (document : AnomalyEvent)

/-- The commands that one call of `handle` passes to `send_command`. -/
def DecisionRunner.sent (answers : Answers) : List Json :=
  (handle python runner {} document answers).2.commands.map Prod.snd

/-- The state after some calls of `handle` for one anomaly. -/
def DecisionRunner.attempts (state : DecisionState) (calls : List Answers) : DecisionState :=
  calls.foldl (fun state answers => (handle python runner state document answers).2) state

variable {python runner document} {answers : Answers}

/-- The decision is written, or it was written before. -/
def written (event : DecisionEvent) (fault : Option Fault) : Bool :=
  fault.isNone && !decide (event.eventId = "" ∨ 512 < event.eventId.toList.length)

theorem writeDecision_written {state after : DecisionState} {event : DecisionEvent} {fault : Option Fault}
    {reply : Workers.Reply} (wrote : writeDecision state event fault = (reply, after)) :
    after.commands = state.commands ∧
      (written event fault = true ↔ (∀ error, reply ≠ .failed error) ∧ reply ≠ .refused) := by
  unfold writeDecision at wrote
  simp only [Prod.mk.injEq] at wrote
  obtain ⟨answer, rfl⟩ := wrote
  refine ⟨rfl, ?_⟩
  unfold Workers.create at answer
  unfold written
  split at answer
  · rename_i refused
    subst answer
    simp [refused]
  · rename_i accepted
    cases fault with
    | some fault =>
        subst answer
        simp [Workers.put]
    | none =>
        subst answer
        simp only [Workers.put, Option.isNone_none, accepted, decide_false, Bool.not_false, Bool.and_self, true_iff]
        split <;> simp

theorem deliveryFailed_commands (state : DecisionState) (anomalyId : String) (error : DeliveryError) :
    (deliveryFailed state anomalyId error).2.commands = state.commands := by
  unfold deliveryFailed
  split <;> rfl

/-- The last part of `handle` sends the command of an eligible decision that is written. -/
theorem conclude_commands (state : DecisionState) (anomalyId : String) (result : DecisionResult)
    (event : DecisionEvent) :
    (conclude runner state anomalyId result event answers).2.commands = state.commands ++
      if (result.eligible && runner.enforce && written event answers.writeFault) = true
      then result.command.toList.map fun command => (anomalyId, command) else [] := by
  unfold conclude
  by_cases enforced : (result.eligible && runner.enforce) = true
  · rw [if_pos enforced, enforced, Bool.true_and]
    split
    · rename_i error after wrote
      obtain ⟨same, replied⟩ := writeDecision_written wrote
      have unwritten : written event answers.writeFault ≠ true := fun done => (replied.mp done).1 error rfl
      rw [if_neg unwritten, deliveryFailed_commands, same, List.append_nil]
    · rename_i after wrote
      obtain ⟨same, replied⟩ := writeDecision_written wrote
      have unwritten : written event answers.writeFault ≠ true := fun done => (replied.mp done).2 rfl
      rw [if_neg unwritten, same, List.append_nil]
    · rename_i reply after unfailed unrefused wrote
      obtain ⟨same, replied⟩ := writeDecision_written wrote
      rw [if_pos (replied.mpr ⟨unfailed, unrefused⟩), ← same]
      dsimp only
      split
      · exact deliveryFailed_commands _ _ _
      · rfl
  · have silent : (result.eligible && runner.enforce && written event answers.writeFault) = false := by
      rw [Bool.not_eq_true] at enforced
      rw [enforced]
      rfl
    rw [if_neg enforced, silent, if_neg Bool.false_ne_true, List.append_nil]
    dsimp only
    split
    · rename_i wrote
      rw [deliveryFailed_commands]
      exact (writeDecision_written wrote).1
    · rename_i wrote
      exact (writeDecision_written wrote).1
    · rename_i wrote
      exact (writeDecision_written wrote).1

/-- A call sends the same commands in every state. -/
theorem handle_commands (state : DecisionState) : (handle python runner state document answers).2.commands =
    state.commands ++ (runner.sent python document answers).map fun command => (document.eventId, command) := by
  have named : ∀ result event, ((conclude runner {} document.eventId result event answers).2.commands.map Prod.snd).map
      (fun command => (document.eventId, command)) =
        (conclude runner {} document.eventId result event answers).2.commands := by
    intro result event
    rw [conclude_commands]
    split <;> simp
  unfold DecisionRunner.sent handle
  split
  · simp [DecisionState.record]
  · split
    · simp [DecisionState.record]
    · split
      · split <;> simp [DecisionState.record]
      · split
        · simp [DecisionState.record]
        · simp [DecisionState.record]
        · simp
        · split
          · simp [DecisionState.record]
          · rw [named, conclude_commands, conclude_commands, List.nil_append]

theorem attempts_commands (state : DecisionState) (calls : List Answers) :
    (runner.attempts python document state calls).commands = state.commands ++
      (calls.flatMap (runner.sent python document)).map fun command => (document.eventId, command) := by
  induction calls generalizing state with
  | nil => simp [DecisionRunner.attempts]
  | cons answers rest ih =>
      rw [DecisionRunner.attempts, List.foldl_cons]
      refine (ih _).trans ?_
      rw [handle_commands, List.flatMap_cons, List.map_append, List.append_assoc]

end Sending

section Identity

variable (python : Python) (runner : DecisionRunner) (document : AnomalyEvent)

/-- What a call selects, in normal form. -/
def DecisionRunner.evidence (answers : Answers) : List (Option Signal) :=
  (runner.selected python document answers.telemetry).map fun signal =>
    (validateSignal python (signal.toJson (targetField document)) 0 []).toOption

/-- What a call finds out about an anomaly. -/
def DecisionRunner.Finds (answers : Answers) (findings : Findings) : Prop :=
  ∃ type entity policyId, DecisionRunner.target document = some (type, entity) ∧
    runner.policyByTarget.find? type.text = some policyId ∧
    Validated python runner.engine policyId (anomalyJson document (targetJson type entity))
      (.arr ((signals python runner answers.telemetry type entity document.windowStart document.windowEnd).map
        (RawSignal.toJson (targetJson type entity)))) (targetJson type entity) (.aware answers.now) findings

variable {python runner document} {answers other : Answers} {first second : Findings}

/-- A command that a call sends is the one for its findings. -/
theorem sent_findings {command : Json} (sent : command ∈ runner.sent python document answers) :
    ∃ findings correlation authorization, runner.Finds python document answers findings ∧
      command = findings.body python correlation authorization := by
  obtain ⟨⟨_, _, commands⟩, _⟩ := handle_spec python runner {} document answers
  unfold DecisionRunner.sent at sent
  rcases commands with none | ⟨result, ⟨type, entity, policyId, aimed, chosen, decided⟩, -, -, added⟩
  · rw [none] at sent
    cases sent
  · rw [added] at sent
    have carried : result.command = some command := by simpa using sent
    obtain ⟨findings, validated, -⟩ := evaluate_ok decided
    obtain ⟨correlation, authorization, same⟩ := validated.issued decided carried
    exact ⟨findings, correlation, authorization, ⟨type, entity, policyId, aimed, chosen, validated⟩, same⟩

/-- The evidence of a call that finds out something is what it finds out, in some order. -/
theorem Finds.evidence (finds : runner.Finds python document answers first) :
    (runner.evidence python document answers).Perm (first.signals.map some) := by
  obtain ⟨type, entity, policyId, aimed, -, validated⟩ := finds
  obtain ⟨read, each, -, sorted⟩ := validateIndependentSignals_iff.mp validated.signals
  rw [List.forall₂_map_left_iff] at each
  have field : targetField document = targetJson type entity := by rw [targetField, aimed]
  have normal : runner.evidence python document answers = read.map some := by
    rw [DecisionRunner.evidence, DecisionRunner.selected, aimed, field]
    exact Check.map_related each fun signal normal admits => congrArg Except.toOption admits
  rw [normal, sorted]
  exact (List.perm_insertionSort _ read).symm.map some

/-- Two calls for one anomaly find out the same, up to the evidence and the time. -/
theorem Finds.same (finds : runner.Finds python document answers first)
    (again : runner.Finds python document other second) :
    first.policy = second.policy ∧ first.anomaly = second.anomaly ∧ first.target = second.target := by
  obtain ⟨type, entity, policyId, aimed, chosen, validated⟩ := finds
  obtain ⟨_, _, _, aimed', chosen', validated'⟩ := again
  cases aimed.symm.trans aimed'
  cases chosen.symm.trans chosen'
  exact ⟨Option.some.inj (validated.policy.symm.trans validated'.policy),
    Except.ok.inj (validated.anomaly.symm.trans validated'.anomaly),
    Except.ok.inj (validated.target.symm.trans validated'.target)⟩

/-- Two calls have the same key exactly when they select the same evidence. -/
theorem Finds.key_iff (finds : runner.Finds python document answers first)
    (again : runner.Finds python document other second)
    (free : CollisionFree python [(first.containment python).canonical, (second.containment python).canonical]) :
    first.idempotencyKey python = second.idempotencyKey python ↔
      (runner.evidence python document answers).Perm (runner.evidence python document other) := by
  have here := Finds.evidence finds
  have there := Finds.evidence again
  obtain ⟨policies, anomalies, targets⟩ := Finds.same finds again
  constructor
  · intro same
    have digests : python.sha256Hex (first.containment python).canonical =
        python.sha256Hex (second.containment python).canonical := by
      unfold Findings.idempotencyKey sha256Hex at same
      exact (String.append_right_inj _).mp same
    have texts := free _ (by simp) _ (by simp) digests
    exact here.trans (((containment_same texts).signals.map some).trans there.symm)
  · intro same
    have perm : first.signals.Perm second.signals :=
      (List.map_perm_map_iff (Option.some_injective _)).mp (here.symm.trans (same.trans there))
    obtain ⟨_, _, _, _, _, validated⟩ := finds
    obtain ⟨_, _, _, _, _, validated'⟩ := again
    have signals := signals_eq validated validated' perm
    unfold Findings.idempotencyKey Findings.containment Findings.decisionEventId Findings.material
    rw [policies, anomalies, targets, signals]

variable (python runner document)

/-- All commands that were sent for an anomaly carry the same key. -/
def OneIdentity (state : DecisionState) : Prop :=
  ∀ first ∈ state.commands, ∀ second ∈ state.commands, first.1 = document.eventId → second.1 = document.eventId →
    fieldOf first.2 "idempotency_key" = fieldOf second.2 "idempotency_key"

variable {python runner document}

/-- The commands for an anomaly carry one key exactly when all calls that send one select the same evidence. -/
theorem one_identity_iff (state : DecisionState) (calls : List Answers) (fresh : state.commands = [])
    (free : ∀ answers ∈ calls, ∀ other ∈ calls, ∀ first second, runner.Finds python document answers first →
      runner.Finds python document other second →
      CollisionFree python [(first.containment python).canonical, (second.containment python).canonical]) :
    OneIdentity document (runner.attempts python document state calls) ↔
      ∀ answers ∈ calls, ∀ other ∈ calls, runner.sent python document answers ≠ [] →
        runner.sent python document other ≠ [] →
        (runner.evidence python document answers).Perm (runner.evidence python document other) := by
  have sent : ∀ entry, entry ∈ (runner.attempts python document state calls).commands ↔
      ∃ answers ∈ calls, ∃ command ∈ runner.sent python document answers, (document.eventId, command) = entry := by
    intro entry
    rw [attempts_commands, fresh, List.nil_append, List.mem_map]
    simp only [List.mem_flatMap]
    constructor
    · rintro ⟨command, ⟨answers, called, made⟩, same⟩
      exact ⟨answers, called, command, made, same⟩
    · rintro ⟨answers, called, command, made, same⟩
      exact ⟨command, ⟨answers, called, made⟩, same⟩
  constructor
  · intro one answers called other alsoCalled some someOther
    obtain ⟨command, made⟩ := List.exists_mem_of_ne_nil _ some
    obtain ⟨command', made'⟩ := List.exists_mem_of_ne_nil _ someOther
    have keys := one _ ((sent _).mpr ⟨answers, called, command, made, rfl⟩) _
      ((sent _).mpr ⟨other, alsoCalled, command', made', rfl⟩) rfl rfl
    obtain ⟨first, _, _, finds, rfl⟩ := sent_findings made
    obtain ⟨second, _, _, again, rfl⟩ := sent_findings made'
    exact (Finds.key_iff finds again (free _ called _ alsoCalled _ _ finds again)).mp (Json.str.inj keys)
  · intro same entry member entry' member' _ _
    obtain ⟨answers, called, command, made, rfl⟩ := (sent entry).mp member
    obtain ⟨other, alsoCalled, command', made', rfl⟩ := (sent entry').mp member'
    have evidence := same answers called other alsoCalled (List.ne_nil_of_mem made) (List.ne_nil_of_mem made')
    obtain ⟨first, _, _, finds, rfl⟩ := sent_findings made
    obtain ⟨second, _, _, again, rfl⟩ := sent_findings made'
    exact congrArg Json.str ((Finds.key_iff finds again (free _ called _ alsoCalled _ _ finds again)).mpr evidence)

end Identity

section Desk

/-- A request is about the decision that it records. -/
theorem request_event {python : Python} {engine : DecisionEngine} {policy : ResponsePolicy} {anomaly : Anomaly}
    {observed : List Signal} {target : Target} {decisionEventId correlation : String} {timestamp : Int}
    {result : DecisionResult}
    (passed : request python engine policy anomaly observed target decisionEventId correlation timestamp = .ok result) :
    ∃ event command, result.decisionEvent = some event ∧ event.eventId = decisionEventId ∧
      result.command = some command := by
  unfold request at passed
  simp only [Check.bind_ok, Check.pure_ok] at passed
  obtain ⟨signature, -, rfl⟩ := passed
  exact ⟨_, _, rfl, rfl, rfl⟩

/-- The identifier of a decision names a document. -/
theorem written_identifier {python : Python} {material : Json} {event : DecisionEvent}
    (named : event.eventId = identifierOf python "dec" material) : written event none = true := by
  have spelled : event.eventId.toList = 'd' :: 'e' :: 'c' :: '-' :: (sha256Hex python material).toList.take 24 := by
    simp [named, identifierOf, truncate]
  have bounded : ((sha256Hex python material).toList.take 24).length ≤ 24 := List.length_take_le _ _
  have some : event.eventId ≠ "" := by
    intro empty
    rw [empty] at spelled
    cases spelled
  have short : ¬ 512 < event.eventId.toList.length := by
    rw [spelled]
    simp only [List.length_cons]
    omega
  simp [written, some, short]

/-- A call that requests a containment and meets no fault before it sends the command. -/
theorem sent_of_requests {python : Python} {runner : DecisionRunner} {document : AnomalyEvent} {answers : Answers}
    (requests : runner.Requests python document answers.telemetry answers.now) (enforce : runner.enforce = true)
    (gathered : answers.evidenceFault = none) (wrote : answers.writeFault = none) :
    runner.sent python document answers ≠ [] := by
  obtain ⟨result, ⟨type, entity, policyId, aimed, chosen, decided⟩, eligible⟩ := requests
  obtain ⟨findings, -, concluded⟩ := evaluate_ok decided
  cases concluded with
  | alone none => cases eligible
  | rejected some labelled unwarranted => cases eligible
  | requested some labelled warranted signed =>
      obtain ⟨event, command, recorded, named, carried⟩ := request_event signed
      have now := written_identifier named
      unfold DecisionRunner.sent handle
      simp only [aimed, chosen, gathered, decided, recorded]
      rw [conclude_commands, wrote, eligible, enforce, now]
      simp [carried]

/-- A call of `handle` at the desk. -/
def deskCall (logins : Nat) (fault : Option Fault) : Answers where
  telemetry := deskTelemetry logins []
  now := deskTime + seconds 720
  sendFault := fault

/-- The command reaches the orchestrator and the answer is lost. -/
def lostAnswer : Option Fault := some ⟨⟨"TLS_OR_NETWORK_UNAVAILABLE", true⟩, true⟩

theorem deskCall_sends {logins : Nat} (enough : 20 ≤ logins) (few : logins ≤ 500) (fault : Option Fault) :
    deskRunner.sent fieldPython deskEvent (deskCall logins fault) ≠ [] :=
  sent_of_requests (desk_requests enough few) rfl rfl rfl

/-- The evidence of the desk counts the logins. -/
theorem deskCall_evidence {logins : Nat} (enough : 20 ≤ logins) (few : logins ≤ 500) (fault : Option Fault) :
    deskRunner.evidence fieldPython deskEvent (deskCall logins fault) = [some ⟨.authentication,
      strip (deskLogins logins).reference, rfc3339 (deskTime + seconds 240), deskTarget, none, some logins, none⟩] := by
  have selected : deskRunner.selected fieldPython deskEvent (deskTelemetry logins []) = [deskLogins logins] :=
    desk_selected (by omega) few [] (by simp)
  rw [DecisionRunner.evidence, deskCall, selected, List.map_singleton]
  exact congrArg (fun found => [found]) (congrArg Except.toOption (deskLogins_admitted few))

theorem field_collisionFree (texts : List String) : CollisionFree fieldPython texts :=
  fun _ _ _ _ same => (String.append_right_inj _).mp same

/-- One more failed login between two attempts makes another containment of the second one. -/
theorem retry_changes_identity : ¬ OneIdentity deskEvent
    (deskRunner.attempts fieldPython deskEvent {} [deskCall 20 lostAnswer, deskCall 21 none]) := by
  intro one
  have same := (one_identity_iff {} _ rfl fun _ _ _ _ _ _ _ _ => field_collisionFree _).mp one (deskCall 20 lostAnswer)
    (by simp) (deskCall 21 none) (by simp) (deskCall_sends (by decide) (by decide) _)
    (deskCall_sends (by decide) (by decide) _)
  rw [deskCall_evidence (by decide) (by decide), deskCall_evidence (by decide) (by decide)] at same
  have counts := List.singleton_perm_singleton.mp same
  simp at counts

/-- An attempt with the same evidence keeps the identity. -/
theorem retry_keeps_identity : OneIdentity deskEvent
    (deskRunner.attempts fieldPython deskEvent {} [deskCall 20 lostAnswer, deskCall 20 none]) := by
  refine (one_identity_iff {} _ rfl fun _ _ _ _ _ _ _ _ => field_collisionFree _).mpr ?_
  have evidence : ∀ answers ∈ [deskCall 20 lostAnswer, deskCall 20 none],
      answers.telemetry = deskTelemetry 20 [] := by
    simp [deskCall]
  intro answers called other alsoCalled _ _
  unfold DecisionRunner.evidence
  rw [evidence answers called, evidence other alsoCalled]

end Desk

end ClosedLoop.Response
