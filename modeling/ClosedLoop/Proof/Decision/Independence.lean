import ClosedLoop.Library.Sha256
import ClosedLoop.Proof.Decision.Acceptance
import ClosedLoop.Proof.Decision.Verdict
import ClosedLoop.Proof.Response.Validation

namespace ClosedLoop.Response

open ClosedLoop.Library

section Errors

open Check

/-- A number that is not accepted is a rejected correlation. -/
theorem finiteNumber_fails (value : Json) (label : String) : Fails (Distrust False) (finiteNumber value label) := by
  unfold finiteNumber
  repeat' split
  all_goals simp [Distrust]

/-- So is a text that is not accepted. -/
theorem nonEmptyText_fails (value : Json) (label : String) : Fails (Distrust False) (nonEmptyText value label) := by
  unfold nonEmptyText
  repeat' split
  all_goals simp [Distrust]

theorem unitNumber_fails (value : Json) (label : String) : Fails (Distrust False) (unitNumber value label) :=
  (finiteNumber_fails value label).bind fun _ => (fails_guard trivial).bind fun _ => fails_pure

theorem booleanFlag_fails (value : Json) (label : String) : Fails (Distrust False) (booleanFlag value label) := by
  unfold booleanFlag
  split <;> simp [Distrust]

theorem signalType_fails (value : Json) (label : String) : Fails (Distrust False) (signalType value label) := by
  unfold signalType
  repeat' split
  all_goals simp [Distrust]

theorem signalReference_fails (value : Json) (label : String) : Fails (Distrust False) (signalReference value label) := by
  unfold signalReference
  repeat' split
  all_goals simp [Distrust]

/-- So is a number field that is not accepted. -/
theorem numberField_fails (fields : List (String × Json)) (label name : String) :
    Fails (Distrust False) (numberField fields label name) := by
  unfold numberField
  split
  · exact fails_ok
  · exact (finiteNumber_fails _ _).bind fun _ => (fails_guard trivial).bind fun _ => fails_pure

theorem wholeField_fails (fields : List (String × Json)) (label name : String) :
    Fails (Distrust False) (wholeField fields label name) := by
  refine (numberField_fails fields label name).bind fun number => ?_
  cases number with
  | none => exact fails_pure
  | some number => exact (fails_guard trivial).bind fun _ => fails_pure

theorem confidenceField_fails (fields : List (String × Json)) (label : String) :
    Fails (Distrust False) (confidenceField fields label) := by
  refine (numberField_fails fields label "confidence").bind fun number => ?_
  cases number with
  | none => exact fails_pure
  | some number => exact (fails_guard trivial).bind fun _ => fails_pure

variable {python : Python}

/-- A time inside the known years that is not read is a rejected correlation. -/
theorem observationTime_fails {value : Json} (timed : ¬ BeyondYears python value) (label : String) :
    Fails (Distrust False) (observationTime python value label) :=
  (parseRfc3339_fails (fun _ => trivial) timed _ _).bind fun _ => fails_pure

/-- So is a target that is not accepted. -/
theorem validateTarget_fails (value : Json) : Fails (Distrust False) (validateTarget python value) := by
  unfold validateTarget
  dsimp only
  repeat' split
  all_goals simp [Distrust]

/-- So is an anomaly that is not accepted, when its time lies inside the known years. -/
theorem validateAnomaly_fails {value : Json} (timed : ¬ BeyondYears python (fieldOf value "observed_at")) :
    Fails (Distrust False) (validateAnomaly python value) := by
  unfold validateAnomaly
  split
  · refine (nonEmptyText_fails _ _).bind fun eventId => (nonEmptyText_fails _ _).bind fun modelId => ?_
    refine (unitNumber_fails _ _).bind fun score => (unitNumber_fails _ _).bind fun threshold => ?_
    refine (booleanFlag_fails _ _).bind fun isAnomaly => (fails_guard trivial).bind fun _ => ?_
    exact (observationTime_fails timed _).bind fun observedAt => (validateTarget_fails _).bind fun target => fails_pure
  · simp [Distrust]

/-- So is a signal, under the same condition. -/
theorem validateSignal_fails {value : Json} (timed : ¬ BeyondYears python (fieldOf value "observed_at")) (index : Nat)
    (seen : List String) :
    Fails (Distrust False) (validateSignal python value index seen) := by
  unfold validateSignal
  dsimp only
  split
  · refine Fails.bind (fails_guard trivial) fun _ => (signalType_fails _ _).bind fun type => ?_
    refine (signalReference_fails _ _).bind fun reference => (observationTime_fails timed _).bind fun observedAt => ?_
    refine (fails_guard trivial).bind fun _ => (validateTarget_fails _).bind fun target => ?_
    refine (wholeField_fails _ _ _).bind fun severity => (wholeField_fails _ _ _).bind fun count => ?_
    exact (confidenceField_fails _ _).bind fun confidence => fails_pure
  · simp [Distrust]

theorem validateSignals_fails {items : List Json}
    (timed : ∀ item ∈ items, ¬ BeyondYears python (fieldOf item "observed_at")) (index : Nat) (seen : List String) :
    Fails (Distrust False) (validateSignals python items index seen) := by
  induction items generalizing index seen with
  | nil => exact fails_ok
  | cons item rest ih =>
      have later := ih fun other member => timed other (List.mem_cons_of_mem _ member)
      refine (validateSignal_fails (timed item List.mem_cons_self) index seen).bind fun signal => ?_
      exact (later _ _).bind fun others => fails_pure

theorem validateIndependentSignals_fails {items : List Json}
    (timed : ∀ item ∈ items, ¬ BeyondYears python (fieldOf item "observed_at")) :
    Fails (Distrust False) (validateIndependentSignals python (.arr items)) :=
  (validateSignals_fails timed _ _).bind fun _ => fails_pure

/-- A signal that does not go with the anomaly is a rejected correlation. -/
theorem checkSignals_fails (anomaly : Anomaly) (target : Target) (signals : List Signal) :
    Fails (Distrust False) (checkSignals anomaly target signals) := by
  induction signals with
  | nil => exact fails_ok
  | cons signal rest ih => exact (fails_guard trivial).bind fun _ => (fails_guard trivial).bind fun _ => ih

/-- The clock or a time of the evidence has no UTC time within the years of a datetime. -/
def Overflows (python : Python) (anomaly : Json) (items : List Json) (now : Moment) : Prop :=
  (∃ value, now = .beyond value) ∨
    ∃ evidence ∈ anomaly :: items, BeyondYears python (fieldOf evidence "observed_at")

/-- A clock inside the known years that is naive is a rejected correlation. -/
theorem decisionTime_fails {now : Moment} (timed : ∀ value, now ≠ .beyond value) :
    Fails (Distrust False) (decisionTime now) := by
  cases now with
  | naive => exact fails_error.mpr trivial
  | aware value => exact fails_ok
  | beyond value => exact absurd rfl (timed value)

/-- Until its evidence is valid, an evaluation with an active policy fails only by a rejection. -/
theorem evaluate_fails {engine : DecisionEngine} {policyId : String} {policy : ResponsePolicy}
    (active : engine.catalog.policy policyId = .ok policy) {anomaly : Json} {items : List Json} (target : Json)
    {now : Moment} (timely : ¬ Overflows python anomaly items now) (correlationId : Json) :
    Fails (fun error => Distrust False error ∨
        ∃ findings, Validated python engine policyId anomaly (.arr items) target now findings)
      (evaluate python engine policyId anomaly (.arr items) target now correlationId) := by
  obtain ⟨clock, times⟩ := not_or.mp timely
  have timed : ∀ evidence ∈ anomaly :: items, ¬ BeyondYears python (fieldOf evidence "observed_at") :=
    fun evidence member beyond => times ⟨evidence, member, beyond⟩
  unfold evaluate
  rw [active]
  have rejects : ∀ {α : Type} {check : Except PyError α}, Fails (Distrust False) check →
      Fails (fun error => Distrust False error ∨
        ∃ findings, Validated python engine policyId anomaly (.arr items) target now findings) check :=
    fun fails => fails.weaken fun _ => Or.inl
  refine (rejects (decisionTime_fails fun value late => clock ⟨value, late⟩)).andThen fun timestamp stamped => ?_
  refine (rejects (validateAnomaly_fails (timed anomaly List.mem_cons_self))).andThen fun anomalyData anomalous => ?_
  refine (rejects (validateTarget_fails target)).andThen fun targetData aimed => ?_
  refine (rejects (validateIndependentSignals_fails fun item member => timed item (List.mem_cons_of_mem _ member))).andThen
    fun signalData observed => ?_
  refine Fails.andThen (fails_guard (Or.inl trivial)) fun _ sameTarget => ?_
  refine (rejects (checkSignals_fails _ _ _)).andThen fun _ independent => ?_
  exact fun _ _ => Or.inr ⟨⟨policy, timestamp, anomalyData, targetData, signalData⟩, {
    policy := PolicyCatalog.policy_ok.mp active
    timestamp := decisionTime_ok stamped
    anomaly := anomalous
    target := aimed
    signals := observed
    sameTarget := guard_ok.mp sameTarget
    independent := checkSignals_ok independent }⟩

end Errors

section Identifiers

/-- A signal refers to the anomaly itself, up to white space at both ends. -/
def RefersToAnomaly (anomaly : Json) (items : List Json) : Prop :=
  ∃ item ∈ items, ∃ eventId reference, fieldOf anomaly "event_id" = .str eventId ∧
    fieldOf item "reference" = .str reference ∧ strip reference = strip eventId

/-- Two signals have one reference, up to white space at both ends. -/
def RepeatsReference (items : List Json) : Prop :=
  ∃ before item between other after, items = before ++ item :: (between ++ other :: after) ∧
    ∃ reference again, fieldOf item "reference" = .str reference ∧ fieldOf other "reference" = .str again ∧
      strip reference = strip again

variable (python : Python) (engine : DecisionEngine)

/-- Evidence that names one thing twice is rejected. -/
def RejectsRepetition (policyId : String) (anomaly : Json) (items : List Json) (target : Json) (now : Moment)
    (correlationId : Json) : Prop :=
  RefersToAnomaly anomaly items ∨ RepeatsReference items → ∃ message,
    evaluate python engine policyId anomaly (.arr items) target now correlationId = .error (.correlationRejected message)

variable {python engine} {policyId eventId : String} {policy : ResponsePolicy} {anomaly target correlationId : Json}
  {items : List Json} {now : Moment}

/-- Evidence that cannot be valid is rejected. -/
theorem rejected_of_invalid (active : engine.catalog.policy policyId = .ok policy)
    (timely : ¬ Overflows python anomaly items now)
    (invalid : ∀ findings, ¬ Validated python engine policyId anomaly (.arr items) target now findings) : ∃ message,
      evaluate python engine policyId anomaly (.arr items) target now correlationId =
        .error (.correlationRejected message) := by
  cases ended : evaluate python engine policyId anomaly (.arr items) target now correlationId with
  | ok result =>
      obtain ⟨findings, validated, _⟩ := evaluate_ok ended
      exact absurd validated (invalid findings)
  | error error =>
      rcases evaluate_fails active target timely correlationId error ended with distrust | ⟨findings, validated⟩
      · cases error with
        | correlationRejected message => exact ⟨message, rfl⟩
        | _ => exact distrust.elim
      · exact absurd validated (invalid findings)

/-- The reference of a signal without white space at its ends. -/
def identityOf (item : Json) : String :=
  match fieldOf item "reference" with
  | .str reference => strip reference
  | _ => ""

/-- A valid signal has the reference of its item, which is not empty. -/
theorem Admits.identity {item : Json} {signal : Signal} (admits : Admits python item signal) :
    identityOf item = signal.reference ∧ signal.reference ≠ "" := by
  unfold Admits validateSignal at admits
  dsimp only at admits
  split at admits
  · rename_i fields
    simp only [Check.bind_ok, Check.guard_ok, Check.pure_ok, exists_const] at admits
    obtain ⟨known, -, type, -, reference, named, observedAt, -, -, target, -, severity, -, count, -, confidence, -, rfl⟩ :=
      admits
    unfold signalReference at named
    split at named
    · rename_i text given
      split at named
      · cases named
      · rename_i visible
        cases named
        exact ⟨by simp only [identityOf, fieldOf, given], visible⟩
    · cases named
  · cases admits

/-- The items of valid evidence have distinct identities that are not empty. -/
theorem Validated.identities {findings : Findings}
    (validated : Validated python engine policyId anomaly (.arr items) target now findings) :
    (items.map identityOf).Nodup ∧
      ∀ item ∈ items, identityOf item ≠ "" ∧ identityOf item ≠ findings.anomaly.eventId := by
  obtain ⟨read, admitted, distinct, sorted⟩ := validateIndependentSignals_iff.mp validated.signals
  have same : items.map identityOf = read.map (·.reference) :=
    Check.map_related admitted fun _ _ admits => admits.identity.1
  refine ⟨same ▸ distinct, fun item listed => ?_⟩
  have agree : (∀ item ∈ items, identityOf item ≠ "" ∧ identityOf item ≠ findings.anomaly.eventId) ↔
      ∀ signal ∈ read, signal.reference ≠ "" ∧ signal.reference ≠ findings.anomaly.eventId :=
    Check.forall_related admitted fun _ _ admits => by rw [admits.identity.1]
  refine agree.mpr (fun signal member => ?_) item listed
  obtain ⟨item, _, admits⟩ := Check.exists_of_mem admitted member
  have present : signal ∈ findings.signals := by
    rw [sorted, List.mem_insertionSort]
    exact member
  exact ⟨admits.identity.2, (validated.independent signal present).2⟩

/-- The identity of a signal is its stripped reference. -/
theorem identityOf_eq {item : Json} {reference : String} (given : fieldOf item "reference" = .str reference) :
    identityOf item = strip reference := by
  rw [identityOf, given]

/-- Repeated references are never valid. -/
theorem repetition_invalid (repeats : RepeatsReference items) (findings : Findings) :
    ¬ Validated python engine policyId anomaly (.arr items) target now findings := by
  intro validated
  obtain ⟨before, item, between, other, after, rfl, reference, again, first, second, same⟩ := repeats
  have distinct := validated.identities.1
  simp only [List.map_append, List.map_cons, List.nodup_append, List.nodup_cons] at distinct
  refine distinct.2.1.1 (List.mem_append.mpr (Or.inr ?_))
  rw [identityOf_eq first, identityOf_eq second, same]
  exact List.mem_cons_self

/-- A signal that refers to the anomaly is not valid when the event id has no white space at its ends. -/
theorem self_reference_invalid (given : fieldOf anomaly "event_id" = .str eventId)
    (plain : strip eventId = eventId ∨ strip eventId = "") (refers : RefersToAnomaly anomaly items)
    (findings : Findings) : ¬ Validated python engine policyId anomaly (.arr items) target now findings := by
  intro validated
  obtain ⟨item, listed, found, reference, named, written, same⟩ := refers
  cases given.symm.trans named
  have read := (validateAnomaly_ok validated.anomaly).eventId
  cases given.symm.trans read
  obtain ⟨visible, different⟩ := validated.identities.2 item listed
  rw [identityOf_eq written, same] at visible different
  rcases plain with plain | blank
  · exact different plain
  · exact visible blank

end Identifiers

section Renaming

variable {python : Python} {fields : List (String × Json)}

/-- A field of another name is looked up as before. -/
theorem lookup_renamed {name other : String} {value : Json} (different : other ≠ name) :
    List.lookup other ((name, value) :: fields) = fields.lookup other := by
  rw [List.lookup_cons, beq_eq_false_iff_ne.mpr different]

theorem get_renamed {name other : String} {value : Json} (different : other ≠ name) :
    Json.get ((name, value) :: fields) other = Json.get fields other := by
  rw [Json.get, lookup_renamed different, Json.get]

theorem get_named {name : String} {value : Json} : Json.get ((name, value) :: fields) name = value := by
  simp [Json.get]

/-- Any text is an event id of an anomaly. -/
theorem validateAnomaly_renamed {eventId : String} {value : Json} {anomaly : Anomaly} (named : eventId ≠ "")
    (passed : validateAnomaly python (.obj (("event_id", value) :: fields)) = .ok anomaly) :
    validateAnomaly python (.obj (("event_id", .str eventId) :: fields)) = .ok { anomaly with eventId } := by
  simp only [validateAnomaly, Check.bind_ok, Check.guard_ok, Check.pure_ok] at passed ⊢
  simp (disch := decide) only [get_renamed, get_named] at passed ⊢
  obtain ⟨_, _, modelId, modelled, score, scored, threshold, bounded, isAnomaly, flagged, _, agrees, observedAt, observed,
    target, aimed, rfl⟩ := passed
  exact ⟨eventId, by simp [nonEmptyText, named], modelId, modelled, score, scored, threshold, bounded, isAnomaly, flagged,
    (), agrees, observedAt, observed, target, aimed, rfl⟩

/-- Any visible text is a reference of a signal. -/
theorem admits_renamed {reference : String} {value : Json} {signal : Signal} (visible : strip reference ≠ "")
    (admits : Admits python (.obj (("reference", value) :: fields)) signal) :
    Admits python (.obj (("reference", .str reference) :: fields)) { signal with reference := strip reference } := by
  simp only [Admits, validateSignal, Check.bind_ok, Check.guard_ok, Check.pure_ok, rejectUnknown, unknownFields,
    List.map_cons, wholeField, confidenceField, numberField] at admits ⊢
  simp (disch := decide) only [get_renamed, get_named, lookup_renamed] at admits ⊢
  obtain ⟨_, known, type, typed, _, _, observedAt, observed, _, _, rest⟩ := admits
  obtain ⟨target, aimed, severity, severe, count, counted, confidence, trusted, rfl⟩ := rest
  exact ⟨(), known, type, typed, strip reference, by simp [signalReference, visible], observedAt, observed, (), by simp,
    target, aimed, severity, severe, count, counted, confidence, trusted, rfl⟩

end Renaming

section Desk

/-- The desk with its real digests. -/
def hashingPython : Python := { deskPython with sha256Hex := Sha256.hexDigest }

def anomalyNamed (eventId : String) : Json :=
  deskEvidence [("event_id", .str eventId), ("model_id", .str "approved-model"),
    ("score", .float (.finite (mkRat 15 16))), ("threshold", .float (.finite (mkRat 7 8))), ("is_anomaly", .bool true)]

/-- Twenty failed logins with a given reference. -/
def loginsNamed (reference : String) : Json :=
  deskEvidence [("reference", .str reference), ("type", .str "authentication"), ("count", .int 20)]

def decisionNamed (eventId reference : String) : Except PyError DecisionResult :=
  evaluate hashingPython deskEngine "COR-001" (anomalyNamed eventId) (.arr [loginsNamed reference]) deskTarget.toJson
    (.aware deskTime) .null

/-- What the desk reads. -/
def anomalyRead (eventId : String) : Anomaly :=
  ⟨eventId, "approved-model", .finite (mkRat 15 16), .finite (mkRat 7 8), true, rfc3339 deskTime, deskTarget⟩

def loginsRead (reference : String) : Signal :=
  ⟨.authentication, reference, rfc3339 deskTime, deskTarget, none, some 20, none⟩

/-- The anomaly of the examples is read for every name but the empty one. -/
theorem anomalyNamed_read {eventId : String} (named : eventId ≠ "") :
    validateAnomaly hashingPython (anomalyNamed eventId) = .ok (anomalyRead eventId) := by
  have sample : validateAnomaly hashingPython (anomalyNamed "ai-event") = .ok (anomalyRead "ai-event") :=
    Check.ok_of_toOption (by decide +kernel)
  exact validateAnomaly_renamed named sample

/-- The logins of the examples are read under their stripped reference. -/
theorem loginsNamed_read {reference : String} (visible : strip reference ≠ "") :
    validateIndependentSignals hashingPython (.arr [loginsNamed reference]) = .ok [loginsRead (strip reference)] := by
  have sample : Admits hashingPython (loginsNamed "ai-event") (loginsRead "ai-event") :=
    Check.ok_of_toOption (by decide +kernel)
  exact validateIndependentSignals_iff.mpr
    ⟨[_], .cons (admits_renamed visible sample) .nil, List.nodup_singleton _, rfl⟩

example : (validateIndependentSignals hashingPython (.arr [loginsNamed " login "])).toOption = some [loginsRead "login"] := by
  decide +kernel

/-- The engine of the examples has an active policy for its rule. -/
theorem desk_active : ∃ policy, deskEngine.catalog.policy "COR-001" = .ok policy := ⟨_, Check.ok_get (by decide +kernel)⟩

/-- White space at the ends of an event id hides the anomaly. The decision is then that of its two parts. -/
theorem decisionNamed_eq {eventId : String} {policy : ResponsePolicy} (spaced : strip eventId ≠ eventId)
    (visible : strip eventId ≠ "") (active : deskEngine.catalog.policy "COR-001" = .ok policy) :
    ∃ identifier correlation, decisionNamed eventId eventId =
      match rejectionReason hashingPython deskEngine.catalog policy (anomalyRead eventId) [loginsRead (strip eventId)]
        deskTarget deskTime with
      | some rejection => .ok (reject policy (anomalyRead eventId) [loginsRead (strip eventId)] deskTarget identifier
          correlation deskTime rejection)
      | none => request hashingPython deskEngine policy (anomalyRead eventId) [loginsRead (strip eventId)] deskTarget
          identifier correlation deskTime := by
  have named : eventId ≠ "" := fun empty => visible (by rw [empty]; decide)
  have aimed : validateTarget hashingPython deskTarget.toJson = .ok deskTarget := Check.ok_of_toOption (by decide +kernel)
  have independent : checkSignals (anomalyRead eventId) deskTarget [loginsRead (strip eventId)] = .ok () := by
    refine checkSignals_iff.mpr fun signal member => ?_
    rw [List.mem_singleton.mp member]
    exact ⟨rfl, spaced⟩
  have same : Check.guard ((anomalyRead eventId).target = deskTarget)
      (PyError.correlationRejected "anomaly target differs from the requested response target") = .ok () :=
    Check.guard_ok.mpr rfl
  obtain ⟨correlation, labelled⟩ := correlationOf_null hashingPython
    (decisionMaterial policy (anomalyRead eventId) deskTarget [loginsRead (strip eventId)])
  refine ⟨identifierOf hashingPython "dec"
    (decisionMaterial policy (anomalyRead eventId) deskTarget [loginsRead (strip eventId)]), correlation, ?_⟩
  simp only [decisionNamed, evaluate, active, decisionTime, anomalyNamed_read named, aimed, loginsNamed_read visible, same,
    independent, labelled, bind, Except.bind]
  rw [if_neg (List.cons_ne_nil _ _)]
  cases rejectionReason hashingPython deskEngine.catalog policy (anomalyRead eventId) [loginsRead (strip eventId)] deskTarget
    deskTime with
  | some rejection => rfl
  | none => rfl

/-- The desk signs every request. -/
theorem request_command {policy : ResponsePolicy} {anomaly : Anomaly} {signals : List Signal} {identifier correlation : String} :
    ∃ result command, request hashingPython deskEngine policy anomaly signals deskTarget identifier correlation deskTime =
      .ok result ∧ result.command = some command := ⟨_, _, rfl, rfl⟩

/-- A name with blanks around it gives a decision on its own model output. -/
theorem decisionNamed_ok {eventId : String} (spaced : strip eventId ≠ eventId) (visible : strip eventId ≠ "") :
    ∃ result, decisionNamed eventId eventId = .ok result := by
  obtain ⟨policy, active⟩ := desk_active
  obtain ⟨identifier, correlation, decision⟩ := decisionNamed_eq spaced visible active
  rw [decision]
  split
  · exact ⟨_, rfl⟩
  · obtain ⟨result, _, requested, -⟩ := request_command
    exact ⟨result, requested⟩

/-- The times of the desk do not overflow. -/
theorem desk_timely (text : String) :
    ¬ Overflows hashingPython (anomalyNamed text) [loginsNamed text] (.aware deskTime) := by
  have read : ¬ BeyondYears hashingPython (.str "2026-01-01T08:00:00+08:00") := by
    have within : hashingPython.fromIsoformat "2026-01-01T08:00:00+08:00" = some (.aware deskTime) := by decide +kernel
    rintro ⟨_, _, same, beyond⟩
    cases same
    cases within.symm.trans beyond
  rintro (⟨_, late⟩ | ⟨evidence, member, beyond⟩)
  · cases late
  · rcases List.mem_pair.mp member with rfl | rfl
    · exact read beyond
    · exact read beyond

end Desk

end ClosedLoop.Response
