import ClosedLoop.Proof.Decision.Agreement
import ClosedLoop.Proof.Decision.Binding

namespace ClosedLoop.Response

open ClosedLoop.Library

section Order

/-- Any two signals are ordered. -/
theorem before_total (first second : Signal) : first.before second ∨ second.before first := by
  unfold Signal.before
  rcases lt_trichotomy first.type.text second.type.text with less | same | more
  · exact .inl (.inl less)
  · rcases le_total first.reference second.reference with le | ge
    · exact .inl (.inr ⟨same, le⟩)
    · exact .inr (.inr ⟨same.symm, ge⟩)
  · exact .inr (.inl more)

/-- The order on signals is transitive. -/
theorem before_trans {first second third : Signal} (here : first.before second) (there : second.before third) :
    first.before third := by
  rcases here with less | ⟨same, le⟩
  · rcases there with further | ⟨equal, -⟩
    · exact .inl (less.trans further)
    · exact .inl (equal ▸ less)
  · rcases there with further | ⟨equal, after⟩
    · exact .inl (same ▸ further)
    · exact .inr ⟨same.trans equal, le.trans after⟩

instance : Std.Total Signal.before := ⟨before_total⟩

instance : IsTrans Signal Signal.before := ⟨fun _ _ _ => before_trans⟩

/-- Signals before each other have one reference. -/
theorem before_antisymm {first second : Signal} (here : first.before second) (there : second.before first) :
    first.reference = second.reference := by
  rcases here with less | ⟨same, le⟩
  · rcases there with more | ⟨equal, -⟩
    · exact absurd more (lt_asymm less)
    · exact absurd less (equal ▸ lt_irrefl _)
  · rcases there with more | ⟨-, ge⟩
    · exact absurd more (same ▸ lt_irrefl _)
    · exact le_antisymm le ge

/-- The order of signals with distinct references does not depend on the order in which they came. -/
theorem insertionSort_unique {first second : List Signal} (perm : first.Perm second)
    (distinct : (first.map (·.reference)).Nodup) :
    first.insertionSort Signal.before = second.insertionSort Signal.before := by
  have sorted : (first.insertionSort Signal.before).Perm (second.insertionSort Signal.before) :=
    (List.perm_insertionSort _ _).trans (perm.trans (List.perm_insertionSort _ _).symm)
  refine sorted.eq_of_pairwise (fun signal other member also here there => ?_) (List.pairwise_insertionSort _ _)
    (List.pairwise_insertionSort _ _)
  have listed := (List.mem_insertionSort _).mp member
  have alsoListed := perm.mem_iff.mpr ((List.mem_insertionSort _).mp also)
  exact List.inj_on_of_nodup_map distinct listed alsoListed (before_antisymm here there)

end Order

section Texts

/-- Targets that are written alike are equal. -/
theorem Target.toJson_injective {first second : Target} (same : first.toJson.canonical = second.toJson.canonical) :
    first = second := by
  have field := Json.canonical_field same
  have types : first.type = second.type :=
    TargetType.text_injective (by simpa [List.lookup_cons] using field "type")
  have values : first.value = second.value := by simpa [List.lookup_cons] using field "value"
  cases first
  cases second
  simp_all

/-- A signal is determined by its text. -/
theorem Signal.toJson_injective {first second : Signal} (same : first.toJson.canonical = second.toJson.canonical) :
    first = second := by
  have field := Json.canonical_field same
  have types : first.type = second.type := SignalType.text_injective (by simpa using field "type")
  have references : first.reference = second.reference := by simpa [List.lookup_cons] using field "reference"
  have times : first.observedAt = second.observedAt :=
    Rfc3339.text_injective (by simpa [List.lookup_cons] using field "observed_at")
  have targets : first.target = second.target :=
    Target.toJson_injective (by simpa [List.lookup_cons] using field "target")
  have severities : first.severity = second.severity := bound_injective (by
    simpa [optionalField, List.lookup_cons, List.lookup_append, Json.lookup_optional] using field "severity")
  have counts : first.count = second.count := bound_injective (by
    simpa [optionalField, List.lookup_cons, List.lookup_append, Json.lookup_optional] using field "count")
  have confidences : first.confidence = second.confidence := by
    have injective : Function.Injective (Json.canonical ∘ Json.float) := fun _ _ equal => Json.canonical_float.mp equal
    refine Option.map_injective injective ?_
    simpa [optionalField, List.lookup_cons, List.lookup_append, Json.lookup_optional] using field "confidence"
  cases first
  cases second
  simp_all

end Texts

section Identity

/-- What a containment is about. -/
structure SameContainment (first second : Findings) : Prop where
  policy : first.policy.sha256 = second.policy.sha256
  target : first.target = second.target
  eventId : first.anomaly.eventId = second.anomaly.eventId
  signals : first.signals.Perm second.signals

/-- No two of these texts have digests with the same first 24 digits. -/
def PrefixFree (python : Python) (texts : List String) : Prop :=
  ∀ first ∈ texts, ∀ second ∈ texts,
    truncate 24 (python.sha256Hex first) = truncate 24 (python.sha256Hex second) → first = second

/-- The texts that are hashed for the identity of a containment. -/
def Findings.texts (python : Python) (catalog : PolicyCatalog) (findings : Findings) : List String :=
  catalog.texts python findings.policy ++ [findings.material.canonical, (findings.containment python).canonical]

variable {python : Python}

/-- Fewer texts collide no more. -/
theorem PrefixFree.collisionFree {texts others : List String} (free : PrefixFree python texts)
    (contained : others ⊆ texts) : CollisionFree python others :=
  fun first member second also same => free first (contained member) second (contained also) (by rw [same])

/-- The material of a decision determines what the containment is about. -/
theorem material_same {first second : Findings} (same : first.material.canonical = second.material.canonical) :
    SameContainment first second := by
  have field := Json.canonical_field same
  have signals : first.signals = second.signals := Json.canonical_map_injective Signal.toJson_injective
    (by simpa [List.lookup_cons] using field "signals")
  exact {
    policy := by simpa [List.lookup_cons] using field "policy_sha256"
    target := Target.toJson_injective (by simpa [List.lookup_cons] using field "target")
    eventId := by simpa [List.lookup_cons] using field "anomaly_event_id"
    signals := signals ▸ List.Perm.refl _ }

/-- The material of a request determines what the containment is about. -/
theorem containment_same {first second : Findings}
    (same : (first.containment python).canonical = (second.containment python).canonical) :
    SameContainment first second := by
  have field := Json.canonical_field same
  have signals : first.signals = second.signals := Json.canonical_map_injective Signal.toJson_injective
    (by simpa [List.lookup_cons] using field "signals")
  exact {
    policy := by simpa [List.lookup_cons] using field "policy_sha256"
    target := Target.toJson_injective (by simpa [List.lookup_cons] using field "target")
    eventId := by simpa [List.lookup_cons] using field "anomaly_event_id"
    signals := signals ▸ List.Perm.refl _ }

/-- Identifiers of one kind are equal exactly when the digests begin in the same way. -/
theorem identifierOf_inj {kind : String} {first second : Json} :
    identifierOf python kind first = identifierOf python kind second ↔
      truncate 24 (python.sha256Hex first.canonical) = truncate 24 (python.sha256Hex second.canonical) := by
  unfold identifierOf sha256Hex
  rw [String.append_right_inj]

/-- Validated signals that are permutations of each other are in the same order. -/
theorem signals_eq {engine engine' : DecisionEngine} {policyId policyId' : String}
    {anomaly anomaly' signals signals' target target' : Json} {now now' : Moment} {first second : Findings}
    (validated : Validated python engine policyId anomaly signals target now first)
    (alsoValidated : Validated python engine' policyId' anomaly' signals' target' now' second)
    (perm : first.signals.Perm second.signals) : first.signals = second.signals := by
  obtain ⟨_, read, -, -, distinct, sorted⟩ := validateIndependentSignals_ok validated.signals
  obtain ⟨_, other, -, -, -, alsoSorted⟩ := validateIndependentSignals_ok alsoValidated.signals
  rw [sorted, alsoSorted]
  refine insertionSort_unique ?_ distinct
  rw [sorted, alsoSorted] at perm
  exact (List.perm_insertionSort _ read).symm.trans (perm.trans (List.perm_insertionSort _ other))

/-- An evaluation has one set of findings. -/
theorem Validated.unique {engine : DecisionEngine} {policyId : String} {anomaly signals target : Json} {now : Moment}
    {first second : Findings} (validated : Validated python engine policyId anomaly signals target now first)
    (again : Validated python engine policyId anomaly signals target now second) : first = second := by
  have policies := Option.some.inj (validated.policy.symm.trans again.policy)
  have times := Moment.aware.inj (validated.timestamp.symm.trans again.timestamp)
  have anomalies := Except.ok.inj (validated.anomaly.symm.trans again.anomaly)
  have targets := Except.ok.inj (validated.target.symm.trans again.target)
  have observed := Except.ok.inj (validated.signals.symm.trans again.signals)
  cases first
  cases second
  simp_all

/-- A command that an evaluation issued is the one for its findings. -/
theorem Validated.issued {engine : DecisionEngine} {policyId : String} {anomaly signals target correlationId raw : Json}
    {now : Moment} {findings : Findings} {result : DecisionResult}
    (validated : Validated python engine policyId anomaly signals target now findings)
    (evaluated : evaluate python engine policyId anomaly signals target now correlationId = .ok result)
    (carried : result.command = some raw) :
    ∃ correlation authorization, raw = findings.body python correlation authorization := by
  obtain ⟨other, again, concluded⟩ := evaluate_ok evaluated
  obtain ⟨correlation, signature, -, -, -, issued⟩ := concluded.issued carried
  cases validated.unique again
  exact ⟨correlation, _, issued⟩

end Identity

section Main

variable {python : Python} {engine engine' : DecisionEngine} {policyId policyId' : String}
  {anomaly anomaly' signals signals' target target' : Json} {now now' : Moment} {first second : Findings}

/-- Containments about the same thing have the same material. -/
theorem SameContainment.material {document document' : Json} (same : SameContainment first second)
    (loaded : PolicyCatalog.fromMapping python document = .ok engine.catalog)
    (alsoLoaded : PolicyCatalog.fromMapping python document' = .ok engine'.catalog)
    (validated : Validated python engine policyId anomaly signals target now first)
    (alsoValidated : Validated python engine' policyId' anomaly' signals' target' now' second)
    (free : PrefixFree python (first.texts python engine.catalog ++ second.texts python engine'.catalog)) :
    first.material = second.material := by
  have apart : CollisionFree python
      (engine.catalog.texts python first.policy ++ engine'.catalog.texts python second.policy) :=
    free.collisionFree fun text member => by
      rcases List.mem_append.mp member with here | there
      · exact List.mem_append_left _ (List.mem_append_left _ here)
      · exact List.mem_append_right _ (List.mem_append_left _ there)
  have listed : (policyId, first.policy) ∈ engine.catalog.policies := Table.mem_of_find? validated.policy
  have alsoListed : (policyId', second.policy) ∈ engine'.catalog.policies := Table.mem_of_find? alsoValidated.policy
  obtain ⟨rule, -⟩ := sha256_binds loaded alsoLoaded listed alsoListed apart same.policy
  unfold Findings.material decisionMaterial
  rw [rule.id, same.policy, same.eventId, same.target, signals_eq validated alsoValidated same.signals]

/-- A raw signal and another spelling of it. -/
structure SpelledAlike (python : Python) (item other : Json) : Prop where
  type : fieldOf item "type" = fieldOf other "type"
  reference : strip (fieldOf item "reference").text = strip (fieldOf other "reference").text
  observedAt : observed python item = observed python other
  target : targetOf python item = targetOf python other
  severity : floatOf (fieldOf item "severity") = floatOf (fieldOf other "severity")
  count : floatOf (fieldOf item "count") = floatOf (fieldOf other "count")
  confidence : finiteOf (fieldOf item "confidence") = finiteOf (fieldOf other "confidence")

/-- Raw evidence in another order and with other spellings. -/
structure Respelled (python : Python) (anomaly signals target anomaly' signals' target' : Json) : Prop where
  eventId : fieldOf anomaly "event_id" = fieldOf anomaly' "event_id"
  target : validateTarget python target = validateTarget python target'
  signals : ∃ items others reordered, signals = .arr items ∧ signals' = .arr others ∧ others.Perm reordered ∧
    List.Forall₂ (SpelledAlike python) items reordered

/-- Two spellings of a signal are read to one. -/
theorem SpelledAlike.reads {item other : Json} {signal signal' : Signal} (alike : SpelledAlike python item other)
    (read : Reads python item signal) (also : Reads python other signal') : signal = signal' := by
  have counted {number number' : Option Nat}
      (same : number.map (fun value : Nat => (value : Rat)) = number'.map fun value : Nat => (value : Rat)) :
      number = number' := Option.map_injective (fun _ _ equal => Rat.natCast_inj.mp equal) same
  have types := Json.str.inj (read.type.symm.trans (alike.type.trans also.type))
  have references : signal.reference = signal'.reference := by
    obtain ⟨text, written, trimmed⟩ := read.reference
    obtain ⟨text', written', trimmed'⟩ := also.reference
    have same := alike.reference
    rw [written, written'] at same
    exact trimmed.symm.trans (same.trans trimmed')
  have times := Option.some.inj (read.observedAt.symm.trans (alike.observedAt.trans also.observedAt))
  have targets := Option.some.inj (read.target.symm.trans (alike.target.trans also.target))
  have severities := counted (read.severity.symm.trans (alike.severity.trans also.severity))
  have counts := counted (read.count.symm.trans (alike.count.trans also.count))
  have confidences := read.confidence.symm.trans (alike.confidence.trans also.confidence)
  cases signal
  cases signal'
  simp only [Signal.mk.injEq]
  exact ⟨SignalType.text_injective types, references, times, targets, severities, counts, confidences⟩

/-- Two spellings of a list are read to one list. -/
theorem read_eq {items others : List Json} {read read' : List Signal}
    (alike : List.Forall₂ (SpelledAlike python) items others) (each : List.Forall₂ (Reads python) items read)
    (also : List.Forall₂ (Reads python) others read') : read = read' := by
  induction alike generalizing read read' with
  | nil =>
      cases each
      cases also
      rfl
  | cons here _ ih =>
      cases each with
      | cons reads rest =>
          cases also with
          | cons reads' rest' => rw [here.reads reads reads', ih rest rest']

/-- Evidence that is respelled under the same policy is about the same containment. -/
theorem Respelled.same (respelled : Respelled python anomaly signals target anomaly' signals' target')
    (validated : Validated python engine policyId anomaly signals target now first)
    (alsoValidated : Validated python engine' policyId' anomaly' signals' target' now' second)
    (policies : first.policy.sha256 = second.policy.sha256) : SameContainment first second := by
  obtain ⟨items, others, reordered, listed, alsoListed, perm, alike⟩ := respelled.signals
  obtain ⟨items', read, given, each, -, sorted⟩ := validated.read
  obtain ⟨others', read', given', also, -, alsoSorted⟩ := alsoValidated.read
  cases listed.symm.trans given
  cases alsoListed.symm.trans given'
  obtain ⟨moved, along, back⟩ := List.perm_comp_forall₂ perm.symm also
  have same := read_eq alike each along
  exact {
    policy := policies
    target := Except.ok.inj (validated.target.symm.trans (respelled.target.trans alsoValidated.target))
    eventId := Json.str.inj ((validateAnomaly_ok validated.anomaly).eventId.symm.trans
      (respelled.eventId.trans (validateAnomaly_ok alsoValidated.anomaly).eventId))
    signals := sorted.trans (same ▸ back.trans alsoSorted.symm) }

/-- The identity of a containment is exactly the policy and the normalized evidence. -/
theorem containment_identity {document document' correlationId correlationId' raw raw' : Json}
    {result result' : DecisionResult}
    (loaded : PolicyCatalog.fromMapping python document = .ok engine.catalog)
    (alsoLoaded : PolicyCatalog.fromMapping python document' = .ok engine'.catalog)
    (evaluated : evaluate python engine policyId anomaly signals target now correlationId = .ok result)
    (alsoEvaluated : evaluate python engine' policyId' anomaly' signals' target' now' correlationId' = .ok result')
    (carried : result.command = some raw) (alsoCarried : result'.command = some raw')
    (validated : Validated python engine policyId anomaly signals target now first)
    (alsoValidated : Validated python engine' policyId' anomaly' signals' target' now' second)
    (free : PrefixFree python (first.texts python engine.catalog ++ second.texts python engine'.catalog)) :
    (fieldOf raw "idempotency_key" = fieldOf raw' "idempotency_key" ↔ SameContainment first second) ∧
    (fieldOf raw "request_id" = fieldOf raw' "request_id" ↔ SameContainment first second) ∧
    (fieldOf raw "decision_event_id" = fieldOf raw' "decision_event_id" ↔ SameContainment first second) ∧
    (Respelled python anomaly signals target anomaly' signals' target' →
      first.policy.sha256 = second.policy.sha256 → SameContainment first second) := by
  obtain ⟨correlation, authorization, rfl⟩ := validated.issued evaluated carried
  obtain ⟨correlation', authorization', rfl⟩ := alsoValidated.issued alsoEvaluated alsoCarried
  have materials (same : SameContainment first second) : first.material = second.material :=
    same.material loaded alsoLoaded validated alsoValidated free
  have containments (same : SameContainment first second) : first.containment python = second.containment python := by
    unfold Findings.containment Findings.decisionEventId requestMaterial
    rw [materials same, same.policy, same.eventId, same.target, signals_eq validated alsoValidated same.signals]
  have decided (same : truncate 24 (python.sha256Hex first.material.canonical) =
      truncate 24 (python.sha256Hex second.material.canonical)) : SameContainment first second :=
    material_same (free _ (by simp [Findings.texts]) _ (by simp [Findings.texts]) same)
  have requested (same : truncate 24 (python.sha256Hex (first.containment python).canonical) =
      truncate 24 (python.sha256Hex (second.containment python).canonical)) : SameContainment first second :=
    containment_same (free _ (by simp [Findings.texts]) _ (by simp [Findings.texts]) same)
  refine ⟨⟨fun same => ?_, fun same => ?_⟩, ⟨fun same => ?_, fun same => ?_⟩, ⟨fun same => ?_, fun same => ?_⟩,
    fun respelled policies => respelled.same validated alsoValidated policies⟩
  · have keys : first.idempotencyKey python = second.idempotencyKey python := Json.str.inj same
    refine requested ?_
    unfold Findings.idempotencyKey sha256Hex at keys
    rw [(String.append_right_inj _).mp keys]
  · change Json.str (first.idempotencyKey python) = .str (second.idempotencyKey python)
    rw [Findings.idempotencyKey, Findings.idempotencyKey, containments same]
  · exact requested (identifierOf_inj.mp (Json.str.inj same))
  · change Json.str (first.requestId python) = .str (second.requestId python)
    rw [Findings.requestId, Findings.requestId, containments same]
  · exact decided (identifierOf_inj.mp (Json.str.inj same))
  · change Json.str (first.decisionEventId python) = .str (second.decisionEventId python)
    rw [Findings.decisionEventId, Findings.decisionEventId, materials same]

end Main

section Desk

/-- The desk hashes four different texts. -/
theorem deskDigests_nodup : deskDigests.keys.Nodup := by
  have rule (others : List (String × Json)) (absent : others.lookup "id" = none) :
      deskRule.canonical ≠ (Json.obj others).canonical := Json.canonical_ne "id" (by simp) absent
  have bound (others : List (String × Json)) (absent : others.lookup "rule_sha256" = none) :
      deskBound.canonical ≠ (Json.obj others).canonical :=
    Json.canonical_ne "rule_sha256" (by simp) absent
  have material : deskMaterial.canonical ≠ deskContainment.canonical :=
    Json.canonical_ne "policy_id" (by simp) (by simp [List.lookup_cons])
  simp only [Table.keys, deskDigests, List.map_cons, List.map_nil, List.nodup_cons, List.mem_cons, List.not_mem_nil,
    or_false, not_or, not_false_eq_true, List.nodup_nil, and_true]
  exact ⟨⟨rule _ (by simp [List.lookup_cons]), rule _ (by simp [List.lookup_cons]), rule _ (by simp [List.lookup_cons])⟩,
    ⟨bound _ (by simp [List.lookup_cons]), bound _ (by simp [List.lookup_cons])⟩, material⟩

/-- The hash of the examples at a listed text. -/
theorem desk_sha256 {text digest : String} (listed : (text, digest) ∈ deskDigests) :
    deskPython.sha256Hex text = digest := by
  change (deskDigests.find? text).getD "" = digest
  rw [Table.find?_of_mem deskDigests_nodup listed, Option.getD_some]

/-- The listed digests differ in their prefixes. -/
theorem desk_prefixFree : PrefixFree deskPython deskDigests.keys := by
  intro first member second also same
  obtain ⟨row, listed, rfl⟩ := List.mem_map.mp member
  obtain ⟨line, alsoListed, rfl⟩ := List.mem_map.mp also
  rw [desk_sha256 listed, desk_sha256 alsoListed] at same
  have distinct : (deskDigests.map fun row => truncate 24 row.2).Nodup := by decide +kernel
  rw [List.inj_on_of_nodup_map distinct listed alsoListed same]

/-- The policy of the desk as it was loaded. -/
theorem deskPolicy_loaded {policy : ResponsePolicy} (found : deskCatalog.policies.find? "COR-001" = some policy) :
    policy.rule = deskRule := by
  have rules : (deskCatalog.policies.find? "COR-001").map ResponsePolicy.rule = some deskRule := rfl
  rw [found, Option.map_some] at rules
  exact Option.some.inj rules

/-- The catalog of the examples is the one that its document loads. -/
theorem deskCatalog_loaded : PolicyCatalog.fromMapping deskPython deskDocument = .ok deskCatalog :=
  Check.ok_get deskDocument_loads

/-- Its safeguards, as they are hashed. -/
theorem deskCatalog_safeguards :
    deskCatalog.safeguards = safeguardMaterial ⟨[], [], [.v4 ⟨203, 0, 113, 1⟩], [], [], [], false⟩ ⟨10, 60⟩ 60 600 900 := by
  rfl

/-- The hash of the desk's policy covers its rule and the safeguards of the desk. -/
theorem desk_bound {catalog : PolicyCatalog} {policy : ResponsePolicy} (rule : policy.rule = deskRule)
    (safeguards : catalog.safeguards = deskCatalog.safeguards) : catalog.bound deskPython policy = deskBound := by
  have digest : (deskRule.canonical, "6d13b8778b5dcb8630b57af2ef8b876c92ac16e3e0a8fb683e79ee45eaa67491") ∈ deskDigests :=
    List.mem_cons_self
  unfold PolicyCatalog.bound sha256Hex
  rw [rule, desk_sha256 digest, safeguards, deskCatalog_safeguards]
  rfl

/-- The texts that the desk hashes for a decision. -/
theorem desk_texts {count : Json} {findings : Findings}
    (read : validateIndependentSignals deskPython (.arr [deskSignal count]) = .ok [deskRead])
    (validated : Validated deskPython deskEngine "COR-001" deskAnomaly (.arr [deskSignal count]) deskTarget.toJson
      (.aware deskTime) findings) : findings.texts deskPython deskCatalog = deskDigests.keys := by
  have listed : ("COR-001", findings.policy) ∈ deskCatalog.policies := Table.mem_of_find? validated.policy
  have rule := deskPolicy_loaded validated.policy
  have digests : (deskBound.canonical, deskSha256) ∈ deskDigests ∧ (deskMaterial.canonical,
      "e36ceaff4022b5eaf0c659c796ef41979e2438978ef3911ac55bcde97ed74ad2") ∈ deskDigests := by simp [deskDigests]
  have bound := desk_bound rule rfl
  have sha256 : findings.policy.sha256 = deskSha256 := by
    rw [PolicyCatalog.fromMapping_ok deskCatalog_loaded listed]
    unfold sha256Hex
    rw [bound, desk_sha256 digests.1]
  have id : findings.policy.id = "COR-001" := deskCatalog.keyed _ listed
  have eventId : findings.anomaly.eventId = "ai-event" :=
    (Json.str.inj (validateAnomaly_ok validated.anomaly).eventId).symm
  have normal : validateTarget deskPython deskTarget.toJson = .ok deskTarget := by decide +kernel
  have target : findings.target = deskTarget := Except.ok.inj (validated.target.symm.trans normal)
  have signals : findings.signals = [deskRead] := Except.ok.inj (validated.signals.symm.trans read)
  have material : findings.material = deskMaterial := by
    unfold Findings.material decisionMaterial
    rw [id, sha256, eventId, target, signals]
    rfl
  have decided : findings.decisionEventId deskPython = "dec-e36ceaff4022b5eaf0c659c7" := by
    unfold Findings.decisionEventId identifierOf sha256Hex
    rw [material, desk_sha256 digests.2]
    decide +kernel
  have containment : findings.containment deskPython = deskContainment := by
    unfold Findings.containment requestMaterial
    rw [decided, sha256, eventId, target, signals]
    rfl
  unfold Findings.texts PolicyCatalog.texts
  rw [rule, bound, material, containment]
  rfl

/-- Another spelling of the count leaves the identity of the containment as it is. -/
theorem containment_identity_desk :
    ∃ result result' raw raw', deskDecision (.int 20) = .ok result ∧ deskDecision (.float (.finite 20)) = .ok result' ∧
      result.command = some raw ∧ result'.command = some raw' ∧
      fieldOf raw "idempotency_key" = fieldOf raw' "idempotency_key" := by
  obtain ⟨result, raw, evaluated, carried⟩ := deskDecision_requests
  obtain ⟨result', raw', evaluated', carried'⟩ := deskDecision_respelled
  have read : validateIndependentSignals deskPython (.arr [deskSignal (.int 20)]) = .ok [deskRead] := by decide +kernel
  have read' : validateIndependentSignals deskPython (.arr [deskSignal (.float (.finite 20))]) = .ok [deskRead] := by
    decide +kernel
  obtain ⟨first, validated, -⟩ := evaluate_ok evaluated
  obtain ⟨second, validated', -⟩ := evaluate_ok evaluated'
  have free : PrefixFree deskPython
      (first.texts deskPython deskEngine.catalog ++ second.texts deskPython deskEngine.catalog) := by
    have same : first.texts deskPython deskCatalog ++ second.texts deskPython deskCatalog ⊆ deskDigests.keys := by
      rw [desk_texts read validated, desk_texts read' validated']
      exact List.append_subset.mpr ⟨List.Subset.refl _, List.Subset.refl _⟩
    exact fun text member other also => desk_prefixFree text (same member) other (same also)
  have identity := containment_identity deskCatalog_loaded deskCatalog_loaded evaluated evaluated' carried carried'
    validated validated' free
  refine ⟨result, result', raw, raw', evaluated, evaluated', carried, carried', ?_⟩
  refine identity.1.mpr ?_
  have policies : first.policy = second.policy := Option.some.inj (validated.policy.symm.trans validated'.policy)
  have anomalies := Except.ok.inj (validated.anomaly.symm.trans validated'.anomaly)
  exact {
    policy := by rw [policies]
    target := Except.ok.inj (validated.target.symm.trans validated'.target)
    eventId := by rw [anomalies]
    signals := by
      rw [Except.ok.inj (validated.signals.symm.trans read), Except.ok.inj (validated'.signals.symm.trans read')] }

end Desk

end ClosedLoop.Response
