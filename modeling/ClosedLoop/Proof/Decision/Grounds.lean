import ClosedLoop.Proof.Decision.Identity
import ClosedLoop.Proof.Response.Safety

namespace ClosedLoop.Response

open ClosedLoop.Library

/-- One evaluation that a decision engine was asked for. -/
structure Evaluation where
  engine : DecisionEngine
  policyId : String
  anomaly : Json
  independentSignals : Json
  target : Json
  now : Moment
  correlationId : Json

/-- The evaluation returned a command whose signature covers the text of this payload. -/
def Evaluation.issues (python : Python) (evaluation : Evaluation) (payload : Json) : Prop :=
  ∃ result command, evaluate python evaluation.engine evaluation.policyId evaluation.anomaly
    evaluation.independentSignals evaluation.target evaluation.now evaluation.correlationId = .ok result ∧
    result.command = some (Command.toJson command) ∧ command.signaturePayload.canonical = payload.canonical

/-- The keys of a ring are held by these engines alone, so a valid signature belongs to a command that one of them
issued. -/
def Unforged (python : Python) (engines : DecisionEngine → Prop) (authenticator : CommandAuthenticator) : Prop :=
  ∀ keyId signature payload, keyId ∈ authenticator.ring → authenticator.signatureValid keyId signature payload = true →
    ∃ evaluation : Evaluation, engines evaluation.engine ∧ evaluation.issues python payload

/-- A containment at a time rests on the evidence of an evaluation under this policy. -/
structure Grounded (python : Python) (evaluation : Evaluation) (command : Command) (now : Int)
    (policy : ResponsePolicy) (items : List Json) (instant : Int) : Prop where
  evaluated : evaluation.now = .aware instant ∧ evaluation.independentSignals = .arr items
  active : evaluation.engine.catalog.policies.find? evaluation.policyId = some policy
  eligible : Eligible python evaluation.engine.catalog policy evaluation.anomaly items command.target instant
  consistent : Consistent python evaluation.anomaly items command.target
  ordered : command.policy = .of policy ∧ command.action = policy.action ∧ command.ttlSeconds.value = policy.ttlSeconds
  recent : ReadsBack python (rfc3339 (instant + seconds evaluation.engine.catalog.commandValidForSeconds)) →
    ∀ item ∈ evaluation.anomaly :: items, ∃ time, observed python item = some time ∧
      now - seconds evaluation.engine.catalog.evidenceMaxAgeSeconds -
        seconds evaluation.engine.catalog.commandValidForSeconds < time.parse

section Payloads

variable {first second : Command}

/-- The signed payload is a function of the document. -/
theorem signaturePayload_of_toJson (same : first.toJson = second.toJson) :
    first.signaturePayload = second.signaturePayload := by
  simp only [Command.toJson, Command.fields, Command.unsigned, Json.obj.injEq, List.cons.injEq, Prod.mk.injEq,
    List.cons_append, List.nil_append, true_and, and_true] at same
  simp only [Command.signaturePayload, Command.fields, Command.unsigned, same]

/-- Numbers that are written alike are equal. -/
theorem WholeNumber.toJson_value {first second : WholeNumber}
    (same : first.toJson.canonical = second.toJson.canonical) : first.value = second.value := by
  obtain ⟨value, float⟩ := first
  obtain ⟨other, alsoFloat⟩ := second
  rw [Json.canonical_eq_iff] at same
  cases float <;> cases alsoFloat <;> simp_all [WholeNumber.toJson, Json.sortKeys]

/-- References that are written alike are equal. -/
theorem PolicyReference.of_canonical {first second : PolicyReference}
    (same : (Json.obj [("id", .str first.id), ("version", .str first.version),
        ("sha256", .str first.sha256)]).canonical =
      (Json.obj [("id", .str second.id), ("version", .str second.version),
        ("sha256", .str second.sha256)]).canonical) : first = second := by
  have field := Json.canonical_field same
  have id : first.id = second.id := by simpa [List.lookup_cons] using field "id"
  have version : first.version = second.version := by simpa [List.lookup_cons] using field "version"
  have sha256 : first.sha256 = second.sha256 := by simpa [List.lookup_cons] using field "sha256"
  cases first
  cases second
  simp_all

/-- Commands whose signatures cover the same text order the same. -/
theorem signaturePayload_orders (same : first.signaturePayload.canonical = second.signaturePayload.canonical) :
    first.policy = second.policy ∧ first.target = second.target ∧ first.action = second.action ∧
      first.ttlSeconds.value = second.ttlSeconds.value ∧
      first.authorization.expiresAt = second.authorization.expiresAt := by
  have field := Json.canonical_field same
  have authorization : (Json.obj (Command.unsigned first.authorization)).canonical =
      (Json.obj (Command.unsigned second.authorization)).canonical := by
    simpa [Command.fields, List.lookup_cons] using field "authorization"
  have inner := Json.canonical_field authorization
  refine ⟨PolicyReference.of_canonical ?_, Target.toJson_injective ?_, Action.text_injective ?_,
    WholeNumber.toJson_value ?_, ?_⟩
  · simpa [Command.fields, List.lookup_cons] using field "policy"
  · simpa [Command.fields, Target.toJson, List.lookup_cons] using field "target"
  · simpa [Command.fields, List.lookup_cons] using field "action"
  · simpa [Command.fields, List.lookup_cons] using field "ttl_seconds"
  · simpa [Command.unsigned, List.lookup_cons] using inner "expires_at"

end Payloads

section Evidence

variable {python : Python} {evaluation : Evaluation} {command : Command} {now : Int}

/-- Accepted credentials name a key of the ring. -/
theorem credentials_known {authenticator : CommandAuthenticator} {keyId signature : String} {keys : String × String}
    (known : authenticator.credentials (.str keyId) (.str signature) = .ok keys) : keyId ∈ authenticator.ring := by
  unfold CommandAuthenticator.credentials at known
  simp only at known
  split at known
  · cases known
  · rename_i listed
    exact not_not.mp listed

/-- A verified command carries a signature of a known key, and its authorization has not ended. -/
theorem verify_valid {authenticator : CommandAuthenticator}
    (verified : authenticator.verify python command now = .ok ()) :
    command.authorization.keyId ∈ authenticator.ring ∧
      authenticator.signatureValid command.authorization.keyId command.authorization.signature
        command.signaturePayload = true ∧
      ∀ time : Rfc3339, ReadsBack python time → command.authorization.expiresAt = time.text → now < time.parse := by
  have known := verify_credentials verified
  unfold CommandAuthenticator.verify at verified
  rw [known] at verified
  simp only [Check.bind_ok, Check.guard_ok] at verified
  obtain ⟨credentials, same, _, valid, issuedAt, -, expiresAt, read, -, inTime⟩ := verified
  cases same
  refine ⟨credentials_known known, valid, fun time reads written => ?_⟩
  rw [written, parseRfc3339_text reads] at read
  cases read
  exact inTime

/-- A command whose signature covers what an evaluation issued rests on the evidence of the evaluation. -/
theorem Evaluation.issues.grounded (issued : evaluation.issues python command.signaturePayload)
    (inTime : ∀ time : Rfc3339, ReadsBack python time → command.authorization.expiresAt = time.text →
      now < time.parse) :
    ∃ policy items instant, Grounded python evaluation command now policy items instant := by
  obtain ⟨result, carried, evaluated, carries, covered⟩ := issued
  obtain ⟨findings, validated, concluded⟩ := evaluate_ok evaluated
  obtain ⟨items, read, listed, each, distinct, sorted⟩ := validated.read
  obtain ⟨correlation, signature, -, warranted, -, raw⟩ := concluded.issued carries
  obtain ⟨suited, -⟩ := allowed_suited warranted.permitted
  have present : findings.signals ≠ [] := by
    rcases concluded.verdict with ⟨-, -, present, -⟩ | ⟨none, -⟩
    · exact present
    · simp [none] at carries
  have whole : carried.toJson = (findings.command python evaluation.engine correlation signature suited).toJson := raw
  have payload : command.signaturePayload.canonical =
      (findings.command python evaluation.engine correlation signature suited).signaturePayload.canonical :=
    covered.symm.trans (congrArg Json.canonical (signaturePayload_of_toJson whole))
  obtain ⟨reference, target, action, lifetime, expires⟩ := signaturePayload_orders payload
  have aimed : command.target = findings.target := target
  have eligible : Eligible python evaluation.engine.catalog findings.policy evaluation.anomaly items command.target
      findings.timestamp := by
    rw [aimed]
    exact (validated.warranted_iff each sorted).mp ⟨present, warranted⟩
  refine ⟨findings.policy, items, findings.timestamp, ⟨validated.timestamp, listed⟩, validated.policy, eligible,
    aimed ▸ validated.consistent each distinct sorted, ⟨reference, action, lifetime⟩, fun reads item member => ?_⟩
  obtain ⟨time, seen, early, -⟩ := eligible.fresh item member
  have late := inTime _ reads expires
  have written := parse_rfc3339_le (findings.timestamp + seconds evaluation.engine.catalog.commandValidForSeconds)
  exact ⟨time, seen, by omega⟩

end Evidence

section Desk

/-- The digests of the names of the response and of its events. -/
def containedNames : Table String String :=
  [("idemp-405f8174aaa6a7da3619bc9352c50926204be3f30e7276018d6193ef3885ebdf",
      "1476c23ce1ff612b87aed330bf5553d307055d8cd4b028692c67f558b23f0042"),
    ("resp-1476c23ce1ff612b87aed330:1:REQUESTED", "145a023b0b71828422af0cc7dd1e2e6fd4979fd4b01d122599526017e5049d67"),
    ("resp-1476c23ce1ff612b87aed330:2:APPLIED", "1baddc66eb7f97f934d8cb74b80b4340a044b4dbaefd497a409688ba0d8b37f8"),
    ("resp-1476c23ce1ff612b87aed330:3:VERIFIED", "f795a9a16282c0f23997e4ba95ee3744b6c457bf9fef4f5d8b6f587ebf39ada4")]

/-- The digests of what the decision hashes. -/
def containedTexts : Table String String :=
  [(deskMaterial.canonical, "e36ceaff4022b5eaf0c659c796ef41979e2438978ef3911ac55bcde97ed74ad2"),
    (deskContainment.canonical, "405f8174aaa6a7da3619bc9352c50926204be3f30e7276018d6193ef3885ebdf")]

def containedPython : Python :=
  { deskPython with sha256Hex := fun text => ((containedNames ++ containedTexts).find? text).getD "" }

/-- No name is the text of an object. -/
theorem containedNames_find? (fields : List (String × Json)) :
    containedNames.find? (Json.obj fields).canonical = none := by
  rw [Table.find?_eq_none_iff]
  intro member
  have braced : (Json.obj fields).canonical.toList.head? = some '\x7b' := by
    simp [Json.canonical, Json.sortKeys, Json.render]
  have named : ∀ name ∈ containedNames.keys, name.toList.head? ≠ some '\x7b' := by decide +kernel
  exact named _ member braced

/-- The hash of the examples knows its names and texts. -/
theorem contained_digest (text : String) :
    containedPython.sha256Hex text = ((containedNames ++ containedTexts).find? text).getD "" := rfl

theorem contained_material : containedPython.sha256Hex deskMaterial.canonical =
    "e36ceaff4022b5eaf0c659c796ef41979e2438978ef3911ac55bcde97ed74ad2" := by
  have unnamed : containedNames.find? deskMaterial.canonical = none := containedNames_find? _
  rw [contained_digest, Table.find?_append, unnamed, Option.none_or, containedTexts, Table.find?, if_pos rfl,
    Option.getD_some]

theorem contained_containment : containedPython.sha256Hex deskContainment.canonical =
    "405f8174aaa6a7da3619bc9352c50926204be3f30e7276018d6193ef3885ebdf" := by
  have unnamed : containedNames.find? deskContainment.canonical = none := containedNames_find? _
  have other : deskMaterial.canonical ≠ deskContainment.canonical := Json.canonical_ne "policy_id" rfl rfl
  rw [contained_digest, Table.find?_append, unnamed, Option.none_or, containedTexts, Table.find?, if_neg other,
    Table.find?, if_pos rfl, Option.getD_some]

/-- The lifetime lies in the policy's bounds. -/
theorem containedPolicy_ttlBounds : 60 ≤ 300 ∧ 300 ≤ 86400 := by decide

def containedPolicy : ResponsePolicy :=
  ⟨"COR-001", "1", deskSha256, .blockIp, 300, mkRat 29 32, [⟨.authentication, none, some 20⟩],
    containedPolicy_ttlBounds⟩

/-- The catalog of the desk as it is loaded. -/
def containedCatalog : PolicyCatalog where
  protections := ⟨[], [], [.v4 ⟨203, 0, 113, 1⟩], [], [], [], false⟩
  rateLimit := ⟨10, 60⟩
  dedupSeconds := 60
  commandValidForSeconds := 600
  evidenceMaxAgeSeconds := 900
  policies := [("COR-001", containedPolicy)]
  commandValidBounds := by decide
  keyed := by simp [containedPolicy]

def containedEngine : DecisionEngine := { deskEngine with catalog := containedCatalog }

def deskEvaluation : Evaluation where
  engine := containedEngine
  policyId := "COR-001"
  anomaly := deskAnomaly
  independentSignals := .arr [deskSignal (.int 20)]
  target := deskTarget.toJson
  now := .aware deskTime
  correlationId := .str "trace-1"

/-- What the evaluation finds. -/
def deskFindings : Findings where
  policy := containedPolicy
  timestamp := deskTime
  anomaly :=
    ⟨"ai-event", "approved-model", .finite (mkRat 15 16), .finite (mkRat 7 8), true, rfc3339 deskTime, deskTarget⟩
  target := deskTarget
  signals := [deskRead]

theorem deskFindings_decisionEventId :
    deskFindings.decisionEventId containedPython = "dec-e36ceaff4022b5eaf0c659c7" := by
  have material : deskFindings.material = deskMaterial := rfl
  rw [Findings.decisionEventId, identifierOf, material, sha256Hex, contained_material]
  decide +kernel

theorem deskFindings_containment : deskFindings.containment containedPython = deskContainment := by
  rw [Findings.containment, deskFindings_decisionEventId]
  rfl

/-- The command that the desk issues. -/
def deskCommand : Command where
  requestId := "req-405f8174aaa6a7da3619bc93"
  decisionEventId := "dec-e36ceaff4022b5eaf0c659c7"
  correlationId := "trace-1"
  policy := ⟨"COR-001", "1", deskSha256⟩
  target := deskTarget
  action := .blockIp
  ttlSeconds := ⟨300, false⟩
  idempotencyKey := "idemp-405f8174aaa6a7da3619bc9352c50926204be3f30e7276018d6193ef3885ebdf"
  authorization := ⟨"lab", "OJmdYtSN7YsdXPgSL2aK2-t60oDT4YsPiBL5kkdIq6g", "2026-01-01T00:00:00.000Z",
    "2026-01-01T00:10:00.000Z"⟩
  suited := by decide +kernel

/-- The signed body of the findings is the command as it is submitted. -/
theorem deskFindings_body : deskFindings.body containedPython "trace-1"
    (deskFindings.authorization containedEngine ++ [("signature", .str deskCommand.authorization.signature)]) =
      deskCommand.toJson := by
  have requestId : deskFindings.requestId containedPython = deskCommand.requestId := by
    rw [Findings.requestId, identifierOf, deskFindings_containment, sha256Hex, contained_containment]
    decide +kernel
  have idempotencyKey : deskFindings.idempotencyKey containedPython = deskCommand.idempotencyKey := by
    rw [Findings.idempotencyKey, deskFindings_containment, sha256Hex, contained_containment]
    rfl
  have issued : (rfc3339 deskFindings.timestamp).text = deskCommand.authorization.issuedAt := by decide +kernel
  have expires : (rfc3339 (deskFindings.timestamp + seconds containedEngine.catalog.commandValidForSeconds)).text =
      deskCommand.authorization.expiresAt := by decide +kernel
  rw [Findings.body, requestId, idempotencyKey, deskFindings_decisionEventId, Findings.authorization, authorizationBody]
  rw [issued, expires]
  rfl

/-- The evaluation issues the command. -/
theorem deskEvaluation_issues : deskEvaluation.issues containedPython deskCommand.signaturePayload := by
  have decided : ∃ result command, evaluate containedPython containedEngine "COR-001" deskAnomaly
      (.arr [deskSignal (.int 20)]) deskTarget.toJson (.aware deskTime) (.str "trace-1") = .ok result ∧
      result.command = some command := Check.ok_of_isSome (by decide +kernel)
  obtain ⟨result, raw, evaluated, carried⟩ := decided
  obtain ⟨findings, validated, concluded⟩ := evaluate_ok evaluated
  have same : findings = deskFindings := by
    have policy : containedCatalog.policies.find? "COR-001" = some deskFindings.policy := rfl
    have anomaly : validateAnomaly containedPython deskAnomaly = .ok deskFindings.anomaly := by decide +kernel
    have target : validateTarget containedPython deskTarget.toJson = .ok deskFindings.target := by decide +kernel
    have signals : validateIndependentSignals containedPython (.arr [deskSignal (.int 20)]) =
        .ok deskFindings.signals := by decide +kernel
    exact validated.unique ⟨policy, rfl, anomaly, target, signals, rfl, by simp [deskFindings, deskRead]⟩
  subst same
  obtain ⟨correlation, signature, labelled, -, signed, body⟩ := concluded.issued carried
  have label : correlationOf containedPython deskFindings.material (.str "trace-1") = .ok "trace-1" := by decide +kernel
  cases Except.ok.inj (labelled.symm.trans label)
  cases signed
  exact ⟨result, deskCommand, evaluated, carried.trans (congrArg some (body.trans deskFindings_body)), rfl⟩

/-- Two values are spelled the same, with objects up to this depth. -/
def spelledSame : Nat → Json → Json → Bool
  | _, .str first, .str second => first = second
  | _, .int first, .int second => first = second
  | _, .bool first, .bool second => first = second
  | depth + 1, .obj first, .obj second =>
      List.all₂ (fun field other => field.1 = other.1 && spelledSame depth field.2 other.2) first second
  | _, _, _ => false

/-- Documents that are spelled the same are equal. -/
theorem spelledSame_eq (depth : Nat) (first second : Json) (same : spelledSame depth first second = true) :
    first = second := by
  induction depth generalizing first second with
  | zero => cases first <;> cases second <;> simp_all [spelledSame]
  | succ depth inner =>
      cases first <;> cases second <;> simp only [spelledSame, decide_eq_true_eq, Bool.false_eq_true] at same
      all_goals try rw [same]
      rename_i fields others
      rw [List.all₂_eq_true] at same
      have each : List.Forall₂ Eq fields others := same.imp fun field other equal => by
        rw [Bool.and_eq_true, decide_eq_true_eq] at equal
        exact Prod.ext equal.1 (inner _ _ equal.2)
      rw [List.forall₂_eq_eq_eq] at each
      rw [each]

/-- A ring that accepts what the desk signed and nothing else. -/
def exclusiveRing : CommandAuthenticator where
  ring := ["lab"]
  signatureShape text := text.toList.length = 43
  signatureValid keyId signature payload :=
    keyId = "lab" && signature = deskCommand.authorization.signature &&
      spelledSame 2 payload deskCommand.signaturePayload

/-- The ring with one engine accepts what that engine signed only. -/
theorem exclusiveRing_unforged : Unforged containedPython (· = containedEngine) exclusiveRing := by
  intro keyId signature payload _ valid
  have covered := spelledSame_eq _ _ _ (Bool.and_eq_true_iff.mp valid).2
  exact ⟨deskEvaluation, rfl, covered ▸ deskEvaluation_issues⟩

def deskConfig : Config where
  catalog := containedCatalog
  authenticator := exclusiveRing
  adapters := [⟨"block_ip", "vyos"⟩, ⟨"isolate_host", "wazuh"⟩]
  mode := .enforce
  exporter := true
  recoverEvery := 6

/-- The command of the desk is accepted and one scheduler pass follows. -/
def deskSteps : List Step :=
  [.launch deskConfig, .call (.start (.aware deskTime)) {},
    .call (.accept deskCommand.toJson (.aware deskTime)) {}, .call (.tick (.aware deskTime)) {}]

/-- The steps of the examples reach an application. -/
theorem deskSteps_applies :
    ∃ entry ∈ (World.run containedPython deskSteps).log, entry.applies "resp-1476c23ce1ff612b87aed330" := by
  decide +kernel

/-- Every step of the examples uses that ring. -/
theorem deskSteps_unforged : ∀ step ∈ deskSteps, step.keyed (Unforged containedPython (· = containedEngine)) := by
  simp [deskSteps, Step.keyed, deskConfig, exclusiveRing_unforged]

end Desk

end ClosedLoop.Response
