import ClosedLoop.Proof.Decision.Verdict
import ClosedLoop.Proof.Response.Validation

namespace ClosedLoop.Response

open ClosedLoop.Library

section Acceptance

variable {python : Python} {catalog : PolicyCatalog} {authenticator : CommandAuthenticator}

/-- A text field that is not empty is read. -/
theorem nonEmptyField_eq {fields : List (String × Json)} {field text : String} (read : Json.get fields field = .str text)
    (present : text ≠ "") : nonEmptyField fields field = .ok text := by
  unfold nonEmptyField
  rw [read]
  exact if_neg present

/-- A reference to the active policy is accepted. -/
theorem activePolicy_eq {reference : PolicyReference} {policy : ResponsePolicy}
    (active : catalog.policy reference.id = .ok policy)
    (same : reference = ⟨policy.id, policy.version, policy.sha256⟩) :
    activePolicy catalog (.obj [("id", .str reference.id), ("version", .str reference.version),
      ("sha256", .str reference.sha256)]) = .ok policy := by
  subst same
  have found : catalog.policy policy.id = .ok policy := active
  rw [activePolicy_toJson, found]
  exact if_pos ⟨rfl, rfl, rfl⟩

/-- The policy's lifetime is accepted. -/
theorem matchingTtl_eq {policy : ResponsePolicy} {number : WholeNumber} (same : number.value = policy.ttlSeconds) :
    matchingTtl policy number.toJson = .ok number := by
  obtain ⟨value, float⟩ := number
  simp only at same
  subst same
  cases float <;> simp [matchingTtl, WholeNumber.toJson, Json.equalsInt, Double.number?]

/-- A target of the known length is read back. -/
theorem targetFields_eq {target : Target} (present : target.value ≠ "") (short : target.value.toList.length ≤ 255) :
    targetFields (.obj [("type", .str target.type.text), ("value", .str target.value)]) = .ok target := by
  obtain ⟨type, value⟩ := target
  have sized : ¬(value = "" ∨ 255 < value.toList.length) := by
    rintro (empty | long)
    · exact present empty
    · exact absurd short (Nat.not_le.mpr long)
  cases type with
  | ip => exact if_neg sized
  | host => exact if_neg sized

/-- Verified credentials are known ones. -/
theorem verify_credentials {command : Command} {now : Int} (verified : authenticator.verify python command now = .ok ()) :
    authenticator.credentials (.str command.authorization.keyId) (.str command.authorization.signature) =
      .ok (command.authorization.keyId, command.authorization.signature) := by
  unfold CommandAuthenticator.verify at verified
  simp only [Check.bind_ok] at verified
  obtain ⟨keys, known, -⟩ := verified
  rw [known, credentials_ok _ _ known]

/-- What a command must say to be accepted while its window is open. -/
structure Acceptable (catalog : PolicyCatalog) (command : Command) : Prop where
  requestId : command.requestId ≠ ""
  decisionEventId : command.decisionEventId ≠ ""
  correlationId : command.correlationId ≠ ""
  idempotencyKey : command.idempotencyKey ≠ ""
  policy : ∃ policy, catalog.policy command.policy.id = .ok policy ∧
    command.policy = ⟨policy.id, policy.version, policy.sha256⟩ ∧ command.action = policy.action ∧
    command.ttlSeconds.value = policy.ttlSeconds
  targetPresent : command.target.value ≠ ""
  targetShort : command.target.value.toList.length ≤ 255

/-- An acceptable command is accepted as it is while it is current and verified. -/
theorem validateCommand_accepts {command : Command} {now : Int} (acceptable : Acceptable catalog command)
    (current : authorizationWindow python catalog (.str command.authorization.issuedAt)
      (.str command.authorization.expiresAt) now = .ok ())
    (verified : authenticator.verify python command now = .ok ()) :
    validateCommand python catalog authenticator command.toJson now = .ok command := by
  obtain ⟨policy, active, reference, acted, lifetime⟩ := acceptable.policy
  have actionIs : requireAction policy (.str command.action.text) = .ok () := if_pos (by rw [acted])
  have suitedIs : ∃ suits, suitedTarget policy.action command.target = .ok suits :=
    ⟨⟨acted ▸ command.suited⟩, dif_pos (acted ▸ command.suited)⟩
  obtain ⟨suits, suited⟩ := suitedIs
  let authorization := Command.unsigned command.authorization ++
    [("signature", .str command.authorization.signature)]
  unfold validateCommand
  simp only [Check.bind_ok, Check.pure_ok, asCommandRejected_ok]
  refine ⟨command.fields authorization, rfl,
    _, nonEmptyField_eq rfl acceptable.requestId, _, nonEmptyField_eq rfl acceptable.decisionEventId,
    _, nonEmptyField_eq rfl acceptable.correlationId, _, nonEmptyField_eq rfl acceptable.idempotencyKey, (), rfl,
    policy, activePolicy_eq active reference, (), actionIs, _, matchingTtl_eq lifetime,
    _, targetFields_eq acceptable.targetPresent acceptable.targetShort, suits, suited,
    authorization, rfl, (), current, _, verify_credentials verified, ?_⟩
  have same : (⟨policy.id, policy.version, policy.sha256⟩ : PolicyReference) = command.policy := reference.symm
  obtain ⟨_, _, _, _, _, _, _, _, _, _⟩ := command
  simp only at same acted verified
  subst acted same
  exact ⟨(), verified, rfl⟩

/-- A mapping is accepted only while its window is open. -/
theorem validateCommand_current {command again : Command} {now : Int}
    (passed : validateCommand python catalog authenticator command.toJson now = .ok again) :
    authorizationWindow python catalog (.str command.authorization.issuedAt)
      (.str command.authorization.expiresAt) now = .ok () ∧ authenticator.verify python command now = .ok () := by
  have same := validateCommand_toJson passed
  have confirmed := validateCommand_ok passed
  subst same
  refine ⟨?_, confirmed.signed⟩
  unfold validateCommand at passed
  simp only [Check.bind_ok, Check.pure_ok] at passed
  obtain ⟨fields, shape, _, -, _, -, _, -, _, -, _, -, _, -, _, -, _, -, _, -, _, -, authorization, authorized, _,
    current, -⟩ := passed
  have fieldsAre := commandFields_toJson again shape
  subst fieldsAre
  have authorizationIs : authorization = Command.unsigned again.authorization ++
      [("signature", .str again.authorization.signature)] := (Except.ok.inj authorized).symm
  subst authorizationIs
  exact current

end Acceptance

section Issue

variable {python : Python} {engine : DecisionEngine} {policyId : String} {anomaly independentSignals target : Json}
  {now : Moment} {findings : Findings}

/-- A command that was issued is a signed one for warranted findings. -/
theorem Concluded.issued {correlationId raw : Json} {result : DecisionResult}
    (concluded : Concluded python engine correlationId findings result) (carried : result.command = some raw) :
    ∃ correlation signature, correlationOf python findings.material correlationId = .ok correlation ∧
      Warranted python engine.catalog findings.policy findings.anomaly findings.signals findings.target
        findings.timestamp ∧
      engine.sign (findings.body python correlation (findings.authorization engine)) = .ok signature ∧
      raw = findings.body python correlation (findings.authorization engine ++ [("signature", .str signature)]) := by
  cases concluded with
  | alone none => cases carried
  | rejected _ _ unwarranted => cases carried
  | requested some labelled warranted signed =>
      obtain ⟨-, signature, validly, command⟩ := request_ok signed
      exact ⟨_, signature, labelled, warranted, validly, Option.some.inj (carried.symm.trans command)⟩

/-- A target that the protections allow is present and suits the action. -/
theorem allowed_suited {protections : ProtectionPolicy} {action : Action} {target : Target}
    (allowedTarget : assertTargetAllowed python protections action target = .ok ()) :
    Suited action target ∧ target.value ≠ "" := by
  obtain ⟨type, value⟩ := target
  unfold assertTargetAllowed at allowedTarget
  split at allowedTarget
  · rename_i aimed
    cases aimed
    unfold assertAddressAllowed at allowedTarget
    split at allowedTarget
    · cases allowedTarget
    · rename_i address parsed
      refine ⟨⟨rfl, fun _ => by simp [parsed]⟩, ?_⟩
      rintro rfl
      have unreadable : IPAddress.parse "" = none := by decide
      cases unreadable.symm.trans parsed
  · cases allowedTarget
  · rename_i aimed
    cases aimed
    unfold assertHostAllowed at allowedTarget
    simp only at allowedTarget
    split at allowedTarget
    · cases allowedTarget
    · rename_i present
      refine ⟨⟨rfl, nofun⟩, ?_⟩
      rintro rfl
      exact present rfl
  · cases allowedTarget

/-- A correlation is never empty. -/
theorem correlationOf_ok {material correlationId : Json} {correlation : String}
    (labelled : correlationOf python material correlationId = .ok correlation) : correlation ≠ "" := by
  have checked {refused : PyError} {text : String} (passed : correlationOf.checked refused text = .ok correlation) :
      correlation ≠ "" := by
    unfold correlationOf.checked at passed
    split at passed
    · cases passed
    · rename_i sized
      cases passed
      exact fun empty => sized (.inl empty)
  unfold correlationOf at labelled
  split at labelled
  · exact checked labelled
  · exact checked labelled
  · cases labelled

/-- The command that carries a signature. -/
def Findings.command (python : Python) (engine : DecisionEngine) (findings : Findings) (correlation signature : String)
    (suited : Suited findings.policy.action findings.target) : Command where
  requestId := findings.requestId python
  decisionEventId := findings.decisionEventId python
  correlationId := correlation
  policy := .of findings.policy
  target := findings.target
  action := findings.policy.action
  ttlSeconds := ⟨findings.policy.ttlSeconds, false⟩
  idempotencyKey := findings.idempotencyKey python
  authorization := ⟨engine.signingKeyId, signature, (rfc3339 findings.timestamp).text,
    (rfc3339 (findings.timestamp + seconds engine.catalog.commandValidForSeconds)).text⟩
  suited := suited

/-- The command of the findings is their signed body. -/
theorem Findings.command_toJson {correlation signature : String}
    {suited : Suited findings.policy.action findings.target} :
    (findings.command python engine correlation signature suited).toJson =
      findings.body python correlation (findings.authorization engine ++ [("signature", .str signature)]) := rfl

/-- Its payload is the body without the signature. -/
theorem Findings.command_signaturePayload {correlation signature : String}
    {suited : Suited findings.policy.action findings.target} :
    (findings.command python engine correlation signature suited).signaturePayload =
      findings.body python correlation (findings.authorization engine) := rfl

/-- An identifier is not empty. -/
theorem identifierOf_ne {kind : String} {material : Json} (named : kind.toList ≠ []) :
    identifierOf python kind material ≠ "" := by
  intro empty
  have letters := congrArg String.toList empty
  simp [identifierOf, named] at letters

/-- An active policy is found again by its own identifier. -/
theorem policy_again {catalog : PolicyCatalog} {policyId : String} {policy : ResponsePolicy}
    (found : catalog.policies.find? policyId = some policy) : catalog.policy policy.id = .ok policy := by
  rw [PolicyCatalog.policy_ok, catalog.keyed _ (Table.mem_of_find? found)]
  exact found

/-- The command for validated findings says what the orchestrator demands. -/
theorem Validated.acceptable {correlation signature : String} {suited : Suited findings.policy.action findings.target}
    (validated : Validated python engine policyId anomaly independentSignals target now findings)
    (labelled : correlation ≠ "") (present : findings.target.value ≠ "")
    (short : findings.target.value.toList.length ≤ 255) :
    Acceptable engine.catalog (findings.command python engine correlation signature suited) where
  requestId := identifierOf_ne (by decide)
  decisionEventId := identifierOf_ne (by decide)
  correlationId := labelled
  idempotencyKey := fun empty => by simpa [Findings.command, Findings.idempotencyKey] using congrArg String.toList empty
  policy := ⟨findings.policy, policy_again validated.policy, rfl, rfl, rfl⟩
  targetPresent := present
  targetShort := short

end Issue

section Windows

variable {python : Python}

/-- `datetime.fromisoformat` reads the text of a time back. -/
def ReadsBack (python : Python) (time : Rfc3339) : Prop := python.fromIsoformat time.text = some (.aware time.parse)

instance (python : Python) (time : Rfc3339) : Decidable (ReadsBack python time) :=
  inferInstanceAs (Decidable (_ = _))

/-- A written time is not empty. -/
theorem Rfc3339.text_ne (time : Rfc3339) : time.text ≠ "" := by
  intro empty
  have letters := congrArg String.toList empty
  simp [Rfc3339.text, Calendar.isoformat] at letters

/-- A time that reads back is parsed to itself. -/
theorem parseRfc3339_text {time : Rfc3339} (reads : ReadsBack python time) {reject : String → PyError}
    {label invalid : String} : parseRfc3339 python reject label invalid (.str time.text) = .ok time.parse := by
  unfold ReadsBack at reads
  simp only [parseRfc3339, reads, if_neg time.text_ne]

/-- A text that is read back is within the years of a datetime. -/
theorem ReadsBack.timely {time : Rfc3339} (reads : ReadsBack python time) : ¬ BeyondYears python (.str time.text) := by
  rintro ⟨_, _, same, beyond⟩
  cases same
  cases reads.symm.trans beyond

/-- The window of a command is accepted at the times inside it. -/
theorem authorizationWindow_text {catalog : PolicyCatalog} {issuedAt expiresAt : Rfc3339} {now : Int}
    (issued : ReadsBack python issuedAt) (expires : ReadsBack python expiresAt) :
    authorizationWindow python catalog (.str issuedAt.text) (.str expiresAt.text) now = .ok () ↔
      issuedAt.parse < expiresAt.parse ∧ issuedAt.parse ≤ now + seconds 60 ∧
        expiresAt.parse - issuedAt.parse ≤ seconds catalog.commandValidForSeconds := by
  unfold authorizationWindow
  simp [Check.bind_ok, parseRfc3339_text issued, parseRfc3339_text expires]

/-- A lifetime in whole seconds is not changed by the rounding of its ends. -/
theorem parse_rfc3339_add (time : Int) (lifetime : Nat) :
    (rfc3339 (time + seconds lifetime)).parse = (rfc3339 time).parse + seconds lifetime := by
  simp only [rfc3339, Rfc3339.parse, seconds]
  omega

end Windows

section Agreement

variable {python : Python} {engine : DecisionEngine} {authenticator : CommandAuthenticator}

/-- The ring accepts what the engine signs. -/
structure Trusts (authenticator : CommandAuthenticator) (engine : DecisionEngine) : Prop where
  known : engine.signingKeyId ∈ authenticator.ring
  genuine : ∀ payload signature, engine.sign payload = .ok signature →
    authenticator.signatureShape signature = true ∧
      authenticator.signatureValid engine.signingKeyId signature payload = true

/-- A command that was signed is trusted inside its window. -/
theorem verify_issued {findings : Findings} {correlation signature : String} {now : Int}
    {suited : Suited findings.policy.action findings.target} (trusts : Trusts authenticator engine)
    (signed : engine.sign (findings.body python correlation (findings.authorization engine)) = .ok signature)
    (issued : ReadsBack python (rfc3339 findings.timestamp))
    (expires : ReadsBack python (rfc3339 (findings.timestamp + seconds engine.catalog.commandValidForSeconds))) :
    authenticator.verify python (findings.command python engine correlation signature suited) now = .ok () ↔
      (rfc3339 findings.timestamp).parse <
          (rfc3339 (findings.timestamp + seconds engine.catalog.commandValidForSeconds)).parse ∧
        now < (rfc3339 (findings.timestamp + seconds engine.catalog.commandValidForSeconds)).parse := by
  obtain ⟨shaped, valid⟩ := trusts.genuine _ _ signed
  have known : authenticator.credentials (.str engine.signingKeyId) (.str signature) =
      .ok (engine.signingKeyId, signature) := by
    simp [CommandAuthenticator.credentials, trusts.known, shaped]
  unfold CommandAuthenticator.verify
  rw [Findings.command_signaturePayload]
  simp [Check.bind_ok, Findings.command, known, valid, parseRfc3339_text issued, parseRfc3339_text expires]

/-- The verifier of the desk knows the key that signed. -/
def deskRing : CommandAuthenticator where
  ring := ["lab"]
  signatureShape text := text.toList.length = 43
  signatureValid keyId signature _ := keyId = "lab" && signature = "OJmdYtSN7YsdXPgSL2aK2-t60oDT4YsPiBL5kkdIq6g"

/-- The ring of the examples trusts its engine. -/
theorem deskRing_trusts : Trusts deskRing deskEngine where
  known := by decide
  genuine _ signature signed := by
    cases signed
    exact ⟨by decide, by simp [deskRing, deskEngine]⟩

end Agreement

end ClosedLoop.Response
