import ClosedLoop.Construction.Response.Engine
import Mathlib.Data.Fintype.Basic

namespace ClosedLoop.Response

open ClosedLoop.Library

variable {python : Python} {catalog : PolicyCatalog} {authenticator : CommandAuthenticator}

/-- A verified command stays verified at every earlier time. -/
theorem verify_earlier {command : Command} {earlier now : Int} (before : earlier ≤ now)
    (verified : authenticator.verify python command now = .ok ()) :
    authenticator.verify python command earlier = .ok () := by
  unfold CommandAuthenticator.verify at verified ⊢
  simp only [Check.bind_ok, Check.guard_ok] at verified ⊢
  obtain ⟨keys, known, passed, valid, issuedAt, issued, expiresAt, expires, ordered, current⟩ := verified
  exact ⟨keys, known, passed, valid, issuedAt, issued, expiresAt, expires, ordered, by omega⟩

/-- The command repeats the active policy and carries a valid signature. -/
structure Confirmed (python : Python) (catalog : PolicyCatalog) (authenticator : CommandAuthenticator)
    (command : Command) (now : Int) : Prop where
  policy : ∃ policy, catalog.policy command.policy.id = .ok policy ∧
    command.policy = ⟨policy.id, policy.version, policy.sha256⟩ ∧ command.action = policy.action ∧
    command.ttlSeconds.value = policy.ttlSeconds
  signed : authenticator.verify python command now = .ok ()

/-- Renaming an error changes no result. -/
theorem asCommandRejected_ok {α : Type} {checked : Except PyError α} {value : α} :
    asCommandRejected checked = .ok value ↔ checked = .ok value := by
  unfold asCommandRejected
  split <;> simp

/-- The active policy of a reference is the catalog's policy of its identifier. -/
theorem activePolicy_ok {policyData : Json} {policy : ResponsePolicy}
    (passed : activePolicy catalog policyData = .ok policy) : catalog.policy policy.id = .ok policy := by
  unfold activePolicy at passed
  split at passed
  · split at passed
    · cases passed
    · split at passed
      · split at passed
        · cases passed
        · rename_i found
          split at passed
          · split at passed
            · rename_i same
              cases passed
              rw [← same.1]
              exact found
            · cases passed
          · cases passed
      · cases passed
  · cases passed

/-- The accepted lifetime is the policy's. -/
theorem matchingTtl_ok {policy : ResponsePolicy} {ttlSeconds : Json} {number : WholeNumber}
    (passed : matchingTtl policy ttlSeconds = .ok number) : number.value = policy.ttlSeconds := by
  unfold matchingTtl at passed
  split at passed
  · cases passed
    rfl
  · cases passed

/-- An accepted mapping is a confirmed command. -/
theorem validateCommand_ok {raw : Json} {command : Command} {now : Int}
    (passed : validateCommand python catalog authenticator raw now = .ok command) :
    Confirmed python catalog authenticator command now := by
  unfold validateCommand at passed
  simp only [Check.bind_ok, Check.pure_ok, asCommandRejected_ok] at passed
  obtain ⟨fields, -, _, -, _, -, _, -, _, -, _, -, policy, active, _, -, ttlSeconds, lifetime, _, -, _, -,
    _, -, _, -, _, -, _, verified, same⟩ := passed
  subst same
  exact ⟨⟨policy, activePolicy_ok active, rfl, rfl, matchingTtl_ok lifetime⟩, verified⟩

/-- The fields of a command that is written out are its own fields. -/
theorem commandFields_toJson (command : Command) {fields : List (String × Json)}
    (passed : commandFields command.toJson = .ok fields) :
    fields = command.fields (Command.unsigned command.authorization ++
      [("signature", .str command.authorization.signature)]) := by
  have shape : commandFields command.toJson = .ok (command.fields (Command.unsigned command.authorization ++
      [("signature", .str command.authorization.signature)])) := rfl
  exact Except.ok.inj (passed.symm.trans shape)

/-- A text field is read as it is written. -/
theorem nonEmptyField_ok {fields : List (String × Json)} {field text : String} (value : String)
    (read : Json.get fields field = .str value) (passed : nonEmptyField fields field = .ok text) : text = value := by
  unfold nonEmptyField at passed
  rw [read] at passed
  simp only at passed
  split at passed
  · cases passed
  · exact (Except.ok.inj passed).symm

/-- The reference of a policy names its text, so that only the lookup and the comparison are left. -/
theorem activePolicy_toJson (reference : PolicyReference) :
    activePolicy catalog (.obj [("id", .str reference.id), ("version", .str reference.version),
      ("sha256", .str reference.sha256)]) =
      ((catalog.policy reference.id).mapError fun _ => PyError.commandRejected "response command policy is unknown").bind
        fun policy =>
          if reference.id = policy.id ∧ reference.version = policy.version ∧ reference.sha256 = policy.sha256 then
            .ok policy
          else .error (.commandRejected
            "response command policy version or hash does not match active policy") := by
  cases known : catalog.policy reference.id with
  | error error => simp [activePolicy, Json.hasExactly, Json.get, known, Except.mapError, Except.bind]
  | ok policy => simp [activePolicy, Json.hasExactly, Json.get, List.lookup_cons, known, Except.mapError, Except.bind]

/-- A policy reference that passes names the active policy with its version and hash. -/
theorem activePolicy_reference (reference : PolicyReference) {policy : ResponsePolicy}
    (passed : activePolicy catalog (.obj [("id", .str reference.id), ("version", .str reference.version),
      ("sha256", .str reference.sha256)]) = .ok policy) :
    reference = ⟨policy.id, policy.version, policy.sha256⟩ := by
  rw [activePolicy_toJson] at passed
  obtain ⟨found, _, compared⟩ := Check.bind_ok.mp passed
  split at compared
  · rename_i same
    cases compared
    cases reference
    simpa using same
  · cases compared

/-- A lifetime that is written out is read back. -/
theorem matchingTtl_toJson {policy : ResponsePolicy} (number : WholeNumber) {found : WholeNumber}
    (passed : matchingTtl policy number.toJson = .ok found) : found = number := by
  obtain ⟨value, float⟩ := number
  unfold matchingTtl at passed
  split at passed
  · rename_i same
    cases passed
    cases float
    · simpa [WholeNumber.toJson, Json.equalsInt, eq_comm] using same
    · simp only [WholeNumber.toJson, Json.equalsInt, Double.number?, if_true, Option.some.injEq,
        decide_eq_true_eq] at same
      rw [Rat.intCast_inj.mp same]
      rfl
  · cases passed

/-- A target that is written out is read back. -/
theorem targetFields_ok (target : Target) {found : Target}
    (passed : targetFields (.obj [("type", .str target.type.text), ("value", .str target.value)]) = .ok found) :
    found = target := by
  obtain ⟨type, value⟩ := target
  cases type with
  | ip =>
      change (if value = "" ∨ 255 < value.toList.length then Except.error _ else Except.ok (⟨.ip, value⟩ : Target)) =
        Except.ok found at passed
      split at passed
      · cases passed
      · exact (Except.ok.inj passed).symm
  | host =>
      change (if value = "" ∨ 255 < value.toList.length then Except.error _ else Except.ok (⟨.host, value⟩ : Target)) =
        Except.ok found at passed
      split at passed
      · cases passed
      · exact (Except.ok.inj passed).symm

/-- The action of an accepted command is the policy's. -/
theorem requireAction_ok {policy : ResponsePolicy} (action : Action)
    (passed : requireAction policy (.str action.text) = .ok ()) : policy.action = action := by
  unfold requireAction at passed
  simp only at passed
  split at passed
  · rename_i same
    revert same
    cases action <;> cases policy.action <;> simp [Action.text]
  · cases passed

/-- The key and the signature are read as they are written. -/
theorem credentials_ok (keyId signature : String) {keys : String × String}
    (passed : authenticator.credentials (.str keyId) (.str signature) = .ok keys) : keys = (keyId, signature) := by
  unfold CommandAuthenticator.credentials at passed
  simp only at passed
  split at passed
  · cases passed
  · split at passed
    · exact (Except.ok.inj passed).symm
    · cases passed

/-- A stored command that is accepted again is accepted as it is. -/
theorem validateCommand_toJson {command again : Command} {now : Int}
    (passed : validateCommand python catalog authenticator command.toJson now = .ok again) : again = command := by
  unfold validateCommand at passed
  simp only [Check.bind_ok, Check.pure_ok, asCommandRejected_ok] at passed
  obtain ⟨fields, shape, requestId, request, decisionEventId, decision, correlationId, correlation,
    idempotencyKey, key, _, -, policy, active, _, acted, ttlSeconds, lifetime, target, targeted, _, -,
    authorization, authorized, _, -, keys, known, _, -, same⟩ := passed
  have fieldsAre := commandFields_toJson command shape
  subst fieldsAre
  have requestIs := nonEmptyField_ok command.requestId rfl request
  have decisionIs := nonEmptyField_ok command.decisionEventId rfl decision
  have correlationIs := nonEmptyField_ok command.correlationId rfl correlation
  have keyIs := nonEmptyField_ok command.idempotencyKey rfl key
  have policyIs := activePolicy_reference command.policy active
  have actionIs := requireAction_ok command.action acted
  have ttlIs := matchingTtl_toJson command.ttlSeconds lifetime
  have targetIs := targetFields_ok command.target targeted
  have authorizationIs : authorization = Command.unsigned command.authorization ++
      [("signature", .str command.authorization.signature)] := (Except.ok.inj authorized).symm
  subst authorizationIs
  have keysAre := credentials_ok command.authorization.keyId command.authorization.signature known
  subst same requestIs decisionIs correlationIs keyIs ttlIs targetIs keysAre
  obtain ⟨_, _, _, _, _, _, _, _, _, _⟩ := command
  simp only at policyIs actionIs
  subst policyIs actionIs
  rfl

/-- A check of a queued command that passes confirms the command itself. -/
theorem reauthorize_ok {command : Command} {now : Int}
    (passed : reauthorize python catalog authenticator command now = .ok ()) :
    Confirmed python catalog authenticator command now ∧
      assertTargetAllowed python catalog.protections command.action command.target = .ok () := by
  unfold reauthorize at passed
  simp only [Check.bind_ok] at passed
  obtain ⟨again, accepted, allowedTarget⟩ := passed
  have same := validateCommand_toJson accepted
  subst same
  refine ⟨validateCommand_ok accepted, ?_⟩
  split at allowedTarget
  · assumption
  · cases allowedTarget

section Errors

open Check

/-- The errors that the engine reports for an unacceptable command. It does not catch an overflow. -/
def Rejection (overflows : Prop) : PyError → Prop
  | .commandRejected _ => True
  | .overflowError => overflows
  | _ => False

variable {overflows : Prop}

/-- A document with other fields is a rejected command. -/
theorem commandFields_fails (command : Json) : Fails (Rejection overflows) (commandFields command) := by
  unfold commandFields
  repeat' split
  all_goals simp [Rejection]

/-- So is an empty or missing text. -/
theorem nonEmptyField_fails (fields : List (String × Json)) (field : String) :
    Fails (Rejection overflows) (nonEmptyField fields field) := by
  unfold nonEmptyField
  repeat' split
  all_goals simp [Rejection]

theorem requireSafeguards_fails (fields : List (String × Json)) : Fails (Rejection overflows) (requireSafeguards fields) := by
  unfold requireSafeguards
  split <;> simp [Rejection]

/-- So is a reference to no active policy. -/
theorem activePolicy_fails (policyData : Json) : Fails (Rejection overflows) (activePolicy catalog policyData) := by
  unfold activePolicy
  repeat' split
  all_goals simp [Rejection]

theorem requireAction_fails (policy : ResponsePolicy) (action : Json) :
    Fails (Rejection overflows) (requireAction policy action) := by
  unfold requireAction
  repeat' split
  all_goals simp [Rejection]

theorem matchingTtl_fails (policy : ResponsePolicy) (ttlSeconds : Json) :
    Fails (Rejection overflows) (matchingTtl policy ttlSeconds) := by
  unfold matchingTtl
  split <;> simp [Rejection]

theorem targetFields_fails (target : Json) : Fails (Rejection overflows) (targetFields target) := by
  unfold targetFields
  repeat' split
  all_goals simp [Rejection]

theorem suitedTarget_fails (action : Action) (target : Target) : Fails (Rejection overflows) (suitedTarget action target) := by
  unfold suitedTarget
  split <;> simp [Rejection]

theorem authorizationFields_fails (authorization : Json) : Fails (Rejection overflows) (authorizationFields authorization) := by
  unfold authorizationFields
  repeat' split
  all_goals simp [Rejection]

/-- A text denotes a time beyond the years of a datetime. -/
def BeyondYears (python : Python) (value : Json) : Prop :=
  ∃ text time, value = .str text ∧ python.fromIsoformat text = some (.beyond time)

/-- A time that is not read is reported, unless it lies outside the years that `datetime` knows. -/
theorem parseRfc3339_fails {known : PyError → Prop} {reject : String → PyError} (reported : ∀ text, known (reject text))
    {value : Json} (beyond : BeyondYears python value → known .overflowError) (label invalid : String) :
    Fails known (parseRfc3339 python reject label invalid value) := by
  unfold parseRfc3339
  split
  · split
    · exact fails_error.mpr (reported _)
    · split
      · exact fails_error.mpr (reported _)
      · exact fails_error.mpr (reported _)
      · exact fails_ok
      · rename_i time read
        exact fails_error.mpr (beyond ⟨_, time, rfl, read⟩)
  · exact fails_error.mpr (reported _)

/-- A text that was read as a time is within the years of a datetime. -/
theorem parseRfc3339_timed {reject : String → PyError} {label invalid : String} {value : Json} {time : Int}
    (passed : parseRfc3339 python reject label invalid value = .ok time) : ¬ BeyondYears python value := by
  rintro ⟨text, beyond, rfl, read⟩
  unfold parseRfc3339 at passed
  dsimp only at passed
  split at passed
  · cases passed
  · rw [read] at passed
    cases passed

/-- A window that is not open is reported, unless one of its ends overflows. -/
theorem authorizationWindow_fails {issuedText expiresText : Json}
    (beyond : BeyondYears python issuedText ∨ BeyondYears python expiresText → overflows) (now : Int) :
    Fails (Rejection overflows) (authorizationWindow python catalog issuedText expiresText now) := by
  refine (parseRfc3339_fails (fun _ => trivial) (fun late => beyond (Or.inl late)) _ _).bind fun issuedAt => ?_
  refine (parseRfc3339_fails (fun _ => trivial) (fun late => beyond (Or.inr late)) _ _).bind fun expiresAt => ?_
  refine (fails_guard trivial).bind fun _ => (fails_guard trivial).bind fun _ => ?_
  exact fails_guard trivial

/-- The key ring reports its own kind of error. -/
def Distrust (overflows : Prop) : PyError → Prop
  | .correlationRejected _ => True
  | .overflowError => overflows
  | _ => False

/-- Credentials of the wrong shape are not trusted. -/
theorem credentials_fails (keyId signature : Json) :
    Fails (Distrust overflows) (authenticator.credentials keyId signature) := by
  unfold CommandAuthenticator.credentials
  repeat' split
  all_goals simp [Distrust]

/-- An authorization begins or ends beyond the years of a datetime. -/
def Authorization.BeyondYears (python : Python) (authorization : Authorization) : Prop :=
  Response.BeyondYears python (.str authorization.issuedAt) ∨ Response.BeyondYears python (.str authorization.expiresAt)

/-- A command that fails verification is not trusted, unless one of its times overflows. -/
theorem verify_fails {command : Command} (beyond : command.authorization.BeyondYears python → overflows) (now : Int) :
    Fails (Distrust overflows) (authenticator.verify python command now) := by
  refine (credentials_fails _ _).bind fun keys => (fails_guard trivial).bind fun _ => ?_
  refine (parseRfc3339_fails (fun _ => trivial) (fun late => beyond (Or.inl late)) _ _).bind fun issuedAt => ?_
  refine (parseRfc3339_fails (fun _ => trivial) (fun late => beyond (Or.inr late)) _ _).bind fun expiresAt => ?_
  exact fails_guard trivial

/-- The times of a verified command are within the years of a datetime. -/
theorem verify_timed {command : Command} {now : Int} (verified : authenticator.verify python command now = .ok ()) :
    ¬ command.authorization.BeyondYears python := by
  unfold CommandAuthenticator.verify at verified
  simp only [Check.bind_ok] at verified
  obtain ⟨_, _, _, _, _, issued, _, expires, _⟩ := verified
  exact not_or.mpr ⟨parseRfc3339_timed issued, parseRfc3339_timed expires⟩

/-- What is not trusted is a rejected command. -/
theorem asCommandRejected_fails {α : Type} {checked : Except PyError α} (distrust : Fails (Distrust overflows) checked) :
    Fails (Rejection overflows) (asCommandRejected checked) := by
  unfold asCommandRejected
  split
  · simp [Rejection]
  · rename_i other
    intro error failed
    have known := distrust error failed
    cases error with
    | correlationRejected message => exact absurd failed (other message)
    | overflowError => exact known
    | _ => exact known.elim

/-- An accepted document is an object. -/
theorem commandFields_ok {raw : Json} {fields : List (String × Json)} (passed : commandFields raw = .ok fields) :
    raw = .obj fields := by
  unfold commandFields at passed
  split at passed
  · split at passed
    · cases passed
    · split at passed
      · cases passed
        rfl
      · cases passed
  · cases passed

theorem authorizationFields_ok {authorization : Json} {fields : List (String × Json)}
    (passed : authorizationFields authorization = .ok fields) : authorization = .obj fields := by
  unfold authorizationFields at passed
  split at passed
  · split at passed
    · cases passed
    · split at passed
      · cases passed
        rfl
      · cases passed
  · cases passed

/-- The times of a checked authorization are texts within the years of a datetime. -/
theorem authorizationWindow_timed {issuedText expiresText : Json} {now : Int}
    (passed : authorizationWindow python catalog issuedText expiresText now = .ok ()) :
    ¬ BeyondYears python (.str issuedText.text) ∧ ¬ BeyondYears python (.str expiresText.text) := by
  have texts {label : String} {value : Json} {time : Int}
      (read : parseRfc3339 python .commandRejected label "is invalid" value = .ok time) :
      ¬ BeyondYears python (.str value.text) := by
    cases value with
    | str text => exact parseRfc3339_timed read
    | null | bool _ | int _ | float _ | arr _ | obj _ => cases read
  simp only [authorizationWindow, Check.bind_ok] at passed
  obtain ⟨_, issued, _, expires, _⟩ := passed
  exact ⟨texts issued, texts expires⟩

/-- An unacceptable mapping is reported as a rejected command, unless one of its times overflows. -/
theorem validateCommand_fails (raw : Json) (now : Int)
    (beyond : ∀ fields authorization, raw = .obj fields → Json.get fields "authorization" = .obj authorization →
      BeyondYears python (Json.get authorization "issued_at") ∨
        BeyondYears python (Json.get authorization "expires_at") → overflows) :
    Fails (Rejection overflows) (validateCommand python catalog authenticator raw now) := by
  refine (commandFields_fails raw).andThen fun fields mapping => ?_
  refine (nonEmptyField_fails _ _).bind fun requestId => (nonEmptyField_fails _ _).bind fun decisionEventId => ?_
  refine (nonEmptyField_fails _ _).bind fun correlationId => (nonEmptyField_fails _ _).bind fun key => ?_
  refine (requireSafeguards_fails _).bind fun _ => (activePolicy_fails _).bind fun policy => ?_
  refine (requireAction_fails _ _).bind fun _ => (matchingTtl_fails _ _).bind fun ttlSeconds => ?_
  refine (targetFields_fails _).bind fun target => (suitedTarget_fails _ _).bind fun suited => ?_
  refine (authorizationFields_fails _).andThen fun authorization authorized => ?_
  refine (authorizationWindow_fails
    (beyond _ _ (commandFields_ok mapping) (authorizationFields_ok authorized)) _).andThen fun _ window => ?_
  refine (asCommandRejected_fails (credentials_fails _ _)).bind fun keys => ?_
  -- The key ring reads the same two times again.
  have timed := authorizationWindow_timed window
  refine (asCommandRejected_fails (verify_fails (fun late => absurd late (not_or.mpr timed)) _)).bind fun _ => ?_
  exact fails_pure

/-- A queued command that is not confirmed again is refused. Its times were read before, so no other error can occur. -/
theorem reauthorize_fails {command : Command} {now : Int} {error : PyError}
    (timed : ¬ command.authorization.BeyondYears python)
    (failed : reauthorize python catalog authenticator command now = .error error) :
    (∃ message, error = .commandRejected message) ∨ ∃ message, error = .policyError message := by
  have reported : Fails (fun error => Rejection False error ∨ ∃ message, error = .policyError message)
      (reauthorize python catalog authenticator command now) := by
    refine Fails.bind (fun error failed => Or.inl (validateCommand_fails _ _ ?_ error failed)) fun _ => ?_
    · rintro fields authorization mapping authorized late
      cases mapping
      cases authorized
      exact timed late
    · split <;> simp
  rcases reported error failed with rejected | refused
  · cases error with
    | commandRejected message => exact Or.inl ⟨message, rfl⟩
    | _ => exact rejected.elim
  · exact Or.inr refused

end Errors

end ClosedLoop.Response
