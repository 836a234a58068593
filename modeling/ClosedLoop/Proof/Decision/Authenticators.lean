import ClosedLoop.Proof.Decision.Agreement
import ClosedLoop.Proof.Decision.Signature

namespace ClosedLoop.Response

open ClosedLoop.Library

section Encoding

/-- Three bytes are written with four digits, and a rest with one more than its bytes. -/
theorem length_b64 (bytes : List Nat) : (b64 bytes).length = (4 * bytes.length + 2) / 3 := by
  induction bytes using b64.induct with
  | case1 first second third rest ih =>
      simp only [b64, List.length_cons, ih]
      omega
  | case2 | case3 | case4 => simp [b64]

/-- A digit is in the alphabet. -/
theorem base64Digit_mem (digit : Nat) : base64Digit digit ∈ base64Alphabet := by
  unfold base64Digit
  rw [List.getD_eq_getElem?_getD]
  cases found : base64Alphabet[digit]? with
  | none => decide
  | some char => exact List.mem_of_getElem? found

/-- So are the digits of a text. -/
theorem b64_mem (bytes : List Nat) : ∀ char ∈ b64 bytes, char ∈ base64Alphabet := by
  induction bytes using b64.induct with
  | case1 first second third rest ih =>
      simp only [b64, List.forall_mem_cons]
      exact ⟨base64Digit_mem _, base64Digit_mem _, base64Digit_mem _, base64Digit_mem _, ih⟩
  | case2 | case3 | case4 => simp [b64, base64Digit_mem]

/-- A text in base 64 has the shape of a signature of its length. -/
theorem isBase64_b64 {bytes : List Nat} {length : Nat} (sized : (4 * bytes.length + 2) / 3 = length) :
    isBase64 length (.ofString (String.ofList (b64 bytes))) = true := by
  have letters : ((b64 bytes).map Char.toNat).all (fun code => code ∈ base64Alphabet.map Char.toNat) = true := by
    simp only [List.all_map, List.all_eq_true, Function.comp_apply, decide_eq_true_eq]
    exact fun char member => List.mem_map_of_mem (b64_mem bytes char member)
  unfold isBase64
  simp only [PyText.ofString, String.toList_ofList, letters, List.length_map, length_b64, sized, Bool.and_true,
    decide_true]

/-- The values of a text in base 64 are the digits that were written. -/
theorem idxOf_base64Digit {digit : Nat} (small : digit < 64) :
    (base64Alphabet.map Char.toNat).idxOf (base64Digit digit).toNat = digit := by
  revert digit
  decide

/-- Bytes are read back from their text in base 64. -/
theorem unb64_b64 {bytes : List Nat} (bounded : ∀ byte ∈ bytes, byte < 256) :
    unb64 (base64Values (.ofString (String.ofList (b64 bytes)))) = bytes := by
  simp only [base64Values, PyText.ofString, String.toList_ofList]
  induction bytes using b64.induct with
  | case1 first second third rest ih =>
      simp only [List.forall_mem_cons] at bounded
      obtain ⟨one, two, three, later⟩ := bounded
      simp only [b64, List.map_cons, unb64]
      rw [ih later, idxOf_base64Digit (by omega), idxOf_base64Digit (by omega), idxOf_base64Digit (by omega),
        idxOf_base64Digit (by omega)]
      congr 2
      · omega
      · omega
      · congr 1
        omega
  | case2 first second =>
      simp only [List.forall_mem_cons] at bounded
      obtain ⟨one, two, -⟩ := bounded
      simp only [b64, List.map_cons, List.map_nil, unb64]
      rw [idxOf_base64Digit (by omega), idxOf_base64Digit (by omega), idxOf_base64Digit (by omega)]
      congr 1
      · omega
      · congr 1
        omega
  | case3 first =>
      have one := bounded first List.mem_cons_self
      simp only [b64, List.map_cons, List.map_nil, unb64]
      rw [idxOf_base64Digit (by omega), idxOf_base64Digit (by omega)]
      congr 1
      omega
  | case4 => rfl

end Encoding

section Rings

variable {κ : Type} (ring : Table PyText κ) (length : Nat) (accepts : κ → PyText → List Char → Bool)

/-- A key ring as the orchestrator uses it. The texts of the commands have no surrogates. -/
def ringOf : CommandAuthenticator where
  ring := ring.keys.filterMap PyText.string?
  signatureShape signature := isBase64 length (.ofString signature)
  signatureValid keyId signature payload := (ring.find? (.ofString keyId)).any fun key =>
    accepts key (.ofString signature) (PyJson.ofJson payload).canonical

/-- The mapping of a command with its signature. -/
def Command.signedFields (command : Command) : List (String × Json) :=
  command.fields (unsigned command.authorization ++ [("signature", .str command.authorization.signature)])

/-- The command as the mapping that an authenticator verifies. -/
def Command.raw (command : Command) : RawMapping where
  fields := PyJson.ofFields command.signedFields
  decoded := by
    have flat : ∀ fields : List (String × Json), (Table.keys (PyJson.ofFields fields)).Nodup →
        (∀ field ∈ PyJson.ofFields fields, field.2.Decoded) → (PyJson.ofJson (.obj fields)).Decoded := by
      intro fields distinct each
      rw [PyJson.ofJson, PyJson.Decoded, PyJson.decodedFields_iff]
      exact ⟨distinct, each⟩
    have lifetime : (PyJson.ofJson command.ttlSeconds.toJson).Decoded := by
      unfold WholeNumber.toJson
      split <;> trivial
    refine flat _ ?_ ?_
    · simp [Command.signedFields, Command.fields, PyJson.ofFields, Table.keys]
    · simp only [Command.signedFields, Command.fields, PyJson.ofFields, List.forall_mem_cons, List.not_mem_nil,
        false_imp_iff, implies_true, and_true]
      refine ⟨trivial, trivial, trivial, trivial, flat _ ?_ ?_, flat _ ?_ ?_, trivial, lifetime, trivial, trivial, trivial,
        flat _ ?_ ?_⟩
      all_goals simp [Command.unsigned, PyJson.ofFields, PyJson.ofJson, Table.keys, PyJson.Decoded]

variable {ring length accepts} {python : Python} {command : Command} {now : Int}

/-- The ring holds the keys of the table. -/
theorem mem_ringOf {keyId : String} : keyId ∈ (ringOf ring length accepts).ring ↔ PyText.ofString keyId ∈ ring.keys := by
  change keyId ∈ ring.keys.filterMap PyText.string? ↔ _
  rw [List.mem_filterMap]
  constructor
  · rintro ⟨text, listed, same⟩
    rwa [PyText.ofString_of_string? same]
  · exact fun listed => ⟨_, listed, PyText.string?_ofString keyId⟩

/-- The authorization of a command before its texts are converted. -/
theorem raw_authorization : command.raw.authorization? = some (PyJson.ofFields (Command.unsigned command.authorization ++
    [("signature", .str command.authorization.signature)])) := by
  have found : RawMapping.get command.raw.fields "authorization" =
      (command.signedFields.lookup "authorization").map PyJson.ofJson := PyJson.find?_ofFields _ _
  unfold RawMapping.authorization?
  rw [found]
  rfl

/-- The signed text of a command is that of its payload. -/
theorem raw_signaturePayload : command.raw.signaturePayload = .ok (PyJson.ofJson command.signaturePayload).canonical := by
  rw [RawMapping.signaturePayload_eq raw_authorization]
  congr 2
  unfold RawMapping.withoutSignature Command.signaturePayload
  change PyJson.obj ((PyJson.ofFields command.signedFields).map RawMapping.unsignedField) = _
  have unsigned : RawMapping.unsignedField (.ofString "authorization", PyJson.ofJson (.obj
      (Command.unsigned command.authorization ++ [("signature", .str command.authorization.signature)]))) =
      (.ofString "authorization", PyJson.ofJson (.obj (Command.unsigned command.authorization))) := by
    simp [RawMapping.unsignedField, Command.unsigned, PyJson.ofJson, PyJson.ofFields]
  simp only [Command.signedFields, Command.fields, PyJson.ofFields, List.map_cons, List.map_nil, unsigned]
  simp [RawMapping.unsignedField_of_ne, PyJson.ofJson, PyJson.ofFields]

/-- A time is parsed from its text. -/
theorem parseRawTime_str (label text : String) :
    parseRawTime python label (some (.str (.ofString text))) =
      parseRfc3339 python .correlationRejected label "is not a valid timestamp" (.str text) := by
  unfold parseRawTime
  simp only [PyText.string?_ofString]

/-- The orchestrator's key ring verifies a command as the authenticator does. -/
theorem verifyRaw_raw : verifyRaw python ring length accepts command.raw now =
    (ringOf ring length accepts).verify python command now := by
  have field (name : String) : RawMapping.get (PyJson.ofFields (Command.unsigned command.authorization ++
      [("signature", .str command.authorization.signature)])) name = ((Command.unsigned command.authorization ++
        [("signature", Json.str command.authorization.signature)]).lookup name).map PyJson.ofJson :=
    PyJson.find?_ofFields _ name
  have keyIs : RawMapping.get _ "key_id" = some (.str (.ofString command.authorization.keyId)) := field "key_id"
  have signatureIs : RawMapping.get _ "signature" = some (.str (.ofString command.authorization.signature)) :=
    field "signature"
  have issued : RawMapping.get _ "issued_at" = some (.str (.ofString command.authorization.issuedAt)) :=
    field "issued_at"
  have expires : RawMapping.get _ "expires_at" = some (.str (.ofString command.authorization.expiresAt)) :=
    field "expires_at"
  unfold verifyRaw CommandAuthenticator.verify CommandAuthenticator.credentials
  rw [raw_authorization]
  simp only [keyIs, signatureIs, issued, expires, parseRawTime_str, raw_signaturePayload, mem_ringOf]
  cases found : ring.find? (.ofString command.authorization.keyId) with
  | none =>
      rw [if_pos (Table.find?_eq_none_iff.mp found)]
      rfl
  | some key =>
      have listed : PyText.ofString command.authorization.keyId ∈ ring.keys :=
        List.mem_map.mpr ⟨_, Table.mem_of_find? found, rfl⟩
      rw [if_neg (not_not.mpr listed)]
      have valid : (ringOf ring length accepts).signatureValid command.authorization.keyId
          command.authorization.signature command.signaturePayload = accepts key
            (.ofString command.authorization.signature) (PyJson.ofJson command.signaturePayload).canonical := by
        simp [ringOf, found]
      have shape : (ringOf ring length accepts).signatureShape command.authorization.signature =
        isBase64 length (.ofString command.authorization.signature) := rfl
      simp only [shape]
      cases shaped : isBase64 length (.ofString command.authorization.signature) with
      | false => rfl
      | true =>
          simp only [bind, Except.bind, Check.guard, if_true, valid]

end Rings

section Signers

variable {engine : DecisionEngine} {command : Command}

/-- The signature of a payload under the signing key of the ring. -/
def HmacCommandAuthenticator.signPayload (authenticator : HmacCommandAuthenticator) (payload : Json) :
    Except PyError String :=
  .ok (String.ofList (b64 (Sha256.hmac ((authenticator.keys.find? authenticator.signingKeyId).getD [])
    ((PyJson.ofJson payload).canonical.map Char.toNat))))

/-- `sign` covers the payload of a command. -/
theorem HmacCommandAuthenticator.sign_raw (authenticator : HmacCommandAuthenticator) :
    authenticator.sign command.raw = (authenticator.signPayload command.signaturePayload).map .ofString := by
  unfold HmacCommandAuthenticator.sign
  rw [raw_signaturePayload]
  rfl

/-- An orchestrator with the keys of an HMAC ring trusts an engine that signs with the ring. -/
theorem HmacCommandAuthenticator.trusts (authenticator : HmacCommandAuthenticator)
    (signs : engine.sign = authenticator.signPayload)
    (names : .ofString engine.signingKeyId = authenticator.signingKeyId) :
    Trusts (ringOf authenticator.keys 43 HmacCommandAuthenticator.accepts) engine where
  known := mem_ringOf.mpr (names ▸ authenticator.known)
  genuine payload signature signed := by
    rw [signs] at signed
    cases signed
    obtain ⟨key, found⟩ := Table.mem_keys_iff.mp authenticator.known
    refine ⟨isBase64_b64 (by rw [Sha256.length_hmac]), ?_⟩
    change ((authenticator.keys.find? (.ofString engine.signingKeyId)).any fun key => _) = true
    rw [names, found]
    exact decide_eq_true rfl

/-- A public key accepts what its private key signs, and a signature has 64 bytes. -/
structure Ed25519.Correct (curve : Ed25519) (publicKey : curve.PrivateKey → curve.PublicKey) : Prop where
  sized : ∀ key message, (curve.sign key message).length = 64
  bytes : ∀ key message, ∀ byte ∈ curve.sign key message, byte < 256
  verifies : ∀ key message, curve.verify (publicKey key) (curve.sign key message) message = true

/-- The signature of a payload under a private key. -/
def Ed25519.signPayload (curve : Ed25519) (key : curve.PrivateKey) (payload : Json) : Except PyError String :=
  .ok (String.ofList (b64 (curve.sign key (PyJson.ofJson payload).canonical)))

/-- The signer signs the payload of the command with its key. -/
theorem Ed25519CommandAuthenticator.sign_raw {curve : Ed25519} {authenticator : Ed25519CommandAuthenticator curve}
    {key : curve.PrivateKey} {keyId : PyText} (signing : authenticator.signing = some (key, keyId)) :
    authenticator.sign command.raw = (curve.signPayload key command.signaturePayload).map .ofString := by
  unfold Ed25519CommandAuthenticator.sign
  rw [signing, raw_signaturePayload]
  rfl

/-- An orchestrator with the public key of the engine's private key trusts the engine. -/
theorem Ed25519CommandAuthenticator.trusts {curve : Ed25519} {publicKey : curve.PrivateKey → curve.PublicKey}
    (correct : curve.Correct publicKey) (authenticator : Ed25519CommandAuthenticator curve) {key : curve.PrivateKey}
    (signs : engine.sign = curve.signPayload key)
    (paired : authenticator.ring.find? (.ofString engine.signingKeyId) = some (publicKey key)) :
    Trusts (ringOf authenticator.ring 86 Ed25519CommandAuthenticator.accepts) engine where
  known := mem_ringOf.mpr (Table.mem_keys_iff.mpr ⟨_, paired⟩)
  genuine payload signature signed := by
    rw [signs] at signed
    cases signed
    refine ⟨isBase64_b64 (by rw [correct.sized]), ?_⟩
    change ((authenticator.ring.find? (.ofString engine.signingKeyId)).any fun key => _) = true
    rw [paired]
    change curve.verify (publicKey key) (unb64 (base64Values _)) _ = true
    rw [unb64_b64 (correct.bytes key _)]
    exact correct.verifies key _

end Signers

end ClosedLoop.Response
