import ClosedLoop.Construction.Response.Command
import ClosedLoop.Library.PyJson
import ClosedLoop.Library.Sha256

namespace ClosedLoop.Response

open ClosedLoop.Library

/-- A mapping that `json.loads` returned, before any of its fields is checked. -/
structure RawMapping where
  fields : List (PyText × PyJson)
  decoded : (PyJson.obj fields).Decoded

namespace RawMapping

/-- `mapping.get(name)` -/
def get (fields : List (PyText × PyJson)) (name : String) : Option PyJson := Table.find? fields (.ofString name)

/-- The fields of `command["authorization"]`, if it is a mapping. -/
def authorization? (command : RawMapping) : Option (List (PyText × PyJson)) :=
  match get command.fields "authorization" with
  | some (.obj authorization) => some authorization
  | _ => none

/-- `_signature_payload` covers every command field except the signature value itself. -/
def signaturePayload (command : RawMapping) : Except PyError (List Char) :=
  match command.authorization? with
  | some authorization =>
      let unsignedAuthorization := authorization.filter fun field => field.1 ≠ .ofString "signature"
      let payload := Table.upsert command.fields (.ofString "authorization") (.obj unsignedAuthorization)
      .ok (PyJson.obj payload).canonical
  | none => .error (.correlationRejected "response command is missing authorization")

/-- The field `authorization` loses its own field `signature`. -/
def unsignedField (field : PyText × PyJson) : PyText × PyJson :=
  match field.2 with
  | .obj authorization =>
      if field.1 = .ofString "authorization" then
        (field.1, .obj (authorization.filter fun inner => inner.1 ≠ .ofString "signature"))
      else field
  | _ => field

/-- The command as a value without `authorization.signature`. -/
def withoutSignature (command : RawMapping) : PyJson := .obj (command.fields.map unsignedField)

end RawMapping

section Encoding

def base64Alphabet : List Char := "ABCDEFGHIJKLMNOPQRSTUVWXYZabcdefghijklmnopqrstuvwxyz0123456789-_".toList

def base64Digit (digit : Nat) : Char := base64Alphabet.getD digit 'A'

/-- `_b64` encodes bytes without padding. -/
def b64 : List Nat → List Char
  | first :: second :: third :: rest =>
      base64Digit (first / 4) :: base64Digit (first % 4 * 16 + second / 16) ::
        base64Digit (second % 16 * 4 + third / 64) :: base64Digit (third % 64) :: b64 rest
  | [first, second] =>
      [base64Digit (first / 4), base64Digit (first % 4 * 16 + second / 16), base64Digit (second % 16 * 4)]
  | [first] => [base64Digit (first / 4), base64Digit (first % 4 * 16)]
  | [] => []

/-- `_unb64` drops the bits of the last digit that make no byte. -/
def unb64 : List Nat → List Nat
  | first :: second :: third :: fourth :: rest =>
      (first * 4 + second / 16) :: (second % 16 * 16 + third / 4) :: (third % 4 * 64 + fourth) :: unb64 rest
  | [first, second, third] => [first * 4 + second / 16, second % 16 * 16 + third / 4]
  | [first, second] => [first * 4 + second / 16]
  | _ => []

/-- `re.fullmatch(r"[A-Za-z0-9_-]{length}", signature)` -/
def isBase64 (length : Nat) (signature : PyText) : Bool :=
  signature.codes.length = length && signature.codes.all fun code => code ∈ base64Alphabet.map Char.toNat

/-- The values of the digits of a text. -/
def base64Values (signature : PyText) : List Nat := signature.codes.map fun code => (base64Alphabet.map Char.toNat).idxOf code

end Encoding

section Verification

variable (python : Python)

/-- `_parse_rfc3339`. A text with a surrogate that stands alone is not a time. -/
def parseRawTime (label : String) (value : Option PyJson) : Except PyError Int :=
  match value with
  | some (.str text) =>
      match text.string? with
      | some text => parseRfc3339 python .correlationRejected label "is not a valid timestamp" (.str text)
      | none => .error (.correlationRejected s!"{label} is not a valid timestamp")
  | _ => .error (.correlationRejected s!"{label} must be an RFC3339 timestamp")

/-- The two authenticators differ in their keys, in the length of a signature and in what they accept. -/
def verifyRaw {κ : Type} (ring : Table PyText κ) (length : Nat) (accepts : κ → PyText → List Char → Bool)
    (command : RawMapping) (now : Int) : Except PyError Unit :=
  match command.authorization? with
  | none => .error (.correlationRejected "response command has no authorization")
  | some authorization =>
      match RawMapping.get authorization "key_id" with
      | some (.str keyId) =>
          match ring.find? keyId with
          | none => .error (.correlationRejected "response command uses an unknown authorization key")
          | some key =>
              match RawMapping.get authorization "signature" with
              | some (.str signature) => do
                  Check.guard (isBase64 length signature)
                    (.correlationRejected "response command has an invalid authorization signature")
                  let payload ← command.signaturePayload
                  Check.guard (accepts key signature payload)
                    (.correlationRejected "response command signature verification failed")
                  let issuedAt ← parseRawTime python "authorization.issued_at" (RawMapping.get authorization "issued_at")
                  let expiresAt ← parseRawTime python "authorization.expires_at" (RawMapping.get authorization "expires_at")
                  Check.guard (issuedAt < expiresAt ∧ now < expiresAt)
                    (.correlationRejected "response command authorization is expired")
              | _ => .error (.correlationRejected "response command has an invalid authorization signature")
      | _ => .error (.correlationRejected "response command uses an unknown authorization key")

/-- A key ring whose keys have at least 32 bytes. The signing key is one of them. -/
structure HmacCommandAuthenticator where
  keys : Table PyText (List Nat)
  signingKeyId : PyText
  known : signingKeyId ∈ keys.keys
  long : ∀ row ∈ keys, 32 ≤ row.2.length

namespace HmacCommandAuthenticator

variable (authenticator : HmacCommandAuthenticator)

/-- The signature of a payload under a key. -/
def tag (key : List Nat) (payload : List Char) : PyText := .ofString (String.ofList (b64 (Sha256.hmac key (payload.map Char.toNat))))

def sign (command : RawMapping) : Except PyError PyText := do
  let payload ← command.signaturePayload
  return tag ((authenticator.keys.find? authenticator.signingKeyId).getD []) payload

def accepts (key : List Nat) (signature : PyText) (payload : List Char) : Bool := decide (signature = tag key payload)

def verify (command : RawMapping) (now : Int) : Except PyError Unit :=
  verifyRaw python authenticator.keys 43 accepts command now

end HmacCommandAuthenticator

/-- The two operations of the curve that the authenticator uses. -/
structure Ed25519 where
  PrivateKey : Type
  PublicKey : Type
  sign : PrivateKey → (message : List Char) → List Nat
  verify : PublicKey → (signature : List Nat) → (message : List Char) → Bool

/-- `^[A-Za-z0-9._-]{1,128}$` -/
def isKeyId (keyId : PyText) : Bool :=
  1 ≤ keyId.codes.length && keyId.codes.length ≤ 128 &&
    keyId.codes.all fun code => code ∈ ('.' :: base64Alphabet).map Char.toNat

structure Ed25519CommandAuthenticator (curve : Ed25519) where
  ring : Table PyText curve.PublicKey
  signing : Option (curve.PrivateKey × PyText)
  nonempty : ring ≠ []
  named : ∀ keyId ∈ ring.keys, isKeyId keyId = true
  known : ∀ pair ∈ signing, pair.2 ∈ ring.keys

namespace Ed25519CommandAuthenticator

variable {curve : Ed25519} (authenticator : Ed25519CommandAuthenticator curve)

def sign (command : RawMapping) : Except PyError PyText :=
  match authenticator.signing with
  | none => .error (.correlationRejected "this authenticator has no signing key")
  | some (key, _) => do
      let payload ← command.signaturePayload
      return .ofString (String.ofList (b64 (curve.sign key payload)))

def accepts (key : curve.PublicKey) (signature : PyText) (payload : List Char) : Bool :=
  curve.verify key (unb64 (base64Values signature)) payload

def verify (command : RawMapping) (now : Int) : Except PyError Unit :=
  verifyRaw python authenticator.ring 86 accepts command now

end Ed25519CommandAuthenticator

end Verification

end ClosedLoop.Response
