import ClosedLoop.Construction.Response.Signing

namespace ClosedLoop.Response

open ClosedLoop.Library

namespace RawMapping

/-- Two commands are the same value when the signature inside the authorization does not count. -/
def SameUnsigned (first second : RawMapping) : Prop := first.withoutSignature.Same second.withoutSignature

section Payloads

variable {command first second : RawMapping} {authorization : List (PyText × PyJson)}

theorem authorization?_mem (found : command.authorization? = some authorization) :
    (PyText.ofString "authorization", PyJson.obj authorization) ∈ command.fields := by
  unfold authorization? at found
  split at found
  · rename_i fields present
    cases found
    exact Table.mem_of_find? present
  · cases found

/-- No other field loses anything. -/
theorem unsignedField_of_ne {name : PyText} {value : PyJson} (different : name ≠ .ofString "authorization") :
    unsignedField (name, value) = (name, value) := by
  cases value <;> simp [unsignedField, different]

/-- The signed text is the canonical text of the command without its signature. -/
theorem signaturePayload_eq (found : command.authorization? = some authorization) :
    command.signaturePayload = .ok command.withoutSignature.canonical := by
  have decoded := command.decoded
  rw [PyJson.Decoded] at decoded
  have member := authorization?_mem found
  have listed : PyText.ofString "authorization" ∈ Table.keys command.fields := List.mem_map.mpr ⟨_, member, rfl⟩
  simp only [signaturePayload, found, withoutSignature]
  rw [Table.upsert_eq_map decoded.1 listed]
  congr 3
  refine List.map_congr_left fun field inside => ?_
  obtain ⟨name, value⟩ := field
  by_cases same : name = PyText.ofString "authorization"
  · subst same
    have equal : value = .obj authorization := by
      have one := Table.find?_of_mem decoded.1 inside
      rw [Table.find?_of_mem decoded.1 member] at one
      exact (Option.some.inj one).symm
    subst equal
    simp [unsignedField]
  · rw [unsignedField_of_ne same]
    exact if_neg same

theorem exists_authorization {payload : List Char} (signed : command.signaturePayload = .ok payload) :
    ∃ authorization, command.authorization? = some authorization := by
  cases found : command.authorization? with
  | some authorization => exact ⟨authorization, rfl⟩
  | none => simp [signaturePayload, found] at signed

/-- The removal of fields leaves a value that could have been decoded. -/
theorem withoutSignature_decoded (command : RawMapping) : command.withoutSignature.Decoded := by
  obtain ⟨distinct, each⟩ := command.decoded
  rw [PyJson.decodedFields_iff] at each
  rw [withoutSignature, PyJson.Decoded, PyJson.decodedFields_iff]
  constructor
  · have names : Table.keys (command.fields.map unsignedField) = Table.keys command.fields := by
      rw [Table.keys, Table.keys, List.map_map]
      refine List.map_congr_left fun field _ => ?_
      rw [Function.comp_apply, unsignedField]
      split
      · split <;> rfl
      · rfl
    rw [names]
    exact distinct
  · rw [List.forall_mem_map]
    intro field member
    have whole := each field member
    unfold unsignedField
    split
    · rename_i authorization value
      split
      · rw [value, PyJson.Decoded, PyJson.decodedFields_iff] at whole
        rw [PyJson.Decoded, PyJson.decodedFields_iff]
        refine ⟨?_, fun inner kept => whole.2 inner (List.mem_of_mem_filter kept)⟩
        exact whole.1.sublist (List.filter_sublist.map Prod.fst)
      · exact whole
    · exact whole

/-- Two commands have the same signed text exactly when they differ at most in the signature and in the order of fields. -/
theorem signaturePayload_same_iff {others : List (PyText × PyJson)} (authorized : first.authorization? = some authorization)
    (alsoAuthorized : second.authorization? = some others) :
    first.signaturePayload = second.signaturePayload ↔ first.SameUnsigned second := by
  rw [signaturePayload_eq authorized, signaturePayload_eq alsoAuthorized, Except.ok.injEq, SameUnsigned]
  exact PyJson.canonical_eq_iff_same first.withoutSignature_decoded second.withoutSignature_decoded

end Payloads

end RawMapping

section Forgeries

variable {κ : Type} {python : Python} {ring : Table PyText κ} {length : Nat} {accepts : κ → PyText → List Char → Bool}
  {issued : List RawMapping} {presented : RawMapping} {now : Int}

/-- A command comes with a signature that its key accepts for a text that was never signed. -/
def Forgery (ring : Table PyText κ) (accepts : κ → PyText → List Char → Bool) (issued : List RawMapping)
    (presented : RawMapping) : Prop :=
  ∃ authorization keyId key signature payload, presented.authorization? = some authorization ∧
    RawMapping.get authorization "key_id" = some (.str keyId) ∧ ring.find? keyId = some key ∧
    RawMapping.get authorization "signature" = some (.str signature) ∧ presented.signaturePayload = .ok payload ∧
    accepts key signature payload = true ∧ ∀ command ∈ issued, command.signaturePayload ≠ .ok payload

/-- A command that is verified was accepted under its own key for its own text. -/
theorem verifyRaw_accepts (verified : verifyRaw python ring length accepts presented now = .ok ()) :
    ∃ authorization keyId key signature payload, presented.authorization? = some authorization ∧
      RawMapping.get authorization "key_id" = some (.str keyId) ∧ ring.find? keyId = some key ∧
      RawMapping.get authorization "signature" = some (.str signature) ∧ presented.signaturePayload = .ok payload ∧
      accepts key signature payload = true := by
  unfold verifyRaw at verified
  split at verified
  · cases verified
  · rename_i authorization authorized
    split at verified
    · rename_i keyId named
      split at verified
      · cases verified
      · rename_i key listed
        split at verified
        · rename_i signature given
          simp only [Check.bind_ok, Check.guard_ok] at verified
          obtain ⟨_, _, payload, signed, _, accepted, _⟩ := verified
          exact ⟨authorization, keyId, key, signature, payload, authorized, named, listed, given, signed, accepted⟩
        · cases verified
    · cases verified

/-- A command that is verified is one of the issued commands, up to its signature, unless its signature is forged. -/
theorem verifyRaw_issued (verified : verifyRaw python ring length accepts presented now = .ok ()) :
    (∃ command ∈ issued, command.SameUnsigned presented) ∨ Forgery ring accepts issued presented := by
  obtain ⟨authorization, keyId, key, signature, payload, authorized, named, listed, given, signed, accepted⟩ :=
    verifyRaw_accepts verified
  by_cases known : ∃ command ∈ issued, command.signaturePayload = .ok payload
  · obtain ⟨command, member, same⟩ := known
    obtain ⟨others, alsoAuthorized⟩ := RawMapping.exists_authorization same
    refine Or.inl ⟨command, member, ?_⟩
    exact (RawMapping.signaturePayload_same_iff alsoAuthorized authorized).mp (same.trans signed.symm)
  · refine Or.inr ⟨authorization, keyId, key, signature, payload, authorized, named, listed, given, signed, accepted, ?_⟩
    exact fun command member same => known ⟨command, member, same⟩

end Forgeries

/-- The signature covers the whole command, for both authenticators. -/
theorem signature_covers_whole_command {first second : RawMapping} {authorization others : List (PyText × PyJson)}
    (authorized : first.authorization? = some authorization) (alsoAuthorized : second.authorization? = some others) :
    (first.signaturePayload = second.signaturePayload ↔ first.SameUnsigned second) ∧
      (∃ payload, first.signaturePayload = .ok payload) ∧
      (∀ (python : Python) (authenticator : HmacCommandAuthenticator) (issued : List RawMapping) (now : Int),
        authenticator.verify python second now = .ok () →
          (∃ command ∈ issued, command.SameUnsigned second) ∨
            Forgery authenticator.keys HmacCommandAuthenticator.accepts issued second) ∧
      ∀ (python : Python) (curve : Ed25519) (authenticator : Ed25519CommandAuthenticator curve) (issued : List RawMapping)
        (now : Int), authenticator.verify python second now = .ok () →
          (∃ command ∈ issued, command.SameUnsigned second) ∨
            Forgery authenticator.ring Ed25519CommandAuthenticator.accepts issued second := by
  refine ⟨RawMapping.signaturePayload_same_iff authorized alsoAuthorized, ⟨_, RawMapping.signaturePayload_eq authorized⟩,
    ?_, ?_⟩
  · intro python authenticator issued now verified
    exact verifyRaw_issued verified
  · intro python curve authenticator issued now verified
    exact verifyRaw_issued verified

/-- A command with its authorization in front. -/
def frontCommand : RawMapping where
  fields := [(.ofString "authorization", .obj [(.ofString "key_id", .str (.ofString "lab")),
    (.ofString "signature", .str (.ofString "x"))]), (.ofString "ttl_seconds", .int 60)]
  decoded := by
    rw [PyJson.Decoded, PyJson.decodedFields_iff]
    refine ⟨by decide, ?_⟩
    simp only [List.forall_mem_cons, List.not_mem_nil, false_imp_iff, implies_true, and_true]
    refine ⟨?_, trivial⟩
    rw [PyJson.Decoded, PyJson.decodedFields_iff]
    refine ⟨by decide, ?_⟩
    simp only [List.forall_mem_cons, List.not_mem_nil, false_imp_iff, implies_true, and_true]
    exact ⟨trivial, trivial⟩

/-- A command without a signature and with its authorization at the end. -/
def backCommand (float : Bool) : RawMapping where
  fields := [(.ofString "ttl_seconds", bif float then .float (.finite 60) else .int 60),
    (.ofString "authorization", .obj [(.ofString "key_id", .str (.ofString "lab"))])]
  decoded := by
    rw [PyJson.Decoded, PyJson.decodedFields_iff]
    refine ⟨by cases float <;> decide, ?_⟩
    simp only [List.forall_mem_cons, List.not_mem_nil, false_imp_iff, implies_true, and_true]
    refine ⟨by cases float <;> trivial, ?_⟩
    rw [PyJson.Decoded, PyJson.decodedFields_iff]
    refine ⟨by decide, ?_⟩
    simp only [List.forall_mem_cons, List.not_mem_nil, false_imp_iff, implies_true, and_true]
    trivial

/-- The order of the fields does not change the signed text, but a number of another type does. -/
theorem retyped_ttl_changes_payload :
    frontCommand.signaturePayload = (backCommand false).signaturePayload ∧
      frontCommand.signaturePayload ≠ (backCommand true).signaturePayload := by
  have front : frontCommand.withoutSignature = .obj [(.ofString "authorization",
      .obj [(.ofString "key_id", .str (.ofString "lab"))]), (.ofString "ttl_seconds", .int 60)] := rfl
  have back : ∀ float, (backCommand float).withoutSignature = .obj [(.ofString "ttl_seconds",
      bif float then .float (.finite 60) else .int 60),
      (.ofString "authorization", .obj [(.ofString "key_id", .str (.ofString "lab"))])] := by
    intro float
    cases float <;> rfl
  have covers := fun float => (signature_covers_whole_command (rfl : frontCommand.authorization? = some _)
    (rfl : (backCommand float).authorization? = some _)).1
  constructor
  · rw [covers false, RawMapping.SameUnsigned, front, back, PyJson.Same, PyJson.sameFields_iff]
    refine ⟨rfl, ?_⟩
    simp only [List.forall_mem_cons, List.not_mem_nil, false_imp_iff, implies_true, and_true]
    refine ⟨⟨_, List.mem_cons_of_mem _ List.mem_cons_self, ?_⟩, ⟨_, List.mem_cons_self, rfl⟩⟩
    rw [PyJson.Same, PyJson.sameFields_iff, List.forall_mem_singleton]
    exact ⟨rfl, _, List.mem_cons_self, rfl⟩
  · rw [ne_eq, covers true, RawMapping.SameUnsigned, front, back, PyJson.Same, PyJson.sameFields_iff]
    rintro ⟨-, each⟩
    obtain ⟨other, listed, same⟩ := each (.ofString "ttl_seconds", .int 60) (List.mem_cons_of_mem _ List.mem_cons_self)
    rcases List.mem_cons.mp listed with equal | later
    · rw [(Prod.mk.inj equal).2] at same
      exact same
    · have names := (Prod.mk.inj (List.mem_singleton.mp later)).1
      exact absurd names (by decide)

end ClosedLoop.Response
