import ClosedLoop.Proof.Decision.Verdict

namespace ClosedLoop.Response

open ClosedLoop.Library

section Values

/-- The address without its zone identifier. -/
def plainAddress : IPAddress → IPAddress
  | .v4 address => .v4 address
  | .v6 address => .v6 { address with scopeId := none }

/-- The numeric address that a target denotes. An IPv4-mapped address stands for its IPv4 address. -/
def denoted : IPAddress → IPAddress
  | .v4 address => .v4 address
  | .v6 address => ((IPAddress.ipv4Mapped address).map IPAddress.v4).getD (plainAddress (.v6 address))

/-- A network contains the bits of an address, whatever its zone is. -/
theorem contains_plain (network : IPNetwork) (address : IPAddress) :
    network.contains (plainAddress address) = network.contains address := by
  obtain ⟨base, length⟩ := network
  cases base <;> cases address <;> rfl

theorem inAny_append (networks others : List IPNetwork) (address : IPAddress) :
    address.inAny (networks ++ others) = (address.inAny networks || address.inAny others) := List.any_append

/-- Every IPv4-mapped address is reserved. -/
theorem mapped_reserved {address : IPv6Address} {mapped : IPv4Address}
    (found : IPAddress.ipv4Mapped address = some mapped) : (IPAddress.v6 address).isReserved = true := by
  unfold IPAddress.ipv4Mapped at found
  simp only at found
  split at found
  · rename_i high
    have low : address.toNat / 2 ^ (128 - 8) = 0 := by
      refine Nat.div_eq_of_lt ?_
      omega
    have zero : (IPNetwork.hextets [] 8).contains (.v6 address) = true := by
      unfold IPNetwork.contains IPNetwork.hextets IPNetwork.sharesBits
      simp only [low]
      decide
    exact List.any_eq_true.mpr ⟨_, by simp [IPAddress.reservedNetworks], zero⟩
  · cases found

theorem denoted_unreserved {address : IPAddress} (free : address.isReserved = false) :
    denoted address = plainAddress address := by
  cases address with
  | v4 _ => rfl
  | v6 sixth =>
      cases found : IPAddress.ipv4Mapped sixth with
      | none => simp [denoted, found]
      | some mapped =>
          rw [mapped_reserved found] at free
          cases free

end Values

section Protections

variable (python : Python) (protections : ProtectionPolicy)

/-- The addresses and the networks that a block must not reach. -/
def listedAddresses : List IPAddress := protections.allowlistedIps ++ protections.protectedIps

def listedNetworks : List IPNetwork := protections.allowlistedNetworks ++ protections.protectedNetworks

/-- A target that may be blocked denotes no listed address and lies in no listed network. -/
def ProtectsValue (value : String) : Prop :=
  verdict python protections "block_ip" "ip" value = .ok () → ∀ address, IPAddress.parse value = some address →
    (∀ entry ∈ listedAddresses protections, plainAddress entry ≠ denoted address) ∧
      ∀ network ∈ listedNetworks protections, network.contains (denoted address) = false

/-- The address is special, or it is listed as it stands, or its network is. -/
def Barred (address : IPAddress) : Prop :=
  (address.isUnspecified || address.isLoopback || address.isLinkLocal || address.isMulticast) = true ∨
    address.isReserved = true ∨ (protections.blockPrivateIpTargets && address.isPrivate) = true ∨
    address ∈ listedAddresses protections ∨ address.inAny (listedNetworks protections) = true

/-- A listed address has the same bits in another zone. -/
def Rezoned (address : IPAddress) : Prop :=
  ∃ entry ∈ listedAddresses protections, plainAddress entry = plainAddress address ∧ entry ≠ address

variable {python protections}

/-- A block is allowed exactly for an address that is not barred. -/
theorem verdict_ok_iff {value : String} :
    verdict python protections "block_ip" "ip" value = .ok () ↔
      ∃ address, IPAddress.parse value = some address ∧ ¬Barred protections address := by
  have typed : verdict python protections "block_ip" "ip" value =
      assertTargetAllowed python protections .blockIp ⟨.ip, value⟩ :=
    verdict_text python protections .blockIp ⟨.ip, value⟩
  rw [typed]
  unfold assertTargetAllowed assertAddressAllowed
  dsimp only
  split
  · rename_i unreadable
    simp [unreadable]
  · rename_i address parsed
    simp only [parsed, Option.some.injEq, exists_eq_left', Barred, listedAddresses, listedNetworks, List.mem_append,
      inAny_append, Bool.or_eq_true, not_or]
    constructor
    · intro passed
      split at passed
      · cases passed
      · rename_i special
        split at passed
        · cases passed
        · rename_i reserved
          split at passed
          · cases passed
          · rename_i disabled
            split at passed
            · cases passed
            · rename_i allowlisted
              split at passed
              · cases passed
              · rename_i guarded
                split at passed
                · cases passed
                · rename_i inside
                  simp only [not_or] at special allowlisted
                  exact ⟨special, reserved, disabled, ⟨allowlisted.1, guarded⟩, allowlisted.2, inside⟩
    · rintro ⟨special, reserved, disabled, ⟨allowlisted, guarded⟩, around, inside⟩
      rw [if_neg (by simpa using special), if_neg reserved, if_neg disabled, if_neg (by simp [allowlisted, around]),
        if_neg guarded, if_neg inside]

/-- Protections hold by value unless a listed address is given in another zone. -/
theorem protects_value_iff (python : Python) (protections : ProtectionPolicy) (value : String) :
    ProtectsValue python protections value ↔ ∀ address, IPAddress.parse value = some address →
      Barred protections address ∨ ¬Rezoned protections address := by
  unfold ProtectsValue
  rw [verdict_ok_iff]
  constructor
  · intro holds address parsed
    by_contra unbarred
    obtain ⟨free, entry, listed, bits, -⟩ := not_or.mp unbarred |>.imp id not_not.mp
    have unreserved : address.isReserved = false := by
      rw [← Bool.not_eq_true]
      exact fun reserved => free (.inr (.inl reserved))
    refine (holds ⟨address, parsed, free⟩ address parsed).1 entry listed ?_
    rw [denoted_unreserved unreserved, bits]
  · rintro grounds ⟨address, parsed, free⟩ other same
    cases Option.some.inj (parsed.symm.trans same)
    have unreserved : address.isReserved = false := by
      rw [← Bool.not_eq_true]
      exact fun reserved => free (.inr (.inl reserved))
    have zoned := (grounds address parsed).resolve_left free
    rw [denoted_unreserved unreserved]
    refine ⟨fun entry listed bits => ?_, fun network listed => ?_⟩
    · by_cases identical : entry = address
      · exact free (.inr (.inr (.inr (.inl (identical ▸ listed)))))
      · exact zoned ⟨entry, listed, bits, identical⟩
    · rw [contains_plain, ← Bool.not_eq_true]
      exact fun inside => free (.inr (.inr (.inr (.inr (List.any_eq_true.mpr ⟨network, listed, inside⟩)))))

/-- A resolver is protected. -/
def zonedProtections : ProtectionPolicy :=
  ⟨[], [], (IPAddress.parse "2606:4700:4700::1111").toList, [], [], [], true⟩

/-- With a zone identifier the address of the resolver may be blocked. -/
theorem zoned_target_passes : ¬ProtectsValue deskPython zonedProtections "2606:4700:4700::1111%eth0" := by
  intro holds
  have passes : verdict deskPython zonedProtections "block_ip" "ip" "2606:4700:4700::1111%eth0" = .ok () := by
    decide +kernel
  have reached : ∃ address entry, IPAddress.parse "2606:4700:4700::1111%eth0" = some address ∧
      zonedProtections.protectedIps = [entry] ∧ plainAddress entry = denoted address := by
    refine ⟨(IPAddress.parse "2606:4700:4700::1111%eth0").get (by decide +kernel),
      (IPAddress.parse "2606:4700:4700::1111").get (by decide +kernel), ?_, ?_, ?_⟩
    all_goals decide +kernel
  obtain ⟨address, entry, parsed, listed, same⟩ := reached
  refine (holds passes address parsed).1 entry ?_ same
  rw [listedAddresses, listed]
  exact List.mem_append_right _ List.mem_cons_self

end Protections

end ClosedLoop.Response
