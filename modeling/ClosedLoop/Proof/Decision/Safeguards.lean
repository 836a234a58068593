import ClosedLoop.Proof.Decision.Identity
import Mathlib.Data.List.Dedup

namespace ClosedLoop.Response

open ClosedLoop.Library

section Verdicts

variable {python : Python} {first second : ProtectionPolicy}

/-- Protections with the same entries allow the same targets. -/
theorem SameProtections.verdict_eq (same : SameProtections first second) (action targetType targetValue : String) :
    verdict python first action targetType targetValue = verdict python second action targetType targetValue := by
  have networks {listed others : List IPNetwork} (perm : listed.Perm others) (address : IPAddress) :
      address.inAny listed = address.inAny others := perm.any_eq
  have addresses (value : String) : assertAddressAllowed first value = assertAddressAllowed second value := by
    unfold assertAddressAllowed
    simp only [same.allowlistedIps.mem_iff, same.protectedIps.mem_iff, networks same.allowlistedNetworks,
      networks same.protectedNetworks, same.blockPrivateIpTargets]
  have hosts (value : String) : assertHostAllowed python first value = assertHostAllowed python second value := by
    unfold assertHostAllowed
    simp only [same.protectedHosts.mem_iff, same.allowedIsolationHosts.mem_iff]
  unfold verdict
  rw [addresses, hosts]

end Verdicts

section Documents

/-- The protections of a policy document. -/
def protectionsOf (document : Json) : Json := fieldOf (fieldOf document "defaults") "protections"

/-- The texts of a protection list, without the blanks around them. -/
def listOf (document : Json) (name : String) : List String :=
  ((stringList (fieldOf (protectionsOf document) name) name).toOption).getD []

/-- Two protection lists have the same entries, in some order and in some spelling. -/
def Respells {α : Type} (entry : String → α) (document document' : Json) (name : String) : Prop :=
  ((listOf document name).map entry).Perm ((listOf document' name).map entry)

/-- The documents differ in the order and the spelling of the protection lists only. -/
structure Rearranged (python : Python) (document document' : Json) : Prop where
  policies : fieldOf document "policies" = fieldOf document' "policies"
  limits : ∀ name ∈ ["rate_limit", "dedup_seconds", "command_valid_for_seconds", "evidence_max_age_seconds"],
    fieldOf (fieldOf document "defaults") name = fieldOf (fieldOf document' "defaults") name
  blockPrivate : fieldOf (protectionsOf document) "block_private_ip_targets" =
    fieldOf (protectionsOf document') "block_private_ip_targets"
  addresses : ∀ name ∈ ["allowlisted_ips", "protected_ips"], Respells IPAddress.parse document document' name
  networks : ∀ name ∈ ["allowlisted_networks", "protected_networks"], Respells IPNetwork.parse document document' name
  hosts : ∀ name ∈ ["protected_hosts", "allowed_isolation_hosts"], Respells python.lower document document' name

variable {python : Python}

/-- A field of a mapping is the field of the document. -/
theorem requireMapping_ok {value : Json} {label : String} {fields : List (String × Json)}
    (read : requireMapping value label = .ok fields) (name : String) : Json.get fields name = fieldOf value name := by
  unfold requireMapping at read
  split at read
  · cases read
    rfl
  · cases read

/-- The entries of a parsed list. -/
theorem parseEach_ok {α : Type} {parse : String → Option α} {value : Json} {name kind : String} {entries : List α}
    (parsed : parseEach parse value name kind = .ok entries) :
    (((stringList value name).toOption).getD []).map parse = entries.map some := by
  unfold parseEach at parsed
  simp only at parsed
  split at parsed
  · cases parsed
  · rename_i texts listed
    rw [listed]
    refine Check.map_related (Check.mapM_ok.mp parsed) fun text entry read => ?_
    split at read
    · cases read
      assumption
    · cases read

/-- The hosts are the listed names in small letters, each once. -/
theorem hostSet_ok {value : Json} {name : String} {hosts : List String} (read : hostSet python value name = .ok hosts) :
    hosts = ((((stringList value name).toOption).getD []).map python.lower).dedup := by
  unfold hostSet at read
  simp only [Check.bind_ok, Check.pure_ok] at read
  obtain ⟨texts, listed, rfl⟩ := read
  rw [listed]
  rfl

/-- A flag that is missing is false. -/
theorem booleanField_ok {fields : List (String × Json)} {name : String} {flag : Bool}
    (read : booleanField fields name = .ok flag) : flag = true ↔ Json.get fields name = .bool true := by
  unfold booleanField at read
  split at read
  · rename_i missing
    cases read
    simp [Json.get, missing]
  · rename_i value present
    cases read
    simp [Json.get, present]
  · cases read

/-- The protections that a document lists. -/
structure ReadsProtections (python : Python) (value : Json) (protections : ProtectionPolicy) : Prop where
  allowlistedIps : parseEach IPAddress.parse (fieldOf value "allowlisted_ips") "allowlisted_ips" "IP address" =
    .ok protections.allowlistedIps
  allowlistedNetworks : parseEach IPNetwork.parse (fieldOf value "allowlisted_networks") "allowlisted_networks" "CIDR" =
    .ok protections.allowlistedNetworks
  protectedIps : parseEach IPAddress.parse (fieldOf value "protected_ips") "protected_ips" "IP address" =
    .ok protections.protectedIps
  protectedNetworks : parseEach IPNetwork.parse (fieldOf value "protected_networks") "protected_networks" "CIDR" =
    .ok protections.protectedNetworks
  protectedHosts : hostSet python (fieldOf value "protected_hosts") "protected_hosts" = .ok protections.protectedHosts
  allowedIsolationHosts : hostSet python (fieldOf value "allowed_isolation_hosts") "allowed_isolation_hosts" =
    .ok protections.allowedIsolationHosts
  blockPrivate : protections.blockPrivateIpTargets = true ↔ fieldOf value "block_private_ip_targets" = .bool true

/-- A protection policy that loads is read from its lists. -/
theorem ProtectionPolicy.fromMapping_ok {value : Json} {protections : ProtectionPolicy}
    (read : ProtectionPolicy.fromMapping python value = .ok protections) :
    ReadsProtections python value protections := by
  unfold ProtectionPolicy.fromMapping at read
  simp only [Check.bind_ok, Check.pure_ok] at read
  obtain ⟨data, mapping, _, -, flag, flagged, _, ips, _, networks, _, guarded, _, guardedNetworks, _, hosts, _,
    isolation, rfl⟩ := read
  have fields := requireMapping_ok mapping
  rw [fields] at ips networks guarded guardedNetworks hosts isolation
  exact ⟨ips, networks, guarded, guardedNetworks, hosts, isolation, by rw [booleanField_ok flagged, fields]⟩

/-- The defaults that a document gives. -/
structure ReadsDefaults (python : Python) (value : Json) (defaults : Defaults) : Prop where
  protections : ReadsProtections python (fieldOf value "protections") defaults.protections
  rateLimit : RateLimit.fromMapping (fieldOf value "rate_limit") = .ok defaults.rateLimit
  dedupSeconds : requirePositiveInt (fieldOf value "dedup_seconds") "defaults.dedup_seconds" 60 =
    .ok defaults.dedupSeconds
  commandValid : requireBetween (fieldOf value "command_valid_for_seconds") "defaults.command_valid_for_seconds" 30 900
    "defaults.command_valid_for_seconds must be <= 900" = .ok defaults.commandValid
  evidenceMaxAge : requireBetween (fieldOf value "evidence_max_age_seconds") "defaults.evidence_max_age_seconds" 30 86400
    "defaults.evidence_max_age_seconds must be <= 86400" = .ok defaults.evidenceMaxAge

/-- Defaults that load are read from their fields. -/
theorem Defaults.fromMapping_ok {value : Json} {defaults : Defaults}
    (read : Defaults.fromMapping python value = .ok defaults) : ReadsDefaults python value defaults := by
  unfold Defaults.fromMapping at read
  simp only [Check.bind_ok, Check.pure_ok] at read
  obtain ⟨data, mapping, _, -, _, dedup, _, valid, _, age, _, protections, _, limit, rfl⟩ := read
  have fields := requireMapping_ok mapping
  rw [fields] at dedup valid age protections limit
  exact ⟨ProtectionPolicy.fromMapping_ok protections, limit, dedup, valid, age⟩

/-- What a loaded catalog takes from its document. -/
theorem PolicyCatalog.fromMapping_reads {document : Json} {catalog : PolicyCatalog}
    (loaded : PolicyCatalog.fromMapping python document = .ok catalog) :
    ∃ defaults items rules, ReadsDefaults python (fieldOf document "defaults") defaults ∧
      policyItems (fieldOf document "policies") = .ok items ∧
      items.zipIdx.mapM (fun item => ResponsePolicy.fromMapping python item.1 item.2) = .ok rules ∧
      catalog.protections = defaults.protections ∧ catalog.rateLimit = defaults.rateLimit ∧
      catalog.dedupSeconds = defaults.dedupSeconds ∧ catalog.commandValidForSeconds = defaults.commandValid ∧
      catalog.evidenceMaxAgeSeconds = defaults.evidenceMaxAge ∧
      catalog.policies = rules.map fun rule => (rule.id, rule.bind python defaults.material) := by
  unfold PolicyCatalog.fromMapping at loaded
  simp only [Check.bind_ok] at loaded
  obtain ⟨data, mapping, _, -, next⟩ := loaded
  have fields := requireMapping_ok mapping
  split at next
  · simp only [Check.bind_ok, Check.pure_ok] at next
    obtain ⟨defaults, given, items, listed, rules, parsed, _, -, rfl⟩ := next
    rw [fields] at given listed
    refine ⟨defaults, items, rules, Defaults.fromMapping_ok given, listed, parsed, rfl, rfl, rfl, rfl, rfl, ?_⟩
    exact List.map_map
  · cases next

/-- Two spellings of a list give the same entries in another order. -/
theorem Respells.entries {α : Type} {parse : String → Option α} {document document' : Json} {name kind : String}
    {entries others : List α} (respells : Respells parse document document' name)
    (parsed : parseEach parse (fieldOf (protectionsOf document) name) name kind = .ok entries)
    (also : parseEach parse (fieldOf (protectionsOf document') name) name kind = .ok others) : entries.Perm others := by
  unfold Respells listOf at respells
  rw [parseEach_ok parsed, parseEach_ok also] at respells
  exact (List.map_perm_map_iff (Option.some_injective α)).mp respells

/-- Two spellings of the hosts give the same set. -/
theorem Respells.hosts {document document' : Json} {name : String} {hosts others : List String}
    (respells : Respells python.lower document document' name)
    (read : hostSet python (fieldOf (protectionsOf document) name) name = .ok hosts)
    (also : hostSet python (fieldOf (protectionsOf document') name) name = .ok others) : hosts.Perm others := by
  rw [hostSet_ok read, hostSet_ok also]
  exact respells.dedup

/-- Rearranged documents have the same protections. -/
theorem Rearranged.protections {document document' : Json} {first second : ProtectionPolicy}
    (rearranged : Rearranged python document document')
    (read : ReadsProtections python (protectionsOf document) first)
    (also : ReadsProtections python (protectionsOf document') second) : SameProtections first second where
  allowlistedIps := (rearranged.addresses _ (by simp)).entries read.allowlistedIps also.allowlistedIps
  allowlistedNetworks := (rearranged.networks _ (by simp)).entries read.allowlistedNetworks also.allowlistedNetworks
  protectedIps := (rearranged.addresses _ (by simp)).entries read.protectedIps also.protectedIps
  protectedNetworks := (rearranged.networks _ (by simp)).entries read.protectedNetworks also.protectedNetworks
  protectedHosts := (rearranged.hosts _ (by simp)).hosts read.protectedHosts also.protectedHosts
  allowedIsolationHosts := (rearranged.hosts _ (by simp)).hosts read.allowedIsolationHosts also.allowedIsolationHosts
  blockPrivateIpTargets := by
    rw [Bool.eq_iff_iff, read.blockPrivate, also.blockPrivate, rearranged.blockPrivate]

/-- Sorted texts do not depend on the order of the list. -/
theorem sortedTexts_perm {first second : List String} (perm : first.Perm second) :
    sortedTexts first = sortedTexts second := by
  unfold sortedTexts
  have sorted : (first.insertionSort (· ≤ ·)).Perm (second.insertionSort (· ≤ ·)) :=
    (List.perm_insertionSort _ _).trans (perm.trans (List.perm_insertionSort _ _).symm)
  rw [sorted.eq_of_pairwise' (List.pairwise_insertionSort _ _) (List.pairwise_insertionSort _ _)]

/-- Policies with the same protections are written alike. -/
theorem SameProtections.toJson_eq {first second : ProtectionPolicy} (same : SameProtections first second) :
    first.toJson = second.toJson := by
  unfold ProtectionPolicy.toJson
  rw [sortedTexts_perm (same.allowlistedIps.map _), sortedTexts_perm (same.allowlistedNetworks.map _),
    sortedTexts_perm (same.protectedIps.map _), sortedTexts_perm (same.protectedNetworks.map _),
    sortedTexts_perm same.protectedHosts, sortedTexts_perm same.allowedIsolationHosts]

/-- Rearranged documents hash the same safeguards. -/
theorem Rearranged.material {document document' : Json} {first second : Defaults}
    (rearranged : Rearranged python document document')
    (read : ReadsDefaults python (fieldOf document "defaults") first)
    (also : ReadsDefaults python (fieldOf document' "defaults") second) : first.material = second.material := by
  have same := rearranged.protections read.protections also.protections
  have limit := rearranged.limits "rate_limit" (by simp)
  have dedup := rearranged.limits "dedup_seconds" (by simp)
  have valid := rearranged.limits "command_valid_for_seconds" (by simp)
  have age := rearranged.limits "evidence_max_age_seconds" (by simp)
  have limits := Except.ok.inj (read.rateLimit.symm.trans ((congrArg RateLimit.fromMapping limit).trans also.rateLimit))
  have dedups : first.dedupSeconds = second.dedupSeconds := by
    have other := also.dedupSeconds
    rw [← dedup, read.dedupSeconds] at other
    exact Except.ok.inj other
  have valids : first.commandValid = second.commandValid := by
    have other := also.commandValid
    rw [← valid, read.commandValid] at other
    exact Except.ok.inj other
  have ages : first.evidenceMaxAge = second.evidenceMaxAge := by
    have other := also.evidenceMaxAge
    rw [← age, read.evidenceMaxAge] at other
    exact Except.ok.inj other
  unfold Defaults.material safeguardMaterial
  rw [same.toJson_eq, same.blockPrivateIpTargets, limits, dedups, valids, ages]

/-- Rearranged documents give the same policies and the same verdicts. -/
theorem Rearranged.same {document document' : Json} {first second : PolicyCatalog}
    (rearranged : Rearranged python document document')
    (loaded : PolicyCatalog.fromMapping python document = .ok first)
    (alsoLoaded : PolicyCatalog.fromMapping python document' = .ok second) :
    first.policies = second.policies ∧ SameProtections first.protections second.protections := by
  obtain ⟨defaults, items, rules, read, listed, parsed, protections, -, -, -, -, policies⟩ :=
    PolicyCatalog.fromMapping_reads loaded
  obtain ⟨defaults', items', rules', also, alsoListed, alsoParsed, protections', -, -, -, -, policies'⟩ :=
    PolicyCatalog.fromMapping_reads alsoLoaded
  rw [← rearranged.policies, listed] at alsoListed
  cases alsoListed
  rw [parsed] at alsoParsed
  cases alsoParsed
  rw [policies, policies', rearranged.material read also, protections, protections']
  exact ⟨rfl, rearranged.protections read.protections also.protections⟩

end Documents

section Main

variable {python : Python} {document document' : Json} {first second : PolicyCatalog}

/-- The limits of two catalogs and their verdicts on every target. -/
structure SameLimits (python : Python) (first second : PolicyCatalog) : Prop where
  rateLimit : first.rateLimit = second.rateLimit
  dedupSeconds : first.dedupSeconds = second.dedupSeconds
  commandValidForSeconds : first.commandValidForSeconds = second.commandValidForSeconds
  evidenceMaxAgeSeconds : first.evidenceMaxAgeSeconds = second.evidenceMaxAgeSeconds
  verdicts : ∀ action targetType targetValue, verdict python first.protections action targetType targetValue =
    verdict python second.protections action targetType targetValue

/-- Catalogs with the same safeguards have the same limits. -/
theorem SameSafeguards.limits (same : SameSafeguards first second) : SameLimits python first second where
  rateLimit := same.rateLimit
  dedupSeconds := same.dedupSeconds
  commandValidForSeconds := same.commandValidForSeconds
  evidenceMaxAgeSeconds := same.evidenceMaxAgeSeconds
  verdicts := same.protections.verdict_eq

/-- An accepted command names an active policy with its hash. -/
theorem validateCommand_policy {authenticator : CommandAuthenticator} {command accepted : Command} {now : Int}
    (passed : validateCommand python second authenticator command.toJson now = .ok accepted) :
    ∃ policy, second.policies.find? command.policy.id = some policy ∧ policy.sha256 = command.policy.sha256 := by
  have same := validateCommand_toJson passed
  obtain ⟨policy, active, reference, -⟩ := (validateCommand_ok passed).policy
  subst same
  exact ⟨policy, PolicyCatalog.policy_ok.mp active, by rw [reference]⟩

/-- The hash of a policy binds its rule and every safeguard, and nothing of their order or spelling. -/
theorem hash_binds_safeguards (loaded : PolicyCatalog.fromMapping python document = .ok first)
    (alsoLoaded : PolicyCatalog.fromMapping python document' = .ok second) :
    (∀ policyId policy policy', first.policies.find? policyId = some policy →
      second.policies.find? policyId = some policy' →
      CollisionFree python (first.texts python policy ++ second.texts python policy') →
      policy.sha256 = policy'.sha256 → SameRule policy policy' ∧ SameLimits python first second) ∧
    (Rearranged python document document' →
      (∀ policyId, (first.policies.find? policyId).map (·.sha256) = (second.policies.find? policyId).map (·.sha256)) ∧
      ∀ action targetType targetValue, verdict python first.protections action targetType targetValue =
        verdict python second.protections action targetType targetValue) ∧
    (∀ (engine : DecisionEngine) policyId anomaly signals target now correlationId result raw authenticator instant
        accepted, engine.catalog = first →
      evaluate python engine policyId anomaly signals target now correlationId = .ok result →
      result.command = some raw → validateCommand python second authenticator raw instant = .ok accepted →
      (∀ policy policy', first.policies.find? policyId = some policy → second.policies.find? policyId = some policy' →
        CollisionFree python (first.texts python policy ++ second.texts python policy')) →
      ∃ policy policy', first.policies.find? policyId = some policy ∧ second.policies.find? policyId = some policy' ∧
        SameRule policy policy' ∧ SameLimits python first second) := by
  have binds {policyId : String} {policy policy' : ResponsePolicy}
      (found : first.policies.find? policyId = some policy) (also : second.policies.find? policyId = some policy')
      (free : CollisionFree python (first.texts python policy ++ second.texts python policy'))
      (same : policy.sha256 = policy'.sha256) : SameRule policy policy' ∧ SameLimits python first second := by
    have listed : (policyId, policy) ∈ first.policies := Table.mem_of_find? found
    have alsoListed : (policyId, policy') ∈ second.policies := Table.mem_of_find? also
    obtain ⟨rule, safeguards⟩ := sha256_binds loaded alsoLoaded listed alsoListed free same
    exact ⟨rule, safeguards.limits⟩
  refine ⟨fun _ _ _ found also free same => binds found also free same, fun rearranged => ?_, ?_⟩
  · obtain ⟨policies, protections⟩ := rearranged.same loaded alsoLoaded
    exact ⟨fun policyId => by rw [policies], protections.verdict_eq⟩
  · intro engine policyId anomaly signals target now correlationId result raw authenticator instant accepted catalog
      evaluated carried passed free
    subst catalog
    obtain ⟨findings, validated, concluded⟩ := evaluate_ok evaluated
    obtain ⟨correlation, signature, -, warranted, -, rfl⟩ := concluded.issued carried
    obtain ⟨suited, -⟩ := allowed_suited warranted.permitted
    have issued : validateCommand python second authenticator
        (findings.command python engine correlation signature suited).toJson instant = .ok accepted := by
      rw [Findings.command_toJson]
      exact passed
    obtain ⟨policy', also, same⟩ := validateCommand_policy issued
    have named : findings.policy.id = policyId := engine.catalog.keyed _ (Table.mem_of_find? validated.policy)
    have found : second.policies.find? policyId = some policy' := named ▸ also
    obtain ⟨rule, limits⟩ := binds validated.policy found (free _ _ validated.policy found) same.symm
    exact ⟨findings.policy, policy', validated.policy, found, rule, limits⟩

/-- The policy document of the desk with blanks around a protected address. -/
def deskRespelled : Json :=
  .obj [("schema_version", .str "response-policy-set-v1"),
    ("defaults", .obj [("protections", .obj [("protected_ips", .arr [.str " 203.0.113.1 "])]),
      ("rate_limit", .obj [("max_actions", .int 10), ("window_seconds", .int 60)]), ("dedup_seconds", .int 60),
      ("command_valid_for_seconds", .int 600), ("evidence_max_age_seconds", .int 900)]),
    ("policies", fieldOf deskDocument "policies")]

/-- The respelled document of the examples loads. -/
theorem deskRespelled_loads : ((PolicyCatalog.fromMapping deskPython deskRespelled).toOption).isSome = true := by
  decide +kernel

def deskOther : PolicyCatalog := (PolicyCatalog.fromMapping deskPython deskRespelled).toOption.get deskRespelled_loads

/-- It is the document of the examples, rearranged. -/
theorem desk_rearranged : Rearranged deskPython deskDocument deskRespelled := by
  have lists : ∀ name ∈ protectionFields, listOf deskDocument name = listOf deskRespelled name := by decide +kernel
  have respells {α : Type} (entry : String → α) (name : String) (known : name ∈ protectionFields) :
      Respells entry deskDocument deskRespelled name := by
    unfold Respells
    rw [lists name known]
  refine ⟨rfl, ?_, rfl, ?_, ?_, ?_⟩
  · intro name member
    simp only [List.mem_cons, List.not_mem_nil, or_false] at member
    rcases member with rfl | rfl | rfl | rfl <;> rfl
  · exact fun name member => respells _ name (by revert name; decide)
  · exact fun name member => respells _ name (by revert name; decide)
  · exact fun name member => respells _ name (by revert name; decide)

/-- The desk's policy keeps its hash when an address is respelled, and the hash binds its safeguards. -/
theorem hash_binds_safeguards_desk :
    ∃ policy policy', deskCatalog.policies.find? "COR-001" = some policy ∧
      deskOther.policies.find? "COR-001" = some policy' ∧ policy.sha256 = policy'.sha256 ∧
      SameRule policy policy' ∧ SameLimits deskPython deskCatalog deskOther := by
  obtain ⟨binds, keeps, -⟩ := hash_binds_safeguards deskCatalog_loaded (Check.ok_get deskRespelled_loads)
  have found : (deskCatalog.policies.find? "COR-001").isSome = true := by decide +kernel
  have also : (deskOther.policies.find? "COR-001").isSome = true := by decide +kernel
  obtain ⟨policy, found⟩ := Option.isSome_iff_exists.mp found
  obtain ⟨policy', also⟩ := Option.isSome_iff_exists.mp also
  have same : policy.sha256 = policy'.sha256 := by
    have hashes := (keeps desk_rearranged).1 "COR-001"
    change _ = (deskOther.policies.find? "COR-001").map _ at hashes
    rw [found, also] at hashes
    exact Option.some.inj hashes
  have rule' : policy'.rule = deskRule := by
    have rules : (deskOther.policies.find? "COR-001").map ResponsePolicy.rule = some deskRule := rfl
    rw [also, Option.map_some] at rules
    exact Option.some.inj rules
  have texts : deskCatalog.texts deskPython policy ++ deskOther.texts deskPython policy' ⊆ deskDigests.keys := by
    have bound' : deskOther.bound deskPython policy' = deskBound := desk_bound rule' rfl
    unfold PolicyCatalog.texts
    rw [desk_bound (deskPolicy_loaded found) rfl, deskPolicy_loaded found, bound', rule']
    simp [deskDigests, Table.keys]
  exact ⟨policy, policy', found, also, same, binds _ _ _ found also (desk_prefixFree.collisionFree texts) same⟩

end Main

end ClosedLoop.Response
