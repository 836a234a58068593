import ClosedLoop.Construction.Response.Catalog
import ClosedLoop.Library.IpRoundTrip

namespace ClosedLoop.Response

open ClosedLoop.Library

section Materials

/-- The rule of a policy as it is hashed. -/
def ResponsePolicy.rule (policy : ResponsePolicy) : Json :=
  ruleMaterial policy.id policy.version policy.action policy.ttlSeconds policy.minAiScore policy.requireAny

/-- The safeguards of a catalog as they are hashed. -/
def PolicyCatalog.safeguards (catalog : PolicyCatalog) : Json :=
  safeguardMaterial catalog.protections catalog.rateLimit catalog.dedupSeconds catalog.commandValidForSeconds
    catalog.evidenceMaxAgeSeconds

/-- What the hash of a policy covers. -/
def PolicyCatalog.bound (python : Python) (catalog : PolicyCatalog) (policy : ResponsePolicy) : Json :=
  .obj [("rule_sha256", .str (sha256Hex python policy.rule)), ("safeguards", catalog.safeguards)]

/-- The texts that the hash of a policy depends on. -/
def PolicyCatalog.texts (python : Python) (catalog : PolicyCatalog) (policy : ResponsePolicy) : List String :=
  [policy.rule.canonical, (catalog.bound python policy).canonical]

/-- No two of these texts have the same digest. -/
def CollisionFree (python : Python) (texts : List String) : Prop :=
  ∀ first ∈ texts, ∀ second ∈ texts, python.sha256Hex first = python.sha256Hex second → first = second

theorem CollisionFree.sublist {python : Python} {texts others : List String} (free : CollisionFree python texts)
    (contained : others ⊆ texts) : CollisionFree python others :=
  fun first member second also same => free first (contained member) second (contained also) same

end Materials

section Loading

variable {python : Python}

/-- A parsed rule carries the hash of itself. -/
theorem ResponsePolicy.fromMapping_ok {value : Json} {index : Nat} {rule : ResponsePolicy}
    (parsed : ResponsePolicy.fromMapping python value index = .ok rule) : rule.sha256 = sha256Hex python rule.rule := by
  unfold ResponsePolicy.fromMapping at parsed
  simp only [Check.bind_ok] at parsed
  obtain ⟨data, -, _, -, next⟩ := parsed
  split at next
  · simp only [Check.bind_ok] at next
    obtain ⟨identifier, -, version, -, actionText, -, next⟩ := next
    split at next
    · cases next
    · simp only [Check.bind_ok, Check.pure_ok] at next
      obtain ⟨ttl, -, condition, -, _, -, score, -, items, -, requirements, -, rfl⟩ := next
      rfl
  · cases next

/-- The policies of a loaded catalog carry the hash of their rule and of all safeguards. -/
theorem PolicyCatalog.fromMapping_ok {document : Json} {catalog : PolicyCatalog}
    (loaded : PolicyCatalog.fromMapping python document = .ok catalog) {row : String × ResponsePolicy}
    (listed : row ∈ catalog.policies) : row.2.sha256 = sha256Hex python (catalog.bound python row.2) := by
  unfold PolicyCatalog.fromMapping at loaded
  simp only [Check.bind_ok] at loaded
  obtain ⟨data, -, _, -, next⟩ := loaded
  split at next
  · simp only [Check.bind_ok, Check.pure_ok] at next
    obtain ⟨defaults, -, items, -, rules, parsed, _, -, rfl⟩ := next
    simp only [List.mem_map] at listed
    obtain ⟨policy, ⟨rule, member, rfl⟩, rfl⟩ := listed
    have each := Check.mapM_ok.mp parsed
    have hashed : ∀ rule ∈ rules, rule.sha256 = sha256Hex python rule.rule := by
      refine (Check.forall_related each fun item rule read => ?_).mp fun _ _ => trivial
      exact iff_of_true trivial (ResponsePolicy.fromMapping_ok read)
    have material : ResponsePolicy.rule (rule.bind python defaults.material) = rule.rule := rfl
    simp only [PolicyCatalog.bound, material, ← hashed rule member]
    rfl
  · cases next

end Loading

section Injectivity

/-- A number that may be missing is determined by its text. -/
theorem bound_injective {first second : Option Nat}
    (same : first.map (Json.canonical ∘ fun number : Nat => .int number) =
      second.map (Json.canonical ∘ fun number : Nat => .int number)) : first = second := by
  refine Option.map_injective (fun number other equal => ?_) same
  exact Int.ofNat.inj (Json.canonical_int.mp equal)

/-- A requirement is determined by its text. -/
theorem SignalRequirement.toJson_injective {first second : SignalRequirement}
    (same : first.toJson.canonical = second.toJson.canonical) : first = second := by
  have field := Json.canonical_field same
  have kinds : first.kind = second.kind := by
    have texts := field "type"
    simp only [List.cons_append, List.lookup_cons_self, Option.map_some, Option.some.injEq, Json.canonical_str] at texts
    exact SignalType.text_injective texts
  have severities : first.minSeverity = second.minSeverity := bound_injective (by
    simpa [boundField, List.lookup_cons, List.lookup_append, Json.lookup_optional] using field "min_severity")
  have counts : first.minCount = second.minCount := bound_injective (by
    simpa [boundField, List.lookup_cons, List.lookup_append, Json.lookup_optional] using field "min_count")
  cases first
  cases second
  simp_all

/-- Sorted texts are determined up to their order. -/
theorem sortedTexts_injective {first second : List String}
    (same : (sortedTexts first).canonical = (sortedTexts second).canonical) : first.Perm second := by
  have sorted := Json.canonical_map_injective (fun {_ _} => Json.canonical_str.mp) same
  exact (List.perm_insertionSort _ first).symm.trans (sorted ▸ List.perm_insertionSort _ second)

/-- A list of addresses or networks is determined up to its order. -/
theorem sortedTexts_map_injective {α : Type} {print : α → String} (injective : ∀ {first second : α},
      print first = print second → first = second) {first second : List α}
    (same : (sortedTexts (first.map print)).canonical = (sortedTexts (second.map print)).canonical) :
    first.Perm second :=
  (List.map_perm_map_iff fun _ _ equal => injective equal).mp (sortedTexts_injective same)

/-- The parts of a rule. -/
structure SameRule (first second : ResponsePolicy) : Prop where
  id : first.id = second.id
  version : first.version = second.version
  action : first.action = second.action
  ttlSeconds : first.ttlSeconds = second.ttlSeconds
  minAiScore : first.minAiScore = second.minAiScore
  requireAny : first.requireAny = second.requireAny

/-- A rule is determined by its text. -/
theorem rule_injective {first second : ResponsePolicy} (same : first.rule.canonical = second.rule.canonical) :
    SameRule first second := by
  have field := Json.canonical_field same
  have condition : (Json.obj [("ai_score_gte", .float (.finite first.minAiScore)),
      ("require_any", .arr (first.requireAny.map SignalRequirement.toJson))]).canonical =
      (Json.obj [("ai_score_gte", .float (.finite second.minAiScore)),
        ("require_any", .arr (second.requireAny.map SignalRequirement.toJson))]).canonical := by
    simpa [List.lookup_cons] using field "when"
  have inner := Json.canonical_field condition
  exact {
    id := by simpa [List.lookup_cons] using field "id"
    version := by simpa [List.lookup_cons] using field "version"
    action := Action.text_injective (by simpa [List.lookup_cons] using field "action")
    ttlSeconds := by simpa [List.lookup_cons] using field "ttl_seconds"
    minAiScore := by simpa [List.lookup_cons] using inner "ai_score_gte"
    requireAny := Json.canonical_map_injective SignalRequirement.toJson_injective
      (by simpa [List.lookup_cons] using inner "require_any") }

/-- The protections list the same entries, in some order. -/
structure SameProtections (first second : ProtectionPolicy) : Prop where
  allowlistedIps : first.allowlistedIps.Perm second.allowlistedIps
  allowlistedNetworks : first.allowlistedNetworks.Perm second.allowlistedNetworks
  protectedIps : first.protectedIps.Perm second.protectedIps
  protectedNetworks : first.protectedNetworks.Perm second.protectedNetworks
  protectedHosts : first.protectedHosts.Perm second.protectedHosts
  allowedIsolationHosts : first.allowedIsolationHosts.Perm second.allowedIsolationHosts
  blockPrivateIpTargets : first.blockPrivateIpTargets = second.blockPrivateIpTargets

/-- The safeguards of two catalogs. -/
structure SameSafeguards (first second : PolicyCatalog) : Prop where
  protections : SameProtections first.protections second.protections
  rateLimit : first.rateLimit = second.rateLimit
  dedupSeconds : first.dedupSeconds = second.dedupSeconds
  commandValidForSeconds : first.commandValidForSeconds = second.commandValidForSeconds
  evidenceMaxAgeSeconds : first.evidenceMaxAgeSeconds = second.evidenceMaxAgeSeconds

theorem protections_injective {first second : ProtectionPolicy}
    (same : first.toJson.canonical = second.toJson.canonical)
    (flags : first.blockPrivateIpTargets = second.blockPrivateIpTargets) : SameProtections first second := by
  have field := Json.canonical_field same
  exact {
    allowlistedIps := sortedTexts_map_injective IPAddress.print_injective
      (by simpa [List.lookup_cons] using field "allowlisted_ips")
    allowlistedNetworks := sortedTexts_map_injective IPAddress.network_print_injective
      (by simpa [List.lookup_cons] using field "allowlisted_networks")
    protectedIps := sortedTexts_map_injective IPAddress.print_injective
      (by simpa [List.lookup_cons] using field "protected_ips")
    protectedNetworks := sortedTexts_map_injective IPAddress.network_print_injective
      (by simpa [List.lookup_cons] using field "protected_networks")
    protectedHosts := sortedTexts_injective (by simpa [List.lookup_cons] using field "protected_hosts")
    allowedIsolationHosts := sortedTexts_injective (by simpa [List.lookup_cons] using field "allowed_isolation_hosts")
    blockPrivateIpTargets := flags }

/-- The safeguards are determined by their text. -/
theorem safeguards_injective {first second : PolicyCatalog}
    (same : first.safeguards.canonical = second.safeguards.canonical) : SameSafeguards first second := by
  have field := Json.canonical_field same
  have limits : (Json.obj [("max_actions", .int first.rateLimit.maxActions),
      ("window_seconds", .int first.rateLimit.windowSeconds)]).canonical =
      (Json.obj [("max_actions", .int second.rateLimit.maxActions),
        ("window_seconds", .int second.rateLimit.windowSeconds)]).canonical := by
    simpa [List.lookup_cons] using field "rate_limit"
  have inner := Json.canonical_field limits
  have maxActions : first.rateLimit.maxActions = second.rateLimit.maxActions := by
    simpa [List.lookup_cons] using inner "max_actions"
  have windowSeconds : first.rateLimit.windowSeconds = second.rateLimit.windowSeconds := by
    simpa [List.lookup_cons] using inner "window_seconds"
  exact {
    protections := protections_injective (by simpa [List.lookup_cons] using field "protections")
      (by simpa [List.lookup_cons] using field "block_private_ip_targets")
    rateLimit := by
      cases firstLimit : first.rateLimit
      cases secondLimit : second.rateLimit
      simp_all
    dedupSeconds := by simpa [List.lookup_cons] using field "dedup_seconds"
    commandValidForSeconds := by simpa [List.lookup_cons] using field "command_valid_for_seconds"
    evidenceMaxAgeSeconds := by simpa [List.lookup_cons] using field "evidence_max_age_seconds" }

end Injectivity

section Binding

variable {python : Python}

/-- Without collisions the hash of a policy determines its rule and the safeguards. -/
theorem sha256_binds {document other : Json} {first second : PolicyCatalog} {row line : String × ResponsePolicy}
    (loaded : PolicyCatalog.fromMapping python document = .ok first)
    (alsoLoaded : PolicyCatalog.fromMapping python other = .ok second) (listed : row ∈ first.policies)
    (alsoListed : line ∈ second.policies)
    (free : CollisionFree python (first.texts python row.2 ++ second.texts python line.2))
    (same : row.2.sha256 = line.2.sha256) : SameRule row.2 line.2 ∧ SameSafeguards first second := by
  rw [PolicyCatalog.fromMapping_ok loaded listed, PolicyCatalog.fromMapping_ok alsoLoaded alsoListed] at same
  have bound := free _ (by simp [PolicyCatalog.texts]) _ (by simp [PolicyCatalog.texts]) same
  have field := Json.canonical_field bound
  have digests : sha256Hex python row.2.rule = sha256Hex python line.2.rule := by
    simpa [List.lookup_cons] using field "rule_sha256"
  have rules := free _ (by simp [PolicyCatalog.texts]) _ (by simp [PolicyCatalog.texts]) digests
  exact ⟨rule_injective rules, safeguards_injective (by simpa [List.lookup_cons] using field "safeguards")⟩

end Binding

end ClosedLoop.Response
