import ClosedLoop.Construction.Transport.Isolation
import ClosedLoop.Library.Table
import ClosedLoop.Library.Trace

namespace ClosedLoop.Transport

open ClosedLoop.Library ClosedLoop.Response

/-- The markers and the isolation table say the same. -/
def Endpoint.Truthful (endpoint : Endpoint) : Prop := endpoint.isolated = true ↔ endpoint.markers ≠ []

variable (python : Python)

/-- A restoration that gets through finds no marker of another operation. -/
def Endpoint.Alone (endpoint : Endpoint) : ScriptCall → Prop
  | .isolate _ _ _ => True
  | .restore operation nft => isOperationId operation = true → nft = true →
      ∀ marker ∈ endpoint.markers, marker = markerName python operation

/-- The markers tell the truth after every call, and so do the reports of the client, however often it reads the
inventory. -/
def MarkersTellTruth (calls : List ScriptCall) : Prop :=
  ∀ before after, calls = before ++ after →
    (Endpoint.run python before).Truthful ∧ ∀ polls,
      (∀ operation, isolationIsEnforced python (List.replicate polls (Endpoint.run python before).markers) operation = true →
        (Endpoint.run python before).isolated = true) ∧
      ((∀ call ∈ before, isolationIsRemoved python (List.replicate polls (Endpoint.run python before).markers)
        call.operation = true) → (Endpoint.run python before).isolated = false)

variable {python}

section Steps

variable {endpoint : Endpoint}

theorem isolate_truthful (truthful : endpoint.Truthful) (operation : String) (allowed : Except PyError (List String))
    (nft : Bool) : (isolate python endpoint operation allowed nft).2.Truthful := by
  unfold isolate
  split
  · exact truthful
  · split
    · exact truthful
    · split
      · exact truthful
      · refine ⟨fun _ empty => ?_, fun _ => rfl⟩
        have there : markerName python operation ∈ endpoint.markers.insert (markerName python operation) :=
          List.mem_insert_self
        exact List.ne_nil_of_mem there empty

/-- A call keeps the truth exactly when a restoration finds no other marker. -/
theorem step_truthful_iff (truthful : endpoint.Truthful) (call : ScriptCall) :
    (endpoint.step python call).Truthful ↔ endpoint.Alone python call := by
  cases call with
  | isolate operation allowed nft => exact ⟨fun _ => trivial, fun _ => isolate_truthful truthful operation allowed nft⟩
  | restore operation nft =>
      simp only [Endpoint.step, restore, Endpoint.Alone]
      by_cases valid : isOperationId operation = true
      · by_cases works : nft = true
        · rw [if_neg (by simp [valid]), if_neg (by simp [works])]
          simp only [Endpoint.Truthful, Endpoint.isolated, Option.isSome_none, Bool.false_eq_true, false_iff, not_not,
            List.filter_eq_nil_iff, decide_eq_true_eq]
          exact ⟨fun alone _ _ => alone, fun alone => alone valid works⟩
        · rw [if_neg (by simp [valid]), if_pos (by simp [works])]
          exact ⟨fun _ _ yes => absurd yes works, fun _ => truthful⟩
      · rw [if_pos (by simpa using valid)]
        exact ⟨fun _ yes => absurd yes valid, fun _ => truthful⟩

/-- Every marker is named after an operation. -/
theorem step_named {marker : String} {call : ScriptCall} (member : marker ∈ (endpoint.step python call).markers) :
    marker ∈ endpoint.markers ∨ marker = markerName python call.operation := by
  cases call with
  | isolate operation allowed nft =>
      simp only [Endpoint.step, isolate] at member
      split at member
      · exact Or.inl member
      · split at member
        · exact Or.inl member
        · split at member
          · exact Or.inl member
          · exact (List.mem_insert_iff.mp member).symm
  | restore operation nft =>
      simp only [Endpoint.step, restore] at member
      split at member
      · exact Or.inl member
      · split at member
        · exact Or.inl member
        · exact Or.inl (List.mem_of_mem_filter member)

end Steps

section Runs

theorem Endpoint.run_snoc (front : List ScriptCall) (last : ScriptCall) :
    Endpoint.run python (front ++ [last]) = (Endpoint.run python front).step python last := by
  simp [Endpoint.run, List.foldl_append]

theorem run_named (calls : List ScriptCall) :
    ∀ marker ∈ (Endpoint.run python calls).markers, ∃ call ∈ calls, marker = markerName python call.operation := by
  induction calls using List.reverseRecOn with
  | nil => simp [Endpoint.run]
  | append_singleton front last ih =>
      intro marker member
      rw [Endpoint.run_snoc] at member
      rcases step_named member with old | new
      · obtain ⟨call, listed, named⟩ := ih marker old
        exact ⟨call, List.mem_append_left _ listed, named⟩
      · exact ⟨last, by simp, new⟩

/-- The reports of the client about an endpoint whose markers tell the truth. -/
theorem reports_true {calls : List ScriptCall} (truthful : (Endpoint.run python calls).Truthful) (polls : Nat) :
    (∀ operation, isolationIsEnforced python (List.replicate polls (Endpoint.run python calls).markers) operation = true →
      (Endpoint.run python calls).isolated = true) ∧
    ((∀ call ∈ calls, isolationIsRemoved python (List.replicate polls (Endpoint.run python calls).markers)
      call.operation = true) → (Endpoint.run python calls).isolated = false) := by
  refine ⟨fun operation enforced => ?_, fun removed => ?_⟩
  · simp only [isolationIsEnforced, awaitMarker, List.any_eq_true, decide_eq_true_eq] at enforced
    obtain ⟨inventory, read, present⟩ := enforced
    rw [List.eq_of_mem_replicate read] at present
    exact truthful.mpr (List.ne_nil_of_mem (of_decide_eq_true present))
  · rw [Bool.eq_false_iff]
    intro isolated
    obtain ⟨marker, member⟩ := List.exists_mem_of_ne_nil _ (truthful.mp isolated)
    obtain ⟨call, listed, named⟩ := run_named calls marker member
    have gone := removed call listed
    simp only [isolationIsRemoved, awaitMarker, List.any_eq_true, decide_eq_true_eq] at gone
    obtain ⟨inventory, read, absent⟩ := gone
    rw [List.eq_of_mem_replicate read, markerPresent, decide_eq_false_iff_not] at absent
    exact absent (named ▸ member)

/-- The markers tell the truth in a run exactly when no restoration gets through while another operation holds the
endpoint. -/
theorem markers_tell_truth_iff (python : Python) (calls : List ScriptCall) :
    MarkersTellTruth python calls ↔
      Always (fun earlier call => (Endpoint.run python earlier).Alone python call) calls := by
  constructor
  · intro truth before call after split
    have now := (truth before (call :: after) split).1
    have next := (truth (before ++ [call]) after (by simp [split])).1
    rw [Endpoint.run_snoc] at next
    exact (step_truthful_iff now call).mp next
  · intro alone before after split
    have truthful : (Endpoint.run python before).Truthful := by
      subst split
      refine Always.foldl (fun endpoint call => Endpoint.Alone python endpoint call) Endpoint.Truthful alone.earlier ?_ ?_
      · simp [Endpoint.Truthful, Endpoint.isolated]
      · exact fun endpoint call truthful fine => (step_truthful_iff truthful call).mpr fine
    exact ⟨truthful, reports_true truthful⟩

end Runs

section Lab

/-- The operations of the lab with their SHA-256 digests. -/
def labOperations : Table String String :=
  [("response-key-0001", "35a1c976011c11b42454c24fbd57448ff7ffc177865c2280f9903528be325ddb"),
    ("response-key-0002", "dae3fa7de217b9e9db29c9df98b5334d9e824a464da0b536cd83c1a1c5a63f31")]

def labHashing : Python where
  sha256Hex text := (labOperations.find? text).getD ""
  fromIsoformat _ := none
  lower text := text
  upper text := text
  repr text := text

/-- Two operations isolate the host, and the first of them ends. -/
def overlappingOperations : List ScriptCall :=
  [.isolate "response-key-0001" (.ok ["192.168.60.10"]) true, .isolate "response-key-0002" (.ok ["192.168.60.10"]) true,
    .restore "response-key-0001" true]

/-- The marker of the second operation stays, and the host is not isolated. -/
theorem marker_outlives_isolation : ¬ MarkersTellTruth labHashing overlappingOperations := by
  intro truth
  have endpoint : Endpoint.run labHashing overlappingOperations =
      ⟨none, ["dae3fa7de217b9e9db29c9df98b5334d9e824a46"]⟩ := by decide +kernel
  have truthful := (truth overlappingOperations [] (by simp)).1
  rw [endpoint] at truthful
  exact absurd (truthful.mpr (by simp)) (by simp [Endpoint.isolated])

end Lab

end ClosedLoop.Transport
