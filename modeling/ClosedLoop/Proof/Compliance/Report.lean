import ClosedLoop.Construction.Compliance.Report
import Mathlib.Data.List.Nodup

/-! When the strict report stops at every failed control. -/

namespace ClosedLoop.Compliance

open ClosedLoop.Library ClosedLoop.Response

section Specification

variable (python : Python)

/-- The files that a report reads. -/
def runFiles : Option EvidenceRun → List EvidenceFile
  | none => []
  | some run => run.sorted

/-- Every file of a run is an artifact, and no artifact is a duplicate, stale, or from somewhere else. -/
structure Unrejected (expected : Provenance) (run : Option EvidenceRun) (artifacts : List Artifact) : Prop where
  loaded : List.Forall₂ (fun file item => loadArtifact python file = .ok (.ok item)) (runFiles run) artifacts
  distinct : (artifacts.map (Artifact.key python)).Nodup
  owned : ∀ directory ∈ run, directory.name ≠ "" →
    ∀ item ∈ artifacts, equals false (item.get "run_id") (.str directory.name) = true
  current : ∀ item ∈ artifacts, ∀ entry ∈ expected.items, equals false (item.get entry.1) entry.2 = true
  uniform : ∀ item ∈ artifacts, ∀ baseline ∈ artifacts.head?, ∀ name ∈ provenanceFields,
    equals true (item.get name) (baseline.get name) = true

/-- An artifact is about a control, and its test is the verifier or ends in its suffix. -/
def Matches (profile : Profile) (control : List (String × Json)) (item : Artifact) : Prop :=
  ∃ id verifiedBy suffix test, control.lookup "id" = some id ∧ verifierFor control profile = .ok (.str verifiedBy) ∧
    verifiedTestSuffix (.str verifiedBy) = .ok suffix ∧ equals false (item.get "control_id") id = true ∧
    item.get "test_id" = .str test ∧ (test = verifiedBy ∨ suffix.toList <:+ test.toList)

/-- A control has a passing artifact and no failing one. -/
structure Verified (profile : Profile) (artifacts : List Artifact) (control : List (String × Json)) : Prop where
  passed : ∃ item ∈ artifacts, Matches profile control item ∧ item.result = .pass
  unfailed : ∀ item ∈ artifacts, Matches profile control item → item.result ≠ .fail ∧ item.result ≠ .error

/-- What a strict report promises with the exit code 0. -/
def Promised (expected : Provenance) (catalog : Json) (run : Option EvidenceRun) (profile : Profile) : Prop :=
  ∃ entries artifacts, scopedControls python catalog profile = .ok entries ∧ Unrejected python expected run artifacts ∧
    ∀ control ∈ applicable entries, Verified profile artifacts control

/-- No later artifact in the order of the files is about the control. -/
def Closes (profile : Profile) (artifacts : List Artifact) (control : List (String × Json)) (last : Artifact) : Prop :=
  ∃ before after, artifacts = before ++ last :: after ∧ Matches profile control last ∧
    ∀ item ∈ after, ¬ Matches profile control item

/-- Where the last artifact of every control passes, the artifacts before it pass too. -/
def Unmasked (profile : Profile) (artifacts : List Artifact) (controls : List (List (String × Json))) : Prop :=
  (∀ control ∈ controls, ∃ last, Closes profile artifacts control last ∧ last.result = .pass) →
    ∀ control ∈ controls, ∀ item ∈ artifacts, Matches profile control item → item.result = .pass

end Specification

section Loading

variable {python : Python}

/-- A load without errors gave an artifact for every file. -/
theorem separate_clean {loaded : List (Except String Artifact)} {artifacts : List Artifact}
    (clean : separate loaded = (artifacts, [])) : loaded = artifacts.map .ok := by
  induction loaded generalizing artifacts with
  | nil =>
      obtain rfl : [] = artifacts := (Prod.mk.inj clean).1
      rfl
  | cons entry rest ih =>
      cases entry with
      | error message => simp [separate] at clean
      | ok item =>
          obtain ⟨rfl, none⟩ := Prod.mk.inj clean
          rw [List.map_cons, ← ih (Prod.ext rfl none)]

/-- Artifacts alone are separated without errors. -/
theorem separate_map (artifacts : List Artifact) : separate (artifacts.map .ok) = (artifacts, []) := by
  induction artifacts with
  | nil => rfl
  | cons item rest ih => simp [separate, ih]

/-- There is no duplicate exactly when the keys are distinct and new. -/
theorem duplicateErrors_nil {seen : List (String × String)} {artifacts : List Artifact} :
    duplicateErrors python seen artifacts = [] ↔
      (artifacts.map (Artifact.key python)).Nodup ∧ ∀ item ∈ artifacts, item.key python ∉ seen := by
  induction artifacts generalizing seen with
  | nil => simp [duplicateErrors]
  | cons item rest ih =>
      by_cases known : item.key python ∈ seen
      · simp [duplicateErrors, known]
      · rw [List.map_cons, List.nodup_cons, List.forall_mem_cons]
        simp only [duplicateErrors, if_neg known, ih, List.mem_cons, List.mem_map, not_or, not_exists, not_and]
        constructor
        · rintro ⟨distinct, fresh⟩
          exact ⟨⟨fun other member => (fresh other member).1, distinct⟩, known, fun other member => (fresh other member).2⟩
        · rintro ⟨⟨apart, distinct⟩, _, fresh⟩
          exact ⟨distinct, fun other member => ⟨apart other member, fresh other member⟩⟩

/-- A run without errors has an artifact for each file, under distinct keys. -/
theorem loadEvidence_clean {run : Option EvidenceRun} {artifacts : List Artifact} :
    loadEvidence python run = .ok (artifacts, []) ↔
      List.Forall₂ (fun file item => loadArtifact python file = .ok (.ok item)) (runFiles run) artifacts ∧
        (artifacts.map (Artifact.key python)).Nodup := by
  cases run with
  | none =>
      constructor
      · intro loaded
        obtain ⟨rfl, _⟩ := Prod.mk.inj (Except.ok.inj loaded)
        exact ⟨.nil, List.nodup_nil⟩
      · rintro ⟨loaded, _⟩
        rw [List.forall₂_nil_left_iff.mp loaded]
        rfl
  | some run =>
      simp only [loadEvidence, runFiles, Check.bind_ok, Check.mapM_ok, Check.pure_ok]
      constructor
      · rintro ⟨loaded, each, same⟩
        obtain ⟨first, second⟩ := Prod.mk.inj same
        obtain ⟨none, fresh⟩ := List.append_eq_nil_iff.mp second
        rw [separate_clean (Prod.ext first none), List.forall₂_map_right_iff] at each
        rw [first] at fresh
        exact ⟨each, (duplicateErrors_nil.mp fresh).1⟩
      · rintro ⟨each, distinct⟩
        refine ⟨artifacts.map .ok, List.forall₂_map_right_iff.mpr each, ?_⟩
        rw [separate_map, duplicateErrors_nil.mpr ⟨distinct, fun _ _ => List.not_mem_nil⟩]
        rfl

end Loading

section Valid

variable {python : Python} {payload : List (String × Json)}

/-- A result that is stated is that result. -/
theorem statedResult_eq {result : TestResult} (stated : payload.lookup "result" = some (.str result.text)) :
    statedResult payload = some ⟨result, stated⟩ := by
  have states : ∀ other, statesResult payload other = true ↔ result = other := by
    intro other
    rw [statesResult_iff, stated, Option.some.injEq, Json.str.injEq]
    cases result <;> cases other <;> decide
  cases result <;> simp [statedResult, validResults, List.findSome?, states]

/-- A file with all fields, a known result and ordered times is an artifact. -/
theorem loadArtifact_valid (name : String) (complete : ∀ name ∈ requiredFields, (payload.lookup name).isSome = true)
    (version : Json.get payload "schema_version" = .int 2) {result : TestResult}
    (stated : payload.lookup "result" = some (.str result.text)) (ordered : validateTimestamps python payload = none) :
    loadArtifact python ⟨name, .value (.obj payload)⟩ = .ok (.ok ⟨payload, complete, result, stated⟩) := by
  have supported : Json.equalsInt (Json.get payload "schema_version") 2 = true := by rw [version]; rfl
  have text : Json.get payload "result" = .str result.text := congrArg (·.getD .null) stated
  simp [loadArtifact, dif_pos complete, supported, text, hashable, statedResult_eq stated, ordered]

end Valid

section Provenances

variable {python : Python} {expected : Provenance} {runId : Option String} {baseline item : Artifact}

/-- An artifact without findings is of the run, agrees with the first one and with the expected provenance. -/
theorem itemErrors_nil (clean : itemErrors python expected runId baseline item = []) :
    (∀ name ∈ runId, name ≠ "" → equals false (item.get "run_id") (.str name) = true) ∧
      (∀ name ∈ provenanceFields, equals true (item.get name) (baseline.get name) = true) ∧
      ∀ entry ∈ expected.items, equals false (item.get entry.1) entry.2 = true := by
  simp only [itemErrors, List.append_eq_nil_iff, List.map_eq_nil_iff, List.filter_eq_nil_iff, Bool.not_eq_true',
    Bool.not_eq_false] at clean
  obtain ⟨⟨own, mixed⟩, stale⟩ := clean
  refine ⟨?_, mixed, stale⟩
  rintro name rfl named
  by_contra other
  simp [named, other] at own

/-- A run without provenance errors has one origin, the current one. -/
theorem validateProvenance_clean {run : Option EvidenceRun} {strict : Bool} {profile : Profile}
    {artifacts : List Artifact} (clean : validateProvenance python expected run strict profile artifacts = .ok []) :
    (∀ directory ∈ run, directory.name ≠ "" →
      ∀ item ∈ artifacts, equals false (item.get "run_id") (.str directory.name) = true) ∧
    (∀ item ∈ artifacts, ∀ entry ∈ expected.items, equals false (item.get entry.1) entry.2 = true) ∧
    ∀ item ∈ artifacts, ∀ baseline ∈ artifacts.head?, ∀ name ∈ provenanceFields,
      equals true (item.get name) (baseline.get name) = true := by
  cases artifacts with
  | nil => simp
  | cons baseline rest =>
      simp only [validateProvenance, Check.bind_ok, Check.pure_ok, List.append_eq_nil_iff, List.flatMap_eq_nil_iff] at clean
      obtain ⟨_, _, ⟨⟨each, _⟩, _⟩, _⟩ := clean
      refine ⟨?_, fun item member => (itemErrors_nil (each item member)).2.2, ?_⟩
      · rintro directory rfl named item member
        exact (itemErrors_nil (each item member)).1 directory.name rfl named
      · intro item member first head
        obtain rfl : baseline = first := by simpa using head
        exact (itemErrors_nil (each item member)).2.1

end Provenances

section Rows

variable {python : Python} {profile : Profile} {control : List (String × Json)} {artifacts : List Artifact}

/-- A match is an artifact of the control whose test is the verifier or ends in its name. -/
theorem mem_matchesFor {id verifiedBy : Json} {found : List Artifact}
    (listed : matchesFor (.ok id) verifiedBy artifacts = .ok found) {item : Artifact} :
    item ∈ found ↔ item ∈ artifacts ∧ ∃ suffix test, verifiedTestSuffix verifiedBy = .ok suffix ∧
      equals false (item.get "control_id") id = true ∧ item.get "test_id" = .str test ∧
      (test = verifiedBy.text ∨ suffix.toList <:+ test.toList) := by
  unfold matchesFor at listed
  obtain ⟨suffix, split, kept⟩ := Check.bind_ok.mp listed
  rw [Check.mem_filterM kept]
  refine and_congr_right fun _ => ?_
  simp only [split, Except.ok.injEq, matchesVerifier]
  by_cases same : equals false (item.get "control_id") id = true
  · cases read : item.get "test_id" with
    | str test =>
        simp [same, bind, Except.bind, pure, Except.pure, or_comm]
    | null | bool _ | int _ | float _ | arr _ | obj _ => simp [same, bind, Except.bind]
  · simp [same, bind, Except.bind, pure, Except.pure]

/-- A verifier with a test name is a text. -/
theorem verifiedTestSuffix_str {verifiedBy : Json} {suffix : String}
    (split : verifiedTestSuffix verifiedBy = .ok suffix) : ∃ text, verifiedBy = .str text := by
  cases verifiedBy with
  | str text => exact ⟨text, rfl⟩
  | null | bool _ | int _ | float _ | arr _ | obj _ => cases split

/-- The artifacts that match a control are those that the code compares with its verifier. -/
theorem matches_iff {id : Json} {verifiedBy : String} {found : List Artifact} (identified : control.lookup "id" = some id)
    (verifier : verifierFor control profile = .ok (.str verifiedBy))
    (listed : matchesFor (.ok id) (.str verifiedBy) artifacts = .ok found) {item : Artifact} :
    item ∈ found ↔ item ∈ artifacts ∧ Matches profile control item := by
  rw [mem_matchesFor listed]
  refine and_congr_right fun _ => ?_
  constructor
  · rintro ⟨suffix, test, split, same, read, ends⟩
    exact ⟨id, verifiedBy, suffix, test, identified, verifier, split, same, read, ends⟩
  · rintro ⟨other, otherText, suffix, test, otherId, otherVerifier, split, same, read, ends⟩
    obtain rfl : id = other := Option.some.inj (identified.symm.trans otherId)
    obtain rfl : verifiedBy = otherText := Json.str.inj (Except.ok.inj (verifier.symm.trans otherVerifier))
    exact ⟨suffix, test, split, same, read, ends⟩

/-- The status of a control comes from the last artifact about it. -/
theorem statusFor_closes {status : Option Artifact} (found : statusFor control artifacts profile = .ok status)
    {last : Artifact} : status = some last ↔ Closes profile artifacts control last := by
  simp only [statusFor, Check.bind_ok, Check.pure_ok] at found
  obtain ⟨verifiedBy, verifier, kept, listed, rfl⟩ := found
  obtain ⟨suffix, split, filtered⟩ := Check.bind_ok.mp (show matchesFor (field control "id") verifiedBy artifacts = _ from listed)
  obtain ⟨text, rfl⟩ := verifiedTestSuffix_str split
  rw [Check.getLast?_filterM filtered]
  have compared : ∀ item ∈ artifacts,
      matchesVerifier (field control "id") text suffix item = .ok true ↔ Matches profile control item := by
    intro item member
    -- An artifact was compared with the identifier of the control, so the control has one.
    cases identified : field control "id" with
    | error error =>
        obtain ⟨holds, compared⟩ := (Check.filterM_ok.mp filtered).1 item member
        simp [matchesVerifier, identified, bind, Except.bind] at compared
    | ok id =>
        rw [identified] at listed filtered
        have named : control.lookup "id" = some id := by
          unfold field at identified
          split at identified
          · rename_i value read
            exact Except.ok.inj identified ▸ read
          · cases identified
        have same : item ∈ artifacts ∧ matchesVerifier (.ok id) text suffix item = .ok true ↔
            item ∈ artifacts ∧ Matches profile control item :=
          (Check.mem_filterM filtered).symm.trans (matches_iff named verifier listed)
        exact ⟨fun holds => (same.mp ⟨member, holds⟩).2, fun isMatch => (same.mpr ⟨member, isMatch⟩).2⟩
  refine exists_congr fun before => exists_congr fun after => and_congr_right fun split => ?_
  have inside : ∀ item ∈ last :: after, item ∈ artifacts := fun item member =>
    split ▸ List.mem_append_right before member
  refine and_congr (compared last (inside last List.mem_cons_self)) (forall₂_congr fun item member => ?_)
  exact not_congr (compared item (inside item (List.mem_cons_of_mem _ member)))

/-- The status of a row is the result of the artifact that decides. -/
theorem reportRow_status {row : ReportRow} (written : reportRow python artifacts profile control = .ok row) :
    ∃ artifact, statusFor control artifacts profile = .ok artifact ∧ row.status = artifact.map (·.result) := by
  simp only [reportRow, Check.bind_ok, Check.pure_ok] at written
  obtain ⟨artifact, status, frameworks, -, framework, -, verifier, -, id, -, severity, -, rfl⟩ := written
  exact ⟨artifact, status, rfl⟩

/-- A strict report succeeds when every row passed and nothing was found. -/
theorem exitCode_zero {report : Report} :
    report.exitCode true = 0 ↔ (∀ row ∈ report.rows, row.status = some .pass) ∧ report.errors = [] := by
  have counted (status : Option TestResult) (passed : ∀ row ∈ report.rows, row.status = some .pass)
      (other : status ≠ some .pass) : report.count status = 0 := by
    refine List.countP_eq_zero.mpr fun row member same => other ?_
    rw [← of_decide_eq_true same, passed row member]
  constructor
  · intro zero
    simp only [Report.exitCode] at zero
    split at zero
    · cases zero
    · rename_i clean
      simp only [true_and, not_or, ne_eq, not_not] at clean
      obtain ⟨passed, _, none, _⟩ := clean
      have all := List.countP_eq_length.mp passed
      exact ⟨fun row member => of_decide_eq_true (all row member), List.length_eq_zero_iff.mp (by omega)⟩
  · rintro ⟨passed, clean⟩
    have all : report.count (some .pass) = report.rows.length :=
      List.countP_eq_length.mpr fun row member => decide_eq_true (passed row member)
    simp [Report.exitCode, clean, all, counted (some .fail) passed (by simp), counted (some .error) passed (by simp),
      counted none passed (by simp)]

/-- A strict report that returns has the exit code 0 exactly when nothing was rejected and each row passes. -/
theorem main_returns {expected : Provenance} {catalog : Json} {run : Option EvidenceRun} {code : Nat}
    (returned : main python expected catalog run true profile = .ok code) :
    ∃ entries artifacts loadErrors errors rows, scopedControls python catalog profile = .ok entries ∧
      loadEvidence python run = .ok (artifacts, loadErrors) ∧
      validateProvenance python expected run true profile artifacts = .ok errors ∧
      (applicable entries).mapM (reportRow python artifacts profile) = .ok rows ∧
      (code = 0 ↔ (∀ row ∈ rows, row.status = some .pass) ∧ loadErrors = [] ∧ errors = []) := by
  simp only [main, mainReport, Check.bind_ok, Check.pure_ok] at returned
  obtain ⟨report, ⟨entries, scope, excluded, -, ⟨artifacts, loadErrors⟩, loaded, errors, checked, rows, written,
    notApplicable, -, rfl⟩, rfl⟩ := returned
  refine ⟨entries, artifacts, loadErrors, errors, rows, scope, loaded, checked, written, ?_⟩
  rw [exitCode_zero, List.append_eq_nil_iff]

/-- The rows of a report pass exactly when the last artifact of each control passes. -/
theorem rows_pass {controls : List (List (String × Json))} {rows : List ReportRow}
    (written : controls.mapM (reportRow python artifacts profile) = .ok rows) :
    (∀ row ∈ rows, row.status = some .pass) ↔
      ∀ control ∈ controls, ∃ last, Closes profile artifacts control last ∧ last.result = .pass := by
  refine (Check.forall_related (Check.mapM_ok.mp written) fun control row shown => ?_).symm
  obtain ⟨artifact, status, same⟩ := reportRow_status shown
  rw [same, Option.map_eq_some_iff]
  exact exists_congr fun last => and_congr_left fun _ => (statusFor_closes status).symm

end Rows

section Verdict

variable {python : Python} {expected : Provenance} {run : Option EvidenceRun} {profile : Profile}
  {artifacts : List Artifact}

/-- A run that loads and passes the provenance check holds unrejected artifacts. -/
theorem unrejected_of_clean (loaded : loadEvidence python run = .ok (artifacts, []))
    (checked : validateProvenance python expected run true profile artifacts = .ok []) :
    Unrejected python expected run artifacts := by
  obtain ⟨each, distinct⟩ := loadEvidence_clean.mp loaded
  obtain ⟨owned, current, uniform⟩ := validateProvenance_clean checked
  exact ⟨each, distinct, owned, current, uniform⟩

/-- A catalog with one control. -/
def soleControl (id : Json) (verifiedBy : String) : List (String × Json) :=
  [("id", id), ("verified_by", .str verifiedBy), ("verified_by_path_b", .str verifiedBy), ("framework", .str "NIST"),
    ("severity", .str "high")]

/-- The sole control has its verifier in both profiles. -/
theorem verifierFor_sole (id : Json) (verifiedBy : String) :
    verifierFor (soleControl id verifiedBy) profile = .ok (.str verifiedBy) := by
  cases profile <;> rfl

/-- The sole control applies. -/
theorem sole_scope (id : Json) (verifiedBy : String) :
    scopedControls python (.arr [.obj (soleControl id verifiedBy)]) profile = .ok [(soleControl id verifiedBy, true)] := rfl

/-- The report of one control has the exit code 0 when the last artifact of the control passes. -/
theorem sole_zero {id : Json} {verifiedBy : String} {found : List Artifact} {last : Artifact}
    (loaded : loadEvidence python run = .ok (artifacts, []))
    (checked : validateProvenance python expected run true profile artifacts = .ok [])
    (listed : matchesFor (.ok id) (.str verifiedBy) artifacts = .ok found) (latest : found.getLast? = some last)
    (passes : last.result = .pass) :
    main python expected (.arr [.obj (soleControl id verifiedBy)]) run true profile = .ok 0 := by
  have status : statusFor (soleControl id verifiedBy) artifacts profile = .ok (some last) := by
    rw [statusFor, verifierFor_sole]
    change (do
      let found ← matchesFor (.ok id) (.str verifiedBy) artifacts
      return found.getLast?) = _
    rw [listed, ← latest]
    rfl
  have row : ∃ row, reportRow python artifacts profile (soleControl id verifiedBy) = .ok row ∧
      row.status = some .pass := by
    simp only [reportRow, status, verifierFor_sole]
    exact ⟨_, rfl, congrArg some passes⟩
  obtain ⟨row, written, passed⟩ := row
  simp [main, mainReport, sole_scope, loaded, checked, applicable, written, joined, Report.exitCode, Report.count, passed,
    bind, Except.bind, pure, Except.pure]

variable {catalog : Json} {code : Nat}

end Verdict

section Example

/-- The times of the artifacts below are one time. -/
def reportPython : Python where
  sha256Hex := id
  fromIsoformat text := if text = "2026-01-01T00:00:00Z" then some (.aware 1767225600000000) else none
  lower := id
  upper := id
  repr := id

def reportProvenance : Provenance where
  gitSha := "abc"
  gitDirty := false
  sourceTreeSha256 := "tree"
  controlCatalogSha256 := "catalog"
  topologySha256 := "topology"
  testSuiteSha256 := "suite"
  deploymentConfigSha256 := "config"

/-- The payload of a test with a result. -/
def reportFields (test : String) (result : TestResult) : List (String × Json) :=
  [("schema_version", .int 2), ("control_id", .str "SEG-02"), ("test_id", .str test), ("result", .str result.text),
    ("assertion", .str "blocked"), ("observed", .obj []), ("started_at", .str "2026-01-01T00:00:00Z"),
    ("ended_at", .str "2026-01-01T00:00:00Z"), ("run_id", .str "unit"), ("git_sha", .str "abc"),
    ("git_dirty", .bool false), ("source_tree_sha256", .str "tree"), ("control_catalog_sha256", .str "catalog"),
    ("topology_sha256", .str "topology"), ("test_suite_sha256", .str "suite"),
    ("deployment_config_sha256", .str "config"), ("environment", .str "local-containerlab")]

def reportArtifact (test : String) (result : TestResult) : Artifact where
  fields := reportFields test result
  complete name member := by
    have named : (reportFields test result).map Prod.fst = requiredFields := rfl
    rw [← named] at member
    obtain ⟨entry, listed, rfl⟩ := List.mem_map.mp member
    exact List.lookup_isSome_iff.mpr ⟨entry, listed, beq_self_eq_true _⟩
  result := result
  stated := by simp [reportFields, List.lookup_cons]

/-- The artifact of the examples is loaded as it is. -/
theorem reportArtifact_loads (name test : String) (result : TestResult) :
    loadArtifact reportPython ⟨name, .value (.obj (reportFields test result))⟩ = .ok (.ok (reportArtifact test result)) := by
  have version : Json.get (reportFields test result) "schema_version" = .int 2 := by
    simp [Json.get, reportFields]
  have ordered : validateTimestamps reportPython (reportFields test result) = none := by
    simp [validateTimestamps, parseTimestamp, Json.get, reportFields, List.lookup_cons, reportPython]
  exact loadArtifact_valid name (reportArtifact test result).complete version (reportArtifact test result).stated ordered

/-- Two artifacts of the examples agree on their provenance. -/
theorem itemErrors_report (test other : String) (result otherResult : TestResult) :
    itemErrors reportPython reportProvenance (some "unit") (reportArtifact other otherResult)
      (reportArtifact test result) = [] := by
  simp [itemErrors, provenanceFields, Provenance.items, reportProvenance, reportArtifact, reportFields, Artifact.get,
    Json.get, List.lookup_cons, equals, numberOf]

/-- A failed test and a passing test of the same name in another directory. -/
def maskedRun : EvidenceRun where
  name := "unit"
  files := [⟨"first.json", .value (.obj (reportFields "tests/a/seg.py::dmz" .fail))⟩,
    ⟨"second.json", .value (.obj (reportFields "tests/b/seg.py::dmz" .pass))⟩]

def maskedArtifacts : List Artifact :=
  [reportArtifact "tests/a/seg.py::dmz" .fail, reportArtifact "tests/b/seg.py::dmz" .pass]

/-- The masked run loads without errors. -/
theorem masked_loads : loadEvidence reportPython (some maskedRun) = .ok (maskedArtifacts, []) := by
  have sorted : maskedRun.sorted = maskedRun.files := by
    simp [EvidenceRun.sorted, maskedRun, List.insertionSort]
  refine loadEvidence_clean.mpr ⟨?_, ?_⟩
  · rw [runFiles, sorted]
    exact .cons (reportArtifact_loads _ _ _) (.cons (reportArtifact_loads _ _ _) .nil)
  · simp [maskedArtifacts, Artifact.key, reportArtifact, Artifact.get, Json.get, reportFields, List.lookup_cons, strOf]

/-- The masked run passes the provenance check. -/
theorem masked_checked :
    validateProvenance reportPython reportProvenance (some maskedRun) true .pathA maskedArtifacts = .ok [] := by
  have environment : environmentErrors .pathA ((reportArtifact "tests/a/seg.py::dmz" .fail).get "environment") = .ok [] := by
    simp [environmentErrors, hashable, equals, reportArtifact, Artifact.get, Json.get, reportFields, List.lookup_cons]
  have resolved : equals false ((reportArtifact "tests/a/seg.py::dmz" .fail).get "git_sha") (.str "unknown") = false := by
    simp [equals, reportArtifact, Artifact.get, Json.get, reportFields, List.lookup_cons]
  have clean : truthy ((reportArtifact "tests/a/seg.py::dmz" .fail).get "git_dirty") = false := by
    simp [truthy, reportArtifact, Artifact.get, Json.get, reportFields, List.lookup_cons]
  simp [validateProvenance, maskedArtifacts, itemErrors_report, environment, resolved, clean, maskedRun, bind, Except.bind,
    pure, Except.pure]

/-- An artifact of the control matches a verifier that its test ends in. -/
theorem report_matches {verifiedBy suffix test : String} {result : TestResult}
    (ends : suffix.toList.isSuffixOf test.toList = true) :
    matchesVerifier (.ok (.str "SEG-02")) verifiedBy suffix (reportArtifact test result) = .ok true := by
  have control : equals false ((reportArtifact test result).get "control_id") (.str "SEG-02") = true := by
    simp [equals, reportArtifact, Artifact.get, Json.get, reportFields, List.lookup_cons]
  have read : (reportArtifact test result).get "test_id" = .str test := by
    simp [reportArtifact, Artifact.get, Json.get, reportFields, List.lookup_cons]
  simp [matchesVerifier, control, read, ends, bind, Except.bind, pure, Except.pure]

/-- Both artifacts of the masked run match the control. -/
theorem masked_found :
    matchesFor (.ok (.str "SEG-02")) (.str "seg.py::dmz") maskedArtifacts = .ok maskedArtifacts := by
  have split : verifiedTestSuffix (.str "seg.py::dmz") = .ok "/seg.py::dmz" := rfl
  have each : ∀ item ∈ maskedArtifacts,
      matchesVerifier (.ok (.str "SEG-02")) "seg.py::dmz" "/seg.py::dmz" item = .ok true := by
    intro item member
    rcases List.mem_pair.mp member with rfl | rfl
    · exact report_matches (by decide)
    · exact report_matches (by decide)
  refine Check.bind_ok.mpr ⟨_, split, Check.filterM_ok.mpr ⟨fun item member => ⟨true, each item member⟩, ?_⟩⟩
  exact (List.filter_eq_self.mpr fun item member => by simp [Json.text, each item member, Except.toOption]).symm

/-- A verifier that names the passing test in full matches that test only. -/
theorem exact_found : matchesFor (.ok (.str "SEG-02")) (.str "tests/b/seg.py::dmz") maskedArtifacts =
    .ok [reportArtifact "tests/b/seg.py::dmz" .pass] := by
  have split : verifiedTestSuffix (.str "tests/b/seg.py::dmz") = .ok "/tests/b/seg.py::dmz" := rfl
  have control (test : String) (result : TestResult) :
      equals false ((reportArtifact test result).get "control_id") (.str "SEG-02") = true := by
    simp [equals, reportArtifact, Artifact.get, Json.get, reportFields, List.lookup_cons]
  have read (test : String) (result : TestResult) : (reportArtifact test result).get "test_id" = .str test := by
    simp [reportArtifact, Artifact.get, Json.get, reportFields, List.lookup_cons]
  have first : matchesVerifier (.ok (.str "SEG-02")) "tests/b/seg.py::dmz" "/tests/b/seg.py::dmz"
      (reportArtifact "tests/a/seg.py::dmz" .fail) = .ok false := by
    have other : ("/tests/b/seg.py::dmz".toList.isSuffixOf "tests/a/seg.py::dmz".toList ||
      ("tests/a/seg.py::dmz" : String) = "tests/b/seg.py::dmz") = false := by decide
    simp only [matchesVerifier, control, read, other, bind, Except.bind, pure, Except.pure, if_true]
  have second : matchesVerifier (.ok (.str "SEG-02")) "tests/b/seg.py::dmz" "/tests/b/seg.py::dmz"
      (reportArtifact "tests/b/seg.py::dmz" .pass) = .ok true := by
    simp [matchesVerifier, control, read, bind, Except.bind, pure, Except.pure]
  refine Check.bind_ok.mpr ⟨_, split, Check.filterM_ok.mpr ⟨fun item member => ?_, ?_⟩⟩
  · rcases List.mem_pair.mp member with rfl | rfl
    · exact ⟨false, first⟩
    · exact ⟨true, second⟩
  · simp [maskedArtifacts, Json.text, first, second, Except.toOption]

end Example

end ClosedLoop.Compliance
