import ClosedLoop.Construction.Response.Value
import ClosedLoop.Library.Check

/-! The compliance report from the evidence of one run. -/

namespace ClosedLoop.Compliance

open ClosedLoop.Library ClosedLoop.Response

/-- The exceptions that end `main`. -/
inductive ReportError where
  | key (name : String)
  | attribute
  | type
  | value (message : String)
  /-- A file is no text in the encoding that `read_text` expects. -/
  | unicode
  deriving DecidableEq, Repr

section Values

/-- The number that a value counts as in a comparison. -/
def numberOf : Json → Option Double
  | .bool value => some (.finite (if value then 1 else 0))
  | .int value => some (.finite value)
  | .float .negativeZero => some (.finite 0)
  | .float .nan => none
  | .float value => some value
  | _ => none

mutual

/-- `first == second`. Inside of lists and objects a value also equals itself: `shared` says whether the two values
come from `json.loads`, which has one object for all `NaN`. -/
def equals (shared : Bool) : Json → Json → Bool
  | .null, .null => true
  | .str first, .str second => first = second
  | .arr first, .arr second => equalsItems shared first second
  | .obj first, .obj second => first.length = second.length && equalsFields shared first second
  | first, second =>
      match numberOf first, numberOf second with
      | some number, some other => number = other
      | _, _ => false

def equalsItems (shared : Bool) : List Json → List Json → Bool
  | [], [] => true
  | .float .nan :: items, .float .nan :: others => shared && equalsItems shared items others
  | item :: items, other :: others => equals shared item other && equalsItems shared items others
  | _, _ => false

/-- Every field has an equal counterpart. -/
def equalsFields (shared : Bool) : List (String × Json) → List (String × Json) → Bool
  | [], _ => true
  | (name, value) :: rest, others =>
      (match value, others.lookup name with
        | .float .nan, some (.float .nan) => shared
        | _, some other => equals shared value other
        | _, none => false) && equalsFields shared rest others

end

/-- `bool(value)` -/
def truthy : Json → Bool
  | .null => false
  | .bool value => value
  | .int value => value ≠ 0
  | .float value => value.number? ≠ some 0
  | .str value => value ≠ ""
  | .arr items => items ≠ []
  | .obj fields => fields ≠ []

/-- `repr` of a float. -/
def reprFloat : Double → String
  | .infinity negative => if negative then "-inf" else "inf"
  | .nan => "nan"
  | value => String.ofList value.toChars

variable (python : Python)

mutual

/-- `repr(value)` -/
def reprOf : Json → String
  | .null => "None"
  | .bool value => if value then "True" else "False"
  | .int value => toString value
  | .float value => reprFloat value
  | .str value => python.repr value
  | .arr items => "[" ++ String.intercalate ", " (reprItems items) ++ "]"
  | .obj fields => "\x7b" ++ String.intercalate ", " (reprFields fields) ++ "\x7d"

def reprItems : List Json → List String
  | [] => []
  | item :: rest => reprOf item :: reprItems rest

def reprFields : List (String × Json) → List String
  | [] => []
  | (name, value) :: rest => (python.repr name ++ ": " ++ reprOf value) :: reprFields rest

end

/-- `str(value)` -/
def strOf : Json → String
  | .str value => value
  | value => reprOf python value

/-- A list and an object have no hash. -/
def hashable : Json → Bool
  | .arr _ => false
  | .obj _ => false
  | _ => true

/-- `mapping[name]` -/
def field (fields : List (String × Json)) (name : String) : Except ReportError Json :=
  match fields.lookup name with
  | some value => .ok value
  | none => .error (.key name)

end Values

section Artifacts

inductive TestResult where
  | pass
  | fail
  | error
  deriving DecidableEq, Repr

def TestResult.text : TestResult → String
  | .pass => "PASS"
  | .fail => "FAIL"
  | .error => "ERROR"

/-- `VALID_RESULTS` -/
def validResults : List TestResult := [.pass, .fail, .error]

/-- `REQUIRED_FIELDS` -/
def requiredFields : List String :=
  ["schema_version", "control_id", "test_id", "result", "assertion", "observed", "started_at", "ended_at", "run_id",
    "git_sha", "git_dirty", "source_tree_sha256", "control_catalog_sha256", "topology_sha256", "test_suite_sha256",
    "deployment_config_sha256", "environment"]

/-- An artifact of a run has the required fields, so that reading one of these never raises. -/
structure Artifact where
  fields : List (String × Json)
  complete : ∀ name ∈ requiredFields, (fields.lookup name).isSome = true
  result : TestResult
  stated : fields.lookup "result" = some (.str result.text)

/-- `item[name]` of a required field. -/
def Artifact.get (item : Artifact) (name : String) : Json := Json.get item.fields name

/-- What `json.loads(path.read_text())` does. -/
inductive FileContent where
  | value (payload : Json)
  /-- An `OSError` or a `JSONDecodeError`. -/
  | invalid (reason : String)
  /-- Any other exception. -/
  | undecodable

structure EvidenceFile where
  name : String
  content : FileContent

/-- A directory with the files that match `*.json`. -/
structure EvidenceRun where
  name : String
  files : List EvidenceFile

/-- A payload states a result. -/
def statesResult (payload : List (String × Json)) (result : TestResult) : Bool :=
  match payload.lookup "result" with
  | some (.str text) => text = result.text
  | _ => false

theorem statesResult_iff {payload : List (String × Json)} {result : TestResult} :
    statesResult payload result = true ↔ payload.lookup "result" = some (.str result.text) := by
  unfold statesResult
  split
  · rename_i text read
    simp [read]
  · rename_i other
    simpa using other result.text

/-- The result that a payload states, when it is one of `VALID_RESULTS`. -/
def statedResult (payload : List (String × Json)) :
    Option { result : TestResult // payload.lookup "result" = some (.str result.text) } :=
  validResults.findSome? fun result =>
    if stated : statesResult payload result = true then some ⟨result, statesResult_iff.mp stated⟩ else none

variable (python : Python)

/-- `_parse_timestamp` -/
def parseTimestamp : Json → Option Int
  | .str text =>
      if text = "" then none
      else match python.fromIsoformat text with
        | some (.aware time) | some (.beyond time) => some time
        | _ => none
  | _ => none

/-- `_validate_timestamps` -/
def validateTimestamps (payload : List (String × Json)) : Option String :=
  match parseTimestamp python (Json.get payload "started_at"), parseTimestamp python (Json.get payload "ended_at") with
  | some started, some ended => if ended < started then some "ended_at precedes started_at" else none
  | _, _ => some "started_at/ended_at must be timezone-aware ISO-8601 timestamps"

/-- The turn of the loop of `load_evidence` for one file gives an artifact or the error of the file. -/
def loadArtifact (file : EvidenceFile) : Except ReportError (Except String Artifact) :=
  match file.content with
  | .undecodable => .error .unicode
  | .invalid reason => .ok (.error (file.name ++ ": invalid JSON: " ++ reason))
  | .value (.obj payload) =>
      if complete : ∀ name ∈ requiredFields, (payload.lookup name).isSome = true then
        if !Json.equalsInt (Json.get payload "schema_version") 2 then
          .ok (.error (file.name ++ ": unsupported schema_version"))
        else if !hashable (Json.get payload "result") then .error .type
        else match statedResult payload with
          | none => .ok (.error (file.name ++ ": invalid result " ++ reprOf python (Json.get payload "result")))
          | some ⟨result, stated⟩ =>
              match validateTimestamps python payload with
              | some message => .ok (.error (file.name ++ ": " ++ message))
              | none => .ok (.ok ⟨payload, complete, result, stated⟩)
      else
        let missing := (requiredFields.filter fun name => (payload.lookup name).isNone).insertionSort (· ≤ ·)
        .ok (.error (file.name ++ ": missing fields: " ++ String.intercalate ", " missing))
  | .value _ => .error .attribute

/-- The control and the test of an artifact. -/
def Artifact.key (item : Artifact) : String × String :=
  (strOf python (item.get "control_id"), strOf python (item.get "test_id"))

/-- The second loop of `load_evidence` reports every artifact with a key that occurred before. -/
def duplicateErrors (seen : List (String × String)) : List Artifact → List String
  | [] => []
  | item :: rest =>
      let key := item.key python
      if key ∈ seen then
        ("duplicate evidence for " ++ key.1 ++ " / " ++ key.2 ++ ": " ++ key.2 ++
          " and another artifact in the same run") :: duplicateErrors seen rest
      else duplicateErrors (key :: seen) rest

/-- The artifacts and the errors of what the first loop of `load_evidence` collects. -/
def separate : List (Except String Artifact) → List Artifact × List String
  | [] => ([], [])
  | .ok item :: rest => (item :: (separate rest).1, (separate rest).2)
  | .error message :: rest => ((separate rest).1, message :: (separate rest).2)

/-- The files of a run in the order of their paths. -/
def EvidenceRun.sorted (run : EvidenceRun) : List EvidenceFile :=
  run.files.insertionSort fun first second => first.name ≤ second.name

/-- `load_evidence` -/
def loadEvidence : Option EvidenceRun → Except ReportError (List Artifact × List String)
  | none => .ok ([], [])
  | some run => do
      let loaded ← run.sorted.mapM (loadArtifact python)
      let (evidence, errors) := separate loaded
      return (evidence, errors ++ duplicateErrors python [] evidence)

end Artifacts

section Origin

inductive Profile where
  | pathA
  | pathB
  deriving DecidableEq, Repr

def Profile.text : Profile → String
  | .pathA => "path-a"
  | .pathB => "path-b"

/-- What `current_provenance` finds. -/
structure Provenance where
  gitSha : String
  gitDirty : Bool
  sourceTreeSha256 : String
  controlCatalogSha256 : String
  topologySha256 : String
  testSuiteSha256 : String
  deploymentConfigSha256 : String

def Provenance.items (expected : Provenance) : List (String × Json) :=
  [("git_sha", .str expected.gitSha), ("git_dirty", .bool expected.gitDirty),
    ("source_tree_sha256", .str expected.sourceTreeSha256),
    ("control_catalog_sha256", .str expected.controlCatalogSha256), ("topology_sha256", .str expected.topologySha256),
    ("test_suite_sha256", .str expected.testSuiteSha256),
    ("deployment_config_sha256", .str expected.deploymentConfigSha256)]

/-- The fields in which all artifacts of a run agree. -/
def provenanceFields : List String :=
  ["git_sha", "git_dirty", "source_tree_sha256", "control_catalog_sha256", "topology_sha256", "test_suite_sha256",
    "deployment_config_sha256", "environment"]

variable (python : Python)

/-- The errors of one artifact in the loop of `validate_provenance`. -/
def itemErrors (expected : Provenance) (runId : Option String) (baseline item : Artifact) : List String :=
  let label := strOf python (item.get "test_id")
  (match runId with
    | some name =>
        if name ≠ "" ∧ !equals false (item.get "run_id") (.str name) then
          [label ++ ": run_id does not match evidence directory"]
        else []
    | none => []) ++
  (provenanceFields.filter fun name => !equals true (item.get name) (baseline.get name)).map
    (fun name => label ++ ": mixed provenance field " ++ name) ++
  (expected.items.filter fun entry => !equals false (item.get entry.1) entry.2).map
    (fun entry => label ++ ": stale " ++ entry.1)

/-- The environments of the evidence of a profile. The values for `path-a` stand in a set, so they need a hash. -/
def environmentErrors (profile : Profile) (environment : Json) : Except ReportError (List String) :=
  match profile with
  | .pathB =>
      if equals false environment (.str "path-b") then .ok [] else .ok ["evidence environment is not Path B"]
  | .pathA =>
      if !hashable environment then .error .type
      else if equals false environment (.str "local-containerlab") || equals false environment (.str "path-a") then .ok []
      else .ok ["evidence environment is not Path A"]

/-- `validate_provenance` -/
def validateProvenance (expected : Provenance) (run : Option EvidenceRun) (strict : Bool) (profile : Profile) :
    List Artifact → Except ReportError (List String)
  | [] => .ok []
  | baseline :: rest => do
      let errors := (baseline :: rest).flatMap (itemErrors python expected (run.map (·.name)) baseline)
      let environment ← environmentErrors profile (baseline.get "environment")
      let unresolved :=
        if strict && equals false (baseline.get "git_sha") (.str "unknown") then
          ["strict report requires a resolvable Git SHA"]
        else []
      let dirty :=
        if strict && truthy (baseline.get "git_dirty") then
          ["strict report refuses evidence produced from a dirty worktree; commit/review the source first"]
        else []
      return errors ++ environment ++ unresolved ++ dirty

end Origin

section Controls

variable (python : Python)

/-- `applies_to_profile` -/
def appliesToProfile (control : List (String × Json)) (profile : Profile) : Except ReportError Bool :=
  let refused : ReportError := .value (strOf python (Json.get control "id") ++
    ": applicable_profiles must be a non-empty subset of ('path-a', 'path-b')")
  match control.lookup "applicable_profiles" with
  | none => .ok true
  | some (.arr []) => .error refused
  | some (.arr items) =>
      if !items.all hashable then .error .type
      else if items.all fun item => equals false item (.str "path-a") || equals false item (.str "path-b") then
        .ok (items.any fun item => equals false item (.str profile.text))
      else .error refused
  | some _ => .error refused

/-- `verified_by.split("::", 1)` as a pair. -/
def splitTest : List Char → Option (List Char × List Char)
  | ':' :: ':' :: rest => some ([], rest)
  | char :: rest => (splitTest rest).map fun parts => (char :: parts.1, parts.2)
  | [] => none

/-- `verified_test_suffix` -/
def verifiedTestSuffix (verifiedBy : Json) : Except ReportError String :=
  match verifiedBy with
  | .str text =>
      match splitTest text.toList with
      | some (filename, testName) => .ok (String.ofList ('/' :: filename ++ ':' :: ':' :: testName))
      | none => .error (.value "not enough values to unpack (expected 2, got 1)")
  | _ => .error .attribute

/-- `verifier_for` -/
def verifierFor (control : List (String × Json)) (profile : Profile) : Except ReportError Json :=
  match profile with
  | .pathA => field control "verified_by"
  | .pathB => field control "verified_by_path_b"

/-- The condition of the comprehension in `status_for`. -/
def matchesVerifier (id : Except ReportError Json) (verifiedBy suffix : String) (item : Artifact) :
    Except ReportError Bool := do
  if equals false (item.get "control_id") (← id) then
    match item.get "test_id" with
    | .str test => return suffix.toList.isSuffixOf test.toList || test = verifiedBy
    | _ => .error .attribute
  else return false

/-- The artifacts that match a verifier, in the order of the evidence. -/
def matchesFor (id : Except ReportError Json) (verifiedBy : Json) (evidence : List Artifact) :
    Except ReportError (List Artifact) := do
  let suffix ← verifiedTestSuffix verifiedBy
  evidence.filterM (matchesVerifier id verifiedBy.text suffix)

/-- `status_for` finds no status for a control that is unverified. -/
def statusFor (control : List (String × Json)) (evidence : List Artifact) (profile : Profile) :
    Except ReportError (Option Artifact) := do
  let verifiedBy ← verifierFor control profile
  let found ← matchesFor (field control "id") verifiedBy evidence
  return found.getLast?

/-- `", ".join(values)` -/
def joined (values : List Json) : Except ReportError String := do
  let texts ← values.mapM fun value =>
    match value with
    | .str text => Except.ok text
    | _ => .error .type
  return String.intercalate ", " texts

/-- `framework_text` -/
def frameworkText : Json → Except ReportError String
  | .arr items => joined items
  | value => .ok (strOf python value)

/-- A line of the table of the report. -/
structure ReportRow where
  id : String
  framework : String
  severity : String
  verifier : String
  status : Option TestResult
  evidence : String

/-- The turn of the loop of `main` for one control. -/
def reportRow (evidence : List Artifact) (profile : Profile) (control : List (String × Json)) :
    Except ReportError ReportRow := do
  let artifact ← statusFor control evidence profile
  let frameworks ← field control "framework"
  let framework ← frameworkText python frameworks
  let verifier ← verifierFor control profile
  let reference := match artifact with
    | some item => strOf python (item.get "test_id")
    | none => "none"
  let id ← field control "id"
  let severity ← field control "severity"
  return {
    id := strOf python id
    framework
    severity := strOf python severity
    verifier := strOf python verifier
    status := artifact.map (·.result)
    evidence := reference }

/-- A control of the catalog is an object. -/
def asControl : Json → Except ReportError (List (String × Json))
  | .obj fields => .ok fields
  | _ => .error .attribute

/-- What a loop over the controls of the catalog sees. -/
def catalogItems : Json → Except ReportError (List Json)
  | .arr items => .ok items
  | .obj fields => .ok (fields.map fun field => .str field.1)
  | .str text => .ok (text.toList.map fun char => .str (String.singleton char))
  | _ => .error .type

/-- The controls of the catalog, each with whether it applies to the profile. -/
def scopedControls (catalog : Json) (profile : Profile) : Except ReportError (List (List (String × Json) × Bool)) := do
  (← catalogItems catalog).mapM fun item => do
    let control ← asControl item
    return (control, ← appliesToProfile python control profile)

/-- The controls that apply to a profile. -/
def applicable (entries : List (List (String × Json) × Bool)) : List (List (String × Json)) :=
  (entries.filter (·.2)).map Prod.fst

/-- The report without its headings. -/
structure Report where
  profile : Profile
  run : String
  gitSha : String
  rows : List ReportRow
  notApplicable : String
  errors : List String

def Report.count (report : Report) (status : Option TestResult) : Nat :=
  report.rows.countP fun row => row.status = status

/-- The exit code of `main`. -/
def Report.exitCode (report : Report) (strict : Bool) : Nat :=
  let errors := report.count (some .error) + report.errors.length
  let nonpass := report.count (some .pass) ≠ report.rows.length ∨ report.count (some .fail) ≠ 0 ∨ errors ≠ 0 ∨
    report.count none ≠ 0
  if strict ∧ nonpass then 1 else 0

/-- `main` up to the writing of the report. -/
def mainReport (expected : Provenance) (catalog : Json) (run : Option EvidenceRun) (strict : Bool) (profile : Profile) :
    Except ReportError Report := do
  let entries ← scopedControls python catalog profile
  let excluded ← (entries.filter fun entry => !entry.2).mapM fun entry => field entry.1 "id"
  let (evidence, loadErrors) ← loadEvidence python run
  let provenanceErrors ← validateProvenance python expected run strict profile evidence
  let rows ← (applicable entries).mapM (reportRow python evidence profile)
  let notApplicable ← joined excluded
  return {
    profile
    run := match run with
      | some run => run.name
      | none => "none"
    gitSha := match evidence with
      | item :: _ => strOf python (item.get "git_sha")
      | [] => "unknown"
    rows
    notApplicable
    errors := loadErrors ++ provenanceErrors }

/-- The exit code of `main`. -/
def main (expected : Provenance) (catalog : Json) (run : Option EvidenceRun) (strict : Bool) (profile : Profile) :
    Except ReportError Nat := do
  let report ← mainReport python expected catalog run strict profile
  return report.exitCode strict

end Controls

end ClosedLoop.Compliance
