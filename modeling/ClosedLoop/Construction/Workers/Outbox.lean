import ClosedLoop.Construction.Workers.Vector
import Mathlib.Algebra.Group.Int.Defs

namespace ClosedLoop.Workers

open ClosedLoop.Library ClosedLoop.Response

/-- The document of a scored vector. The constant fields are implicit. -/
structure AnomalyEvent where
  timestamp : Int
  eventId : String
  observer : String
  vectorId : String
  featureSchema : FeatureSchema
  featureSchemaSha256 : String
  entityType : String
  entity : String
  windowStart : Int
  windowEnd : Int
  sourceEventSetSha256 : String
  modelId : String
  modelSha256 : String
  modelMetadataSha256 : String
  score : Json
  threshold : Json
  isAnomaly : Bool
  inferenceMs : Json

inductive JobState where
  | pending
  | scored
  | sent
  | deadletter
  deriving DecidableEq, Repr

/-- A row of the table `jobs`. -/
structure Job where
  metadataHash : String
  vector : FeatureVector
  event : Option AnomalyEvent := none
  state : JobState := .pending
  attempts : Nat := 0
  nextAttempt : Int := 0
  errorCode : Option String := none
  createdAt : Int
  updatedAt : Int

namespace Job

/-- The first event of a pending job is saved. -/
def score (event : AnomalyEvent) (now : Int) (job : Job) : Job :=
  if job.state = .pending then { job with event := some event, state := .scored, errorCode := none, updatedAt := now }
  else job

def send (now : Int) (job : Job) : Job :=
  if job.state = .scored then { job with state := .sent, errorCode := none, updatedAt := now } else job

/-- The wait after a failed attempt, in microseconds. -/
def delay (attempts : Nat) : Int := min 3600 (5 * 2 ^ min attempts 10) * 1000000

/-- A transient failure never drops a job. -/
def fail (error : DeliveryError) (now : Int) (job : Job) : Job :=
  { job with
    state := if error.retryable then job.state else .deadletter
    attempts := job.attempts + 1, nextAttempt := now + delay (job.attempts + 1)
    errorCode := some error.code, updatedAt := now }

/-- A dead letter goes on from where it was. -/
def revive (now : Int) (job : Job) : Job :=
  { job with
    state := if job.event.isNone then .pending else .scored
    nextAttempt := 0, errorCode := none, updatedAt := now }

end Job

/-- The durable tables of the enrichment worker. The table `meta` holds the cursors. -/
structure Outbox where
  jobs : Table String Job := []
  cursors : Table String SortTuple := []

/-- `re.fullmatch(r"[a-f0-9]{64}", text)`. -/
def isSha256 (text : String) : Bool :=
  text.toList.length = 64 && text.toList.all fun char => char.isDigit || ('a' ≤ char && char ≤ 'f')

/-- The id of a job is derived from its content. -/
def jobId (python : Python) (metadataHash : String) (vector : FeatureVector) : String :=
  python.sha256Hex (metadataHash ++ "\n" ++ vector.toJson.canonical)

namespace Outbox

/-- `enqueue` ignores a job that is there, and tells whether it has added one. -/
def enqueue (python : Python) (outbox : Outbox) (vector : FeatureVector) (metadataHash : String) (now : Int) :
    Except String (Bool × Outbox) :=
  let identifier := jobId python metadataHash vector
  if !isSha256 metadataHash then .error "approved metadata SHA-256 is required"
  else match outbox.jobs.find? identifier with
    | some _ => .ok (false, outbox)
    | none =>
        .ok (true, { outbox with
          jobs := outbox.jobs ++ [(identifier, { metadataHash, vector, createdAt := now, updatedAt := now })] })

/-- Jobs are taken in the order of their creation. -/
def earlier (first second : String × Job) : Prop :=
  first.2.createdAt < second.2.createdAt ∨ (first.2.createdAt = second.2.createdAt ∧ first.1 ≤ second.1)

instance : DecidableRel earlier := fun _ _ => inferInstanceAs (Decidable (_ ∨ _))

/-- `due` -/
def due (outbox : Outbox) (now : Int) (limit : Nat) : List (String × Job) :=
  ((outbox.jobs.filter fun row => (row.2.state = .pending ∨ row.2.state = .scored) ∧ row.2.nextAttempt ≤ now)
    |>.insertionSort earlier).take limit

/-- An `UPDATE` of the row with an id. -/
def change (outbox : Outbox) (identifier : String) (update : Job → Job) : Outbox :=
  { outbox with jobs := outbox.jobs.map fun row => if row.1 = identifier then (row.1, update row.2) else row }

/-- `save_event` -/
def saveEvent (outbox : Outbox) (identifier : String) (event : AnomalyEvent) (now : Int) : Outbox :=
  outbox.change identifier (Job.score event now)

/-- `sent` -/
def sent (outbox : Outbox) (identifier : String) (now : Int) : Outbox := outbox.change identifier (Job.send now)

/-- `failed` -/
def failed (outbox : Outbox) (identifier : String) (error : DeliveryError) (now : Int) : Outbox :=
  outbox.change identifier (Job.fail error now)

/-- `requeue` -/
def requeue (outbox : Outbox) (identifier : String) (now : Int) : Except String Outbox :=
  match outbox.jobs.find? identifier with
  | some job =>
      if job.state = .deadletter then .ok (outbox.change identifier (Job.revive now))
      else .error "unknown dead-letter job"
  | none => .error "unknown dead-letter job"

def getMeta (outbox : Outbox) (key : String) : Option SortTuple := outbox.cursors.find? key

def setMeta (outbox : Outbox) (key : String) (value : SortTuple) : Outbox :=
  { outbox with cursors := outbox.cursors.upsert key value }

end Outbox

end ClosedLoop.Workers
