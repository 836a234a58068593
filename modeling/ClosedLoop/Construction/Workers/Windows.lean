import ClosedLoop.Construction.Workers.Features
import ClosedLoop.Library.Progression

namespace ClosedLoop.Workers

open ClosedLoop.Library ClosedLoop.Response

section Alignment

/-- `floor_window` replaces the minute of a time by a multiple of five and drops what is below it. -/
def floorWindow (moment : Int) : Int :=
  let minute := moment / 60000000 % 60
  moment - moment % 60000000 + (minute / 5 * 5 - minute) * 60000000

/-- The loop of `closed_windows`. -/
def windowsFrom (latestEnd : Int) : Int → Nat → List Int
  | _, 0 => []
  | start, room + 1 =>
      if start + fiveMinutes ≤ latestEnd then start :: windowsFrom latestEnd (start + fiveMinutes) room else []

/-- `closed_windows` -/
def closedWindows (now lag since maxWindows : Int) : List Int :=
  windowsFrom (floorWindow (now - lag)) (floorWindow since) maxWindows.toNat

end Alignment

section Ledger

/-- The windows of a schema, with or without the failed ones. -/
def FeatureState.starts (state : FeatureState) (schema : FeatureSchema) (wanted : WindowStatus → Bool) : List Int :=
  (state.filter fun row => row.1.1 = schema ∧ wanted row.2.status = true).map fun row => row.1.2

/-- `last_done` -/
def FeatureState.lastDone (state : FeatureState) (schema : FeatureSchema) : Option Int :=
  (state.starts schema (· ≠ .failed)).max?

/-- `pending` -/
def FeatureState.pending (state : FeatureState) (schema : FeatureSchema) (candidates : List Int) : List Int :=
  candidates.filter (· ∉ state.starts schema (· ≠ .failed))

/-- The failed windows that are tried again, oldest first. -/
def FeatureState.retried (state : FeatureState) (schema : FeatureSchema) (maxWindows : Int) : List Int :=
  ((state.starts schema (· = .failed)).insertionSort (· ≤ ·)).take (max 1 (maxWindows / 4)).toNat

end Ledger

section Windows

/-- A request for a document is answered, or the worker dies during it. -/
inductive CreateFate where
  | answered (fault : Option Fault)
  | killed (effect : Bool)

/-- What happens in one attempt at a window. The answers of the index come in the order of the requests, and after
the last one of the list all requests succeed. The row is lost when the transaction of `record` fails. -/
structure Attempt where
  fetched : Except DeliveryError Fetched
  creates : List CreateFate := []
  recorded : Bool := true

/-- How the loop over the vectors of a window ends. -/
inductive Delivered where
  | all
  | failed (error : DeliveryError)
  | raised

/-- The loop of `process_window` over the vectors. -/
def createVectors (index : String) :
    List (Stored FeatureVector) → List FeatureVector → List CreateFate → List (Stored FeatureVector) × Delivered
  | documents, [], _ => (documents, .all)
  | documents, vector :: rest, fates =>
      match fates.headD (.answered none) with
      | .killed effect =>
          ((create documents index vector.vectorId vector (some ⟨⟨"", true⟩, effect⟩)).2, .raised)
      | .answered fault =>
          match create documents index vector.vectorId vector fault with
          | (.failed error, after) => (after, .failed error)
          | (.refused, after) => (after, .raised)
          | (_, after) => createVectors index after rest fates.tail

/-- The index of the vectors and the ledger of the windows. -/
structure FeatureStore where
  documents : List (Stored FeatureVector) := []
  windows : FeatureState := []

variable (python : Python) (contracts : Contracts) (engine : FeatureEngine) (gitSha : String)

/-- The documents after an attempt at a window, and the row for it when nothing was raised. -/
def attemptWindow (documents : List (Stored FeatureVector)) (schema : FeatureSchema) (start : Int) (attempt : Attempt) :
    List (Stored FeatureVector) × Option WindowRow :=
  match attempt.fetched with
  | .error _ => (documents, none)
  | .ok fetched =>
      match openWindow python contracts engine gitSha [] schema start fetched with
      | (rows, none) => (documents, rows.find? (schema, start))
      | (_, some delivery) =>
          match createVectors (featureIndex (start + fiveMinutes)) documents delivery.remaining attempt.creates with
          | (after, .all) => (after, some { status := .done, events := delivery.events, vectors := delivery.vectors })
          | (after, .failed error) =>
              (after, some { status := .failed, events := delivery.events, error := some error.code })
          | (after, .raised) => (after, none)

/-- `process_window` -/
def processWindow (store : FeatureStore) (schema : FeatureSchema) (start : Int) (attempt : Attempt) :
    FeatureStore × Option WindowStatus :=
  match attemptWindow python contracts engine gitSha store.documents schema start attempt with
  | (documents, none) => ({ store with documents }, none)
  | (documents, some row) =>
      if attempt.recorded then (⟨documents, store.windows.upsert (schema, start) row⟩, some row.status)
      else ({ store with documents }, none)

/-- The settings of a feature worker. -/
structure Schedule where
  lag : Int
  lookback : Int
  maxWindows : Int

/-- Where `run_once` starts to look for closed windows. -/
def Schedule.since (schedule : Schedule) (state : FeatureState) (schema : FeatureSchema) (now : Int) : Int :=
  match state.lastDone schema with
  | some last => last + fiveMinutes
  | none => floorWindow (now - schedule.lookback)

/-- The closed windows that `run_once` finds for a schema. -/
def Schedule.candidates (schedule : Schedule) (state : FeatureState) (schema : FeatureSchema) (now : Int) : List Int :=
  closedWindows now schedule.lag (schedule.since state schema now) schedule.maxWindows

/-- The windows that `run_once` processes for a schema: the failed ones first, and each window once. -/
def Schedule.plan (schedule : Schedule) (state : FeatureState) (schema : FeatureSchema) (now : Int) : List Int :=
  firsts (state.retried schema schedule.maxWindows ++ state.pending schema (schedule.candidates state schema now))

/-- The loop of `run_once` over the windows of a schema. It gives the outcomes, or none when an exception ended the
call, and the attempts that are left. -/
def processWindows (schema : FeatureSchema) :
    FeatureStore → List Int → List Attempt → FeatureStore × Option (List WindowStatus) × List Attempt
  | store, [], attempts => (store, some [], attempts)
  | store, start :: rest, attempts =>
      match processWindow python contracts engine gitSha store schema start
        (attempts.headD { fetched := .ok (.events []) }) with
      | (store, none) => (store, none, attempts.tail)
      | (store, some status) =>
          let done := processWindows schema store rest attempts.tail
          (done.1, done.2.1.map (status :: ·), done.2.2)

/-- `run_once` gives the outcomes of each schema. -/
def runOnce (schedule : Schedule) (now : Int) :
    FeatureStore → List FeatureSchema → List Attempt → FeatureStore × Option (List (FeatureSchema × List WindowStatus))
  | store, [], _ => (store, some [])
  | store, schema :: rest, attempts =>
      match processWindows python contracts engine gitSha schema store
        (schedule.plan store.windows schema now) attempts with
      | (store, none, _) => (store, none)
      | (store, some outcomes, attempts) =>
          let done := runOnce schedule now store rest attempts
          (done.1, done.2.map ((schema, outcomes) :: ·))

/-- A call of `run_once` with what happens in it. -/
structure WorkerCall where
  now : Int
  schemas : List FeatureSchema
  attempts : List Attempt

/-- The store after a list of calls of the feature worker. -/
def runCalls (schedule : Schedule) (calls : List WorkerCall) : FeatureStore :=
  calls.foldl (fun store call =>
    (runOnce python contracts engine gitSha schedule call.now store call.schemas call.attempts).1) {}

end Windows

end ClosedLoop.Workers
