import ClosedLoop.Construction.Workers.Features
import ClosedLoop.Construction.Response.DecisionRunner

namespace ClosedLoop.Workers

open ClosedLoop.Library ClosedLoop.Response

/-- What the three workers are deployed with. -/
structure Deployment where
  python : Python
  contracts : Contracts
  engine : FeatureEngine
  gitSha : String
  runner : DecisionRunner

/-- The lock of the outbox lets one call work on it at a time. -/
inductive Activity where
  | pulling (pull : Pull)
  | draining (drain : Drain)

/-- The workers between their requests, the indices that they share, and the requests that were made for documents of
`soc-ai-*`. -/
structure Pipeline where
  features : List (Stored FeatureVector) := []
  windows : FeatureState := []
  delivery : Option Delivery := none
  outbox : Outbox := {}
  activity : Option Activity := none
  reports : List PullReport := []
  anomalies : List (Stored AnomalyEvent) := []
  requests : List (Stored AnomalyEvent) := []
  decisions : DecisionState := {}

/-- One move of a worker. Each move makes at most one request to an index that another worker reads or writes. A
worker that is cut off dies during the request of the move, and one that is stopped dies between two requests. -/
inductive Move where
  | openWindow (schema : FeatureSchema) (start : Int) (fetched : Fetched)
  | deliver (fault : Option Fault)
  | cutDeliver (effect : Bool)
  | stopFeatures
  | enqueue (vector : FeatureVector) (metadataHash : String) (now : Int)
  | beginPull (schema metadataHash : String) (limit pageSize : Nat)
  | readPage (clock : Nat → Int) (fault : Option DeliveryError)
  | cutPage (clock : Nat → Int) (count : Nat)
  | beginDrain (now : Int) (limit : Nat)
  | infer (reply : InferenceReply) (now : Int)
  | publish (fault : Option Fault) (now : Int)
  | cutPublish (effect : Bool)
  | requeue (identifier : String) (now : Int)
  | stopEnrichment
  | runOnce (limit : Nat) (answers : List Answers)

namespace Pipeline

variable (deployment : Deployment)

/-- A drain without rows has returned. -/
def drained (drain : Drain) : Option Activity :=
  if drain.remaining.isEmpty then none else some (.draining drain)

/-- The feature worker opens a window when it has delivered the last one. -/
def openWindow (pipeline : Pipeline) (schema : FeatureSchema) (start : Int) (fetched : Fetched) : Pipeline :=
  match pipeline.delivery with
  | some _ => pipeline
  | none =>
      let opened := Workers.openWindow deployment.python deployment.contracts deployment.engine deployment.gitSha
        pipeline.windows schema start fetched
      { pipeline with windows := opened.1, delivery := opened.2 }

def deliver (pipeline : Pipeline) (fault : Option Fault) : Pipeline :=
  match pipeline.delivery with
  | none => pipeline
  | some delivery =>
      let delivered := Workers.deliver pipeline.features pipeline.windows delivery fault
      { pipeline with features := delivered.1, windows := delivered.2.1, delivery := delivered.2.2 }

/-- The feature worker dies while it waits for an answer. -/
def cutDeliver (pipeline : Pipeline) (effect : Bool) : Pipeline :=
  { pipeline.deliver (some ⟨⟨"", true⟩, effect⟩) with windows := pipeline.windows, delivery := none }

/-- The command `import` adds the vectors of a file one by one. -/
def enqueue (pipeline : Pipeline) (vector : FeatureVector) (metadataHash : String) (now : Int) : Pipeline :=
  match pipeline.activity, validateVector deployment.contracts vector,
      pipeline.outbox.enqueue deployment.python vector metadataHash now with
  | none, .ok _, .ok (_, outbox) => { pipeline with outbox }
  | _, _, _ => pipeline

def beginPull (pipeline : Pipeline) (schema metadataHash : String) (limit pageSize : Nat) : Pipeline :=
  match pipeline.activity, Workers.beginPull pipeline.outbox schema metadataHash limit pageSize with
  | none, .ok pull => { pipeline with activity := some (.pulling pull) }
  | _, _ => pipeline

def readPage (pipeline : Pipeline) (clock : Nat → Int) (fault : Option DeliveryError) : Pipeline :=
  match pipeline.activity with
  | some (.pulling pull) =>
      match Workers.readPage deployment.python deployment.contracts clock pipeline.features pipeline.outbox pull
        fault with
      | .goesOn pull outbox => { pipeline with outbox, activity := some (.pulling pull) }
      | .returns report outbox =>
          { pipeline with outbox, activity := none, reports := pipeline.reports ++ [report] }
      | .raises outbox => { pipeline with outbox, activity := none }
  | _ => pipeline

/-- A pull dies after some hits of a page. -/
def cutPage (pipeline : Pipeline) (clock : Nat → Int) (count : Nat) : Pipeline :=
  match pipeline.activity with
  | some (.pulling pull) =>
      let hits := ((searchVectors pipeline.features pull).map (·.source)).take count
      { pipeline with
        outbox := (consume deployment.python deployment.contracts clock pull pipeline.outbox hits).outbox
        activity := none }
  | _ => pipeline

def beginDrain (pipeline : Pipeline) (now : Int) (limit : Nat) : Pipeline :=
  match pipeline.activity, Workers.beginDrain pipeline.outbox now limit with
  | none, .ok drain => { pipeline with activity := drained drain }
  | _, _ => pipeline

/-- A drain scores the first row when there is no event for it. -/
def infer (pipeline : Pipeline) (reply : InferenceReply) (now : Int) : Pipeline :=
  match pipeline.activity with
  | some (.draining drain) =>
      match drain.event with
      | some _ => pipeline
      | none =>
          let inferred := Workers.infer deployment.contracts pipeline.outbox drain reply now
          { pipeline with outbox := inferred.1, activity := drained inferred.2 }
  | _ => pipeline

/-- A drain publishes the event of the first row when there is one. -/
def publish (pipeline : Pipeline) (fault : Option Fault) (now : Int) : Pipeline :=
  match pipeline.activity with
  | some (.draining drain) =>
      match drain.event with
      | none => pipeline
      | some event =>
          let published := Workers.publish pipeline.anomalies pipeline.outbox drain event fault now
          { pipeline with
            anomalies := published.1, outbox := published.2.1, activity := drained published.2.2
            requests := pipeline.requests ++ drain.request event }
  | _ => pipeline

/-- A drain dies while it waits for an answer. -/
def cutPublish (pipeline : Pipeline) (effect : Bool) : Pipeline :=
  { pipeline.publish (some ⟨⟨"", true⟩, effect⟩) 0 with outbox := pipeline.outbox, activity := none }

def requeue (pipeline : Pipeline) (identifier : String) (now : Int) : Pipeline :=
  match pipeline.activity, pipeline.outbox.requeue identifier now with
  | none, .ok outbox => { pipeline with outbox }
  | _, _ => pipeline

def runOnce (pipeline : Pipeline) (limit : Nat) (answers : List Answers) : Pipeline :=
  { pipeline with
    decisions := (Response.runOnce deployment.python deployment.runner pipeline.decisions pipeline.anomalies limit
      answers).2 }

def step (pipeline : Pipeline) : Move → Pipeline
  | .openWindow schema start fetched => pipeline.openWindow deployment schema start fetched
  | .deliver fault => pipeline.deliver fault
  | .cutDeliver effect => pipeline.cutDeliver effect
  | .stopFeatures => { pipeline with delivery := none }
  | .enqueue vector metadataHash now => pipeline.enqueue deployment vector metadataHash now
  | .beginPull schema metadataHash limit pageSize => pipeline.beginPull schema metadataHash limit pageSize
  | .readPage clock fault => pipeline.readPage deployment clock fault
  | .cutPage clock count => pipeline.cutPage deployment clock count
  | .beginDrain now limit => pipeline.beginDrain now limit
  | .infer reply now => pipeline.infer deployment reply now
  | .publish fault now => pipeline.publish fault now
  | .cutPublish effect => pipeline.cutPublish effect
  | .requeue identifier now => pipeline.requeue identifier now
  | .stopEnrichment => { pipeline with activity := none }
  | .runOnce limit answers => pipeline.runOnce deployment limit answers

/-- The workers after a list of moves from the start. -/
def run (moves : List Move) : Pipeline := moves.foldl (step deployment) {}

end Pipeline

end ClosedLoop.Workers
