import ClosedLoop.Construction.Workers.Enrichment
import ClosedLoop.Construction.Workers.Expand
import ClosedLoop.Construction.Workers.Features

namespace ClosedLoop.Workers

open ClosedLoop.Library ClosedLoop.Response

section Scan

/-- A hit of a search, with its sort values. -/
structure Hit (δ κ : Type) where
  source : δ
  sort : Option κ

/-- What `scan` raises. -/
inductive ScanError where
  | value (message : String)
  | limitExceeded (limit : Nat)
  | delivery (error : DeliveryError)
  deriving DecidableEq, Repr

variable {δ κ : Type}

/-- The loop of `scan` over the hits of a page gives the hits that are yielded and the number of all hits so far. -/
def yieldHits (limit : Option Nat) : Nat → List (Hit δ κ) → List (Hit δ κ) × Except ScanError Nat
  | emitted, [] => ([], .ok emitted)
  | emitted, hit :: rest =>
      match limit with
      | some cap =>
          if cap < emitted + 1 then ([], .error (.limitExceeded cap))
          else
            let later := yieldHits limit (emitted + 1) rest
            (hit :: later.1, later.2)
      | none =>
          let later := yieldHits limit (emitted + 1) rest
          (hit :: later.1, later.2)

/-- The outer loop of `scan`, for a number of searches. -/
def scanPages (search : Option κ → Except DeliveryError (List (Hit δ κ))) (pageSize : Nat) (limit : Option Nat) :
    Nat → Nat → Option κ → Option (List (Hit δ κ) × Except ScanError Unit)
  | 0, _, _ => none
  | searches + 1, emitted, after =>
      match search after with
      | .error error => some ([], .error (.delivery error))
      | .ok hits =>
          match yieldHits limit emitted hits with
          | (yielded, .error error) => some (yielded, .error error)
          | (yielded, .ok emitted) =>
              if hits.length < pageSize then some (yielded, .ok ())
              else
                match hits.getLast?.bind (·.sort) with
                | none => some (yielded, .error (.delivery ⟨"ES_SEARCH_RESPONSE_CONTRACT", false⟩))
                | some next =>
                    (scanPages search pageSize limit searches emitted (some next)).map fun later =>
                      (yielded ++ later.1, later.2)

/-- `ElasticClient.scan` yields hits and returns, or raises. With too few searches there is no result yet. -/
def scan (search : Nat → Option κ → Except DeliveryError (List (Hit δ κ))) (pageSize : Nat) (limit : Option Nat)
    (after : Option κ) (searches : Nat) : Option (List (Hit δ κ) × Except ScanError Unit) :=
  if 1 ≤ pageSize ∧ pageSize ≤ 10000 then scanPages (search pageSize) pageSize limit searches 0 after
  else some ([], .error (.value "page_size must be between 1 and 10000"))

variable [LinearOrder κ]

/-- A search over documents that do not change. -/
def searchStatic (key : δ → κ) (wanted : δ → Bool) (documents : List δ) (size : Nat) (after : Option κ) :
    Except DeliveryError (List (Hit δ κ)) :=
  .ok ((Cursor.page key wanted documents after size).map fun document => ⟨document, some (key document)⟩)

end Scan

section Fetch

/-- What `fetch_window_events` raises apart from the limit of the scan. -/
inductive FetchError where
  | scan (error : ScanError)
  | expand (error : ExpandError)
  deriving DecidableEq, Repr

/-- The loop of `fetch_window_events` over the hits. -/
def expandSources {κ : Type} (hits : List (Hit Json κ)) : Except ExpandError (List Json) :=
  (hits.filterMap fun hit =>
    match hit.source with
    | .obj source => some source
    | _ => none).mapM fun source => return .obj (← expand source)

/-- `fetch_window_events` -/
def fetchWindowEvents {κ : Type} (search : Nat → Option κ → Except DeliveryError (List (Hit Json κ))) (maxEvents : Nat)
    (pageSize searches : Nat) : Option (Except FetchError Fetched) :=
  (scan search pageSize (some maxEvents) none searches).map fun scanned =>
    match expandSources scanned.1, scanned.2 with
    | .error error, _ => .error (.expand error)
    | .ok _, .error (.limitExceeded limit) => .ok (.exceeded limit)
    | .ok _, .error error => .error (.scan error)
    | .ok events, .ok _ => .ok (.events events)

end Fetch

section Pulls

variable (python : Python) (contracts : Contracts)

/-- The searches of `pull_features`, for a number of them, over documents that do not change. -/
def pullPages (clock : Nat → Int) (documents : List (Stored FeatureVector)) :
    Nat → Outbox → Pull → Option (Except Outbox (PullReport × Outbox))
  | 0, _, _ => none
  | searches + 1, outbox, pull =>
      match readPage python contracts clock documents outbox pull none with
      | .raises outbox => some (.error outbox)
      | .returns report outbox => some (.ok (report, outbox))
      | .goesOn pull outbox => pullPages clock documents searches outbox pull

/-- The arguments of a call of `pull_features`. -/
structure PullCall where
  metadataHash : String
  limit : Nat
  pageSize : Nat
  clock : Nat → Int

/-- `pull_features` gives the outbox after the call, whether it returns or raises. -/
def pullFeatures (documents : List (Stored FeatureVector)) (schema : String) (searches : Nat) (outbox : Outbox)
    (call : PullCall) : Option Outbox :=
  match beginPull outbox schema call.metadataHash call.limit call.pageSize with
  | .error _ => some outbox
  | .ok pull =>
      (pullPages python contracts call.clock documents searches outbox pull).map fun done =>
        match done with
        | .error outbox => outbox
        | .ok (_, outbox) => outbox

/-- The outbox after a list of calls. -/
def pullAll (documents : List (Stored FeatureVector)) (schema : String) (searches : Nat) (outbox : Outbox)
    (calls : List PullCall) : Option Outbox :=
  calls.foldlM (pullFeatures python contracts documents schema searches) outbox

end Pulls

end ClosedLoop.Workers
