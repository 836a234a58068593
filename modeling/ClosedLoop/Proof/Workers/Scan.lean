import ClosedLoop.Construction.Workers.Scan
import ClosedLoop.Proof.Workers.Pulling
import Mathlib.Algebra.GroupWithZero.Nat

namespace ClosedLoop.Workers

open ClosedLoop.Library ClosedLoop.Response

section Pages

variable {δ κ : Type}

/-- The hits that a limit lets through. -/
def letThrough {α : Type} (limit : Option Nat) (emitted : Nat) (hits : List α) : List α :=
  match limit with
  | none => hits
  | some cap => hits.take (cap - emitted)

/-- How the count of all hits compares with a limit. -/
def scanVerdict (limit : Option Nat) (total : Nat) : Except ScanError Nat :=
  match limit with
  | none => .ok total
  | some cap => if cap < total then .error (.limitExceeded cap) else .ok total

/-- The hits so far are within the limit. -/
def UnderLimit (limit : Option Nat) (emitted : Nat) : Prop := ∀ cap ∈ limit, emitted ≤ cap

/-- A page of hits is let through up to the limit. -/
theorem yieldHits_eq {limit : Option Nat} {emitted : Nat} (within : UnderLimit limit emitted) (hits : List (Hit δ κ)) :
    yieldHits limit emitted hits = (letThrough limit emitted hits, scanVerdict limit (emitted + hits.length)) := by
  induction hits generalizing emitted with
  | nil =>
      cases limit with
      | none => rfl
      | some cap =>
          have enough : ¬ cap < emitted := Nat.not_lt.mpr (within cap rfl)
          simp [yieldHits, letThrough, scanVerdict, enough]
  | cons hit rest ih =>
      have counted : emitted + (hit :: rest).length = emitted + 1 + rest.length := by
        rw [List.length_cons]
        omega
      cases limit with
      | none =>
          rw [yieldHits, ih (by simp [UnderLimit]), counted]
          rfl
      | some cap =>
          rw [yieldHits, counted]
          by_cases full : cap < emitted + 1
          · have none : cap - emitted = 0 := by omega
            have exceeding : cap < emitted + 1 + rest.length := by omega
            simp [letThrough, scanVerdict, full, none, exceeding]
          · have room : cap - emitted = (cap - (emitted + 1)) + 1 := by omega
            rw [if_neg full, ih fun other same => by
              obtain rfl : cap = other := by simpa using same
              omega]
            simp [letThrough, room]

/-- A scan that exceeds its limit exceeds it with more hits as well. -/
theorem scanVerdict_error {limit : Option Nat} {total more : Nat} {error : ScanError} (exceeding : scanVerdict limit total = .error error)
    (grows : total ≤ more) : scanVerdict limit more = .error error := by
  cases limit with
  | none => cases exceeding
  | some cap =>
      simp only [scanVerdict] at exceeding ⊢
      split at exceeding
      · rename_i exceeded
        rw [← exceeding, if_pos (exceeded.trans_le grows)]
      · cases exceeding

/-- A scan that returns counted its hits and stayed under the limit. -/
theorem scanVerdict_ok {limit : Option Nat} {total count : Nat} (fits : scanVerdict limit total = .ok count) :
    count = total ∧ UnderLimit limit total := by
  cases limit with
  | none => exact ⟨(Except.ok.inj fits).symm, by simp [UnderLimit]⟩
  | some cap =>
      simp only [scanVerdict] at fits
      split at fits
      · cases fits
      · rename_i enough
        refine ⟨(Except.ok.inj fits).symm, fun other same => ?_⟩
        obtain rfl : cap = other := by simpa using same
        exact Nat.not_lt.mp enough

/-- A limit that is exceeded within the first hits lets only some of them through. -/
theorem letThrough_take {α : Type} {limit : Option Nat} {emitted : Nat} {error : ScanError} {hits : List α} {size : Nat}
    (exceeding : scanVerdict limit (emitted + (hits.take size).length) = .error error) :
    letThrough limit emitted (hits.take size) = letThrough limit emitted hits := by
  cases limit with
  | none => cases exceeding
  | some cap =>
      simp only [scanVerdict] at exceeding
      split at exceeding
      · rename_i exceeded
        rw [List.length_take] at exceeded
        simp only [letThrough, List.take_take]
        congr 1
        omega
      · cases exceeding

/-- Hits within the limit are let through, and then the others. -/
theorem letThrough_append {α : Type} {limit : Option Nat} {emitted : Nat} {first : List α}
    (within : UnderLimit limit (emitted + first.length)) (second : List α) :
    letThrough limit emitted (first ++ second) = first ++ letThrough limit (emitted + first.length) second := by
  cases limit with
  | none => rfl
  | some cap =>
      have enough := within cap rfl
      have room : cap - emitted = first.length + (cap - (emitted + first.length)) := by omega
      simp only [letThrough, room]
      rw [List.take_append, List.take_of_length_le (Nat.le_add_right _ _), Nat.add_sub_cancel_left]

/-- Hits that fit are all let through. -/
theorem letThrough_all {α : Type} {limit : Option Nat} {emitted : Nat} {hits : List α}
    (within : UnderLimit limit (emitted + hits.length)) : letThrough limit emitted hits = hits := by
  cases limit with
  | none => rfl
  | some cap =>
      have enough := within cap rfl
      exact List.take_of_length_le (by omega)

variable [LinearOrder κ] {key : δ → κ} {wanted : δ → Bool} {documents : List δ}

/-- A document as a hit. -/
def hitOf (key : δ → κ) (document : δ) : Hit δ κ := ⟨document, some (key document)⟩

omit [LinearOrder κ] in
/-- The sort values of the last hit are the next cursor. -/
theorem last_sort (key : δ → κ) (after : Option κ) {read : List δ} (some : read ≠ []) :
    ∃ place, Cursor.advance key after read = Option.some place ∧
      (read.map (hitOf key)).getLast?.bind (·.sort) = Option.some place := by
  refine ⟨key (read.getLast some), ?_, ?_⟩
  · rw [Cursor.advance, List.getLast?_eq_some_getLast some]
    rfl
  · rw [List.getLast?_map, List.getLast?_eq_some_getLast some]
    rfl

/-- The loop over the pages yields all documents ahead that the limit lets through. -/
theorem scanPages_eq (separate : Cursor.Separate key wanted documents) {pageSize : Nat} (positive : 1 ≤ pageSize)
    {limit : Option Nat} (searches : Nat) {emitted : Nat} (within : UnderLimit limit emitted) (after : Option κ)
    (enough : (Cursor.ahead key wanted documents after).length < searches) :
    scanPages (searchStatic key wanted documents pageSize) pageSize limit searches emitted after =
      some (letThrough limit emitted ((Cursor.ahead key wanted documents after).map (hitOf key)),
        (scanVerdict limit (emitted + (Cursor.ahead key wanted documents after).length)).map fun _ => ()) := by
  induction searches generalizing emitted after with
  | zero => exact absurd enough (Nat.not_lt_zero _)
  | succ searches ih =>
      have next := Cursor.ahead_advance separate after pageSize
      generalize found : Cursor.ahead key wanted documents after = ahead at enough next
      have hits : searchStatic key wanted documents pageSize after = .ok ((ahead.take pageSize).map (hitOf key)) := by
        rw [searchStatic, Cursor.page, found]
        rfl
      unfold scanPages
      rw [hits]
      dsimp only
      rw [yieldHits_eq within]
      cases reached : scanVerdict limit (emitted + ((ahead.take pageSize).map (hitOf key)).length) with
      | error error =>
          rw [List.map_take] at reached ⊢
          have exceeding : scanVerdict limit (emitted + ahead.length) = .error error := scanVerdict_error reached (by
            rw [List.length_take, List.length_map]
            omega)
          rw [exceeding, letThrough_take reached]
          rfl
      | ok count =>
          obtain ⟨rfl, fits⟩ := scanVerdict_ok reached
          dsimp only
          rw [List.length_map] at fits ⊢
          split
          · rename_i short
            have all : ahead.take pageSize = ahead := List.take_of_length_le (by
              rw [List.length_take] at short
              omega)
            rw [all] at reached ⊢
            rw [List.length_map] at reached
            rw [reached]
            rfl
          · rename_i full
            rw [List.length_take] at full
            have size : (ahead.take pageSize).length = pageSize := by
              rw [List.length_take]
              omega
            have filled : ahead.take pageSize ≠ [] := by
              intro none
              rw [none, List.length_nil] at size
              omega
            obtain ⟨place, moved, last⟩ := last_sort key after filled
            rw [moved] at next
            rw [last]
            dsimp only
            rw [ih fits (some place) (by
              rw [next, List.length_drop]
              omega), next, Option.map_some]
            have parts := List.take_append_drop pageSize ahead
            have lengths := congrArg List.length parts
            rw [List.length_append] at lengths
            congr 2
            · conv_rhs => rw [← parts, List.map_append, letThrough_append (by rwa [List.length_map])]
              rw [List.length_map, letThrough_all (by rwa [List.length_map])]
            · rw [Nat.add_assoc, lengths]

end Pages

section Enqueues

variable (python : Python)

/-- A call of `enqueue`. -/
structure Enqueue where
  vector : FeatureVector
  metadataHash : String
  now : Int

/-- The outbox after a call of `enqueue` that does not raise. -/
def enqueueOne (outbox : Outbox) (call : Enqueue) : Outbox :=
  match outbox.enqueue python call.vector call.metadataHash call.now with
  | .ok (_, after) => after
  | .error _ => outbox

/-- The outbox after calls of `enqueue`. -/
def enqueueAll (outbox : Outbox) (calls : List Enqueue) : Outbox := calls.foldl (enqueueOne python) outbox

variable {python}

/-- Enqueuing a vector moves no cursor. -/
theorem enqueueOne_cursors (outbox : Outbox) (call : Enqueue) : (enqueueOne python outbox call).cursors = outbox.cursors := by
  unfold enqueueOne Outbox.enqueue
  dsimp only
  by_cases approved : (!isSha256 call.metadataHash) = true
  · rw [if_pos approved]
  · rw [if_neg approved]
    cases outbox.jobs.find? (jobId python call.metadataHash call.vector) <;> rfl

theorem enqueueAll_cursors (outbox : Outbox) (calls : List Enqueue) :
    (enqueueAll python outbox calls).cursors = outbox.cursors := by
  induction calls generalizing outbox with
  | nil => rfl
  | cons call rest ih => exact (ih (enqueueOne python outbox call)).trans (enqueueOne_cursors outbox call)

/-- Enqueuing a vector loses no job. -/
theorem enqueueOne_grows (outbox : Outbox) (call : Enqueue) : outbox.Grows python (enqueueOne python outbox call) := by
  unfold enqueueOne
  split
  · rename_i ok
    exact enqueue_grows ok
  · exact Outbox.Grows.refl outbox

theorem enqueueAll_grows (outbox : Outbox) (calls : List Enqueue) :
    outbox.Grows python (enqueueAll python outbox calls) := by
  induction calls generalizing outbox with
  | nil => exact Outbox.Grows.refl outbox
  | cons call rest ih => exact (enqueueOne_grows outbox call).trans (ih (enqueueOne python outbox call))

/-- An approved vector has a job after its call. -/
theorem mem_enqueueOne (outbox : Outbox) {call : Enqueue} (approved : isSha256 call.metadataHash = true) :
    jobId python call.metadataHash call.vector ∈ (enqueueOne python outbox call).jobs.keys := by
  unfold enqueueOne Outbox.enqueue
  dsimp only
  rw [if_neg (by simp [approved])]
  cases found : outbox.jobs.find? (jobId python call.metadataHash call.vector) with
  | some job => exact Table.mem_keys_iff.mpr ⟨job, found⟩
  | none => simp [Table.keys]

/-- Each call leaves exactly one job for its vector. -/
theorem count_enqueueAll {outbox : Outbox} (distinct : outbox.jobs.keys.Nodup) {calls : List Enqueue}
    (approved : ∀ call ∈ calls, isSha256 call.metadataHash = true) :
    ∀ call ∈ calls, (enqueueAll python outbox calls).jobs.keys.count (jobId python call.metadataHash call.vector) = 1 := by
  intro call member
  refine List.count_eq_one_of_mem ((enqueueAll_grows outbox calls).nodup distinct) ?_
  induction calls generalizing outbox with
  | nil => cases member
  | cons first rest ih =>
      have unique : (enqueueOne python outbox first).jobs.keys.Nodup := (enqueueOne_grows outbox first).nodup distinct
      have later := ih unique fun other inside => approved other (List.mem_cons_of_mem _ inside)
      rcases List.mem_cons.mp member with rfl | inside
      · have queued : jobId python call.metadataHash call.vector ∈ (enqueueOne python outbox call).jobs.keys :=
          mem_enqueueOne outbox (approved call member)
        obtain ⟨job, found⟩ := Table.mem_keys_iff.mp queued
        exact Table.mem_keys_iff.mpr ⟨job, (enqueueAll_grows _ rest).keeps _ job found⟩
      · exact later inside

end Enqueues

section Pulls

variable {python : Python} {contracts : Contracts}

/-- A pull has taken some vectors and has enqueued the valid ones among them. -/
structure Took (python : Python) (contracts : Contracts) (pull next : Pull) (outbox after : Outbox)
    (taken : List FeatureVector) (calls : List Enqueue) : Prop where
  seen : next.seen = pull.seen + taken.length
  last : next.last = Cursor.advance FeatureVector.place pull.last taken
  schema : next.schema = pull.schema
  metadataHash : next.metadataHash = pull.metadataHash
  limit : next.limit = pull.limit
  pageSize : next.pageSize = pull.pageSize
  vectors : calls.map Enqueue.vector = taken.filter (·.valid contracts)
  hashes : ∀ call ∈ calls, call.metadataHash = pull.metadataHash
  outbox : after = enqueueAll python outbox calls

theorem Took.nothing (pull : Pull) (outbox : Outbox) : Took python contracts pull pull outbox outbox [] [] :=
  ⟨rfl, rfl, rfl, rfl, rfl, rfl, rfl, by simp, rfl⟩

/-- The cursor advances over one list of vectors and then over the next. -/
theorem advance_append (cursor : Option SortTuple) (first second : List FeatureVector) :
    Cursor.advance FeatureVector.place cursor (first ++ second) =
      Cursor.advance FeatureVector.place (Cursor.advance FeatureVector.place cursor first) second := by
  unfold Cursor.advance
  rw [List.getLast?_append, Option.map_or, Option.or_assoc]

/-- What two parts of a pull took is taken by both together. -/
theorem Took.trans {pull between next : Pull} {outbox middle after : Outbox} {first second : List FeatureVector}
    {calls more : List Enqueue} (head : Took python contracts pull between outbox middle first calls)
    (tail : Took python contracts between next middle after second more) :
    Took python contracts pull next outbox after (first ++ second) (calls ++ more) where
  seen := by rw [tail.seen, head.seen, List.length_append, Nat.add_assoc]
  last := by rw [tail.last, head.last, advance_append]
  schema := tail.schema.trans head.schema
  metadataHash := tail.metadataHash.trans head.metadataHash
  limit := tail.limit.trans head.limit
  pageSize := tail.pageSize.trans head.pageSize
  vectors := by rw [List.map_append, head.vectors, tail.vectors, List.filter_append]
  hashes := by
    intro call member
    rcases List.mem_append.mp member with early | late
    · exact head.hashes call early
    · exact (tail.hashes call late).trans head.metadataHash
  outbox := by
    rw [tail.outbox, head.outbox, enqueueAll, enqueueAll, enqueueAll, List.foldl_append]

variable (python contracts) in
/-- One turn of the loop takes one vector. -/
theorem consume_cons (clock : Nat → Int) {pull : Pull} (approved : isSha256 pull.metadataHash = true) (outbox : Outbox)
    (vector : FeatureVector) (rest : List FeatureVector) (room : pull.seen < pull.limit) :
    ∃ between middle calls, Took python contracts pull between outbox middle [vector] calls ∧
      consume python contracts clock pull outbox (vector :: rest) = consume python contracts clock between middle rest := by
  have unfilled : ¬ pull.limit ≤ pull.seen := Nat.not_le.mpr room
  by_cases valid : vector.valid contracts = true
  · cases found : outbox.jobs.find? (jobId python pull.metadataHash vector) with
    | some job =>
        have ok : outbox.enqueue python vector pull.metadataHash (clock (pull.seen + 1)) = .ok (false, outbox) := by
          simp [Outbox.enqueue, approved, found]
        refine ⟨_, outbox, [⟨vector, pull.metadataHash, clock (pull.seen + 1)⟩], ?_, by simp [consume, unfilled, valid, ok]; rfl⟩
        exact ⟨rfl, rfl, rfl, rfl, rfl, rfl, by simp [valid], by simp, by simp [enqueueAll, enqueueOne, ok]⟩
    | none =>
        have ok : ∃ after, outbox.enqueue python vector pull.metadataHash (clock (pull.seen + 1)) = .ok (true, after) := by
          simp [Outbox.enqueue, approved, found]
        obtain ⟨after, ok⟩ := ok
        refine ⟨_, after, [⟨vector, pull.metadataHash, clock (pull.seen + 1)⟩], ?_, by simp [consume, unfilled, valid, ok]; rfl⟩
        exact ⟨rfl, rfl, rfl, rfl, rfl, rfl, by simp [valid], by simp, by simp [enqueueAll, enqueueOne, ok]⟩
  · refine ⟨_, outbox, [], ?_, by simp [consume, unfilled, valid]; rfl⟩
    exact ⟨rfl, rfl, rfl, rfl, rfl, rfl, by simp [valid], by simp, rfl⟩

variable (python contracts) in
/-- The loop over the hits of a page takes the vectors that the limit leaves room for. -/
theorem consume_took (clock : Nat → Int) {pull : Pull} (approved : isSha256 pull.metadataHash = true) (outbox : Outbox)
    (hits : List FeatureVector) :
    ∃ next after calls, Took python contracts pull next outbox after (hits.take (pull.limit - pull.seen)) calls ∧
      consume python contracts clock pull outbox hits =
        if hits.length ≤ pull.limit - pull.seen then .goesOn next after else .leaves next after := by
  induction hits generalizing pull outbox with
  | nil => exact ⟨pull, outbox, [], by simpa using Took.nothing pull outbox, by simp [consume]⟩
  | cons vector rest ih =>
      by_cases full : pull.limit ≤ pull.seen
      · have none : pull.limit - pull.seen = 0 := by omega
        refine ⟨pull, outbox, [], ?_, ?_⟩
        · rw [none]
          exact Took.nothing pull outbox
        · simp [consume, full, none]
      · obtain ⟨between, middle, one, first, step⟩ :=
          consume_cons python contracts clock approved outbox vector rest (Nat.not_le.mp full)
        have hash : isSha256 between.metadataHash = true := by
          rw [first.metadataHash]
          exact approved
        obtain ⟨next, after, calls, took, done⟩ := ih hash middle
        have room : pull.limit - pull.seen = between.limit - between.seen + 1 := by
          rw [first.limit, first.seen, List.length_singleton]
          omega
        refine ⟨next, after, one ++ calls, ?_, ?_⟩
        · rw [room, List.take_succ_cons]
          exact first.trans took
        · rw [step, done, room, List.length_cons]
          simp only [Nat.add_le_add_iff_right]

/-- The vectors of a schema ahead of a cursor, in the order in which they are pulled. -/
def vectorsAhead (documents : List (Stored FeatureVector)) (schema : String) (cursor : Option SortTuple) :
    List FeatureVector :=
  (Cursor.ahead (fun document : Stored FeatureVector => document.source.place) (wantedVector schema) documents cursor).map
    (·.source)

/-- The vectors of a schema have pairwise different sort tuples. -/
abbrev SeparateVectors (documents : List (Stored FeatureVector)) (schema : String) : Prop :=
  Cursor.Separate (fun document : Stored FeatureVector => document.source.place) (wantedVector schema) documents

/-- Behind the page that was read lie the vectors after it. -/
theorem vectorsAhead_advance {documents : List (Stored FeatureVector)} {schema : String}
    (separate : SeparateVectors documents schema) (cursor : Option SortTuple) (count : Nat) :
    vectorsAhead documents schema
        (Cursor.advance FeatureVector.place cursor ((vectorsAhead documents schema cursor).take count)) =
      (vectorsAhead documents schema cursor).drop count := by
  unfold vectorsAhead
  rw [← List.map_take, ← Cursor.advance_source, Cursor.ahead_advance separate cursor count, List.map_drop]

/-- There are no more vectors ahead than documents. -/
theorem length_vectorsAhead (documents : List (Stored FeatureVector)) (schema : String) (cursor : Option SortTuple) :
    (vectorsAhead documents schema cursor).length ≤ documents.length := by
  rw [vectorsAhead, List.length_map, Cursor.ahead, List.length_insertionSort]
  exact List.length_filter_le _ _

/-- A search answers the first page of the vectors ahead. -/
theorem searchVectors_eq (documents : List (Stored FeatureVector)) (pull : Pull) :
    (searchVectors documents pull).map (·.source) =
      (vectorsAhead documents pull.schema pull.last).take pull.pageSize := by
  rw [searchVectors, Cursor.page, vectorsAhead, List.map_take]

variable (python contracts) in
/-- A pull takes the vectors ahead of its cursor that the limit leaves room for, and saves where it stopped. -/
theorem pullPages_took (clock : Nat → Int) {documents : List (Stored FeatureVector)} (searches : Nat) {pull : Pull}
    (separate : SeparateVectors documents pull.schema) (approved : isSha256 pull.metadataHash = true)
    (positive : 1 ≤ pull.pageSize) (outbox : Outbox)
    (enough : (vectorsAhead documents pull.schema pull.last).length < searches) :
    ∃ next after calls, Took python contracts pull next outbox after
        ((vectorsAhead documents pull.schema pull.last).take (pull.limit - pull.seen)) calls ∧
      pullPages python contracts clock documents searches outbox pull = some (.ok (finishPull next after)) := by
  induction searches generalizing pull outbox with
  | zero => exact absurd enough (Nat.not_lt_zero _)
  | succ searches ih =>
      have rest := vectorsAhead_advance separate pull.last pull.pageSize
      have hits := searchVectors_eq documents pull
      generalize vectorsAhead documents pull.schema pull.last = ahead at enough rest hits
      obtain ⟨middle, between, first, took, consumed⟩ :=
        consume_took python contracts clock approved outbox (ahead.take pull.pageSize)
      rw [List.length_take] at consumed
      by_cases exceeding : min pull.pageSize ahead.length ≤ pull.limit - pull.seen
      · rw [if_pos exceeding] at consumed
        rw [List.take_of_length_le (by rwa [List.length_take])] at took
        by_cases short : min pull.pageSize ahead.length < pull.pageSize
        · have all : ahead.take pull.pageSize = ahead := List.take_of_length_le (by omega)
          refine ⟨middle, between, first, ?_, ?_⟩
          · rw [List.take_of_length_le (by omega)]
            rwa [all] at took
          · simp [pullPages, readPage, hits, consumed, took.pageSize, short]
        · have step : pullPages python contracts clock documents (searches + 1) outbox pull =
              pullPages python contracts clock documents searches between middle := by
            simp [pullPages, readPage, hits, consumed, took.pageSize, short]
          rw [← took.last, ← took.schema] at rest
          rw [← took.schema] at separate
          obtain ⟨next, after, calls, later, done⟩ := ih separate
            (by rw [took.metadataHash]; exact approved) (by rw [took.pageSize]; exact positive) between (by
              rw [rest, List.length_drop]
              omega)
          refine ⟨next, after, first ++ calls, ?_, step.trans done⟩
          have whole := took.trans later
          rw [rest, took.limit, took.seen, List.length_take] at whole
          have room : pull.limit - pull.seen =
              pull.pageSize + (pull.limit - (pull.seen + min pull.pageSize ahead.length)) := by omega
          rw [room, List.take_add]
          exact whole
      · rw [if_neg exceeding] at consumed
        refine ⟨middle, between, first, ?_, ?_⟩
        · rw [List.take_take] at took
          rwa [Nat.min_eq_left (by omega)] at took
        · simp [pullPages, readPage, hits, consumed]

/-- The number of vectors that a call may take. A call with settings out of range raises before its first search. -/
def PullCall.room (call : PullCall) : Nat :=
  if (1 ≤ call.limit ∧ call.limit ≤ 100000) ∧ 1 ≤ min call.pageSize call.limit ∧ min call.pageSize call.limit ≤ 10000 then
    call.limit
  else 0

/-- A pull that finishes leaves its cursor where it stopped. -/
theorem getMeta_finishPull {pull next : Pull} {outbox after : Outbox} {taken : List FeatureVector} {calls : List Enqueue}
    (took : Took python contracts pull next outbox after taken calls)
    (start : pull.last = outbox.getMeta (featureCursor pull.schema)) :
    (finishPull next after).2.getMeta (featureCursor pull.schema) = next.last := by
  unfold finishPull
  cases last : next.last with
  | none =>
      have unset : pull.last = none := by
        have moved := took.last
        rw [last, Cursor.advance] at moved
        exact (Option.or_eq_none_iff.mp moved.symm).2
      change after.getMeta (featureCursor pull.schema) = none
      rw [Outbox.getMeta, took.outbox, enqueueAll_cursors, ← Outbox.getMeta, ← start, unset]
  | some place =>
      change (after.setMeta (featureCursor next.schema) place).getMeta (featureCursor pull.schema) = some place
      rw [took.schema, Outbox.getMeta, Outbox.setMeta, Table.find?_upsert_self]

/-- What a list of calls of `enqueue` has done for the vectors that were taken. -/
structure Stocks (python : Python) (contracts : Contracts) (schema : String) (outbox after : Outbox)
    (taken : List FeatureVector) (calls : List Enqueue) : Prop where
  vectors : calls.map Enqueue.vector = taken.filter (·.valid contracts)
  approved : ∀ call ∈ calls, isSha256 call.metadataHash = true
  jobs : after.jobs = (enqueueAll python outbox calls).jobs
  cursor : after.getMeta (featureCursor schema) =
    Cursor.advance FeatureVector.place (outbox.getMeta (featureCursor schema)) taken

variable (python contracts) in
/-- A call takes the vectors ahead of the cursor up to its limit. -/
theorem pullFeatures_stocks {documents : List (Stored FeatureVector)} {schema : String}
    (separate : SeparateVectors documents schema) {searches : Nat} (enough : documents.length < searches)
    (outbox : Outbox) {call : PullCall} (approved : isSha256 call.metadataHash = true) :
    ∃ after calls, pullFeatures python contracts documents schema searches outbox call = some after ∧
      Stocks python contracts schema outbox after
        ((vectorsAhead documents schema (outbox.getMeta (featureCursor schema))).take call.room) calls := by
  unfold PullCall.room
  by_cases accepted : (1 ≤ call.limit ∧ call.limit ≤ 100000) ∧
      1 ≤ min call.pageSize call.limit ∧ min call.pageSize call.limit ≤ 10000
  · let pull : Pull := {
      schema, metadataHash := call.metadataHash, limit := call.limit, pageSize := min call.pageSize call.limit
      last := outbox.getMeta (featureCursor schema) }
    have begun : beginPull outbox schema call.metadataHash call.limit call.pageSize = .ok pull := by
      simp only [beginPull, Check.bind_ok, Check.guard_ok, Check.pure_ok]
      exact ⟨(), accepted.1, (), accepted.2, rfl⟩
    obtain ⟨next, after, calls, took, done⟩ := pullPages_took python contracts call.clock searches
      (show SeparateVectors documents pull.schema from separate) approved accepted.2.1 outbox
        ((length_vectorsAhead documents schema _).trans_lt enough)
    rw [if_pos accepted]
    refine ⟨(finishPull next after).2, calls, ?_, took.vectors, ?_, ?_, ?_⟩
    · simp only [pullFeatures, begun, done, Option.map_some]
    · intro entry member
      rw [took.hashes entry member]
      exact approved
    · have jobs : (finishPull next after).2.jobs = after.jobs := by
        unfold finishPull
        cases next.last <;> rfl
      rw [jobs, took.outbox]
    · exact (getMeta_finishPull took rfl).trans took.last
  · have refused : ∃ message, beginPull outbox schema call.metadataHash call.limit call.pageSize = .error message := by
      cases result : beginPull outbox schema call.metadataHash call.limit call.pageSize with
      | error message => exact ⟨message, rfl⟩
      | ok pull =>
          simp only [beginPull, Check.bind_ok, Check.guard_ok] at result
          obtain ⟨_, first, _, second, _⟩ := result
          exact absurd ⟨first, second⟩ accepted
    obtain ⟨message, error⟩ := refused
    rw [if_neg accepted]
    exact ⟨outbox, [], by simp only [pullFeatures, error], rfl, by simp, rfl, rfl⟩

/-- The jobs after an enqueue depend on the jobs before it only. -/
theorem enqueueAll_jobs {first second : Outbox} (same : first.jobs = second.jobs) (calls : List Enqueue) :
    (enqueueAll python first calls).jobs = (enqueueAll python second calls).jobs := by
  induction calls generalizing first second with
  | nil => exact same
  | cons call rest ih =>
      suffices jobs : (enqueueOne python first call).jobs = (enqueueOne python second call).jobs from ih jobs
      unfold enqueueOne Outbox.enqueue
      dsimp only
      rw [same]
      by_cases approved : (!isSha256 call.metadataHash) = true
      · rw [if_pos approved, if_pos approved]
        exact same
      · rw [if_neg approved, if_neg approved]
        cases second.jobs.find? (jobId python call.metadataHash call.vector) with
        | some job => exact same
        | none => rfl

variable (python contracts) in
/-- A list of calls takes the vectors ahead of the first cursor up to the sum of the limits. -/
theorem pullAll_stocks {documents : List (Stored FeatureVector)} {schema : String}
    (separate : SeparateVectors documents schema) {searches : Nat} (enough : documents.length < searches)
    (outbox : Outbox) {calls : List PullCall} (approved : ∀ call ∈ calls, isSha256 call.metadataHash = true) :
    ∃ after enqueues, pullAll python contracts documents schema searches outbox calls = some after ∧
      Stocks python contracts schema outbox after
        ((vectorsAhead documents schema (outbox.getMeta (featureCursor schema))).take (calls.map PullCall.room).sum)
        enqueues := by
  induction calls generalizing outbox with
  | nil => exact ⟨outbox, [], rfl, rfl, by simp, rfl, rfl⟩
  | cons call rest ih =>
      obtain ⟨middle, first, step, head⟩ := pullFeatures_stocks python contracts separate
        enough outbox (approved call List.mem_cons_self)
      obtain ⟨after, more, done, tail⟩ := ih middle fun other member => approved other (List.mem_cons_of_mem _ member)
      have left := vectorsAhead_advance separate (outbox.getMeta (featureCursor schema)) call.room
      rw [head.cursor, left] at tail
      refine ⟨after, first ++ more, ?_, ?_⟩
      · simp only [pullAll, List.foldlM_cons, step]
        exact done
      · rw [List.map_cons, List.sum_cons, List.take_add]
        refine ⟨?_, ?_, ?_, ?_⟩
        · rw [List.map_append, head.vectors, tail.vectors, List.filter_append]
        · intro entry member
          exact (List.mem_append.mp member).elim (head.approved entry) (tail.approved entry)
        · rw [tail.jobs, enqueueAll_jobs head.jobs, enqueueAll, enqueueAll, enqueueAll, List.foldl_append]
        · have moved := tail.cursor
          rw [head.cursor] at moved
          rw [moved, advance_append]

end Pulls

section Complete

variable {δ κ : Type} [LinearOrder κ]

/-- A scan of documents that do not change yields all of them ahead of the cursor in order, and it raises exactly when
there are more than its limit. -/
def ScanComplete (key : δ → κ) (wanted : δ → Bool) (documents : List δ) (pageSize : Nat) (after : Option κ) : Prop :=
  ∃ found : List δ, (found.Pairwise fun first second => key first < key second) ∧
    (∀ document, document ∈ found ↔
      document ∈ documents ∧ wanted document = true ∧ Cursor.Beyond key after document) ∧
    ∀ searches > found.length,
      scan (searchStatic key wanted documents) pageSize none after searches = some (found.map (hitOf key), .ok ()) ∧
      ∀ limit, scan (searchStatic key wanted documents) pageSize (some limit) after searches =
        some ((found.take limit).map (hitOf key),
          if limit < found.length then .error (.limitExceeded limit) else .ok ())

/-- Any calls of `pull_features` over vectors that do not change take the vectors ahead of the cursor in order, up to
the sum of the limits. Each valid one of them is enqueued once and has one job, and the cursor is the tuple of the
last vector that was taken. -/
def PullsComplete (python : Python) (contracts : Contracts) (vectors : List (Stored FeatureVector)) (schema : String)
    (outbox : Outbox) (calls : List PullCall) : Prop :=
  ∃ found : List FeatureVector, (found.Pairwise fun first second => first.place < second.place) ∧
    (∀ vector, vector ∈ found ↔ ∃ document ∈ vectors, document.source = vector ∧ vector.featureSchema.text = schema ∧
      Cursor.Beyond FeatureVector.place (outbox.getMeta (featureCursor schema)) vector) ∧
    ∀ searches > vectors.length, ∃ after enqueues,
      pullAll python contracts vectors schema searches outbox calls = some after ∧
      Stocks python contracts schema outbox after (found.take (calls.map PullCall.room).sum) enqueues ∧
      ∀ call ∈ enqueues, after.jobs.keys.count (jobId python call.metadataHash call.vector) = 1

/-- A scan over separate documents is complete for every page size that the index allows. -/
theorem scanComplete {key : δ → κ} {wanted : δ → Bool} {documents : List δ}
    (separate : Cursor.Separate key wanted documents) {pageSize : Nat} (positive : 1 ≤ pageSize)
    (bounded : pageSize ≤ 10000) (after : Option κ) : ScanComplete key wanted documents pageSize after := by
  refine ⟨Cursor.ahead key wanted documents after, Cursor.ahead_strict separate after, fun _ => Cursor.mem_ahead, ?_⟩
  intro searches enough
  refine ⟨?_, fun limit => ?_⟩
  · rw [scan, if_pos ⟨positive, bounded⟩, scanPages_eq separate positive searches (by simp [UnderLimit]) after enough]
    rfl
  · rw [scan, if_pos ⟨positive, bounded⟩, scanPages_eq separate positive searches (by simp [UnderLimit]) after enough]
    simp only [letThrough, Nat.sub_zero, scanVerdict, Nat.zero_add, List.map_take]
    split <;> rfl

/-- Pulls over separate vectors are complete, in any sequence of schemas. -/
theorem pullsComplete {python : Python} {contracts : Contracts} {vectors : List (Stored FeatureVector)} {schema : String}
    (separate : SeparateVectors vectors schema) {outbox : Outbox} (distinct : outbox.jobs.keys.Nodup)
    {calls : List PullCall} (approved : ∀ call ∈ calls, isSha256 call.metadataHash = true) :
    PullsComplete python contracts vectors schema outbox calls := by
  refine ⟨vectorsAhead vectors schema (outbox.getMeta (featureCursor schema)), ?_, fun vector => ?_, ?_⟩
  · exact List.pairwise_map.mpr (Cursor.ahead_strict separate _)
  · unfold vectorsAhead
    rw [List.mem_map]
    constructor
    · rintro ⟨document, member, rfl⟩
      obtain ⟨listed, asked, beyond⟩ := Cursor.mem_ahead.mp member
      exact ⟨document, listed, rfl, of_decide_eq_true asked, (Cursor.beyond_source _ _ document).mp beyond⟩
    · rintro ⟨document, listed, rfl, asked, beyond⟩
      exact ⟨document, Cursor.mem_ahead.mpr ⟨listed, decide_eq_true asked,
        (Cursor.beyond_source _ _ document).mpr beyond⟩, rfl⟩
  · intro searches enough
    obtain ⟨after, enqueues, done, stocks⟩ := pullAll_stocks python contracts separate enough
      outbox approved
    refine ⟨after, enqueues, done, stocks, ?_⟩
    rw [stocks.jobs]
    exact count_enqueueAll distinct stocks.approved

/-- `fetch_window_events` gives the expanded events of the window, or reports that there are more than its limit. -/
theorem fetchWindowEvents_eq {key : Json → κ} {wanted : Json → Bool} {documents : List Json}
    (separate : Cursor.Separate key wanted documents) (maxEvents : Nat) {pageSize : Nat} (positive : 1 ≤ pageSize)
    (bounded : pageSize ≤ 10000) :
    ∃ found : List Json, (∀ document, document ∈ found ↔ document ∈ documents ∧ wanted document = true) ∧
      ∀ searches > found.length, fetchWindowEvents (searchStatic key wanted documents) maxEvents pageSize searches =
        some (match expandSources ((found.take maxEvents).map (hitOf key)) with
          | .error error => .error (.expand error)
          | .ok events => .ok (if maxEvents < found.length then .exceeded maxEvents else .events events)) := by
  obtain ⟨found, _, members, scans⟩ := scanComplete separate positive bounded none
  refine ⟨found, fun document => (members document).trans (by simp [Cursor.Beyond]), fun searches enough => ?_⟩
  rw [fetchWindowEvents, (scans searches enough).2 maxEvents, Option.map_some]
  dsimp only
  by_cases exceeding : maxEvents < found.length
  · rw [if_pos exceeding]
    cases expandSources ((found.take maxEvents).map (hitOf key)) with
    | error error => rfl
    | ok events => simp only [exceeding, if_true]
  · rw [if_neg exceeding]
    cases expandSources ((found.take maxEvents).map (hitOf key)) with
    | error error => rfl
    | ok events => simp only [exceeding, if_false]

/-- Paging with `search_after` is complete: a scan misses no document, and calls of `pull_features` miss no vector. -/
theorem paging_complete (key : δ → κ) (wanted : δ → Bool) (documents : List δ)
    (separate : Cursor.Separate key wanted documents) (pageSize : Nat) (positive : 1 ≤ pageSize)
    (bounded : pageSize ≤ 10000) (after : Option κ) (python : Python) (contracts : Contracts)
    (vectors : List (Stored FeatureVector)) (schema : String) (tuples : SeparateVectors vectors schema) (outbox : Outbox)
    (distinct : outbox.jobs.keys.Nodup) (calls : List PullCall)
    (approved : ∀ call ∈ calls, isSha256 call.metadataHash = true) :
    ScanComplete key wanted documents pageSize after ∧ PullsComplete python contracts vectors schema outbox calls :=
  ⟨scanComplete separate positive bounded after, pullsComplete tuples distinct approved⟩

/-- The vectors of the lab as they are stored. -/
def storedVector (second : Bool) : Stored FeatureVector :=
  ⟨"soc-features-2026.01.01", (labVector second).vectorId, labVector second⟩

/-- Three numbers are scanned with pages of two, and two valid vectors are pulled by calls of one. -/
theorem paging_of_three :
    ScanComplete (fun number : Nat => number) (fun _ => true) [3, 1, 2] 2 (some 1) ∧
      PullsComplete labPython labContracts [storedVector true, storedVector false] "network-window-v1" {}
        [⟨labHash, 1, 500, fun _ => 0⟩, ⟨labHash, 1, 500, fun _ => 0⟩] ∧
      ∀ second, validateVector labContracts (storedVector second).source = .ok () := by
  have paged := paging_complete (fun number : Nat => number) (fun _ => true) [3, 1, 2]
    (by unfold Cursor.Separate; decide) 2 (by decide) (by decide) (some 1) labPython labContracts
    [storedVector true, storedVector false] "network-window-v1" (by unfold SeparateVectors Cursor.Separate; decide) {}
    (by decide) [⟨labHash, 1, 500, fun _ => 0⟩, ⟨labHash, 1, 500, fun _ => 0⟩] (by decide)
  exact ⟨paged.1, paged.2, labVector_valid⟩

end Complete

end ClosedLoop.Workers
