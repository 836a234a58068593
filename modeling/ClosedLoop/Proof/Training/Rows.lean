import ClosedLoop.Proof.Training.Grouping
import ClosedLoop.Proof.Workers.Builders

namespace ClosedLoop.Training

open ClosedLoop.Library ClosedLoop.Response ClosedLoop.Workers

section Entities

variable {schema : FeatureSchema} {event : Json} {entity : String}

/-- The builder of the dataset reads the entity of an event as the feature calculation does. -/
theorem eventEntity_eq_some : eventEntity schema event = some entity ↔ entityText schema event = entity ∧ entity ≠ "" := by
  have same : eventEntity schema event =
      if entityText schema event = "" then none else some (entityText schema event) := by
    cases schema <;> rfl
  rw [same]
  split
  · rename_i empty
    rw [empty]
    simp only [reduceCtorEq, false_iff, not_and, not_not]
    exact Eq.symm
  · rename_i filled
    rw [Option.some.injEq]
    constructor
    · rintro rfl
      exact ⟨rfl, filled⟩
    · exact And.left

variable {python : Python} {contracts : Contracts} {values : PythonValues} {baseline : Option (List String)}
  {gitSha : String} {events : List Json} {start : Int} {vectors : List FeatureVector}

variable (python contracts values baseline gitSha schema) in
/-- The feature calculation of a window is one of the builders. -/
theorem build_eq_buildWith : ∃ features, ∀ events start,
    Workers.build python contracts (featureEngine python values baseline) gitSha schema events start =
      buildWith python contracts features schema events start (start + fiveMinutes) gitSha none := by
  refine ⟨featuresOf python values (baseline.map fun names => (names.filter (· ≠ "")).map python.lower) schema, ?_⟩
  intro events start
  have bounds : windowBounds start (start + fiveMinutes) = .ok () := by
    simp only [windowBounds, Check.bind_ok, Check.guard_ok, exists_const]
    unfold fiveMinutes
    omega
  rw [buildWith, bounds]
  rfl

/-- The entities of the vectors of a window. -/
theorem build_entities
    (ok : Workers.build python contracts (featureEngine python values baseline) gitSha schema events start = .ok vectors) :
    entity ∈ vectors.map (·.entity) ↔ ∃ event ∈ events, InWindow python start (start + fiveMinutes) event ∧
      entityText schema event = entity ∧ entity ≠ "" := by
  obtain ⟨features, same⟩ := build_eq_buildWith schema python contracts values baseline gitSha
  rw [same] at ok
  exact buildWith_entities ok

/-- The vectors of a window. -/
theorem build_vector
    (ok : Workers.build python contracts (featureEngine python values baseline) gitSha schema events start = .ok vectors) :
    (vectors.map (·.entity)).Nodup ∧ ∀ vector ∈ vectors,
      vector.featureSchema = schema ∧ vector.windowStart = start ∧ vector.windowEnd = start + fiveMinutes := by
  obtain ⟨features, same⟩ := build_eq_buildWith schema python contracts values baseline gitSha
  rw [same] at ok
  refine ⟨(buildWith_counts ok).1, fun vector member => ?_⟩
  obtain ⟨_, groups, _, schemaHash, _, rfl⟩ := buildWith_ok.mp ok
  obtain ⟨group, _, rfl⟩ := List.mem_map.mp member
  exact ⟨rfl, rfl, rfl⟩

end Entities

section Windows

variable (python : Python)

/-- An event that the builder puts into a window. -/
def placedIn (first last start : Int) (event : Json) : Bool :=
  match eventTime python event with
  | .ok time => first ≤ time ∧ time < last ∧ floorWindow time = start
  | .error _ => false

variable {python} {first last : Int} {events : List Json} {windows : Table Int (List Json)}

/-- An event goes to the window of its time, or nowhere outside the bounds. -/
theorem datasetEvent_push {windows next : Table Int (List Json)} {event : Json}
    (ok : datasetEvent python first last windows event = .ok next) : ∃ time, eventTime python event = .ok time ∧
      next = if first ≤ time ∧ time < last then windows.push (floorWindow time) event else windows := by
  rw [datasetEvent, Check.bind_ok] at ok
  obtain ⟨time, parsed, ok⟩ := ok
  refine ⟨time, parsed, ?_⟩
  split at ok <;> rename_i inside
  · rw [if_pos inside, Check.pure_ok.mp ok]
  · rw [if_neg inside, Check.pure_ok.mp ok]

/-- Each window has the events that are placed in it. -/
theorem datasetWindows_placed (ok : datasetWindows python first last events = .ok windows) (start : Int) :
    windows.keys.Nodup ∧ (windows.find? start).getD [] = events.filter (placedIn python first last start) := by
  unfold datasetWindows at ok
  induction events using List.reverseRecOn generalizing windows with
  | nil =>
      cases ok
      exact ⟨by simp [Table.keys], rfl⟩
  | append_singleton front event ih =>
      rw [List.foldlM_append, Check.bind_ok] at ok
      obtain ⟨before, passed, turn⟩ := ok
      rw [List.foldlM_cons, Check.bind_ok] at turn
      obtain ⟨after, turn, same⟩ := turn
      cases same
      obtain ⟨distinct, placed⟩ := ih passed
      obtain ⟨time, parsed, rfl⟩ := datasetEvent_push turn
      rw [List.filter_append, ← placed]
      split <;> rename_i inside
      · refine ⟨Table.nodup_keys_push distinct _ _, ?_⟩
        rw [Table.push, Table.find?_upsert]
        by_cases same : start = floorWindow time
        · have here : placedIn python first last start event = true := by
            simp [placedIn, parsed, inside, same]
          rw [if_pos same, List.filter_cons_of_pos here, List.filter_nil, same]
          rfl
        · have other : ¬ placedIn python first last start event = true := by
            simp [placedIn, parsed, Ne.symm same]
          rw [if_neg same, List.filter_cons_of_neg other, List.filter_nil, List.append_nil]
      · refine ⟨distinct, ?_⟩
        have other : ¬ placedIn python first last start event = true := by
          simp only [placedIn, parsed, decide_eq_true_eq]
          exact fun placed => inside ⟨placed.1, placed.2.1⟩
        rw [List.filter_cons_of_neg other, List.filter_nil, List.append_nil]

/-- The windows are the placed events. -/
theorem mem_datasetWindows (ok : datasetWindows python first last events = .ok windows) {window : Int × List Json}
    (member : window ∈ windows) : window.2 = events.filter (placedIn python first last window.1) := by
  obtain ⟨distinct, placed⟩ := datasetWindows_placed ok window.1
  rw [Table.find?_of_mem distinct member] at placed
  exact placed

/-- An event inside the bounds has its window. -/
theorem exists_datasetWindow (ok : datasetWindows python first last events = .ok windows) {event : Json} {start : Int}
    (member : event ∈ events) (inside : placedIn python first last start event = true) :
    (start, events.filter (placedIn python first last start)) ∈ windows := by
  obtain ⟨_, placed⟩ := datasetWindows_placed ok start
  have filtered : event ∈ events.filter (placedIn python first last start) := List.mem_filter.mpr ⟨member, inside⟩
  cases found : windows.find? start with
  | none =>
      rw [found] at placed
      rw [← placed] at filtered
      cases filtered
  | some window =>
      rw [found] at placed
      rw [← placed]
      exact Table.mem_of_find? found

end Windows

section Rows

variable (python : Python) (contracts : Contracts) (engine : FeatureEngine) (gitSha : String) (boundaries : List Int)
  (scenarios : List Scenario) (schema : FeatureSchema)

/-- The scenario that overlaps the window of a vector. -/
def vectorScenario (vector : FeatureVector) : Option Scenario :=
  attackScenario scenarios vector.entity vector.windowStart vector.windowEnd

/-- The label of a row. -/
def labelOf (row : Row) : Label := ⟨vectorHash python row.vector, vectorScenario scenarios row.vector⟩

/-- The row of a vector that is kept. -/
def vectorRows (window : Int × List Json) (vector : FeatureVector) : List Row :=
  match partitionOf boundaries window.1, memberOf python scenarios schema window.2 vector with
  | some name, .ok member =>
      if name = .train ∧ (vectorScenario scenarios vector).isSome = true then [] else [⟨name, vector, member⟩]
  | _, _ => []

/-- The rows of a window. -/
def windowRows (window : Int × List Json) : List Row :=
  match Workers.build python contracts engine gitSha schema window.2 window.1 with
  | .ok vectors => vectors.flatMap (vectorRows python boundaries scenarios schema window)
  | .error _ => []

variable {python contracts engine gitSha boundaries scenarios schema} {progress next : Progress}

/-- A turn keeps a vector with its membership, or it drops an attack from the training partition. -/
theorem addVector_ok {window : Int × List Json} {vector : FeatureVector}
    (ok : addVector python contracts boundaries scenarios schema window.1 window.2 progress vector = .ok next) :
    ∃ name, partitionOf boundaries window.1 = some name ∧
      ((name = .train ∧ (vectorScenario scenarios vector).isSome = true ∧ next.rows = progress.rows ∧
          next.labels = progress.labels) ∨
        ¬ (name = .train ∧ (vectorScenario scenarios vector).isSome = true) ∧
          ∃ member, memberOf python scenarios schema window.2 vector = .ok member ∧
            next.rows = progress.rows ++ [⟨name, vector, member⟩] ∧
            next.labels = progress.labels ++ [labelOf python scenarios ⟨name, vector, member⟩]) := by
  rw [addVector, Check.bind_ok] at ok
  obtain ⟨_, _, ok⟩ := ok
  split at ok
  · cases ok
  · rename_i name placed
    refine ⟨name, placed, ?_⟩
    dsimp only at ok
    split at ok
    · rename_i dropped
      have same := Check.pure_ok.mp ok
      subst same
      exact Or.inl ⟨dropped.1, dropped.2, rfl, rfl⟩
    · rename_i kept
      rw [Check.bind_ok] at ok
      obtain ⟨member, made, ok⟩ := ok
      have same := Check.pure_ok.mp ok
      subst same
      exact Or.inr ⟨kept, member, made, rfl, rfl⟩

/-- A turn adds the row of its vector and the label of this row. -/
theorem addVector_rows {window : Int × List Json} {vector : FeatureVector}
    (ok : addVector python contracts boundaries scenarios schema window.1 window.2 progress vector = .ok next) :
    next.rows = progress.rows ++ vectorRows python boundaries scenarios schema window vector ∧
      next.labels = progress.labels ++
        (vectorRows python boundaries scenarios schema window vector).map (labelOf python scenarios) := by
  obtain ⟨name, placed, ⟨train, attack, rows, labels⟩ | ⟨kept, member, made, rows, labels⟩⟩ := addVector_ok ok
  · have none : vectorRows python boundaries scenarios schema window vector = [] := by
      unfold vectorRows
      split
      · rename_i same _
        rw [placed] at same
        cases same
        exact if_pos ⟨train, attack⟩
      · rfl
    rw [none]
    exact ⟨by rw [rows, List.append_nil], by rw [labels, List.map_nil, List.append_nil]⟩
  · have one : vectorRows python boundaries scenarios schema window vector = [⟨name, vector, member⟩] := by
      simp only [vectorRows, placed, made]
      exact if_neg kept
    rw [one]
    exact ⟨rows, labels⟩

/-- A window adds its own rows and their labels. -/
theorem addWindow_rows {window : Int × List Json}
    (ok : addWindow python contracts engine gitSha boundaries scenarios schema progress window = .ok next) :
    next.rows = progress.rows ++ windowRows python contracts engine gitSha boundaries scenarios schema window ∧
      next.labels = progress.labels ++
        (windowRows python contracts engine gitSha boundaries scenarios schema window).map (labelOf python scenarios) := by
  rw [addWindow, Check.bind_ok] at ok
  obtain ⟨vectors, built, ok⟩ := ok
  rw [windowRows, Check.mapError_ok.mp built]
  dsimp only
  refine ⟨?_, ?_⟩
  · refine Check.foldlM_appends (fun state vector after turn => ?_) ok
    exact (addVector_rows turn).1
  · rw [List.map_flatMap]
    refine Check.foldlM_appends (fun state vector after turn => ?_) ok
    exact (addVector_rows turn).2

/-- The windows of a dataset, in their order. -/
structure Built (python : Python) (contracts : Contracts) (engine : FeatureEngine) (gitSha : String)
    (boundaries : List Int) (scenarios : List Scenario) (schema : FeatureSchema) (events : List Json)
    (result : Progress) (windows : Table Int (List Json)) : Prop where
  bounds : boundaries.length = 4 ∧ boundaries.all aligned = true ∧ boundaries = boundaries.dedup.insertionSort (· ≤ ·)
  grouped : datasetWindows python (boundaries.headD 0) (boundaries.getLastD 0) events = .ok windows
  loop : (windows.insertionSort fun first second => first.1 ≤ second.1).foldlM
    (addWindow python contracts engine gitSha boundaries scenarios schema) {} = .ok result
  filled : ∀ name, result.vectors name ≠ []

/-- A dataset that was built has its windows. -/
theorem built_of_ok {events : List Json} {result : Progress}
    (ok : buildDataset python contracts engine gitSha events scenarios schema boundaries = .ok result) :
    ∃ windows, Built python contracts engine gitSha boundaries scenarios schema events result windows := by
  simp only [buildDataset, Check.bind_ok, Check.guard_ok, Check.forM_ok, Check.pure_ok, exists_const] at ok
  obtain ⟨bounds, ordered, windows, grouped, last, loop, _, filled, _, rfl⟩ := ok
  refine ⟨windows, ⟨bounds.1, bounds.2, ordered⟩, grouped, loop, fun name => filled name ?_⟩
  cases name <;> simp [partitionNames]

variable {events : List Json} {result : Progress} {windows : Table Int (List Json)}

/-- Its rows are those of the windows in order, and every row has its label. -/
theorem Built.rows_eq (built : Built python contracts engine gitSha boundaries scenarios schema events result windows) :
    result.rows = (windows.insertionSort fun first second => first.1 ≤ second.1).flatMap
        (windowRows python contracts engine gitSha boundaries scenarios schema) ∧
      result.labels = result.rows.map (labelOf python scenarios) := by
  have rows : result.rows = ([] : List Row) ++ (windows.insertionSort fun first second => first.1 ≤ second.1).flatMap
      (windowRows python contracts engine gitSha boundaries scenarios schema) := by
    refine Check.foldlM_appends (fun state window after turn => ?_) built.loop
    exact (addWindow_rows turn).1
  have labels : result.labels = ([] : List Label) ++ (windows.insertionSort fun first second => first.1 ≤ second.1).flatMap
      fun window => (windowRows python contracts engine gitSha boundaries scenarios schema window).map
        (labelOf python scenarios) := by
    refine Check.foldlM_appends (fun state window after turn => ?_) built.loop
    exact (addWindow_rows turn).2
  rw [List.nil_append] at rows labels
  exact ⟨rows, by rw [labels, rows, List.map_flatMap]⟩

/-- A row is the row of a vector of a window. -/
theorem mem_vectorRows {window : Int × List Json} {vector : FeatureVector} {row : Row} :
    row ∈ vectorRows python boundaries scenarios schema window vector ↔ row.vector = vector ∧
      partitionOf boundaries window.1 = some row.partition ∧
      ¬ (row.partition = .train ∧ (vectorScenario scenarios vector).isSome = true) ∧
      memberOf python scenarios schema window.2 vector = .ok row.member := by
  unfold vectorRows
  split
  · rename_i name member placed made
    rw [placed, made, Option.some.injEq, Except.ok.injEq]
    split
    · rename_i dropped
      simp only [List.not_mem_nil, false_iff]
      rintro ⟨_, rfl, kept, _⟩
      exact kept dropped
    · rename_i kept
      rw [List.mem_singleton]
      constructor
      · rintro rfl
        exact ⟨rfl, rfl, kept, rfl⟩
      · rintro ⟨rfl, rfl, _, rfl⟩
        rfl
  · rename_i missing
    simp only [List.not_mem_nil, false_iff]
    rintro ⟨_, placed, _, made⟩
    exact missing _ _ placed made

/-- The rows are the rows of the vectors of the windows. -/
theorem Built.mem_rows (built : Built python contracts engine gitSha boundaries scenarios schema events result windows)
    {row : Row} : row ∈ result.rows ↔ ∃ window ∈ windows, ∃ vectors,
      Workers.build python contracts engine gitSha schema window.2 window.1 = .ok vectors ∧ row.vector ∈ vectors ∧
      partitionOf boundaries window.1 = some row.partition ∧
      ¬ (row.partition = .train ∧ (vectorScenario scenarios row.vector).isSome = true) ∧
      memberOf python scenarios schema window.2 row.vector = .ok row.member := by
  rw [built.rows_eq.1, List.mem_flatMap]
  constructor
  · rintro ⟨window, sorted, inside⟩
    refine ⟨window, (List.mem_insertionSort _).mp sorted, ?_⟩
    unfold windowRows at inside
    split at inside
    · rename_i vectors known
      obtain ⟨vector, listed, fits⟩ := List.mem_flatMap.mp inside
      obtain ⟨rfl, placed, kept, made⟩ := mem_vectorRows.mp fits
      exact ⟨vectors, known, listed, placed, kept, made⟩
    · cases inside
  · rintro ⟨window, member, vectors, known, listed, placed, kept, made⟩
    refine ⟨window, (List.mem_insertionSort _).mpr member, ?_⟩
    rw [windowRows, known]
    exact List.mem_flatMap.mpr ⟨row.vector, listed, mem_vectorRows.mpr ⟨rfl, placed, kept, made⟩⟩

/-- Every vector of a window is dropped from the training partition or has a row. -/
theorem Built.has_row (built : Built python contracts engine gitSha boundaries scenarios schema events result windows)
    {window : Int × List Json} (member : window ∈ windows) : ∃ vectors,
      Workers.build python contracts engine gitSha schema window.2 window.1 = .ok vectors ∧ ∀ vector ∈ vectors,
        ∃ name, partitionOf boundaries window.1 = some name ∧
          ((name = .train ∧ (vectorScenario scenarios vector).isSome = true) ∨
            ∃ row ∈ result.rows, row.partition = name ∧ row.vector = vector ∧
              memberOf python scenarios schema window.2 vector = .ok row.member) := by
  obtain ⟨before, after, turn⟩ := Check.foldlM_each built.loop window ((List.mem_insertionSort _).mpr member)
  rw [addWindow, Check.bind_ok] at turn
  obtain ⟨vectors, known, turn⟩ := turn
  have known : Workers.build python contracts engine gitSha schema window.2 window.1 = .ok vectors :=
    Check.mapError_ok.mp known
  refine ⟨vectors, known, fun vector listed => ?_⟩
  obtain ⟨state, next, one⟩ := Check.foldlM_each turn vector listed
  obtain ⟨name, placed, ⟨train, attack, _⟩ | ⟨kept, own, made, _⟩⟩ := addVector_ok one
  · exact ⟨name, placed, Or.inl ⟨train, attack⟩⟩
  · refine ⟨name, placed, Or.inr ⟨⟨name, vector, own⟩, ?_, rfl, rfl, made⟩⟩
    exact built.mem_rows.mpr ⟨window, member, vectors, known, listed, placed, kept, made⟩

end Rows

section Members

variable {python : Python} {scenarios : List Scenario} {schema : FeatureSchema} {events : List Json}
  {vector : FeatureVector} {member : Member}

/-- The membership of a vector. -/
theorem memberOf_ok (ok : memberOf python scenarios schema events vector = .ok member) :
    member.vectorSha256 = vectorHash python vector ∧
      member.sourceEventIds = sortNames ((events.filter fun event => eventEntity schema event = some vector.entity).map
        idText) ∧
      python.sha256Hex (String.intercalate "\n" member.sourceEventIds) = vector.sourceEventSetSha256 ∧
      ∃ sessions, (events.filter fun event => eventEntity schema event = some vector.entity).mapM
          (session python scenarios vector.entity) = .ok sessions ∧ member.sessionIds = sortNames sessions.dedup := by
  simp only [memberOf, Check.bind_ok, Check.guard_ok, Check.pure_ok, exists_const] at ok
  obtain ⟨digest, sessions, read, rfl⟩ := ok
  exact ⟨rfl, rfl, digest, sessions, read, rfl⟩

/-- Sorting loses no name and adds none. -/
theorem mem_sortNames {names : List String} {name : String} : name ∈ sortNames names ↔ name ∈ names :=
  List.mem_insertionSort _

/-- The source events of a member are those of its entity in the window. -/
theorem mem_sourceEventIds (ok : memberOf python scenarios schema events vector = .ok member) {identifier : String} :
    identifier ∈ member.sourceEventIds ↔
      ∃ event ∈ events, eventEntity schema event = some vector.entity ∧ idText event = identifier := by
  rw [(memberOf_ok ok).2.1, mem_sortNames, List.mem_map]
  simp only [List.mem_filter, decide_eq_true_eq, and_assoc]

/-- Its sessions are those of the same events. -/
theorem mem_sessionIds (ok : memberOf python scenarios schema events vector = .ok member) {sessionId : String} :
    sessionId ∈ member.sessionIds ↔ ∃ event ∈ events, eventEntity schema event = some vector.entity ∧
      session python scenarios vector.entity event = .ok sessionId := by
  obtain ⟨_, _, _, sessions, read, ids⟩ := memberOf_ok ok
  have each := Check.mapM_ok.mp read
  rw [ids, mem_sortNames, List.mem_dedup]
  constructor
  · intro listed
    obtain ⟨event, own, made⟩ := Check.exists_of_mem each listed
    obtain ⟨there, named⟩ := List.mem_filter.mp own
    exact ⟨event, there, of_decide_eq_true named, made⟩
  · rintro ⟨event, there, named, made⟩
    have own : event ∈ events.filter fun event => eventEntity schema event = some vector.entity :=
      List.mem_filter.mpr ⟨there, decide_eq_true named⟩
    obtain ⟨other, listed, found⟩ := Check.exists_of_mem each.flip own
    have same : sessionId = other := Except.ok.inj (made.symm.trans found)
    exact same ▸ listed

end Members

section Coverage

variable {python : Python} {contracts : Contracts} {values : PythonValues} {baseline : Option (List String)}
  {gitSha : String} {boundaries : List Int} {scenarios : List Scenario} {schema : FeatureSchema} {events : List Json}
  {result : Progress} {windows : Table Int (List Json)}

variable (python boundaries events) in
/-- The events of a window of the dataset. -/
def windowEvents (start : Int) : List Json :=
  events.filter (placedIn python (boundaries.headD 0) (boundaries.getLastD 0) start)

/-- A window holds the events of its five minutes inside the bounds. -/
theorem mem_windowEvents {start : Int} {event : Json} : event ∈ windowEvents python boundaries events start ↔
    event ∈ events ∧ ∃ time, eventTime python event = .ok time ∧ boundaries.headD 0 ≤ time ∧
      time < boundaries.getLastD 0 ∧ floorWindow time = start := by
  rw [windowEvents, List.mem_filter]
  refine and_congr_right fun _ => ?_
  unfold placedIn
  cases eventTime python event with
  | error _ => simp
  | ok time => simp

/-- Every event with an entity has a vector in its window, which is dropped from the training partition or has a row. -/
theorem Built.covers
    (built : Built python contracts (featureEngine python values baseline) gitSha boundaries scenarios schema events result
      windows) {event : Json} {start : Int} {entity : String}
    (member : event ∈ windowEvents python boundaries events start) (named : eventEntity schema event = some entity) :
    ∃ vector name, vector.entity = entity ∧ vector.windowStart = start ∧ vector.windowEnd = start + fiveMinutes ∧
      partitionOf boundaries start = some name ∧ ((name = .train ∧ (vectorScenario scenarios vector).isSome = true) ∨
        ∃ row ∈ result.rows, row.partition = name ∧ row.vector = vector ∧
          memberOf python scenarios schema (windowEvents python boundaries events start) vector = .ok row.member) := by
  obtain ⟨there, time, parsed, after, before, floors⟩ := mem_windowEvents.mp member
  have placed : placedIn python (boundaries.headD 0) (boundaries.getLastD 0) start event = true := by
    simp only [placedIn, parsed, decide_eq_true_eq]
    exact ⟨after, before, floors⟩
  have listed := exists_datasetWindow built.grouped there placed
  obtain ⟨vectors, known, rows⟩ := built.has_row listed
  obtain ⟨moment, normalized⟩ := normalized_of_build known event member
  have same : moment = time := by
    have read := eventTime_normalized normalized
    rw [parsed] at read
    exact (Except.ok.inj read).symm
  subst same
  obtain ⟨text, filled⟩ := eventEntity_eq_some.mp named
  have whole : start % fiveMinutes = 0 := floors ▸ floorWindow_aligned moment
  have within : InWindow python start (start + fiveMinutes) event :=
    ⟨moment, normalized.timestamp, (inside_iff_floorWindow whole).mpr floors⟩
  obtain ⟨vector, inVectors, same⟩ := List.mem_map.mp ((build_entities known).mpr ⟨event, member, within, text, filled⟩)
  obtain ⟨_, opens, closes⟩ := (build_vector known).2 vector inVectors
  obtain ⟨name, placed, kept⟩ := rows vector inVectors
  exact ⟨vector, name, same, opens, closes, placed, kept⟩

/-- The window of a row. -/
theorem Built.row_window
    (built : Built python contracts (featureEngine python values baseline) gitSha boundaries scenarios schema events result
      windows) {row : Row} (member : row ∈ result.rows) :
    row.vector.featureSchema = schema ∧ row.vector.windowEnd = row.vector.windowStart + fiveMinutes ∧
      partitionOf boundaries row.vector.windowStart = some row.partition ∧
      ¬ (row.partition = .train ∧ (vectorScenario scenarios row.vector).isSome = true) ∧
      memberOf python scenarios schema (windowEvents python boundaries events row.vector.windowStart) row.vector =
        .ok row.member := by
  obtain ⟨window, listed, vectors, known, inVectors, placed, kept, made⟩ := built.mem_rows.mp member
  obtain ⟨named, opens, closes⟩ := (build_vector known).2 row.vector inVectors
  rw [mem_datasetWindows built.grouped listed, ← opens] at made
  exact ⟨named, by rw [closes, opens], by rw [opens, placed], kept, made⟩

/-- The vector of a row has passed its contract. -/
theorem Built.validated {engine : FeatureEngine}
    (built : Built python contracts engine gitSha boundaries scenarios schema events result windows) {row : Row}
    (member : row ∈ result.rows) : validateVector contracts row.vector = .ok () := by
  obtain ⟨window, listed, vectors, known, inVectors, _⟩ := built.mem_rows.mp member
  obtain ⟨before, after, turn⟩ := Check.foldlM_each built.loop window ((List.mem_insertionSort _).mpr listed)
  rw [addWindow, Check.bind_ok] at turn
  obtain ⟨others, known', turn⟩ := turn
  have same : vectors = others := Except.ok.inj (known.symm.trans (Check.mapError_ok.mp known'))
  obtain ⟨state, next, one⟩ := Check.foldlM_each turn row.vector (same ▸ inVectors)
  rw [addVector, Check.bind_ok] at one
  obtain ⟨_, passes, _⟩ := one
  exact Check.mapError_ok.mp passes

/-- The rows of a window have the entities of its vectors. -/
theorem vectorRows_entities (window : Int × List Json) (vectors : List FeatureVector) :
    ((vectors.flatMap (vectorRows python boundaries scenarios schema window)).map (·.vector.entity)).Sublist
      (vectors.map (·.entity)) := by
  induction vectors with
  | nil => simp
  | cons vector rest ih =>
      rw [List.flatMap_cons, List.map_append, List.map_cons]
      cases rows : vectorRows python boundaries scenarios schema window vector with
      | nil => exact ih.cons vector.entity
      | cons row others =>
          have own := (mem_vectorRows.mp (rows ▸ List.mem_cons_self)).1
          have alone : others = [] := by
            unfold vectorRows at rows
            split at rows
            · split at rows
              · cases rows
              · cases rows
                rfl
            · cases rows
          rw [alone, List.map_singleton, own]
          exact ih.cons_cons vector.entity

/-- No two rows have the same entity and window. -/
theorem Built.keys_nodup
    (built : Built python contracts (featureEngine python values baseline) gitSha boundaries scenarios schema events result
      windows) :
    (result.rows.map fun row => (row.vector.entity, row.vector.windowStart, row.vector.windowEnd)).Nodup := by
  have opens : ∀ window : Int × List Json, ∀ row ∈ windowRows python contracts (featureEngine python values baseline) gitSha
      boundaries scenarios schema window, row.vector.windowStart = window.1 := by
    intro window row member
    unfold windowRows at member
    split at member
    · rename_i vectors known
      obtain ⟨vector, listed, fits⟩ := List.mem_flatMap.mp member
      obtain ⟨rfl, _⟩ := mem_vectorRows.mp fits
      exact ((build_vector known).2 row.vector listed).2.1
    · cases member
  have distinct := ((List.perm_insertionSort (fun first second : Int × List Json => first.1 ≤ second.1) windows).map
    Prod.fst).nodup_iff.mpr (datasetWindows_placed built.grouped 0).1
  rw [built.rows_eq.1, List.map_flatMap, List.nodup_flatMap]
  refine ⟨fun window _ => ?_, ?_⟩
  · refine List.Nodup.of_map (fun key => key.1) ?_
    rw [List.map_map]
    unfold windowRows
    split
    · rename_i vectors known
      exact (vectorRows_entities window vectors).nodup (build_vector known).1
    · exact List.nodup_nil
  · refine (List.pairwise_map.mp distinct).imp fun {first second} different key here there => ?_
    obtain ⟨row, inFirst, rfl⟩ := List.mem_map.mp here
    obtain ⟨other, inSecond, same⟩ := List.mem_map.mp there
    simp only [Prod.mk.injEq] at same
    exact different (by rw [← opens first row inFirst, ← opens second other inSecond, same.2.1])

/-- The row of a vector has an event, and all its events have ids. -/
theorem Built.row_filled
    (built : Built python contracts (featureEngine python values baseline) gitSha boundaries scenarios schema events result
      windows) {row : Row} (member : row ∈ result.rows) :
    (∃ event ∈ windowEvents python boundaries events row.vector.windowStart,
      eventEntity schema event = some row.vector.entity) ∧
    ∀ event ∈ windowEvents python boundaries events row.vector.windowStart, idText event ≠ "" := by
  obtain ⟨window, listed, vectors, known, inVectors, _⟩ := built.mem_rows.mp member
  obtain ⟨_, opens, _⟩ := (build_vector known).2 row.vector inVectors
  have content : windowEvents python boundaries events row.vector.windowStart = window.2 := by
    rw [mem_datasetWindows built.grouped listed, opens]
    rfl
  rw [content]
  refine ⟨?_, fun event there => ?_⟩
  · obtain ⟨event, there, _, text, filled⟩ := (build_entities known).mp (List.mem_map_of_mem inVectors)
    exact ⟨event, there, eventEntity_eq_some.mpr ⟨text, filled⟩⟩
  · obtain ⟨moment, normalized⟩ := normalized_of_build known event there
    have placed := there
    rw [← content, mem_windowEvents] at placed
    obtain ⟨_, time, parsed, _, _, floors⟩ := placed
    have same : moment = time := Except.ok.inj ((eventTime_normalized normalized).symm.trans parsed)
    subst same
    rw [opens] at floors
    have whole : window.1 % fiveMinutes = 0 := floors ▸ floorWindow_aligned moment
    have within : InWindow python window.1 (window.1 + fiveMinutes) event :=
      ⟨moment, normalized.timestamp, (inside_iff_floorWindow whole).mpr floors⟩
    obtain ⟨features, calls⟩ := build_eq_buildWith schema python contracts values baseline gitSha
    rw [calls] at known
    obtain ⟨identifier, read⟩ := (buildWith_selectable known).named event there within
    rw [(eventId_ok.mp read).1]
    exact (eventId_ok.mp read).2

end Coverage

end ClosedLoop.Training
