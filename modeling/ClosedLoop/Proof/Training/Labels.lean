import ClosedLoop.Proof.Training.Rows

namespace ClosedLoop.Training

open ClosedLoop.Library ClosedLoop.Response ClosedLoop.Workers

section Scenarios

variable {scenarios : List Scenario} {entity : String}

/-- Every scenario that is loaded ends after it starts. -/
theorem loadScenarios_ordered {python : Python} {values : PythonValues} {payload : Json}
    (ok : loadScenarios python values payload = .ok scenarios) : ∀ scenario ∈ scenarios, scenario.start < scenario.stop := by
  simp only [loadScenarios, Check.bind_ok] at ok
  obtain ⟨_, _, items, -, ok⟩ := ok
  have keeps : ∀ loaded item next, (∀ scenario ∈ loaded, scenario.start < scenario.stop) →
      loadScenario python values loaded item = .ok next → ∀ scenario ∈ next, scenario.start < scenario.stop := by
    intro loaded item next fine turn
    unfold loadScenario at turn
    split at turn
    · simp only [Check.bind_ok, Check.guard_ok, Check.pure_ok, exists_const] at turn
      obtain ⟨-, id, -, -, opens, -, start, -, closes, -, stop, -, ordered, rfl⟩ := turn
      intro scenario member
      rcases List.mem_append.mp member with old | new
      · exact fine scenario old
      · rw [List.mem_singleton.mp new]
        exact ordered
    all_goals cases turn
  exact Check.foldlM_keeps keeps (by simp) ok

/-- There is no earliest scenario of none. -/
theorem earliest_eq_none {hits : List Scenario} : earliest hits = none ↔ hits = [] := by
  cases hits with
  | nil => simp [earliest]
  | cons scenario rest =>
      simp only [earliest, reduceCtorEq, iff_false]
      split
      · simp
      · split <;> simp

/-- The earliest scenario is one of them. -/
theorem earliest_mem {hits : List Scenario} {scenario : Scenario} (found : earliest hits = some scenario) :
    scenario ∈ hits := by
  induction hits with
  | nil => cases found
  | cons head rest ih =>
      unfold earliest at found
      split at found
      · cases found
        exact List.mem_cons_self
      · rename_i other later
        split at found
        · cases found
          exact List.mem_cons_of_mem _ (ih later)
        · cases found
          exact List.mem_cons_self

/-- A scenario of the entity overlaps the window. -/
def Overlaps (entity : String) (start stop : Int) (scenario : Scenario) : Prop :=
  scenario.entity = entity ∧ start < scenario.stop ∧ scenario.start < stop

/-- A window has an attack when a scenario of its entity overlaps it. -/
theorem attackScenario_isSome {start stop : Int} : (attackScenario scenarios entity start stop).isSome = true ↔
    ∃ scenario ∈ scenarios, Overlaps entity start stop scenario := by
  constructor
  · intro found
    obtain ⟨scenario, known⟩ := Option.isSome_iff_exists.mp found
    obtain ⟨member, fits⟩ := List.mem_filter.mp (earliest_mem known)
    rw [decide_eq_true_eq] at fits
    exact ⟨scenario, member, fits⟩
  · rintro ⟨scenario, member, fits⟩
    rw [Option.isSome_iff_ne_none]
    intro missing
    have empty := earliest_eq_none.mp missing
    have listed : scenario ∈ scenarios.filter fun scenario =>
        scenario.entity = entity ∧ start < scenario.stop ∧ scenario.start < stop :=
      List.mem_filter.mpr ⟨member, by simpa [Overlaps] using fits⟩
    rw [empty] at listed
    cases listed

/-- The scenario at a moment is of the entity and lasts then. -/
theorem scenarioAt_some {time : Int} {scenario : Scenario} (found : scenarioAt scenarios entity time = some scenario) :
    scenario ∈ scenarios ∧ scenario.entity = entity ∧ scenario.start ≤ time ∧ time ≤ scenario.stop := by
  have fits := List.find?_some found
  rw [decide_eq_true_eq] at fits
  exact ⟨List.mem_of_find?_eq_some found, fits⟩

/-- There is one when some scenario lasts then. -/
theorem scenarioAt_isSome {time : Int} {scenario : Scenario} (member : scenario ∈ scenarios)
    (named : scenario.entity = entity) (after : scenario.start ≤ time) (before : time ≤ scenario.stop) :
    ∃ found, scenarioAt scenarios entity time = some found := by
  rw [← Option.isSome_iff_exists, scenarioAt, List.find?_isSome]
  exact ⟨scenario, member, decide_eq_true ⟨named, after, before⟩⟩

/-- A session that is named after a scenario is the session of a scenario. -/
theorem sessionAt_scenario {time : Int} {name : String} (same : sessionAt scenarios entity time = "scenario:" ++ name) :
    ∃ scenario, scenarioAt scenarios entity time = some scenario := by
  unfold sessionAt at same
  split at same
  · rename_i scenario found
    exact ⟨scenario, found⟩
  · have texts := congrArg (fun text : String => text.toList.head?) same
    simp [String.toList_append] at texts

end Scenarios

section Labels

variable (python : Python) (contracts : Contracts) (values : PythonValues) (baseline : Option (List String))
  (gitSha : String) (boundaries : List Int) (scenarios : List Scenario) (schema : FeatureSchema) (events : List Json)

/-- The label of a row agrees with its sessions, no training row has an event of an attack, and an attack overlaps its
window. -/
structure LabelAgrees (row : Row) (label : Label) : Prop where
  bound : label.vectorSha256 = row.member.vectorSha256
  attack : ∀ name, "scenario:" ++ name ∈ row.member.sessionIds → label.label = 1
  benign : row.partition = .train → ∀ event ∈ windowEvents python boundaries events row.vector.windowStart,
    eventEntity schema event = some row.vector.entity → ∀ name,
      session python scenarios row.vector.entity event ≠ .ok ("scenario:" ++ name)
  overlaps : label.label = 1 → ∃ scenario ∈ scenarios,
    Overlaps row.vector.entity row.vector.windowStart row.vector.windowEnd scenario

/-- No event of an entity is at the start of a window at which a scenario of the entity ends, unless another scenario
of the entity overlaps the window. -/
def NoEventAtEnd : Prop :=
  ∀ event ∈ events, ∀ time entity, eventTime python event = .ok time → eventEntity schema event = some entity →
    boundaries.headD 0 ≤ time → time < boundaries.getLastD 0 → time % fiveMinutes = 0 →
    (∃ scenario ∈ scenarios, scenario.entity = entity ∧ scenario.stop = time) →
      ∃ scenario ∈ scenarios, Overlaps entity time (time + fiveMinutes) scenario

variable {python contracts values baseline gitSha boundaries scenarios schema events}

/-- A label is one when it names a scenario. -/
theorem label_eq_one {label : Label} : label.label = 1 ↔ label.scenario.isSome = true := by
  unfold Label.label
  split <;> simp_all

/-- An event that a scenario has as its session is in a window that a scenario overlaps. -/
theorem NoEventAtEnd.overlaps (apart : NoEventAtEnd python boundaries scenarios schema events) {event : Json}
    {start : Int} {entity name : String} (member : event ∈ windowEvents python boundaries events start)
    (named : eventEntity schema event = some entity)
    (assigned : session python scenarios entity event = .ok ("scenario:" ++ name)) :
    ∃ scenario ∈ scenarios, Overlaps entity start (start + fiveMinutes) scenario := by
  obtain ⟨there, time, parsed, after, before, floors⟩ := mem_windowEvents.mp member
  have whole : start % fiveMinutes = 0 := floors ▸ floorWindow_aligned time
  have inside := (inside_iff_floorWindow whole).mpr floors
  simp only [session, parsed, bind, Except.bind, pure, Except.pure, Except.ok.injEq] at assigned
  obtain ⟨scenario, found⟩ := sessionAt_scenario assigned
  obtain ⟨listed, same, opens, closes⟩ := scenarioAt_some found
  by_cases later : start < scenario.stop
  · exact ⟨scenario, listed, same, later, by omega⟩
  · -- The scenario ends where the window starts, and the event is there.
    have edge : time = start ∧ scenario.stop = start := by omega
    obtain ⟨rfl, ends⟩ := edge
    exact apart event there time entity parsed named after before whole ⟨scenario, listed, same, ends⟩

variable (python contracts values baseline gitSha boundaries schema events)

/-- The labels agree with the sessions and with the training partition exactly when no event is at the end of a
scenario and at the start of a window that no scenario overlaps. -/
theorem labels_agree_iff (payload : Json) (scenarios : List Scenario) (result : Progress)
    (loaded : loadScenarios python values payload = .ok scenarios)
    (ok : buildDataset python contracts (featureEngine python values baseline) gitSha events scenarios schema boundaries =
      .ok result) :
    List.Forall₂ (LabelAgrees python boundaries scenarios schema events) result.rows result.labels ↔
      NoEventAtEnd python boundaries scenarios schema events := by
  obtain ⟨windows, built⟩ := built_of_ok ok
  rw [built.rows_eq.2, List.forall₂_map_right_iff, List.forall₂_same]
  constructor
  · intro agree event there time entity parsed named after before whole ending
    by_contra alone
    obtain ⟨scenario, listed, same, ends⟩ := ending
    have member : event ∈ windowEvents python boundaries events time :=
      mem_windowEvents.mpr ⟨there, time, parsed, after, before, floorWindow_of_aligned whole⟩
    obtain ⟨vector, name, owner, opens, closes, placed, fate⟩ := built.covers member named
    have quiet : ¬ (vectorScenario scenarios vector).isSome = true := by
      rw [vectorScenario, attackScenario_isSome, owner, opens, closes]
      exact alone
    obtain ⟨_, attack⟩ | ⟨row, inRows, _, ownVector, made⟩ := fate
    · exact quiet attack
    · have ordered := loadScenarios_ordered loaded scenario listed
      obtain ⟨found, during⟩ := scenarioAt_isSome listed same (by omega) ends.ge
      have assigned : session python scenarios vector.entity event = .ok ("scenario:" ++ found.id) := by
        rw [session, parsed, owner]
        simp only [bind, Except.bind, sessionAt, during]
        rfl
      have inMember : "scenario:" ++ found.id ∈ row.member.sessionIds :=
        (mem_sessionIds made).mpr ⟨event, member, by rw [owner]; exact named, assigned⟩
      have one := label_eq_one.mp ((agree row inRows).attack found.id inMember)
      rw [labelOf, ownVector] at one
      exact quiet one
  · intro apart row inRows
    obtain ⟨_, closes, _, kept, made⟩ := built.row_window inRows
    have attacked : (∃ event ∈ windowEvents python boundaries events row.vector.windowStart,
        eventEntity schema event = some row.vector.entity ∧ ∃ name,
          session python scenarios row.vector.entity event = .ok ("scenario:" ++ name)) →
        (vectorScenario scenarios row.vector).isSome = true := by
      rintro ⟨event, member, named, name, assigned⟩
      rw [vectorScenario, attackScenario_isSome, closes]
      exact apart.overlaps member named assigned
    refine ⟨(memberOf_ok made).1.symm, fun name inside => ?_, fun train event member named name assigned => ?_, fun one => ?_⟩
    · obtain ⟨event, member, named, assigned⟩ := (mem_sessionIds made).mp inside
      exact label_eq_one.mpr (attacked ⟨event, member, named, name, assigned⟩)
    · exact kept ⟨train, attacked ⟨event, member, named, name, assigned⟩⟩
    · exact attackScenario_isSome.mp (label_eq_one.mp one)

end Labels

section Capture

def captureTimes : Table String Int :=
  [("2026-01-01T00:01:00Z", deskTime + seconds 60), ("2026-01-01T00:05:00Z", deskTime + seconds 300),
    ("2026-01-01T00:06:00Z", deskTime + seconds 360), ("2026-01-01T00:11:00Z", deskTime + seconds 660),
    ("2026-01-01T00:12:00Z", deskTime + seconds 720), ("2026-01-01T00:13:00Z", deskTime + seconds 780),
    ("2026-01-01T00:21:00Z", deskTime + seconds 1260), ("2026-01-01T00:22:00Z", deskTime + seconds 1320),
    ("2026-01-01T00:23:00Z", deskTime + seconds 1380)]

def capturePython : Python := { Workers.labPython with fromIsoformat := fun text => (captureTimes.find? text).map .aware }

/-- A flow of a source address in the first half hour of the day. -/
def captured (source minute : String) : Json :=
  .obj [("@timestamp", .str ("2026-01-01T00:" ++ minute ++ ":00Z")), ("event_type", .str "flow"),
    ("event", .obj [("id", .str (source ++ "-" ++ minute)), ("dataset", .str "suricata.eve")]),
    ("source", .obj [("ip", .str source)]), ("cxyz", .obj [("schema_version", .str "soc-event-v1")])]

def attackOn (entity start stop : String) : Json :=
  .obj [("id", .str ("attack-" ++ entity)), ("entity", .str entity), ("start", .str ("2026-01-01T00:" ++ start ++ ":00Z")),
    ("end", .str ("2026-01-01T00:" ++ stop ++ ":00Z"))]

/-- Three attacks, the last of which ends where a window of the training partition starts. -/
def scenarioFile : Json :=
  .obj [("schema_version", .str "scenarios-v1"),
    ("scenarios", .arr [attackOn "10.0.0.3" "11" "13", attackOn "10.0.0.5" "21" "23", attackOn "10.0.0.6" "01" "05"])]

/-- One flow of each address. The flow of the attacked address in the training partition is at a given minute. -/
def capture (edge : String) : List Json :=
  [captured "10.0.0.1" "01", captured "10.0.0.6" edge, captured "10.0.0.2" "11", captured "10.0.0.3" "12",
    captured "10.0.0.4" "21", captured "10.0.0.5" "22"]

def captureBounds : List Int := [deskTime, deskTime + seconds 600, deskTime + seconds 1200, deskTime + seconds 1800]

def captureScenarios : List Scenario :=
  [⟨"attack-10.0.0.3", "10.0.0.3", deskTime + seconds 660, deskTime + seconds 780⟩,
    ⟨"attack-10.0.0.5", "10.0.0.5", deskTime + seconds 1260, deskTime + seconds 1380⟩,
    ⟨"attack-10.0.0.6", "10.0.0.6", deskTime + seconds 60, deskTime + seconds 300⟩]

/-- The scenarios of the capture are those in its file. -/
theorem captureScenarios_loaded : loadScenarios capturePython labValues scenarioFile = .ok captureScenarios :=
  Check.ok_of_toOption (by decide +kernel)

/-- The dataset of the capture. -/
def captureDataset (edge : String) : Except TrainingError Progress :=
  buildDataset capturePython labContracts (featureEngine capturePython labValues none) "0123abc" (capture edge)
    captureScenarios .networkWindow captureBounds

/-- A flow at the end of an attack is in a benign vector of the training partition. -/
theorem attack_in_training : loadScenarios capturePython labValues scenarioFile = .ok captureScenarios ∧
    ∃ result, captureDataset "05" = .ok result ∧
      (∃ row ∈ result.rows, row.partition = .train ∧ "scenario:attack-10.0.0.6" ∈ row.member.sessionIds) ∧
      ¬ List.Forall₂ (LabelAgrees capturePython captureBounds captureScenarios .networkWindow (capture "05")) result.rows
        result.labels := by
  have rows : ((captureDataset "05").map fun result => (result.rows.zip result.labels).map fun pair =>
      (pair.1.partition, pair.1.member.sessionIds, pair.2.label)).toOption.bind (·[1]?) =
        some (.train, ["scenario:attack-10.0.0.6"], 0) := by decide +kernel
  cases built : captureDataset "05" with
  | error _ =>
      rw [built] at rows
      cases rows
  | ok result =>
      rw [built] at rows
      obtain ⟨pair, second, read⟩ : ∃ pair, (result.rows.zip result.labels)[1]? = some pair ∧
          (pair.1.partition, pair.1.member.sessionIds, pair.2.label) = (.train, ["scenario:attack-10.0.0.6"], 0) := by
        have mapped : ((result.rows.zip result.labels).map fun pair =>
            (pair.1.partition, pair.1.member.sessionIds, pair.2.label))[1]? =
              some (.train, ["scenario:attack-10.0.0.6"], 0) := rows
        rw [List.getElem?_map, Option.map_eq_some_iff] at mapped
        exact mapped
      simp only [Prod.mk.injEq] at read
      obtain ⟨train, sessions, zero⟩ := read
      have member := List.mem_of_getElem? second
      refine ⟨captureScenarios_loaded, result, rfl, ⟨pair.1, (List.of_mem_zip member).1, train, by simp [sessions]⟩, ?_⟩
      intro agree
      have here := (List.forall₂_iff_zip.mp agree).2 member
      have one := here.attack "attack-10.0.0.6" (by rw [sessions]; decide)
      rw [zero] at one
      cases one

/-- A minute later the flow is no longer in the session of the attack. -/
theorem capture_labels_agree : ∃ result, captureDataset "06" = .ok result ∧
    List.Forall₂ (LabelAgrees capturePython captureBounds captureScenarios .networkWindow (capture "06")) result.rows
      result.labels := by
  have built : (captureDataset "06").toOption.isSome = true := by decide +kernel
  have apart : NoEventAtEnd capturePython captureBounds captureScenarios .networkWindow (capture "06") := by
    have times : (capture "06").all (fun event => (eventTime capturePython event).toOption.all
        fun time => decide (time % fiveMinutes ≠ 0)) = true := by decide +kernel
    intro event there time entity parsed _ _ _ whole _
    have here := List.all_eq_true.mp times event there
    rw [parsed] at here
    exact absurd whole (of_decide_eq_true here)
  exact ⟨_, Check.ok_get built, (labels_agree_iff capturePython labContracts labValues none "0123abc" captureBounds
    .networkWindow (capture "06") scenarioFile captureScenarios _ captureScenarios_loaded (Check.ok_get built)).mpr apart⟩

end Capture

end ClosedLoop.Training
