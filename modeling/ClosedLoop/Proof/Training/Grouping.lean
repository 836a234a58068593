import ClosedLoop.Construction.Training.Dataset
import ClosedLoop.Proof.Workers.Selection
import ClosedLoop.Proof.Workers.Windows

namespace ClosedLoop.Training

open ClosedLoop.Library ClosedLoop.Response ClosedLoop.Workers

section Events

variable (python : Python)

/-- The events that the export and the dataset builder put into a window. -/
def floorsTo (start : Int) (event : Json) : Bool :=
  match eventTimestamp python event with
  | .ok time => floorWindow time = start
  | .error _ => false

/-- The events that the worker asks for. -/
def queried (start : Int) (event : Json) : Bool :=
  match eventTimestamp python event with
  | .ok time => start ≤ time ∧ time < start + fiveMinutes
  | .error _ => false

variable {python}

/-- A time is in one window, and this is the window that it is floored to. -/
theorem inside_iff_floorWindow {start time : Int} (whole : start % fiveMinutes = 0) :
    start ≤ time ∧ time < start + fiveMinutes ↔ floorWindow time = start := by
  rw [floorWindow_eq]
  simp only [fiveMinutes] at whole ⊢
  omega

/-- A normalised event floors to the window of its time. -/
theorem floorsTo_normalized {event : Json} {time : Int} (normalized : Normalized python event time) (start : Int) :
    floorsTo python start event = decide (floorWindow time = start) := by
  simp only [floorsTo, normalized.timestamp]

/-- The query of the worker and the grouping of the builder agree on an aligned window. -/
theorem queried_eq_floorsTo {start : Int} (whole : start % fiveMinutes = 0) :
    queried python start = floorsTo python start := by
  funext event
  unfold queried floorsTo
  split
  · exact decide_eq_decide.mpr (inside_iff_floorWindow whole)
  · rfl

/-- The times of the two parsers agree. -/
theorem timestampText_normalized {event : Json} {time : Int} (normalized : Normalized python event time) :
    ∃ text, timestampText event = .ok text ∧ python.fromIsoformat text = some (.aware time) := by
  obtain ⟨⟨fields, rfl⟩, _, timestamp⟩ := normalized
  simp only [eventTimestamp, nested, Json.get] at timestamp
  cases found : fields.lookup "@timestamp" with
  | none =>
      rw [found] at timestamp
      simp only [Option.getD_none] at timestamp
      cases named : eventId (.obj fields) with
      | error _ => simp [named, bind, Except.bind] at timestamp
      | ok _ => simp [named, bind, Except.bind] at timestamp
  | some value =>
      rw [found, Option.getD_some] at timestamp
      cases value with
      | str text =>
          refine ⟨text, by simp [timestampText, found], ?_⟩
          simp only [asUtcText] at timestamp
          split at timestamp
          · cases timestamp
          · cases timestamp
          · cases timestamp
            assumption
          · cases timestamp
      | _ =>
          cases named : eventId (.obj fields) with
          | error _ => simp [named, bind, Except.bind] at timestamp
          | ok _ => simp [named, bind, Except.bind] at timestamp

/-- Its time is read. -/
theorem eventTime_normalized {event : Json} {time : Int} (normalized : Normalized python event time) :
    eventTime python event = .ok time := by
  obtain ⟨text, written, parsed⟩ := timestampText_normalized normalized
  simp only [eventTime, written, bind, Except.bind, ts, parsed]

end Events

section Selection

variable {python : Python}

/-- An event that a turn of the selection accepts is normalized. -/
theorem normalized_of_selectEvent {start stop : Int} {before after : Table String Json} {event : Json}
    (ok : selectEvent python start stop before event = .ok after) : ∃ time, Normalized python event time := by
  obtain ⟨time, normalized, _⟩ := selectEvent_ok.mp ok
  exact ⟨time, normalized⟩

/-- The selection skips a normalized event of another window. -/
theorem selectEvent_outside {start : Int} (whole : start % fiveMinutes = 0) {event : Json} {time : Int}
    (normalized : Normalized python event time) (outside : floorsTo python start event = false)
    (selected : Table String Json) : selectEvent python start (start + fiveMinutes) selected event = .ok selected := by
  rw [floorsTo_normalized normalized, decide_eq_false_iff_not, ← inside_iff_floorWindow whole] at outside
  exact selectEvent_ok.mpr ⟨time, normalized, Or.inl ⟨outside, rfl⟩⟩

/-- Only the events of its own window matter for a selection. -/
theorem validateAndSelect_floorsTo {events : List Json} {start : Int} (whole : start % fiveMinutes = 0)
    (normalized : ∀ event ∈ events, ∃ time, Normalized python event time) :
    validateAndSelect python (events.filter (floorsTo python start)) start (start + fiveMinutes) =
      validateAndSelect python events start (start + fiveMinutes) := by
  have same : (events.filter (floorsTo python start)).foldlM (selectEvent python start (start + fiveMinutes)) [] =
      events.foldlM (selectEvent python start (start + fiveMinutes)) [] := by
    refine Check.foldlM_filter (fun event member outside selected => ?_) []
    obtain ⟨time, fine⟩ := normalized event member
    exact selectEvent_outside whole fine outside selected
  rw [validateAndSelect, validateAndSelect, same]

variable {contracts : Contracts} {values : PythonValues} {baseline : Option (List String)} {gitSha : String}
  {schema : FeatureSchema} {events : List Json}

/-- The builder accepts normalized events only. -/
theorem normalized_of_build {start : Int} {vectors : List FeatureVector}
    (ok : Workers.build python contracts (featureEngine python values baseline) gitSha schema events start = .ok vectors) :
    ∀ event ∈ events, ∃ time, Normalized python event time := by
  simp only [Workers.build, featureEngine, groupsOf, validateAndSelect, Check.bind_ok] at ok
  obtain ⟨_, ⟨_, ⟨selected, selects, _⟩, _⟩, _⟩ := ok
  intro event member
  obtain ⟨_, _, turn⟩ := Check.foldlM_each selects event member
  exact normalized_of_selectEvent turn

/-- A build needs the events of its window only. -/
theorem build_floorsTo {start : Int} (whole : start % fiveMinutes = 0)
    (normalized : ∀ event ∈ events, ∃ time, Normalized python event time) :
    Workers.build python contracts (featureEngine python values baseline) gitSha schema
        (events.filter (floorsTo python start)) start =
      Workers.build python contracts (featureEngine python values baseline) gitSha schema events start := by
  simp only [Workers.build, featureEngine, groupsOf, validateAndSelect_floorsTo whole normalized]

end Selection

section Windows

variable {python : Python} {events : List Json}

/-- The grouping of events with known times, as a loop that cannot fail. -/
def groupWindows (time : Json → Int) (windows : Table Int (List Json)) (events : List Json) : Table Int (List Json) :=
  events.foldl (fun (windows : Table Int (List Json)) event => windows.push (floorWindow (time event)) event) windows

/-- A group holds the events of its window. -/
theorem find?_groupWindows {time : Json → Int} (normalized : ∀ event ∈ events, Normalized python event (time event))
    (start : Int) :
    ((groupWindows time [] events).find? start).getD [] = events.filter (floorsTo python start) := by
  rw [groupWindows, Table.find?_foldl_push fun event => floorWindow (time event)]
  simp only [Table.find?, Option.getD_none, List.nil_append]
  refine List.filter_congr fun event member => ?_
  exact (floorsTo_normalized (normalized event member) start).symm

/-- The export has in each window the events that are floored to it, whichever lines are blank. -/
theorem exportWindows_floorsTo {lines : List (Option Json)} (held : lines.reduceOption = events)
    (normalized : ∀ event ∈ events, ∃ time, Normalized python event time) :
    ∃ windows, exportWindows python lines = .ok windows ∧
      ∀ start, (windows.find? start).getD [] = events.filter (floorsTo python start) := by
  choose! time fine using normalized
  have grouped : ∀ (number : Nat) (windows : Table Int (List Json)), (lines.zipIdx number).foldlM (exportLine python) windows =
      .ok (groupWindows time windows events) := by
    subst held
    induction lines with
    | nil => exact fun _ _ => rfl
    | cons line rest ih =>
        intro number windows
        cases line with
        | none => exact ih fine (number + 1) windows
        | some event =>
            change ∀ other ∈ event :: rest.reduceOption, Normalized python other (time other) at fine
            obtain ⟨text, written, parsed⟩ := timestampText_normalized (fine event List.mem_cons_self)
            have turn : exportLine python windows (some event, number) =
                .ok (windows.push (floorWindow (time event)) event) := by
              simp only [exportLine, written, bind, Except.bind]
              rw [parsed]
              rfl
            rw [List.zipIdx_cons, List.foldlM_cons, turn]
            exact ih (fun other member => fine other (List.mem_cons_of_mem _ member)) (number + 1) _
  exact ⟨_, grouped 1 [], find?_groupWindows fine⟩

/-- The dataset builder has the same events in each window between its boundaries. -/
theorem datasetWindows_floorsTo {first last : Int} (begins : first % fiveMinutes = 0) (ends : last % fiveMinutes = 0)
    (normalized : ∀ event ∈ events, ∃ time, Normalized python event time) :
    ∃ windows, datasetWindows python first last events = .ok windows ∧
      ∀ start, start % fiveMinutes = 0 → first ≤ start → start < last →
        (windows.find? start).getD [] = events.filter (floorsTo python start) := by
  choose! time fine using normalized
  let inside : Json → Bool := fun event => first ≤ time event ∧ time event < last
  have kept : datasetWindows python first last events = .ok (groupWindows time [] (events.filter inside)) := by
    have skipped : (events.filter inside).foldlM (datasetEvent python first last) [] =
        events.foldlM (datasetEvent python first last) [] := by
      refine Check.foldlM_filter (fun event member outside windows => ?_) []
      simp only [datasetEvent, eventTime_normalized (fine event member), bind, Except.bind]
      rw [if_neg (of_decide_eq_false outside)]
      rfl
    rw [datasetWindows, ← skipped]
    refine Check.foldlM_pure (fun event member windows => ?_) []
    obtain ⟨listed, within⟩ := List.mem_filter.mp member
    simp only [datasetEvent, eventTime_normalized (fine event listed), bind, Except.bind]
    rw [if_pos (of_decide_eq_true within)]
    rfl
  refine ⟨_, kept, fun start whole after before => ?_⟩
  rw [find?_groupWindows fun event member => fine event (List.mem_of_mem_filter member), List.filter_filter]
  refine List.filter_congr fun event member => ?_
  rw [floorsTo_normalized (fine event member)]
  by_cases same : floorWindow (time event) = start
  · have within := (inside_iff_floorWindow whole).mpr same
    simp only [inside, same, decide_true, Bool.true_and, decide_eq_true_eq]
    simp only [fiveMinutes] at whole begins ends within
    omega
  · simp [same]

end Windows

section Vectors

variable (python : Python) (contracts : Contracts) (values : PythonValues) (baseline : Option (List String)) (gitSha : String)

/-- The builder has no error on the whole list, whatever the window. -/
def AcceptsWhole (schema : FeatureSchema) (events : List Json) : Prop :=
  ∀ start, start % fiveMinutes = 0 → ∃ vectors,
    Workers.build python contracts (featureEngine python values baseline) gitSha schema events start = .ok vectors

/-- The export, the dataset builder, and the worker put each event into the same one window, and the vectors of a
window do not depend on the events of other windows. -/
theorem windows_agree (schema : FeatureSchema) (events : List Json)
    (accepted : AcceptsWhole python contracts values baseline gitSha schema events) :
    (∀ start, start % fiveMinutes = 0 →
      Workers.build python contracts (featureEngine python values baseline) gitSha schema
          (events.filter (floorsTo python start)) start =
        Workers.build python contracts (featureEngine python values baseline) gitSha schema events start ∧
      Workers.build python contracts (featureEngine python values baseline) gitSha schema
          (events.filter (queried python start)) start =
        Workers.build python contracts (featureEngine python values baseline) gitSha schema events start) ∧
    (∀ lines : List (Option Json), lines.reduceOption = events → ∃ windows, exportWindows python lines = .ok windows ∧
      ∀ start, (windows.find? start).getD [] = events.filter (floorsTo python start)) ∧
    (∀ first last, first % fiveMinutes = 0 → last % fiveMinutes = 0 →
      ∃ windows, datasetWindows python first last events = .ok windows ∧
        ∀ start, start % fiveMinutes = 0 → first ≤ start → start < last →
          (windows.find? start).getD [] = events.filter (floorsTo python start)) ∧
    ∀ event ∈ events, ∃ time, eventTimestamp python event = .ok time ∧
      ∃! start, start % fiveMinutes = 0 ∧ start ≤ time ∧ time < start + fiveMinutes := by
  obtain ⟨_, ok⟩ := accepted 0 rfl
  have normalized := normalized_of_build ok
  refine ⟨fun start whole => ?_, fun lines held => exportWindows_floorsTo held normalized,
    fun first last begins ends => datasetWindows_floorsTo begins ends normalized, fun event member => ?_⟩
  · rw [queried_eq_floorsTo whole]
    exact ⟨build_floorsTo whole normalized, build_floorsTo whole normalized⟩
  · obtain ⟨time, fine⟩ := normalized event member
    refine ⟨time, fine.timestamp, floorWindow time, ?_, ?_⟩
    · exact ⟨floorWindow_aligned time, (inside_iff_floorWindow (floorWindow_aligned time)).mpr rfl⟩
    · rintro start ⟨whole, within⟩
      exact ((inside_iff_floorWindow whole).mp within).symm

/-- Two flows in different windows. -/
def capturedFlows : List Json := [labFlow "flow-1" "2026-01-01T00:01:00Z", labFlow "flow-2" "2026-01-01T00:06:00Z"]

/-- The captured flows are normalised. -/
theorem capturedFlows_normalized : ∀ event ∈ capturedFlows, ∃ time, Normalized Workers.labPython event time := by
  have each : ∀ event ∈ capturedFlows, (selectEvent Workers.labPython 0 0 [] event).toOption.isSome = true := by
    decide +kernel
  intro event member
  exact normalized_of_selectEvent (Check.ok_get (each event member))

/-- They lie in two windows. -/
theorem capturedFlows_elsewhere {start : Int} (first : start ≠ deskTime) (second : start ≠ deskTime + fiveMinutes) :
    capturedFlows.filter (floorsTo Workers.labPython start) = [] := by
  have times : capturedFlows.map (fun event => (eventTimestamp Workers.labPython event).toOption) =
      [some (deskTime + seconds 60), some (deskTime + seconds 360)] := by decide +kernel
  have floors : floorWindow (deskTime + seconds 60) = deskTime ∧
      floorWindow (deskTime + seconds 360) = deskTime + fiveMinutes := by decide +kernel
  rw [List.filter_eq_nil_iff]
  intro event member holds
  unfold floorsTo at holds
  split at holds
  · rename_i time parsed
    have listed : some time ∈ capturedFlows.map (fun event => (eventTimestamp Workers.labPython event).toOption) :=
      List.mem_map.mpr ⟨event, member, by rw [parsed]; rfl⟩
    rw [times] at listed
    have here := of_decide_eq_true holds
    rcases List.mem_pair.mp listed with same | same
    · rw [Option.some.inj same, floors.1] at here
      exact first here.symm
    · rw [Option.some.inj same, floors.2] at here
      exact second here.symm
  · cases holds

example : [deskTime, deskTime + fiveMinutes].map (fun start =>
    (capturedFlows.filter (floorsTo Workers.labPython start)).length) = [1, 1] := by decide +kernel

/-- They are accepted as a whole. -/
theorem capturedFlows_accepted : AcceptsWhole Workers.labPython labContracts labValues none "0123abc" .networkWindow
    capturedFlows := by
  have built : ∀ start ∈ [deskTime, deskTime + fiveMinutes], (Workers.build Workers.labPython labContracts
      (featureEngine Workers.labPython labValues none) "0123abc" .networkWindow capturedFlows start).toOption.isSome = true := by
    decide +kernel
  intro start whole
  by_cases listed : start ∈ [deskTime, deskTime + fiveMinutes]
  · exact ⟨_, Check.ok_get (built start listed)⟩
  · have elsewhere : capturedFlows.filter (floorsTo Workers.labPython start) = [] :=
      capturedFlows_elsewhere (by simp_all) (by simp_all)
    rw [← build_floorsTo whole capturedFlows_normalized, elsewhere]
    exact ⟨[], rfl⟩

/-- The two flows are in two windows, and each window has one vector. -/
theorem capturedFlows_agree :
    ((Workers.build Workers.labPython labContracts (featureEngine Workers.labPython labValues none) "0123abc" .networkWindow
      capturedFlows deskTime).map List.length).toOption = some 1 ∧
    Workers.build Workers.labPython labContracts (featureEngine Workers.labPython labValues none) "0123abc" .networkWindow
        (capturedFlows.filter (queried Workers.labPython deskTime)) deskTime =
      Workers.build Workers.labPython labContracts (featureEngine Workers.labPython labValues none) "0123abc" .networkWindow
        capturedFlows deskTime :=
  ⟨by decide +kernel, ((windows_agree Workers.labPython labContracts labValues none "0123abc" .networkWindow capturedFlows
    capturedFlows_accepted).1 deskTime (by decide)).2⟩

end Vectors

end ClosedLoop.Training
