import ClosedLoop.Construction.Training.Partitions
import ClosedLoop.Library.Sha256
import ClosedLoop.Proof.Training.Labels

namespace ClosedLoop.Training

open ClosedLoop.Library ClosedLoop.Response ClosedLoop.Workers

section Texts

/-- Two texts with one mark before their last part, which does not have the mark, have the same parts. -/
theorem append_mark_unique {mark : Char} {first second rest last : List Char} (plain : mark ∉ rest) (alsoPlain : mark ∉ last)
    (same : first ++ mark :: rest = second ++ mark :: last) : first = second ∧ rest = last := by
  rcases List.append_eq_append_iff.mp same with ⟨gap, longer, tails⟩ | ⟨gap, longer, tails⟩
  · cases gap with
    | nil => exact ⟨by simpa using longer.symm, (List.cons.inj tails).2⟩
    | cons head gap =>
        obtain ⟨_, tails⟩ := List.cons.inj tails
        exact absurd (tails ▸ by simp) plain
  · cases gap with
    | nil => exact ⟨by simpa using longer, (List.cons.inj tails).2.symm⟩
    | cons head gap =>
        obtain ⟨_, tails⟩ := List.cons.inj tails
        exact absurd (tails ▸ by simp) alsoPlain

/-- The day of a time, counted from the epoch. -/
def dayOf (time : Int) : Int := time / 86400000000

/-- A date holds no colon. -/
theorem isoDate_plain (time : Int) : ':' ∉ (isoDate time).toList := by
  have digits : ∀ width number, ':' ∉ Calendar.lastDigits width number := fun width number member => by
    have digit := Calendar.lastDigits_digits width number ':' member
    cases digit
  have whole : ∀ number : Int, ':' ∉ intChars number := fun number member => by
    have plain := Json.render_plain (show (Json.int number).isAtom = true from rfl) ':' member
    cases plain
  have year : ∀ number : Int, ':' ∉ Calendar.yearChars number := fun number member => by
    rcases List.mem_append.mp member with front | last
    · split at front
      · cases front
      · exact whole _ front
    · exact digits _ _ last
  simp [isoDate, year, digits]

/-- Dates have the same text exactly when they are the same day. -/
theorem isoDate_inj {first second : Int} : isoDate first = isoDate second ↔ dayOf first = dayOf second := by
  constructor
  · intro same
    have chars := String.ofList_injective same
    obtain ⟨years, rests⟩ := List.append_inj' chars (by simp [Calendar.length_lastDigits])
    simp only [List.cons_append, List.cons.injEq, true_and] at rests
    obtain ⟨months, days⟩ := Calendar.block_unique rests
    have ordinals := Calendar.ordinal_unique years months (Calendar.lastDigits_unique days)
    unfold dayOf
    omega
  · intro same
    unfold dayOf at same
    rw [isoDate, isoDate, dateOf, dateOf, same]

end Texts

section Sessions

variable {scenarios : List Scenario}

/-- Two entities at two times are in one session. They are in the same scenario, or they are one entity on one day
outside of all scenarios. -/
def SameSession (scenarios : List Scenario) (entity : String) (time : Int) (other : String) (moment : Int) : Prop :=
  match scenarioAt scenarios entity time, scenarioAt scenarios other moment with
  | some scenario, some found => scenario.id = found.id
  | none, none => entity = other ∧ dayOf time = dayOf moment
  | _, _ => False

/-- No session of a scenario is one of a day. -/
theorem scenario_ne_day (name rest : String) : "scenario:" ++ name ≠ "entity-day:" ++ rest := by
  intro same
  have heads := congrArg (fun text : String => text.toList.head?) same
  simp [String.toList_append] at heads

/-- Sessions have the same name exactly when they are the same. -/
theorem sessionAt_inj {entity other : String} {time moment : Int} :
    sessionAt scenarios entity time = sessionAt scenarios other moment ↔
      SameSession scenarios entity time other moment := by
  unfold sessionAt SameSession
  cases scenarioAt scenarios entity time with
  | some scenario =>
      cases scenarioAt scenarios other moment with
      | some found =>
          dsimp only
          rw [String.append_right_inj]
      | none =>
          dsimp only
          rw [iff_false, String.append_assoc, String.append_assoc]
          exact scenario_ne_day _ _
  | none =>
      cases scenarioAt scenarios other moment with
      | some found =>
          dsimp only
          rw [iff_false, String.append_assoc, String.append_assoc]
          exact (scenario_ne_day _ _).symm
      | none =>
          dsimp only
          rw [← isoDate_inj]
          constructor
          · intro same
            have chars := congrArg String.toList same
            simp only [String.toList_append, List.append_assoc] at chars
            have parts := List.append_cancel_left chars
            obtain ⟨entities, dates⟩ := append_mark_unique (isoDate_plain time) (isoDate_plain moment) parts
            exact ⟨String.toList_injective entities, String.toList_injective dates⟩
          · rintro ⟨rfl, same⟩
            rw [same]

/-- A session has a name. -/
theorem sessionAt_ne_empty (entity : String) (time : Int) : sessionAt scenarios entity time ≠ "" := by
  unfold sessionAt
  intro empty
  split at empty <;>
  · have heads := congrArg (fun text : String => text.toList.head?) empty
    simp [String.toList_append] at heads

end Sessions

section Leakage

variable (python : Python) (boundaries : List Int) (scenarios : List Scenario) (schema : FeatureSchema)
  (events : List Json)

/-- A window of an entity is kept unless it is an attack in the training partition. -/
def WindowKept (start : Int) (entity : String) (name : Partition) : Prop :=
  partitionOf boundaries start = some name ∧
    ¬ (name = .train ∧ ∃ scenario ∈ scenarios, Overlaps entity start (start + fiveMinutes) scenario)

/-- An event of a window that is kept. -/
structure EventKept (event : Json) (time : Int) (entity : String) (name : Partition) : Prop where
  member : event ∈ windowEvents python boundaries events (floorWindow time)
  parsed : eventTime python event = .ok time
  named : eventEntity schema event = some entity
  window : WindowKept boundaries scenarios (floorWindow time) entity name

/-- No id and no session is in two partitions, and no id is twice in the window of an entity. -/
structure Separated : Prop where
  apart : ∀ event time entity name other moment owner part,
    EventKept python boundaries scenarios schema events event time entity name →
    EventKept python boundaries scenarios schema events other moment owner part → name ≠ part →
      idText event ≠ idText other ∧ ¬ SameSession scenarios entity time owner moment
  once : ∀ start entity name, WindowKept boundaries scenarios start entity name →
    (((windowEvents python boundaries events start).filter fun event => eventEntity schema event = some entity).map
      idText).Nodup

/-- No source event and no session is in the memberships of two partitions. -/
def LeakFree (result : Progress) : Prop :=
  ∀ name part, name ≠ part → ∀ member ∈ result.members name, ∀ other ∈ result.members part,
    (∀ identifier ∈ member.sourceEventIds, identifier ∉ other.sourceEventIds) ∧
      ∀ sessionId ∈ member.sessionIds, sessionId ∉ other.sessionIds

variable {python boundaries scenarios schema events} {contracts : Contracts} {values : PythonValues}
  {baseline : Option (List String)} {gitSha : String} {result : Progress} {windows : Table Int (List Json)}

/-- The members of a partition are those of its rows. -/
theorem mem_members {name : Partition} {member : Member} :
    member ∈ result.members name ↔ ∃ row ∈ result.rows, row.partition = name ∧ row.member = member := by
  simp only [Progress.members, List.mem_map, List.mem_filter, decide_eq_true_eq, and_assoc]

/-- The session of an event is the one at its time. -/
theorem session_eq {event : Json} {entity : String} {time : Int} (parsed : eventTime python event = .ok time) :
    session python scenarios entity event = .ok (sessionAt scenarios entity time) := by
  rw [session, parsed]
  rfl

/-- A row belongs to a window that is kept. -/
theorem Built.row_kept
    (built : Built python contracts (featureEngine python values baseline) gitSha boundaries scenarios schema events result
      windows) {row : Row} (inRows : row ∈ result.rows) :
    WindowKept boundaries scenarios row.vector.windowStart row.vector.entity row.partition := by
  obtain ⟨_, closes, placed, kept, _⟩ := built.row_window inRows
  rw [vectorScenario, attackScenario_isSome, closes] at kept
  exact ⟨placed, kept⟩

/-- The events of a row are kept. -/
theorem Built.row_events
    (built : Built python contracts (featureEngine python values baseline) gitSha boundaries scenarios schema events result
      windows) {row : Row} (inRows : row ∈ result.rows) {event : Json}
    (member : event ∈ windowEvents python boundaries events row.vector.windowStart)
    (named : eventEntity schema event = some row.vector.entity) : ∃ time,
      EventKept python boundaries scenarios schema events event time row.vector.entity row.partition := by
  obtain ⟨_, time, parsed, _, _, floors⟩ := mem_windowEvents.mp member
  exact ⟨time, floors ▸ member, parsed, named, floors ▸ built.row_kept inRows⟩

/-- Every kept event is in a row of its partition. -/
theorem EventKept.row
    (built : Built python contracts (featureEngine python values baseline) gitSha boundaries scenarios schema events result
      windows) {event : Json} {time : Int} {entity : String} {name : Partition}
    (keeps : EventKept python boundaries scenarios schema events event time entity name) :
    ∃ row ∈ result.rows, row.partition = name ∧ idText event ∈ row.member.sourceEventIds ∧
      sessionAt scenarios entity time ∈ row.member.sessionIds := by
  obtain ⟨vector, part, owner, opens, closes, placed, fate⟩ := built.covers keeps.member keeps.named
  have same : part = name := Option.some.inj (placed.symm.trans keeps.window.1)
  subst same
  rcases fate with ⟨train, attack⟩ | ⟨row, inRows, inPart, ownVector, made⟩
  · rw [vectorScenario, attackScenario_isSome, owner, opens, closes] at attack
    exact absurd ⟨train, attack⟩ keeps.window.2
  · refine ⟨row, inRows, inPart, (mem_sourceEventIds made).mpr ?_, (mem_sessionIds made).mpr ?_⟩
    · exact ⟨event, keeps.member, by rw [owner]; exact keeps.named, rfl⟩
    · exact ⟨event, keeps.member, by rw [owner]; exact keeps.named, by rw [owner]; exact session_eq keeps.parsed⟩

/-- The memberships leak nothing exactly when the kept events of different partitions have nothing in common. -/
theorem leakFree_iff
    (built : Built python contracts (featureEngine python values baseline) gitSha boundaries scenarios schema events result
      windows) : LeakFree result ↔ ∀ event time entity name other moment owner part,
      EventKept python boundaries scenarios schema events event time entity name →
      EventKept python boundaries scenarios schema events other moment owner part → name ≠ part →
        idText event ≠ idText other ∧ ¬ SameSession scenarios entity time owner moment := by
  constructor
  · intro free event time entity name other moment owner part keeps keeps' different
    obtain ⟨row, inRows, rfl, listed, during⟩ := keeps.row built
    obtain ⟨last, inRows', rfl, listed', during'⟩ := keeps'.row built
    obtain ⟨ids, sessions⟩ := free row.partition last.partition different row.member
      (mem_members.mpr ⟨row, inRows, rfl, rfl⟩) last.member (mem_members.mpr ⟨last, inRows', rfl, rfl⟩)
    refine ⟨fun same => ids _ listed (same ▸ listed'), fun same => sessions _ during ?_⟩
    rw [sessionAt_inj.mpr same]
    exact during'
  · intro apart name part different member inName other inPart
    obtain ⟨row, inRows, rfl, rfl⟩ := mem_members.mp inName
    obtain ⟨last, inRows', rfl, rfl⟩ := mem_members.mp inPart
    obtain ⟨_, _, _, _, made⟩ := built.row_window inRows
    obtain ⟨_, _, _, _, made'⟩ := built.row_window inRows'
    refine ⟨fun identifier listed listed' => ?_, fun sessionId during during' => ?_⟩
    · obtain ⟨event, within, named, id⟩ := (mem_sourceEventIds made).mp listed
      obtain ⟨final, within', named', id'⟩ := (mem_sourceEventIds made').mp listed'
      obtain ⟨time, keeps⟩ := built.row_events inRows within named
      obtain ⟨moment, keeps'⟩ := built.row_events inRows' within' named'
      exact (apart _ _ _ _ _ _ _ _ keeps keeps' different).1 (id.trans id'.symm)
    · obtain ⟨event, within, named, assigned⟩ := (mem_sessionIds made).mp during
      obtain ⟨final, within', named', assigned'⟩ := (mem_sessionIds made').mp during'
      obtain ⟨time, keeps⟩ := built.row_events inRows within named
      obtain ⟨moment, keeps'⟩ := built.row_events inRows' within' named'
      rw [session_eq keeps.parsed] at assigned
      rw [session_eq keeps'.parsed] at assigned'
      refine (apart _ _ _ _ _ _ _ _ keeps keeps' different).2 (sessionAt_inj.mp ?_)
      rw [Except.ok.inj assigned, Except.ok.inj assigned']

end Leakage

section Acceptance

variable {python : Python} {boundaries : List Int} {scenarios : List Scenario} {schema : FeatureSchema}
  {events : List Json} {contracts : Contracts} {values : PythonValues} {baseline : Option (List String)} {gitSha : String}
  {result : Progress} {windows : Table Int (List Json)}

/-- A moment is aligned when it is a multiple of five minutes. -/
theorem aligned_iff {value : Int} : aligned value = true ↔ value % fiveMinutes = 0 := by
  simp only [aligned, decide_eq_true_eq, fiveMinutes]
  omega

/-- The boundaries are four aligned times in their order. -/
theorem Built.boundaries_form {engine : FeatureEngine}
    (built : Built python contracts engine gitSha boundaries scenarios schema events result windows) :
    ∃ first second third last, boundaries = [first, second, third, last] ∧ first < second ∧ second < third ∧ third < last ∧
      first % fiveMinutes = 0 ∧ second % fiveMinutes = 0 ∧ third % fiveMinutes = 0 ∧ last % fiveMinutes = 0 := by
  obtain ⟨four, whole, ordered⟩ := built.bounds
  have sorted : boundaries.Pairwise (· ≤ ·) := by
    rw [ordered]
    exact List.pairwise_insertionSort _ _
  have distinct : boundaries.Nodup := by
    rw [ordered]
    exact (List.perm_insertionSort _ _).nodup_iff.mpr (List.nodup_dedup boundaries)
  match boundaries, four with
  | [first, second, third, last], _ =>
      simp only [List.all_cons, List.all_nil, Bool.and_true, Bool.and_eq_true, aligned_iff] at whole
      simp only [List.pairwise_cons, List.mem_cons, List.not_mem_nil, or_false, forall_eq_or_imp, forall_eq] at sorted
      simp only [List.nodup_cons, List.mem_cons, List.not_mem_nil, or_false, not_or] at distinct
      exact ⟨first, second, third, last, rfl, by omega, by omega, by omega, whole.1, whole.2.1, whole.2.2.1, whole.2.2.2⟩

variable (result) in
/-- Every owner of an id has it in a membership. -/
def Sound (field : Member → List String) (owners : Table String Partition) : Prop :=
  ∀ identifier part, owners.find? identifier = some part → ∃ member ∈ result.members part, identifier ∈ field member

/-- Ids that no other partition has can be claimed. -/
theorem claimIds_passes {field : Member → List String} {owners : Table String Partition} {name : Partition} {member : Member}
    (free : ∀ part, name ≠ part → ∀ other ∈ result.members part, ∀ identifier ∈ field member, identifier ∉ field other)
    (sound : Sound result field owners) (listed : member ∈ result.members name)
    (valid : field member ≠ [] ∧ "" ∉ field member ∧ (field member).Nodup) :
    ∃ next, claimIds name owners (field member) = .ok next ∧ Sound result field next := by
  have claimed : ∀ identifier ∈ field member, ∀ part, owners.find? identifier = some part → part = name := by
    intro identifier inside part known
    by_contra different
    obtain ⟨other, there, also⟩ := sound identifier part known
    exact free part (Ne.symm different) other there identifier inside also
  obtain ⟨next, claims⟩ := Owners.claimAll_ok.mpr claimed
  refine ⟨next, ?_, fun identifier part known => ?_⟩
  · simp only [claimIds, Check.bind_ok, Check.guard_ok, exists_const]
    exact ⟨valid, claims⟩
  · rcases Owners.claimAll_find? claims known with ⟨inside, rfl⟩ | earlier
    · exact ⟨member, listed, inside⟩
    · exact sound identifier part earlier

/-- The ids of a row are what the gate asks for. -/
theorem Built.row_ids
    (built : Built python contracts (featureEngine python values baseline) gitSha boundaries scenarios schema events result
      windows) (separated : Separated python boundaries scenarios schema events) {row : Row} (inRows : row ∈ result.rows) :
    (row.member.sourceEventIds ≠ [] ∧ "" ∉ row.member.sourceEventIds ∧ row.member.sourceEventIds.Nodup) ∧
      row.member.sessionIds ≠ [] ∧ "" ∉ row.member.sessionIds ∧ row.member.sessionIds.Nodup := by
  obtain ⟨_, _, _, _, made⟩ := built.row_window inRows
  obtain ⟨⟨event, there, named⟩, filled⟩ := built.row_filled inRows
  obtain ⟨_, time, parsed, _⟩ := mem_windowEvents.mp there
  refine ⟨⟨?_, ?_, ?_⟩, ?_, ?_, ?_⟩
  · exact List.ne_nil_of_mem ((mem_sourceEventIds made).mpr ⟨event, there, named, rfl⟩)
  · intro empty
    obtain ⟨other, within, _, missing⟩ := (mem_sourceEventIds made).mp empty
    exact filled other within missing
  · rw [(memberOf_ok made).2.1]
    exact (List.perm_insertionSort _ _).nodup_iff.mpr (separated.once _ _ _ (built.row_kept inRows))
  · exact List.ne_nil_of_mem ((mem_sessionIds made).mpr ⟨event, there, named, session_eq parsed⟩)
  · intro empty
    obtain ⟨other, within, _, assigned⟩ := (mem_sessionIds made).mp empty
    obtain ⟨_, moment, read, _⟩ := mem_windowEvents.mp within
    rw [session_eq read] at assigned
    exact sessionAt_ne_empty _ _ (Except.ok.inj assigned)
  · obtain ⟨_, _, _, sessions, _, ids⟩ := memberOf_ok made
    rw [ids]
    exact (List.perm_insertionSort _ _).nodup_iff.mpr (List.nodup_dedup sessions)

/-- Names that are sorted twice are sorted once. -/
theorem sortNames_sortNames (names : List String) : sortNames (sortNames names) = sortNames names :=
  (List.pairwise_insertionSort _ _).insertionSort_eq

/-- The accumulators of the gate know about nothing but the memberships. -/
def Scan.Sound (result : Progress) (scan : Scan) : Prop :=
  Training.Sound result (·.sourceEventIds) scan.sourceOwners ∧ Training.Sound result (·.sessionIds) scan.sessionOwners

/-- The gate accepts the vector of a row. -/
theorem checkVector_passes
    (built : Built python contracts (featureEngine python values baseline) gitSha boundaries scenarios schema events result
      windows) (separated : Separated python boundaries scenarios schema events) {row : Row} (inRows : row ∈ result.rows)
    {entry : PartitionEntry} (bounds : entry.start ≤ row.vector.windowStart ∧ row.vector.windowEnd ≤ entry.stop)
    {scan : Scan} (sound : scan.Sound result)
    (fresh : (row.vector.entity, row.vector.windowStart, row.vector.windowEnd) ∉ scan.seen) :
    ∃ next, checkVector python contracts schema entry row.partition scan (row.vector, row.member) = .ok next ∧
      next.Sound result ∧ next.sessions = scan.sessions ++ row.member.sessionIds ∧
      next.seen = (row.vector.entity, row.vector.windowStart, row.vector.windowEnd) :: scan.seen := by
  obtain ⟨named, closes, _, _, made⟩ := built.row_window inRows
  obtain ⟨sourcesValid, sessionsValid⟩ := built.row_ids separated inRows
  obtain ⟨hash, ids, digest, _⟩ := memberOf_ok made
  have listed : row.member ∈ result.members row.partition := mem_members.mpr ⟨row, inRows, rfl, rfl⟩
  have free := (leakFree_iff built).mpr separated.apart
  obtain ⟨sourceOwners, sourceClaims, sourceSound⟩ := claimIds_passes
    (fun part different other there => (free _ part different _ listed other there).1) sound.1 listed sourcesValid
  obtain ⟨sessionOwners, sessionClaims, sessionSound⟩ := claimIds_passes
    (fun part different other there => (free _ part different _ listed other there).2) sound.2 listed sessionsValid
  have opens : row.vector.windowStart < row.vector.windowEnd := by
    rw [closes]
    unfold fiveMinutes
    omega
  have sorted : sortNames row.member.sourceEventIds = row.member.sourceEventIds := by
    rw [ids, sortNames_sortNames]
  refine ⟨⟨(row.vector.entity, row.vector.windowStart, row.vector.windowEnd) :: scan.seen,
    scan.sessions ++ row.member.sessionIds, sourceOwners, sessionOwners⟩, ?_, ⟨sourceSound, sessionSound⟩, rfl, rfl⟩
  simp only [checkVector, Check.bind_ok, Check.guard_ok, Check.pure_ok, exists_const]
  refine ⟨(), built.validated inRows, named, ⟨bounds.1, opens, bounds.2⟩, fresh, hash, sourceOwners, sourceClaims,
    sessionOwners, sessionClaims, ?_, rfl⟩
  rw [sorted, digest]

/-- The gate accepts the rows of a partition one after another. -/
theorem checkVectors_pass
    (built : Built python contracts (featureEngine python values baseline) gitSha boundaries scenarios schema events result
      windows) (separated : Separated python boundaries scenarios schema events) {name : Partition} {entry : PartitionEntry}
    {rows : List Row} (inRows : ∀ row ∈ rows, row ∈ result.rows ∧ row.partition = name ∧
      entry.start ≤ row.vector.windowStart ∧ row.vector.windowEnd ≤ entry.stop) {scan : Scan} (sound : scan.Sound result)
    (distinct : (rows.map fun row => (row.vector.entity, row.vector.windowStart, row.vector.windowEnd)).Nodup)
    (fresh : ∀ row ∈ rows, (row.vector.entity, row.vector.windowStart, row.vector.windowEnd) ∉ scan.seen) :
    ∃ next, (rows.map fun row => (row.vector, row.member)).foldlM (checkVector python contracts schema entry name) scan =
        .ok next ∧ next.Sound result ∧ next.sessions = scan.sessions ++ rows.flatMap (·.member.sessionIds) := by
  induction rows generalizing scan with
  | nil => exact ⟨scan, rfl, sound, by simp⟩
  | cons row rest ih =>
      obtain ⟨here, rfl, bounds⟩ := inRows row List.mem_cons_self
      rw [List.map_cons, List.nodup_cons] at distinct
      obtain ⟨middle, one, fine, sessions, seen⟩ :=
        checkVector_passes built separated here bounds sound (fresh row List.mem_cons_self)
      have later : ∀ other ∈ rest, (other.vector.entity, other.vector.windowStart, other.vector.windowEnd) ∉ middle.seen := by
        intro other member
        rw [seen, List.mem_cons, not_or]
        refine ⟨fun same => distinct.1 ?_, fresh other (List.mem_cons_of_mem _ member)⟩
        rw [← same]
        exact List.mem_map_of_mem member
      obtain ⟨next, more, final, all⟩ := ih (fun other member => inRows other (List.mem_cons_of_mem _ member)) fine
        distinct.2 later
      refine ⟨next, ?_, final, ?_⟩
      · rw [List.map_cons, List.foldlM_cons, one]
        exact more
      · rw [all, sessions, List.flatMap_cons, List.append_assoc]

/-- The bounds of a partition. -/
def lowBound (boundaries : List Int) : Partition → Int
  | .train => boundaries.getD 0 0
  | .validation => boundaries.getD 1 0
  | .test => boundaries.getD 2 0

def highBound (boundaries : List Int) : Partition → Int
  | .train => boundaries.getD 1 0
  | .validation => boundaries.getD 2 0
  | .test => boundaries.getD 3 0

/-- A window lies in the bounds of its partition. -/
theorem partitionOf_bounds {first second third last start : Int} {name : Partition}
    (placed : partitionOf [first, second, third, last] start = some name) :
    lowBound [first, second, third, last] name ≤ start ∧ start < highBound [first, second, third, last] name := by
  unfold partitionOf at placed
  obtain ⟨part, found, rfl⟩ := Option.map_eq_some_iff.mp placed
  have inside := List.find?_some found
  rw [decide_eq_true_eq] at inside
  have listed := List.mem_of_find?_eq_some found
  simp only [partitionBounds, partitionNames, List.tail_cons, List.zip_cons_cons, List.zip_nil_right, List.mem_cons,
    List.not_mem_nil, or_false] at listed
  rcases listed with rfl | rfl | rfl <;> exact inside

/-- A vector ends before the end of its partition. -/
theorem Built.row_bounds
    (built : Built python contracts (featureEngine python values baseline) gitSha boundaries scenarios schema events result
      windows) {row : Row} (inRows : row ∈ result.rows) :
    lowBound boundaries row.partition ≤ row.vector.windowStart ∧
      row.vector.windowEnd ≤ highBound boundaries row.partition := by
  obtain ⟨_, closes, placed, _⟩ := built.row_window inRows
  obtain ⟨⟨event, there, _⟩, _⟩ := built.row_filled inRows
  obtain ⟨_, time, _, _, _, floors⟩ := mem_windowEvents.mp there
  have whole : row.vector.windowStart % fiveMinutes = 0 := floors ▸ floorWindow_aligned time
  obtain ⟨first, second, third, last, rfl, _, _, _, begins, next, more, ends⟩ := built.boundaries_form
  obtain ⟨low, high⟩ := partitionOf_bounds placed
  refine ⟨low, ?_⟩
  have aligned : highBound [first, second, third, last] row.partition % fiveMinutes = 0 := by
    cases row.partition
    · exact next
    · exact more
    · exact ends
  rw [closes]
  simp only [fiveMinutes] at whole aligned ⊢
  omega

variable {provenance : Provenance} {files : DatasetFiles}

/-- The gate accepts a partition. -/
theorem checkPartition_passes
    (built : Built python contracts (featureEngine python values baseline) gitSha boundaries scenarios schema events result
      windows) (separated : Separated python boundaries scenarios schema events)
    (wrote : writeDataset python contracts result provenance schema boundaries gitSha = .ok files) {gate : Gate}
    (sound : Sound result (·.sourceEventIds) gate.sourceOwners ∧ Sound result (·.sessionIds) gate.sessionOwners)
    (name : Partition) (previous : gate.previousEnd ≤ lowBound boundaries name) :
    ∃ next, checkPartition python contracts files gate name = .ok next ∧
      (Sound result (·.sourceEventIds) next.sourceOwners ∧ Sound result (·.sessionIds) next.sessionOwners) ∧
      next.previousEnd = highBound boundaries name := by
  have rowBounds : ∀ row ∈ result.rows.filter (·.partition = name), row ∈ result.rows ∧ row.partition = name ∧
      lowBound boundaries name ≤ row.vector.windowStart ∧ row.vector.windowEnd ≤ highBound boundaries name := by
    intro row member
    obtain ⟨inRows, same⟩ := List.mem_filter.mp member
    have same := of_decide_eq_true same
    exact ⟨inRows, same, same ▸ built.row_bounds inRows⟩
  have distinct : ((result.rows.filter (·.partition = name)).map fun row =>
      (row.vector.entity, row.vector.windowStart, row.vector.windowEnd)).Nodup :=
    (List.filter_sublist.map _).nodup built.keys_nodup
  obtain ⟨first, second, third, last, rfl, before, between, after, _⟩ := built.boundaries_form
  simp only [writeDataset, Check.bind_ok, Check.pure_ok] at wrote
  obtain ⟨schemaSha256, _, rfl⟩ := wrote
  let entry : PartitionEntry := {
    start := lowBound [first, second, third, last] name, stop := highBound [first, second, third, last] name
    vectorCount := (result.vectors name).length
    sessionIdsSha256 := namesHash python ((result.members name).flatMap (·.sessionIds)), labelProfile := labelProfile name }
  let scan : Scan := ⟨[], [], gate.sourceOwners, gate.sessionOwners⟩
  have scanned : ∃ next, ((result.rows.filter (·.partition = name)).map fun row => (row.vector, row.member)).foldlM
      (checkVector python contracts schema entry name) scan = .ok next ∧ next.Sound result ∧
        next.sessions = scan.sessions ++ (result.rows.filter (·.partition = name)).flatMap (·.member.sessionIds) :=
    checkVectors_pass built separated rowBounds sound distinct fun _ _ => List.not_mem_nil
  obtain ⟨next, passes, fine, sessions⟩ := scanned
  refine ⟨⟨entry.stop, next.sourceOwners, next.sessionOwners⟩, ?_, fine, rfl⟩
  simp only [checkPartition, Check.bind_ok, Check.guard_ok, Check.pure_ok, exists_const]
  refine ⟨entry, ?_, ⟨previous, ?_, ?_⟩, ?_, ⟨vectorsSha256 python (result.vectors name), result.members name⟩, ?_, rfl,
    ⟨rfl, ?_⟩, next, ?_, ?_, rfl⟩
  · cases name <;> rfl
  · cases name
    · exact before
    · exact between
    · exact after
  · have tops : highBound [first, second, third, last] name ≤ last := by
      cases name
      · exact (between.trans after).le
      · exact after.le
      · exact le_rfl
    exact tops
  · rintro rfl
    rfl
  · cases name <;> rfl
  · rw [Progress.vectors, Progress.members, List.length_map, List.length_map]
  · rw [Progress.vectors, Progress.members, List.zip_map']
    exact passes
  · rw [sessions]
    change namesHash python (([] : List String) ++ _) = namesHash python ((result.members name).flatMap (·.sessionIds))
    rw [List.nil_append, Progress.members, List.flatMap_map]

/-- `hexdigest` gives 64 digits. -/
structure Digests (python : Python) (contracts : Contracts) : Prop where
  hashed : ∀ text, sha256Pattern (python.sha256Hex text) = true
  schemas : ∀ schema digest, contracts.sha256 schema = .ok digest → sha256Pattern digest = true

/-- The manifest conforms to its schema. -/
theorem manifest_conforms {engine : FeatureEngine}
    (built : Built python contracts engine gitSha boundaries scenarios schema events result windows)
    (digests : Digests python contracts) (valid : provenance.conforms = true) (git : gitShaPattern gitSha = true)
    (wrote : writeDataset python contracts result provenance schema boundaries gitSha = .ok files) :
    files.manifest.conforms = true := by
  have counted : ∀ name, 1 ≤ (result.vectors name).length := fun name => List.length_pos_iff.mpr (built.filled name)
  obtain ⟨first, second, third, last, rfl, _⟩ := built.boundaries_form
  simp only [writeDataset, Check.bind_ok, Check.pure_ok] at wrote
  obtain ⟨schemaSha256, known, rfl⟩ := wrote
  have profiles : ∀ name, labelProfile name ∈ ["benign_biased", "mixed", "held_out_attack"] := by
    intro name
    cases name <;> simp [labelProfile]
  simp only [Manifest.conforms, valid, digests.schemas schema schemaSha256 known, sha256Hex, digests.hashed, git,
    Bool.and_true, Bool.true_and, partitionNames, List.all_cons, List.all_nil, Bool.and_eq_true]
  refine ⟨?_, ?_, ?_⟩ <;>
  · simp only [partitionBounds, partitionNames, List.tail_cons, List.zip_cons_cons, List.zip_nil_right, List.map_cons,
      List.map_nil, Table.find?, reduceCtorEq, if_true, if_false, Option.any_some, PartitionEntry.conforms, namesHash,
      sha256Hex, digests.hashed, Bool.and_true, Bool.and_eq_true, decide_eq_true_eq]
    exact ⟨counted _, profiles _⟩

/-- The schema of the dataset is there, since the vectors of the dataset have passed it. -/
theorem writeDataset_ok
    (built : Built python contracts (featureEngine python values baseline) gitSha boundaries scenarios schema events result
      windows) (provenance : Provenance) :
    ∃ files, writeDataset python contracts result provenance schema boundaries gitSha = .ok files := by
  obtain ⟨vector, member⟩ := List.exists_mem_of_ne_nil _ (built.filled .train)
  obtain ⟨row, filtered, rfl⟩ := List.mem_map.mp member
  have inRows := List.mem_of_mem_filter filtered
  have passes := built.validated inRows
  rw [validateVector, Check.bind_ok] at passes
  obtain ⟨digest, known, _⟩ := passes
  have known := Check.mapError_ok.mp known
  rw [(built.row_window inRows).1] at known
  exact ⟨_, by simp only [writeDataset, known]; rfl⟩

/-- The gate accepts a dataset whose partitions are separated. -/
theorem validatePartitions_passes
    (built : Built python contracts (featureEngine python values baseline) gitSha boundaries scenarios schema events result
      windows) (separated : Separated python boundaries scenarios schema events) (digests : Digests python contracts)
    (valid : provenance.conforms = true) (git : gitShaPattern gitSha = true)
    (wrote : writeDataset python contracts result provenance schema boundaries gitSha = .ok files) :
    validatePartitions python contracts files = .ok () := by
  have conforms := manifest_conforms built digests valid git wrote
  have empty : ∀ field, Sound result field [] := by
    intro field identifier part known
    cases known
  have opening : files.manifest.start = lowBound boundaries .train := by
    obtain ⟨first, second, third, last, rfl, _⟩ := built.boundaries_form
    simp only [writeDataset, Check.bind_ok, Check.pure_ok] at wrote
    obtain ⟨_, _, rfl⟩ := wrote
    rfl
  have start : Sound result (·.sourceEventIds) (Gate.mk files.manifest.start [] []).sourceOwners ∧
      Sound result (·.sessionIds) (Gate.mk files.manifest.start [] []).sessionOwners := ⟨empty _, empty _⟩
  obtain ⟨one, first, sound, ends⟩ := checkPartition_passes built separated wrote start .train opening.le
  obtain ⟨two, second, sound, ends⟩ := checkPartition_passes built separated wrote sound .validation ends.le
  obtain ⟨three, third, _⟩ := checkPartition_passes built separated wrote sound .test ends.le
  have loop : partitionNames.foldlM (checkPartition python contracts files) ⟨files.manifest.start, [], []⟩ = .ok three := by
    simp only [partitionNames, List.foldlM_cons, first, bind, Except.bind, second, third, List.foldlM_nil, pure, Except.pure]
  simp only [validatePartitions, Check.bind_ok, Check.guard_ok, Check.mapError_ok, exists_const]
  refine ⟨conforms, ?_⟩
  simp only [writeDataset, Check.bind_ok, Check.pure_ok] at wrote
  obtain ⟨_, _, rfl⟩ := wrote
  refine ⟨rfl, rfl, ⟨?_, ?_⟩, three, loop, rfl⟩
  · simp [Table.keys, partitionNames]
  · simp [Table.keys, partitionNames]

/-- A dataset that the gate accepts has no id twice in a membership. -/
theorem nodup_of_validatePartitions
    (wrote : writeDataset python contracts result provenance schema boundaries gitSha = .ok files)
    (accepted : validatePartitions python contracts files = .ok ()) {row : Row} (inRows : row ∈ result.rows) :
    row.member.sourceEventIds.Nodup := by
  simp only [validatePartitions, Check.bind_ok, Check.guard_ok, Check.mapError_ok, exists_const] at accepted
  obtain ⟨_, _, _, _, last, loop, _⟩ := accepted
  obtain ⟨before, after, turn⟩ := Check.foldlM_each loop row.partition (by cases row.partition <;> simp [partitionNames])
  simp only [writeDataset, Check.bind_ok, Check.pure_ok] at wrote
  obtain ⟨_, _, rfl⟩ := wrote
  simp only [checkPartition, Check.bind_ok, Check.guard_ok, exists_const] at turn
  obtain ⟨entry, _, _, _, part, found, _, _, scan, vectors, _⟩ := turn
  have memberships : part.memberships = result.members row.partition := by
    cases name : row.partition <;>
    · rw [name] at found
      cases found
      rfl
  rw [memberships, Progress.vectors, Progress.members, List.zip_map'] at vectors
  have listed : (row.vector, row.member) ∈ (result.rows.filter (·.partition = row.partition)).map fun row =>
      (row.vector, row.member) :=
    List.mem_map.mpr ⟨row, List.mem_filter.mpr ⟨inRows, decide_eq_true rfl⟩, rfl⟩
  obtain ⟨state, next, checked⟩ := Check.foldlM_each vectors _ listed
  simp only [checkVector, claimIds, Check.bind_ok, Check.guard_ok, exists_const] at checked
  obtain ⟨_, _, _, _, _, _, _, ⟨valid, _⟩, _⟩ := checked
  exact valid.2.2

end Acceptance

section Main

variable (python : Python) (contracts : Contracts) (values : PythonValues) (baseline : Option (List String))

end Main

section Gates

/-- The capture with its real digests. -/
def gatePython : Python := { capturePython with sha256Hex := Sha256.hexDigest }

/-- The digests of the example have 64 digits. -/
theorem gate_digests : Digests gatePython labContracts := by
  constructor
  · intro text
    have digits : (Sha256.hexDigest text).toList.all isHexDigit = true := by
      have known : Sha256.hexDigits.all isHexDigit = true := by decide
      exact List.all_eq_true.mpr fun char member =>
        List.all_eq_true.mp known char (Sha256.hexDigest_digits text char member)
    simp [sha256Pattern, hexPattern, matchesPattern, gatePython, Sha256.length_hexDigest, digits]
  · intro schema digest known
    have checked : ∀ schema, (labContracts.schemaSha256 schema).all sha256Pattern = true := by
      intro schema
      cases schema <;> decide +kernel
    have here := checked schema
    unfold Contracts.sha256 at known
    split at known
    · rename_i found given
      rw [given] at here
      exact Except.ok.inj known ▸ here
    · cases known

/-- The dataset of some events with the boundaries of the capture. -/
def gateDataset (events : List Json) : Except TrainingError Progress :=
  buildDataset gatePython labContracts (featureEngine gatePython labValues none) "0123abc" events captureScenarios
    .networkWindow captureBounds

/-- One address has a flow before and a flow after a boundary within the day. -/
def acrossBoundary : List Json :=
  [captured "10.0.0.1" "01", captured "10.0.0.1" "11", captured "10.0.0.3" "12", captured "10.0.0.4" "21",
    captured "10.0.0.5" "22"]

/-- Events that share an id or a session are in one partition. -/
def sameSide (event other : Json) : Bool :=
  match eventTime gatePython event, eventEntity .networkWindow event, eventTime gatePython other,
      eventEntity .networkWindow other with
  | .ok time, some entity, .ok moment, some owner =>
      decide (idText event = idText other ∨
        sessionAt captureScenarios entity time = sessionAt captureScenarios owner moment →
          partitionOf captureBounds (floorWindow time) = partitionOf captureBounds (floorWindow moment))
  | _, _, _, _ => false

/-- The capture whose edge flow comes after the scenario is separated. -/
theorem capture_separated :
    Separated gatePython captureBounds captureScenarios .networkWindow (capture "06") := by
  constructor
  · intro event time entity name other moment owner part keeps keeps' different
    have sides : (capture "06").all (fun event => (capture "06").all (sameSide event)) = true := by decide +kernel
    have side := List.all_eq_true.mp (List.all_eq_true.mp sides event (mem_windowEvents.mp keeps.member).1) other
      (mem_windowEvents.mp keeps'.member).1
    simp only [sameSide, keeps.parsed, keeps.named, keeps'.parsed, keeps'.named, keeps.window.1, keeps'.window.1,
      sessionAt_inj, decide_eq_true_eq, Option.some.injEq] at side
    constructor
    · exact fun same => different (side (.inl same))
    · exact fun same => different (side (.inr same))
  · intro start entity name _
    have distinct : ((capture "06").map idText).Nodup := by decide +kernel
    exact distinct.sublist ((List.filter_sublist.trans List.filter_sublist).map idText)

def captureProvenance : Provenance where
  datasetId := "capture-1"
  createdAt := deskTime + seconds 3600
  sources := ["suricata"]
  eventsSha256 := Sha256.hexDigest "events"
  collectorConfigSha256 := Sha256.hexDigest "collector"
  normalizationSchemaSha256 := Sha256.hexDigest "normalization"
  rawDataLocationClass := "local_ignored"

end Gates

end ClosedLoop.Training
