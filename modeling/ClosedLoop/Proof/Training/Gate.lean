import ClosedLoop.Construction.Training.Documents
import ClosedLoop.Library.Sha256
import ClosedLoop.Proof.Decision.Binding
import Mathlib.Order.Interval.Set.Disjoint
import Mathlib.Data.Int.ConditionallyCompleteOrder
import Mathlib.Order.CompletePartialOrder

namespace ClosedLoop.Training

open ClosedLoop.Library ClosedLoop.Response ClosedLoop.Workers

section Conclusions

variable (python : Python)

/-- The entity and the window of a vector. -/
def keyOf (vector : Json) : Except GateFailure (String × Int × Int) := do
  let entity ← entityOf vector
  let windowStart ← timestampOf python (← item vector "window_start")
  let windowEnd ← timestampOf python (← item vector "window_end")
  return (entity, windowStart, windowEnd)

/-- The range of a partition in the manifest. -/
def partitionRange (manifest : Json) (name : Partition) : Except GateFailure (Int × Int) := do
  rangeOf python (← item (← item manifest "split") name.text)

/-- The memberships of a partition in the ledger. -/
def membershipsOf (ledger : Json) (name : Partition) : Except GateFailure (List Json) := do
  iterate (← item (← item (← item ledger "partitions") name.text) "memberships")

/-- The ids that a membership has in one of its fields. -/
def listedIds (field : String) (member : Json) : Except GateFailure (List String) := do identifiersOf (← item member field)

/-- A membership has the hashes of its vector. -/
def BoundTo (vector member : Json) : Prop :=
  item member "vector_sha256" = .ok (.str (sha256Hex python vector)) ∧
    ∃ identifiers, listedIds "source_event_ids" member = .ok identifiers ∧
      item vector "source_event_set_sha256" =
        .ok (.str (python.sha256Hex (String.intercalate "\n" (sortNames identifiers))))

/-- No id of a field is listed in two partitions. -/
def Unshared (field : String) (memberships : Partition → List Json) : Prop :=
  ∀ name part, name ≠ part → ∀ member ∈ memberships name, ∀ other ∈ memberships part, ∀ identifiers others,
    listedIds field member = .ok identifiers → listedIds field other = .ok others →
      ∀ identifier ∈ identifiers, identifier ∉ others

/-- What the gate promises about a dataset. The windows and the memberships are given by their partitions. -/
structure SoundDataset (documents : Documents) (ledger : Json) (range : Partition → Int × Int) (outer : Int × Int)
    (keys : Partition → List (String × Int × Int)) (memberships : Partition → List Json) : Prop where
  ranges : ∀ name, partitionRange python documents.manifest name = .ok (range name)
  whole : (do rangeOf python (← item documents.manifest "time_range")) = .ok outer
  nonempty : ∀ name, (range name).1 < (range name).2
  ordered : (range .train).2 ≤ (range .validation).1 ∧ (range .validation).2 ≤ (range .test).1
  disjoint : ∀ name part, name ≠ part →
    Disjoint (Set.Ico (range name).1 (range name).2) (Set.Ico (range part).1 (range part).2)
  within : ∀ name, outer.1 ≤ (range name).1 ∧ (range name).2 ≤ outer.2
  read : ∀ name, (documents.vectors name).mapM (keyOf python) = .ok (keys name)
  inside : ∀ name, ∀ key ∈ keys name, (range name).1 ≤ key.2.1 ∧ key.2.1 < key.2.2 ∧ key.2.2 ≤ (range name).2
  unique : (partitionNames.flatMap keys).Nodup
  listed : ∀ name, membershipsOf ledger name = .ok (memberships name)
  bound : ∀ name, List.Forall₂ (BoundTo python) (documents.vectors name) (memberships name)
  sources : Unshared "source_event_ids" memberships
  sessions : Unshared "session_ids" memberships

end Conclusions

section Turns

variable {python : Python} {libraries : GateLibraries} {schema : Json} {start stop : Int} {name : Partition} {scan next : Scan}

/-- A value is a text when it is that text. -/
theorem isText_iff {value : Json} {text : String} : isText value text = true ↔ value = .str text := by
  cases value <;> simp [isText]

/-- What one turn of the loop over the vectors has checked. -/
structure Checked (python : Python) (start stop : Int) (name : Partition) (scan next : Scan) (row : Json × Json)
    (key : String × Int × Int) : Prop where
  identity : keyOf python row.1 = .ok key
  inside : start ≤ key.2.1 ∧ key.2.1 < key.2.2 ∧ key.2.2 ≤ stop
  fresh : key ∉ scan.seen
  seen : next.seen = key :: scan.seen
  bound : BoundTo python row.1 row.2
  sources : ∃ identifiers, listedIds "source_event_ids" row.2 = .ok identifiers ∧
    claimDocument name scan.sourceOwners identifiers = .ok next.sourceOwners
  sessions : ∃ identifiers, listedIds "session_ids" row.2 = .ok identifiers ∧
    claimDocument name scan.sessionOwners identifiers = .ok next.sessionOwners

/-- A window that is inside of a range is read from its two fields. -/
theorem windowInside_ok {vector : Json} {window : Int × Int}
    (ok : windowInside python vector start stop = .ok window) :
    (∃ field, item vector "window_start" = .ok field ∧ timestampOf python field = .ok window.1) ∧
      (∃ field, item vector "window_end" = .ok field ∧ timestampOf python field = .ok window.2) ∧
      start ≤ window.1 ∧ window.1 < window.2 ∧ window.2 ≤ stop := by
  simp only [windowInside, Check.bind_ok, Check.guard_ok, Check.pure_ok] at ok
  obtain ⟨opening, opens, windowStart, starts, _, early, closing, closes, windowEnd, ends, _, late, rfl⟩ := ok
  exact ⟨⟨opening, opens, starts⟩, ⟨closing, closes, ends⟩, early, late⟩

/-- The key that a turn adds is the one of its vector. -/
theorem freshKey_ok {vector : Json} {seen : List (String × Int × Int)} {key : String × Int × Int}
    (ok : freshKey python start stop seen vector = .ok key) :
    keyOf python vector = .ok key ∧ (start ≤ key.2.1 ∧ key.2.1 < key.2.2 ∧ key.2.2 ≤ stop) ∧ key ∉ seen := by
  simp only [freshKey, Check.bind_ok, Check.guard_ok, Check.pure_ok] at ok
  obtain ⟨window, inside, entity, named, _, fresh, rfl⟩ := ok
  obtain ⟨⟨opening, opens, starts⟩, ⟨closing, closes, ends⟩, bounds⟩ := windowInside_ok inside
  refine ⟨?_, bounds, fresh⟩
  simp only [keyOf, Check.bind_ok, Check.pure_ok]
  exact ⟨entity, named, opening, opens, window.1, starts, closing, closes, window.2, ends, rfl⟩

/-- A hash that is computed is the canonical one. -/
theorem canonicalHash_ok {value : Json} {hash : String} (ok : canonicalHash python value = .ok hash) :
    hash = sha256Hex python value := by
  unfold canonicalHash at ok
  split at ok
  · exact (Except.ok.inj ok).symm
  · cases ok

/-- A membership that passes has the hash of its vector. -/
theorem requireBinding_ok {vector member : Json} {passed : Unit} (ok : requireBinding python vector member = .ok passed) :
    item member "vector_sha256" = .ok (.str (sha256Hex python vector)) := by
  simp only [requireBinding, Check.bind_ok, Check.guard_ok] at ok
  obtain ⟨_, -, digest, listed, hash, computed, same⟩ := ok
  rw [listed, isText_iff.mp same, canonicalHash_ok computed]

/-- The ids of a field are read, and then they are claimed. -/
theorem claimField_ok {field : String} {owners : Table String Partition} {member : Json}
    {claimed : List String × Table String Partition} (ok : claimField field name owners member = .ok claimed) :
    listedIds field member = .ok claimed.1 ∧ claimDocument name owners claimed.1 = .ok claimed.2 := by
  simp only [claimField, Check.bind_ok, Check.pure_ok] at ok
  obtain ⟨value, found, identifiers, read, later, claims, rfl⟩ := ok
  refine ⟨?_, claims⟩
  simp only [listedIds, Check.bind_ok]
  exact ⟨value, found, read⟩

/-- The accepted hash of the source events is the one over their sorted identifiers. -/
theorem requireSources_ok {vector : Json} {identifiers : List String} {passed : Unit}
    (ok : requireSources python vector identifiers = .ok passed) :
    item vector "source_event_set_sha256" =
      .ok (.str (python.sha256Hex (String.intercalate "\n" (sortNames identifiers)))) := by
  simp only [requireSources, Check.bind_ok, Check.guard_ok] at ok
  obtain ⟨kept, found, agrees⟩ := ok
  rw [found, isText_iff.mp agrees]

/-- One row that is accepted was checked in every stage. -/
theorem checkDocument_checked {row : Json × Json}
    (ok : checkDocument python libraries schema start stop name scan row = .ok next) :
    ∃ key, Checked python start stop name scan next row key := by
  simp only [checkDocument, Check.bind_ok, Check.pure_ok] at ok
  obtain ⟨_, -, key, keyed, _, bound, sources, claimed, sessions, alsoClaimed, _, kept, rfl⟩ := ok
  obtain ⟨identity, inside, fresh⟩ := freshKey_ok keyed
  obtain ⟨sourceIds, sourceOwners⟩ := claimField_ok claimed
  obtain ⟨sessionIds, sessionOwners⟩ := claimField_ok alsoClaimed
  exact ⟨key, { identity, inside, fresh, seen := rfl
                bound := ⟨requireBinding_ok bound, sources.1, sourceIds, requireSources_ok kept⟩
                sources := ⟨sources.1, sourceIds, sourceOwners⟩
                sessions := ⟨sessions.1, sessionIds, sessionOwners⟩ }⟩

/-- Every id of the rows has the partition as its owner. -/
def Owned (field : String) (name : Partition) (members : List Json) (owners : Table String Partition) : Prop :=
  ∀ member ∈ members, ∃ identifiers, listedIds field member = .ok identifiers ∧
    ∀ identifier ∈ identifiers, owners.find? identifier = some name

/-- Owners stay. -/
def Extends (owners later : Table String Partition) : Prop :=
  ∀ identifier part, owners.find? identifier = some part → later.find? identifier = some part

/-- Owners that are added later take nothing away. -/
theorem Owned.extend {field : String} {members : List Json} {owners later : Table String Partition}
    (owned : Owned field name members owners) (stays : Extends owners later) : Owned field name members later := by
  intro member listed
  obtain ⟨identifiers, read, each⟩ := owned member listed
  exact ⟨identifiers, read, fun identifier inside => stays identifier name (each identifier inside)⟩

/-- Identifiers that are claimed belong to the partition, and nobody loses one. -/
theorem claimDocument_spec {identifiers : List String} {owners later : Table String Partition}
    (ok : claimDocument name owners identifiers = .ok later) :
    Extends owners later ∧ ∀ identifier ∈ identifiers, later.find? identifier = some name := by
  refine ⟨fun identifier part known => Owners.claimAll_keeps ok known, fun identifier listed => ?_⟩
  rw [Owners.claimAll_find?_eq ok, if_pos listed]

/-- What the loop over the vectors of a partition has checked. -/
structure Scanned (python : Python) (start stop : Int) (name : Partition) (scan last : Scan) (rows : List (Json × Json))
    (keys : List (String × Int × Int)) : Prop where
  read : List.Forall₂ (fun row key => keyOf python row.1 = .ok key) rows keys
  inside : ∀ key ∈ keys, start ≤ key.2.1 ∧ key.2.1 < key.2.2 ∧ key.2.2 ≤ stop
  distinct : keys.Nodup
  fresh : ∀ key ∈ keys, key ∉ scan.seen
  bound : ∀ row ∈ rows, BoundTo python row.1 row.2
  sources : Owned "source_event_ids" name (rows.map Prod.snd) last.sourceOwners
  sessions : Owned "session_ids" name (rows.map Prod.snd) last.sessionOwners
  keptSources : Extends scan.sourceOwners last.sourceOwners
  keptSessions : Extends scan.sessionOwners last.sessionOwners

/-- Rows that are accepted were all checked, one after another. -/
theorem scanned_of_ok {rows : List (Json × Json)} {last : Scan}
    (ok : rows.foldlM (checkDocument python libraries schema start stop name) scan = .ok last) :
    ∃ keys, Scanned python start stop name scan last rows keys := by
  induction rows generalizing scan with
  | nil =>
      cases ok
      exact ⟨[], .nil, by simp, List.nodup_nil, by simp, by simp, by simp [Owned], by simp [Owned], fun _ _ known => known,
        fun _ _ known => known⟩
  | cons row rest ih =>
      rw [List.foldlM_cons, Check.bind_ok] at ok
      obtain ⟨next, one, more⟩ := ok
      obtain ⟨key, checked⟩ := checkDocument_checked one
      obtain ⟨keys, scanned⟩ := ih more
      obtain ⟨sources, sourceIds, sourceClaims⟩ := checked.sources
      obtain ⟨sessions, sessionIds, sessionClaims⟩ := checked.sessions
      obtain ⟨sourcesStay, sourcesOwned⟩ := claimDocument_spec sourceClaims
      obtain ⟨sessionsStay, sessionsOwned⟩ := claimDocument_spec sessionClaims
      have later : ∀ other ∈ keys, other ≠ key ∧ other ∉ scan.seen := by
        intro other member
        have unseen := scanned.fresh other member
        rw [checked.seen] at unseen
        exact ⟨fun same => unseen (same ▸ List.mem_cons_self), fun earlier => unseen (List.mem_cons_of_mem _ earlier)⟩
      refine ⟨key :: keys, .cons checked.identity scanned.read, ?_, ?_, ?_, ?_, ?_, ?_, ?_, ?_⟩
      · exact List.forall_mem_cons.mpr ⟨checked.inside, scanned.inside⟩
      · exact List.nodup_cons.mpr ⟨fun member => (later key member).1 rfl, scanned.distinct⟩
      · exact List.forall_mem_cons.mpr ⟨checked.fresh, fun other member => (later other member).2⟩
      · exact List.forall_mem_cons.mpr ⟨checked.bound, scanned.bound⟩
      · refine List.forall_mem_cons.mpr ⟨⟨sources, sourceIds, fun identifier listed => ?_⟩, scanned.sources⟩
        exact scanned.keptSources _ _ (sourcesOwned identifier listed)
      · refine List.forall_mem_cons.mpr ⟨⟨sessions, sessionIds, fun identifier listed => ?_⟩, scanned.sessions⟩
        exact scanned.keptSessions _ _ (sessionsOwned identifier listed)
      · exact fun identifier part known => scanned.keptSources _ _ (sourcesStay identifier part known)
      · exact fun identifier part known => scanned.keptSessions _ _ (sessionsStay identifier part known)

end Turns

section Partitions

variable {python : Python} {libraries : GateLibraries} {documents : Documents} {ledger : Json} {outerEnd : Int}
  {gate next : Gate} {name : Partition}

/-- What one turn of the loop over the partitions has checked. -/
structure Passed (python : Python) (documents : Documents) (ledger : Json) (outerEnd : Int) (gate next : Gate)
    (name : Partition) (range : Int × Int) (keys : List (String × Int × Int)) (members : List Json) : Prop where
  ranged : partitionRange python documents.manifest name = .ok range
  ordered : gate.previousEnd ≤ range.1 ∧ range.1 < range.2 ∧ range.2 ≤ outerEnd
  ends : next.previousEnd = range.2
  read : (documents.vectors name).mapM (keyOf python) = .ok keys
  inside : ∀ key ∈ keys, range.1 ≤ key.2.1 ∧ key.2.1 < key.2.2 ∧ key.2.2 ≤ range.2
  distinct : keys.Nodup
  listed : membershipsOf ledger name = .ok members
  bound : List.Forall₂ (BoundTo python) (documents.vectors name) members
  sources : Owned "source_event_ids" name members next.sourceOwners
  sessions : Owned "session_ids" name members next.sessionOwners
  keptSources : Extends gate.sourceOwners next.sourceOwners
  keptSessions : Extends gate.sessionOwners next.sessionOwners

/-- The accepted bounds are in order and inside the ones around them. -/
theorem orderedRange_ok {bounds : Json} {previousEnd : Int} {range : Int × Int}
    (ok : orderedRange python bounds previousEnd outerEnd = .ok range) :
    rangeOf python bounds = .ok range ∧ previousEnd ≤ range.1 ∧ range.1 < range.2 ∧ range.2 ≤ outerEnd := by
  simp only [orderedRange, Check.bind_ok, Check.guard_ok, Check.pure_ok] at ok
  obtain ⟨_, read, _, ordered, rfl⟩ := ok
  exact ⟨read, ordered⟩

/-- The part of a partition is the one in the ledger. -/
theorem partOf_ok {part : Json} (ok : partOf libraries documents ledger name = .ok part) :
    ∃ partitions, item ledger "partitions" = .ok partitions ∧ item partitions name.text = .ok part := by
  simp only [partOf, Check.bind_ok, Check.pure_ok] at ok
  obtain ⟨partitions, listed, part, present, names, -, digest, -, same, -, rfl⟩ := ok
  exact ⟨partitions, listed, present⟩

/-- Each vector has a membership. -/
theorem rowsOf_ok {vectors : List Json} {bounds part : Json} {rows : List (Json × Json)}
    (ok : rowsOf vectors bounds part = .ok rows) : ∃ field members, item part "memberships" = .ok field ∧
      iterate field = .ok members ∧ vectors.length = members.length ∧ rows = vectors.zip members := by
  simp only [rowsOf, Check.bind_ok, Check.guard_ok, Check.pure_ok] at ok
  obtain ⟨field, given, members, iterated, count, -, _, counted, rfl⟩ := ok
  exact ⟨field, members, given, iterated, counted.2, rfl⟩

/-- A partition that is accepted passed in every stage. -/
theorem checkDocuments_passed (ok : checkDocuments python libraries documents ledger outerEnd gate name = .ok next) :
    ∃ range keys members, Passed python documents ledger outerEnd gate next name range keys members := by
  simp only [checkDocuments, Check.bind_ok, Check.pure_ok] at ok
  obtain ⟨split, divided, bounds, bounded, range, ranged, _, -, part, present, rows, paired, schema, -, scan, scans, _, -, _,
    -, rfl⟩ := ok
  obtain ⟨readRange, ordered⟩ := orderedRange_ok ranged
  obtain ⟨partitions, listed, found⟩ := partOf_ok present
  obtain ⟨field, members, given, iterated, counted, rfl⟩ := rowsOf_ok paired
  obtain ⟨keys, scanned⟩ := scanned_of_ok scans
  have firsts : ((documents.vectors name).zip members).map Prod.fst = documents.vectors name :=
    List.map_fst_zip counted.le
  have seconds : ((documents.vectors name).zip members).map Prod.snd = members := List.map_snd_zip counted.ge
  refine ⟨range, keys, members, { ranged := ?_, ordered, ends := rfl, read := ?_, inside := scanned.inside
                                  distinct := scanned.distinct, listed := ?_, bound := ?_
                                  sources := seconds ▸ scanned.sources, sessions := seconds ▸ scanned.sessions
                                  keptSources := scanned.keptSources, keptSessions := scanned.keptSessions }⟩
  · simp only [partitionRange, Check.bind_ok]
    exact ⟨split, divided, bounds, bounded, readRange⟩
  · rw [Check.mapM_ok, ← firsts, List.forall₂_map_left_iff]
    exact scanned.read
  · simp only [membershipsOf, Check.bind_ok]
    exact ⟨partitions, listed, part, found, field, given, iterated⟩
  · rw [List.forall₂_iff_zip]
    exact ⟨counted, fun member => scanned.bound _ member⟩

/-- Partitions whose owners agree share no id. -/
theorem Owned.unshared {field : String} {owners : Table String Partition} {memberships : Partition → List Json}
    (owned : ∀ name, Owned field name (memberships name) owners) : Unshared field memberships := by
  intro name part different member listed other alsoListed identifiers others read alsoRead identifier here there
  obtain ⟨_, known, each⟩ := owned name member listed
  obtain ⟨_, alsoKnown, alsoEach⟩ := owned part other alsoListed
  cases read.symm.trans known
  cases alsoRead.symm.trans alsoKnown
  have both := (each identifier here).symm.trans (alsoEach identifier there)
  exact different (Option.some.inj both)

/-- A value for each partition. -/
def perPartition {α : Type} (train validation test : α) : Partition → α
  | .train => train
  | .validation => validation
  | .test => test

/-- What holds of the three partitions holds of all. -/
theorem forall_partition {holds : Partition → Prop} (train : holds .train) (validation : holds .validation)
    (test : holds .test) (name : Partition) : holds name := by
  cases name with
  | train => exact train
  | validation => exact validation
  | test => exact test

/-- Ranges in their order have nothing in common. -/
theorem disjoint_of_ordered {range : Partition → Int × Int} (nonempty : ∀ name, (range name).1 < (range name).2)
    (ordered : (range .train).2 ≤ (range .validation).1 ∧ (range .validation).2 ≤ (range .test).1) {name part : Partition}
    (different : name ≠ part) :
    Disjoint (Set.Ico (range name).1 (range name).2) (Set.Ico (range part).1 (range part).2) := by
  have first := nonempty .train
  have second := nonempty .validation
  have third := nonempty .test
  rw [Set.disjoint_left]
  rintro time ⟨low, high⟩ ⟨low', high'⟩
  cases name <;> cases part <;> first | exact different rfl | omega

/-- Windows of different partitions are different. -/
theorem keys_unique {range : Partition → Int × Int} {keys : Partition → List (String × Int × Int)}
    (disjoint : ∀ name part, name ≠ part →
      Disjoint (Set.Ico (range name).1 (range name).2) (Set.Ico (range part).1 (range part).2))
    (distinct : ∀ name, (keys name).Nodup)
    (inside : ∀ name, ∀ key ∈ keys name, (range name).1 ≤ key.2.1 ∧ key.2.1 < key.2.2 ∧ key.2.2 ≤ (range name).2) :
    (partitionNames.flatMap keys).Nodup := by
  rw [List.nodup_flatMap]
  refine ⟨fun name _ => distinct name, ?_⟩
  have names : partitionNames.Nodup := by decide
  refine names.imp fun {name part} different => ?_
  intro key here there
  obtain ⟨low, short, high⟩ := inside name key here
  obtain ⟨low', short', high'⟩ := inside part key there
  exact Set.disjoint_left.mp (disjoint name part different) ⟨low, by omega⟩ ⟨low', by omega⟩

end Partitions

section Hashes

variable {python : Python}

/-- A field that is a text is the same in documents with the same canonical text. -/
theorem item_of_canonical {first second : Json} (same : first.canonical = second.canonical) {name text : String}
    (found : item first name = .ok (.str text)) : item second name = .ok (.str text) := by
  have equal := Json.canonical_eq_iff.mp same
  unfold item at found
  split at found
  · rename_i fields
    split at found
    · rename_i value present
      cases found
      cases second with
      | obj others =>
          have values := Json.canonical_field same name
          rw [present, Option.map_some] at values
          obtain ⟨other, there, written⟩ := Option.map_eq_some_iff.mp values.symm
          have sorted := Json.canonical_eq_iff.mp written
          have text : other = .str text := by
            cases other with
            | str _ => simpa [Json.sortKeys] using sorted
            | _ => simp [Json.sortKeys] at sorted
          rw [item, there, text]
      | _ => simp [Json.sortKeys] at equal
    · cases found
  · cases found

/-- A time is read from a text. -/
theorem timestampOf_text {value : Json} {time : Int} (parsed : timestampOf python value = .ok time) :
    ∃ text, value = .str text := by
  cases value with
  | str text => exact ⟨text, rfl⟩
  | _ => cases parsed

/-- Vectors with the same canonical text describe the same window of the same entity. -/
theorem keyOf_of_canonical {first second : Json} (same : first.canonical = second.canonical) {key : String × Int × Int}
    (read : keyOf python first = .ok key) : keyOf python second = .ok key := by
  simp only [keyOf, entityOf, Check.bind_ok, Check.pure_ok] at read ⊢
  obtain ⟨entity, ⟨field, named, texted⟩, opening, opens, windowStart, starts, closing, closes, windowEnd, ends, rfl⟩ := read
  obtain ⟨name, rfl⟩ : ∃ name, field = .str name := by
    cases field with
    | str name => exact ⟨name, rfl⟩
    | _ => cases texted
  obtain ⟨startText, rfl⟩ := timestampOf_text starts
  obtain ⟨endText, rfl⟩ := timestampOf_text ends
  exact ⟨entity, ⟨_, item_of_canonical same named, texted⟩, _, item_of_canonical same opens, windowStart, starts, _,
    item_of_canonical same closes, windowEnd, ends, rfl⟩

/-- Two lists that go together have items at the same places. -/
theorem forall₂_getElem? {α β : Type} {related : α → β → Prop} {items : List α} {others : List β}
    (each : List.Forall₂ related items others) {index : Nat} {other : β} (found : others[index]? = some other) :
    ∃ item, items[index]? = some item ∧ related item other := by
  induction each generalizing index with
  | nil => simp at found
  | cons here _ ih =>
      cases index with
      | zero =>
          cases found
          exact ⟨_, rfl, here⟩
      | succ index => exact ih found

/-- A membership with the hash of a vector is the one in the place of the vector. -/
theorem SoundDataset.one_to_one {documents : Documents} {ledger : Json} {range : Partition → Int × Int} {outer : Int × Int}
    {keys : Partition → List (String × Int × Int)} {memberships : Partition → List Json}
    (sound : SoundDataset python documents ledger range outer keys memberships)
    (free : CollisionFree python ((partitionNames.flatMap documents.vectors).map Json.canonical))
    {name part : Partition} {first second : Nat} {vector member : Json}
    (placed : (documents.vectors name)[first]? = some vector) (listed : (memberships part)[second]? = some member)
    (hashed : item member "vector_sha256" = .ok (.str (sha256Hex python vector))) : name = part ∧ first = second := by
  have named : ∀ part, part ∈ partitionNames := forall_partition (by decide) (by decide) (by decide)
  obtain ⟨other, there, bound⟩ := forall₂_getElem? (sound.bound part) listed
  have digests : sha256Hex python vector = sha256Hex python other := by
    have equal := hashed.symm.trans bound.1
    injection equal with texts
    injection texts
  have member : ∀ {part index} {document : Json}, (documents.vectors part)[index]? = some document →
      document.canonical ∈ (partitionNames.flatMap documents.vectors).map Json.canonical := fun found =>
    List.mem_map.mpr ⟨_, List.mem_flatMap.mpr ⟨_, named _, List.mem_of_getElem? found⟩, rfl⟩
  have same := free _ (member placed) _ (member there) digests
  obtain ⟨key, keyed, read⟩ := forall₂_getElem? (Check.mapM_ok.mp (sound.read name)).flip placed
  obtain ⟨key', keyed', read'⟩ := forall₂_getElem? (Check.mapM_ok.mp (sound.read part)).flip there
  cases (keyOf_of_canonical same read).symm.trans read'
  have windows := sound.inside name key (List.mem_of_getElem? keyed)
  have windows' := sound.inside part key (List.mem_of_getElem? keyed')
  have owners : name = part := by
    by_contra different
    exact Set.disjoint_left.mp (sound.disjoint name part different) ⟨windows.1, by omega⟩ ⟨windows'.1, by omega⟩
  subst owners
  refine ⟨rfl, ?_⟩
  have distinct := (List.nodup_flatMap.mp sound.unique).1 name (named name)
  exact (List.getElem?_inj (List.getElem?_eq_some_iff.mp keyed).1 distinct).mp (keyed.trans keyed'.symm)

end Hashes

/-- The accepted ledger is the one in the assignment file. -/
theorem ledgerOf_ok {libraries : GateLibraries} {documents : Documents} {ledger : Json}
    (ok : ledgerOf libraries documents = .ok ledger) : documents.assignment.bind libraries.loads = some ledger := by
  simp only [ledgerOf, Check.bind_ok] at ok
  obtain ⟨split, -, digest, -, same, -, checks⟩ := ok
  split at checks
  · cases checks
  · rename_i ledger loaded
    simp only [Check.bind_ok, Check.guard_ok, Check.pure_ok, exists_const] at checks
    obtain ⟨names, -, version, -, -, partitions, -, all, -, rfl⟩ := checks
    exact loaded

/-- What the gate accepts is sound. -/
theorem validateDocuments_sound {python : Python} {libraries : GateLibraries} {documents : Documents}
    (accepted : validateDocuments python libraries documents = .ok ()) :
    ∃ ledger range outer keys memberships, documents.assignment.bind libraries.loads = some ledger ∧
      SoundDataset python documents ledger range outer keys memberships := by
  simp only [validateDocuments, Check.bind_ok] at accepted
  obtain ⟨_, -, ledger, opened, field, spanned, outer, ranged, gate, loop, _⟩ := accepted
  have loaded := ledgerOf_ok opened
  simp only [partitionNames, List.foldlM_cons, List.foldlM_nil, Check.bind_ok] at loop
  obtain ⟨afterTrain, train, afterValidation, validation, afterTest, test, _⟩ := loop
  obtain ⟨trainRange, trainKeys, trainMembers, train⟩ := checkDocuments_passed train
  obtain ⟨validationRange, validationKeys, validationMembers, validation⟩ := checkDocuments_passed validation
  obtain ⟨testRange, testKeys, testMembers, test⟩ := checkDocuments_passed test
  have early : outer.1 ≤ trainRange.1 ∧ trainRange.1 < trainRange.2 ∧ trainRange.2 ≤ outer.2 := train.ordered
  have middle := validation.ordered
  have late := test.ordered
  rw [train.ends] at middle
  rw [validation.ends] at late
  have nonempty : ∀ name, (perPartition trainRange validationRange testRange name).1 <
      (perPartition trainRange validationRange testRange name).2 :=
    forall_partition early.2.1 middle.2.1 late.2.1
  have ordered : trainRange.2 ≤ validationRange.1 ∧ validationRange.2 ≤ testRange.1 := ⟨middle.1, late.1⟩
  have inside : ∀ name, ∀ key ∈ perPartition trainKeys validationKeys testKeys name,
      (perPartition trainRange validationRange testRange name).1 ≤ key.2.1 ∧ key.2.1 < key.2.2 ∧
        key.2.2 ≤ (perPartition trainRange validationRange testRange name).2 :=
    forall_partition train.inside validation.inside test.inside
  refine ⟨ledger, perPartition trainRange validationRange testRange, outer, perPartition trainKeys validationKeys testKeys,
    perPartition trainMembers validationMembers testMembers, loaded, ?_⟩
  refine { ranges := forall_partition train.ranged validation.ranged test.ranged
           whole := ?_
           nonempty := nonempty
           ordered := ordered
           disjoint := fun name part different => disjoint_of_ordered nonempty ordered different
           within := ?_
           read := forall_partition train.read validation.read test.read
           inside := inside
           unique := ?_
           listed := forall_partition train.listed validation.listed test.listed
           bound := forall_partition train.bound validation.bound test.bound
           sources := ?_
           sessions := ?_ }
  · rw [Check.bind_ok]
    exact ⟨field, spanned, ranged⟩
  · have lower : ∀ name, outer.1 ≤ (perPartition trainRange validationRange testRange name).1 :=
      forall_partition early.1 (by change outer.1 ≤ validationRange.1; omega) (by change outer.1 ≤ testRange.1; omega)
    have upper : ∀ name, (perPartition trainRange validationRange testRange name).2 ≤ outer.2 :=
      forall_partition early.2.2 middle.2.2 late.2.2
    exact fun name => ⟨lower name, upper name⟩
  · exact keys_unique (fun name part different => disjoint_of_ordered nonempty ordered different)
      (forall_partition train.distinct validation.distinct test.distinct) inside
  · exact Owned.unshared (forall_partition
      ((train.sources.extend validation.keptSources).extend test.keptSources)
      (validation.sources.extend test.keptSources) test.sources)
  · exact Owned.unshared (forall_partition
      ((train.sessions.extend validation.keptSessions).extend test.keptSessions)
      (validation.sessions.extend test.keptSessions) test.sessions)

/-- What the gate accepts is sound, and where the digests tell the vectors apart each vector has one membership. -/
theorem partition_gate_sound {python : Python} {libraries : GateLibraries} {documents : Documents}
    (accepted : validateDocuments python libraries documents = .ok ()) :
    ∃ ledger range outer keys memberships, documents.assignment.bind libraries.loads = some ledger ∧
      SoundDataset python documents ledger range outer keys memberships ∧
      (CollisionFree python ((partitionNames.flatMap documents.vectors).map Json.canonical) →
        ∀ name part (first second : Nat) vector member, (documents.vectors name)[first]? = some vector →
          (memberships part)[second]? = some member →
          item member "vector_sha256" = .ok (.str (sha256Hex python vector)) → name = part ∧ first = second) := by
  obtain ⟨ledger, range, outer, keys, memberships, loaded, sound⟩ := validateDocuments_sound accepted
  refine ⟨ledger, range, outer, keys, memberships, loaded, sound, ?_⟩
  intro free name part first second vector member placed listed hashed
  exact sound.one_to_one free placed listed hashed

section Lab

def gateMinutes : Table String Int :=
  [("2026-01-01T00:00:00Z", 1767225600000000), ("2026-01-01T00:05:00Z", 1767225900000000),
    ("2026-01-01T00:10:00Z", 1767226200000000), ("2026-01-01T00:15:00Z", 1767226500000000)]

def gateLab : Python where
  sha256Hex := Sha256.hexDigest
  fromIsoformat text := (gateMinutes.find? text).map .aware
  lower := String.toLower
  upper := String.toUpper
  repr text := "'" ++ text ++ "'"

/-- The minutes at which the window of a partition opens and closes. -/
def gateMinute : Partition → String × String
  | .train => ("2026-01-01T00:00:00Z", "2026-01-01T00:05:00Z")
  | .validation => ("2026-01-01T00:05:00Z", "2026-01-01T00:10:00Z")
  | .test => ("2026-01-01T00:10:00Z", "2026-01-01T00:15:00Z")

/-- The vector of one host in the window of a partition. -/
def gateVector (name : Partition) : Json :=
  .obj [("schema_version", .str "endpoint-window-v1"), ("feature_schema", .str "endpoint-window-v1"),
    ("feature_schema_sha256", .str "f350453ec05aff6ef2e92ee884ef800a9aa563b691e45f7acee56bdb89807d88"),
    ("vector_id", .str name.text), ("entity_type", .str "host"), ("entity", .str "h1"),
    ("window_start", .str (gateMinute name).1), ("window_end", .str (gateMinute name).2),
    ("window_duration", .str "5m"), ("source_event_count", .int 1),
    ("source_event_set_sha256", .str (Sha256.hexDigest name.text)),
    ("generator_git_sha", .str "0123abc"), ("generated_at", .str (gateMinute name).2),
    ("features", .obj (FeatureSchema.endpointWindow.features.map fun name => (name, .int 0)))]

def gateBounds (name : Partition) (profile : String) : Json :=
  .obj [("start", .str (gateMinute name).1), ("end", .str (gateMinute name).2), ("vector_count", .int 1),
    ("session_ids_sha256", .str (namesHash gateLab [name.text])), ("label_profile", .str profile)]

def gateMember (name : Partition) : Json :=
  .obj [("vector_sha256", .str (sha256Hex gateLab (gateVector name))), ("source_event_ids", .arr [.str name.text]),
    ("session_ids", .arr [.str name.text])]

def gatePart (name : Partition) : Json :=
  .obj [("vectors_sha256", .str (Sha256.hexDigestBytes [])), ("memberships", .arr [gateMember name])]

def gateLedger : Json :=
  .obj [("schema_version", .str "partition-membership-v1"), ("partitions",
    .obj [("train", gatePart .train), ("validation", gatePart .validation), ("test", gatePart .test)])]

/-- The bytes of the ledger. -/
def gateContent : List UInt8 := utf8 gateLedger.canonical

def gateDigest : String := Sha256.hexDigestBytes (gateContent.map UInt8.toNat)

def gateManifest : Json :=
  .obj [("schema_version", .str "dataset-manifest-v1"), ("dataset_id", .str "lab"), ("created_at", .str "2026-01-01T00:15:00Z"),
    ("time_range", .obj [("start", .str "2026-01-01T00:00:00Z"), ("end", .str "2026-01-01T00:15:00Z")]),
    ("sources", .arr [.str "wazuh"]), ("feature_schema", .str "endpoint-window-v1"),
    ("feature_schema_sha256", .str "f350453ec05aff6ef2e92ee884ef800a9aa563b691e45f7acee56bdb89807d88"),
    ("sha256", .str gateDigest), ("git_sha", .str "0123abc"), ("raw_data_committed", .bool false),
    ("raw_data_location_class", .str "local_ignored"),
    ("label_source", .obj [("method", .str "manual_review"), ("protocol_version", .str "1"), ("sha256", .str gateDigest)]),
    ("split", .obj [("strategy", .str "temporal_session_isolated"), ("session_assignment_sha256", .str gateDigest),
      ("train", gateBounds .train "benign_biased"), ("validation", gateBounds .validation "mixed"),
      ("test", gateBounds .test "held_out_attack")]),
    ("provenance", .obj [("normalization_schema_sha256", .str gateDigest), ("collector_config_sha256", .str gateDigest),
      ("source_manifest_sha256", .str gateDigest), ("feature_engine_git_sha", .str "0123abc"), ("generated_by", .str "lab")])]

/-- The libraries on the documents of the lab, which conform to their schemas. -/
def gateLibraries : GateLibraries where
  conforms _ := true
  validateVector _ := .ok ()
  sha256 content := Sha256.hexDigestBytes (content.map UInt8.toNat)
  loads _ := some gateLedger

def gateDocuments : Documents where
  manifest := gateManifest
  vectors name := [gateVector name]
  files _ := some []
  assignment := some gateContent

/-- A partition may claim a name that nobody has. -/
theorem claimDocument_fresh {name : Partition} {owners : Table String Partition} (fresh : owners.find? name.text = none) :
    claimDocument name owners [name.text] = .ok (owners.upsert name.text name) := by
  simp only [claimDocument, Owners.claimAll, List.foldlM_cons, List.foldlM_nil, Owners.claim, fresh]
  rfl

/-- The vector of the examples passes in every partition. -/
theorem gateVector_accepted (name : Partition) {start stop : Int} {sourceOwners sessionOwners : Table String Partition}
    (opens : timestampOf gateLab (.str (gateMinute name).1) = .ok start)
    (closes : timestampOf gateLab (.str (gateMinute name).2) = .ok stop) (ordered : start < stop)
    (sources : sourceOwners.find? name.text = none) (sessions : sessionOwners.find? name.text = none) :
    checkDocument gateLab gateLibraries (.str "endpoint-window-v1") start stop name ⟨[], [], sourceOwners, sessionOwners⟩
      (gateVector name, gateMember name) =
      .ok ⟨[("h1", start, stop)], [name.text], sourceOwners.upsert name.text name, sessionOwners.upsert name.text name⟩ := by
  have listed : identifiersOf (.arr [.str name.text]) = .ok [name.text] := by cases name <;> rfl
  have named : requireNames (gateMember name) ["vector_sha256", "source_event_ids", "session_ids"]
    "invalid membership fields" = .ok () := rfl
  have hashed : canonicalHash gateLab (gateVector name) = .ok (sha256Hex gateLab (gateVector name)) := by
    cases name <;> rfl
  have window : windowInside gateLab (gateVector name) start stop = .ok (start, stop) := by
    simp only [windowInside, Check.bind_ok, Check.guard_ok, Check.pure_ok]
    exact ⟨_, rfl, start, opens, (), le_refl _, _, rfl, stop, closes, (), ⟨ordered, le_refl _⟩, rfl⟩
  have key : freshKey gateLab start stop [] (gateVector name) = .ok ("h1", start, stop) := by
    simp only [freshKey, Check.bind_ok, Check.guard_ok, Check.pure_ok]
    exact ⟨(start, stop), window, "h1", rfl, (), List.not_mem_nil, rfl⟩
  have bound : requireBinding gateLab (gateVector name) (gateMember name) = .ok () := by
    simp only [requireBinding, Check.bind_ok, Check.guard_ok]
    exact ⟨(), named, _, rfl, _, hashed, isText_iff.mpr rfl⟩
  have claims (field : String) (known : field ∈ ["source_event_ids", "session_ids"]) (owners : Table String Partition)
      (fresh : owners.find? name.text = none) :
      claimField field name owners (gateMember name) = .ok ([name.text], owners.upsert name.text name) := by
    have found : item (gateMember name) field = .ok (.arr [.str name.text]) := by
      simp only [List.mem_cons, List.not_mem_nil, or_false] at known
      rcases known with rfl | rfl <;> rfl
    simp only [claimField, Check.bind_ok, Check.pure_ok]
    exact ⟨_, found, _, listed, _, claimDocument_fresh fresh, rfl⟩
  have kept : requireSources gateLab (gateVector name) [name.text] = .ok () := by
    simp only [requireSources, Check.bind_ok, Check.guard_ok]
    exact ⟨_, rfl, isText_iff.mpr rfl⟩
  simp only [checkDocument, Check.bind_ok, Check.pure_ok]
  exact ⟨(), rfl, _, key, (), bound, _, claims "source_event_ids" (by decide) _ sources, _,
    claims "session_ids" (by decide) _ sessions, (), kept, rfl⟩

theorem gatePartition_accepted (name : Partition) {previous start stop : Int} {sourceOwners sessionOwners : Table String Partition}
    (opens : timestampOf gateLab (.str (gateMinute name).1) = .ok start)
    (closes : timestampOf gateLab (.str (gateMinute name).2) = .ok stop)
    (ordered : previous ≤ start ∧ start < stop ∧ stop ≤ 1767226500000000)
    (sources : sourceOwners.find? name.text = none) (sessions : sessionOwners.find? name.text = none) :
    checkDocuments gateLab gateLibraries gateDocuments gateLedger 1767226500000000 ⟨previous, sourceOwners, sessionOwners⟩ name =
      .ok ⟨stop, sourceOwners.upsert name.text name, sessionOwners.upsert name.text name⟩ := by
  have accepted := gateVector_accepted name opens closes ordered.2.1 sources sessions
  obtain ⟨profile, bounds, benign⟩ : ∃ profile, item (.obj [("strategy", .str "temporal_session_isolated"),
      ("session_assignment_sha256", .str gateDigest), ("train", gateBounds .train "benign_biased"),
      ("validation", gateBounds .validation "mixed"), ("test", gateBounds .test "held_out_attack")]) name.text =
        .ok (gateBounds name profile) ∧ requireProfile name (gateBounds name profile) = .ok () := by
    cases name <;> exact ⟨_, rfl, rfl⟩
  have part : item (.obj [("train", gatePart .train), ("validation", gatePart .validation), ("test", gatePart .test)])
      name.text = .ok (gatePart name) := by
    cases name <;> rfl
  have loop : [(gateVector name, gateMember name)].foldlM
      (checkDocument gateLab gateLibraries (.str "endpoint-window-v1") start stop name) ⟨[], [], sourceOwners, sessionOwners⟩ =
      .ok ⟨[("h1", start, stop)], [name.text], sourceOwners.upsert name.text name, sessionOwners.upsert name.text name⟩ := by
    rw [List.foldlM_cons, accepted]
    rfl
  have digest : requireDigest gateLibraries (some []) (.str (Sha256.hexDigestBytes [])) "vector file digest mismatch" = .ok () :=
    Check.guard_ok.mpr (isText_iff.mpr rfl)
  have range : orderedRange gateLab (gateBounds name profile) previous 1767226500000000 = .ok (start, stop) := by
    simp only [orderedRange, rangeOf, Check.bind_ok, Check.guard_ok, Check.pure_ok]
    exact ⟨(start, stop), ⟨_, rfl, start, opens, _, rfl, stop, closes, rfl⟩, (), ordered, rfl⟩
  have found : partOf gateLibraries gateDocuments gateLedger name = .ok (gatePart name) := by
    simp only [partOf, Check.bind_ok, Check.pure_ok]
    exact ⟨_, rfl, _, part, (), rfl, _, rfl, (), digest, rfl⟩
  have paired : rowsOf [gateVector name] (gateBounds name profile) (gatePart name) =
      .ok [(gateVector name, gateMember name)] := by
    simp only [rowsOf, Check.bind_ok, Check.guard_ok, Check.pure_ok]
    exact ⟨_, rfl, _, rfl, _, rfl, (), ⟨rfl, rfl⟩, rfl⟩
  simp only [checkDocuments, Check.bind_ok, Check.guard_ok, Check.pure_ok]
  exact ⟨_, rfl, _, bounds, _, range, (), benign, _, found, _, paired, _, rfl, _, loop, _, rfl, (), isText_iff.mpr rfl, rfl⟩

/-- The documents of the examples are accepted. -/
theorem gateDocuments_accepted : validateDocuments gateLab gateLibraries gateDocuments = .ok () := by
  have digest : requireDigest gateLibraries (some gateContent) (.str gateDigest) "session assignment digest mismatch" =
    .ok () := Check.guard_ok.mpr (isText_iff.mpr rfl)
  have turn : ∀ (name : Partition) (previous start stop : Int) (owners : Table String Partition),
      timestampOf gateLab (.str (gateMinute name).1) = .ok start → timestampOf gateLab (.str (gateMinute name).2) = .ok stop →
      previous ≤ start ∧ start < stop ∧ stop ≤ 1767226500000000 → owners.find? name.text = none →
      checkDocuments gateLab gateLibraries gateDocuments gateLedger 1767226500000000 ⟨previous, owners, owners⟩ name =
        .ok ⟨stop, owners.upsert name.text name, owners.upsert name.text name⟩ :=
    fun name _ _ _ _ opens closes ordered fresh => gatePartition_accepted name opens closes ordered fresh fresh
  have train := turn .train 1767225600000000 1767225600000000 1767225900000000 [] rfl rfl (by decide) rfl
  have validation := turn .validation 1767225900000000 1767225900000000 1767226200000000 _ rfl rfl (by decide)
    (show Table.find? (Table.upsert [] "train" Partition.train) "validation" = none from rfl)
  have test := turn .test 1767226200000000 1767226200000000 1767226500000000 _ rfl rfl (by decide)
    (show Table.find? (Table.upsert (Table.upsert [] "train" Partition.train) "validation" Partition.validation) "test" =
      none from rfl)
  obtain ⟨gate, loop⟩ : ∃ gate, partitionNames.foldlM
      (checkDocuments gateLab gateLibraries gateDocuments gateLedger 1767226500000000) ⟨1767225600000000, [], []⟩ =
        .ok gate := by
    simp only [partitionNames, List.foldlM_cons, List.foldlM_nil, Check.bind_ok]
    exact ⟨_, _, train, _, validation, _, test, rfl⟩
  have opened : ledgerOf gateLibraries gateDocuments = .ok gateLedger := by
    simp only [ledgerOf, Check.bind_ok]
    refine ⟨_, rfl, _, rfl, (), digest, ?_⟩
    simp only [gateDocuments, gateLibraries, Option.bind_some, Check.bind_ok, Check.guard_ok, Check.pure_ok]
    exact ⟨(), rfl, _, rfl, (), rfl, _, rfl, (), rfl, trivial⟩
  simp only [validateDocuments, Check.bind_ok, Check.guard_ok]
  exact ⟨(), rfl, gateLedger, opened, _, rfl, (1767225600000000, 1767226500000000), rfl, gate, loop, rfl⟩

/-- The gate accepts the three vectors of the lab. -/
theorem partition_gate_lab : ∃ ledger range outer keys memberships,
    SoundDataset gateLab gateDocuments ledger range outer keys memberships := by
  obtain ⟨ledger, range, outer, keys, memberships, _, sound, _⟩ := partition_gate_sound gateDocuments_accepted
  exact ⟨ledger, range, outer, keys, memberships, sound⟩

end Lab

end ClosedLoop.Training
