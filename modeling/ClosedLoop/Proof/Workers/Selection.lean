import ClosedLoop.Construction.Workers.Builders
import ClosedLoop.Library.JsonText
import ClosedLoop.Library.Trace

namespace ClosedLoop.Workers

open ClosedLoop.Library ClosedLoop.Response

section Fields

/-- What is read under a path does not depend on the order of fields. -/
@[simp] theorem nested_sortKeys (event : Json) (path : List String) :
    nested event.sortKeys path = (nested event path).sortKeys := by
  induction path generalizing event with
  | nil => cases event <;> rfl
  | cons key rest ih =>
      cases event with
      | obj fields =>
          have read : Json.get ((Json.sortFields fields).insertionSort fun first second => first.1 ≤ second.1) key =
              (Json.get fields key).sortKeys := by
            rw [Json.get, Json.lookup_sortFields, Json.get]
            cases fields.lookup key <;> rfl
          rw [Json.sortKeys, nested, nested, read, ih]
      | _ => rfl

/-- The text of a value does not depend on the order of fields. -/
@[simp] theorem text_sortKeys (value : Json) : value.sortKeys.text = value.text := by
  cases value <;> rfl

@[simp] theorem isText_sortKeys (value : Json) (text : String) : isText value.sortKeys text = isText value text := by
  cases value <;> rfl

@[simp] theorem lowerText_sortKeys (python : Python) (value : Json) :
    lowerText python value.sortKeys = lowerText python value := by
  cases value <;> rfl

/-- Nor does the identifier of an event. -/
@[simp] theorem eventId_sortKeys (event : Json) : eventId event.sortKeys = eventId event := by
  unfold eventId
  rw [nested_sortKeys]
  cases nested event ["event", "id"] <;> rfl

@[simp] theorem eventTimestamp_sortKeys (python : Python) (event : Json) :
    eventTimestamp python event.sortKeys = eventTimestamp python event := by
  unfold eventTimestamp
  rw [nested_sortKeys, eventId_sortKeys]
  cases nested event ["@timestamp"] <;> rfl

@[simp] theorem entityOf_sortKeys (python : Python) (schema : FeatureSchema) (event : Json) :
    entityOf python schema event.sortKeys = entityOf python schema event := by
  cases schema <;> simp only [entityOf, nested_sortKeys, text_sortKeys]

end Fields

section Selection

variable (python : Python)

/-- A normalized event with the time that the feature calculation reads from it. -/
structure Normalized (event : Json) (time : Int) : Prop where
  object : ∃ fields, event = .obj fields
  version : isText (nested event ["cxyz", "schema_version"]) "soc-event-v1" = true
  timestamp : eventTimestamp python event = .ok time

/-- An event has a time in the window. -/
def InWindow (start stop : Int) (event : Json) : Prop :=
  ∃ time, eventTimestamp python event = .ok time ∧ start ≤ time ∧ time < stop

/-- What the selection asks of its events, whatever their order. -/
structure Selectable (start stop : Int) (events : List Json) : Prop where
  normalized : ∀ event ∈ events, ∃ time, Normalized python event time
  named : ∀ event ∈ events, InWindow python start stop event → ∃ identifier, eventId event = .ok identifier
  agree : ∀ event ∈ events, ∀ other ∈ events, InWindow python start stop event → InWindow python start stop other →
    eventId event = eventId other → event.canonical = other.canonical

/-- What the selection has after some events. -/
structure Selects (start stop : Int) (events : List Json) (selected : Table String Json) : Prop where
  distinct : selected.keys.Nodup
  listed : ∀ identifier event, selected.find? identifier = some event →
    event ∈ events ∧ InWindow python start stop event ∧ eventId event = .ok identifier
  found : ∀ event ∈ events, InWindow python start stop event → ∀ identifier, eventId event = .ok identifier →
    ∃ other, selected.find? identifier = some other ∧ other.canonical = event.canonical

variable {python} {start stop : Int} {events : List Json} {selected : Table String Json} {event : Json}

/-- The turns of the selection. -/
theorem selectEvent_ok {next : Table String Json} :
    selectEvent python start stop selected event = .ok next ↔ ∃ time, Normalized python event time ∧
      ((¬ (start ≤ time ∧ time < stop) ∧ next = selected) ∨ (start ≤ time ∧ time < stop) ∧
        ∃ identifier, eventId event = .ok identifier ∧
          (∀ previous, selected.find? identifier = some previous → previous.canonical = event.canonical) ∧
            next = selected.upsert identifier event) := by
  cases event with
  | obj fields =>
      simp only [selectEvent, Check.bind_ok, Check.guard_ok, exists_const]
      constructor
      · rintro ⟨version, time, timestamp, turn⟩
        refine ⟨time, ⟨⟨fields, rfl⟩, version, timestamp⟩, ?_⟩
        split at turn
        · rename_i inside
          rw [Check.bind_ok] at turn
          obtain ⟨identifier, named, turn⟩ := turn
          rw [Check.bind_ok] at turn
          obtain ⟨_, agrees, turn⟩ := turn
          refine Or.inr ⟨inside, identifier, named, ?_, (Check.pure_ok.mp turn).symm⟩
          intro previous known
          rw [requireAgreement, known] at agrees
          exact Check.guard_ok.mp agrees
        · rename_i outside
          exact Or.inl ⟨outside, (Check.pure_ok.mp turn).symm⟩
      · rintro ⟨time, ⟨_, version, timestamp⟩, turn⟩
        refine ⟨version, time, timestamp, ?_⟩
        rcases turn with ⟨outside, rfl⟩ | ⟨inside, identifier, named, agrees, rfl⟩
        · rw [if_neg outside]
          rfl
        · have passes : requireAgreement python selected identifier (.obj fields) = .ok () := by
            unfold requireAgreement
            split
            · rename_i previous known
              exact Check.guard_ok.mpr (agrees previous known)
            · rfl
          rw [if_pos inside, named]
          simp only [bind, Except.bind, passes]
          rfl
  | _ =>
      constructor
      · intro turn
        cases turn
      · rintro ⟨_, ⟨⟨_, object⟩, _⟩, _⟩
        cases object

/-- An event lies in a window when its time does. -/
theorem InWindow.iff_of_timestamp {time : Int} (timestamp : eventTimestamp python event = .ok time) :
    InWindow python start stop event ↔ start ≤ time ∧ time < stop := by
  constructor
  · rintro ⟨other, parsed, inside⟩
    rw [timestamp] at parsed
    cases parsed
    exact inside
  · exact fun inside => ⟨time, timestamp, inside⟩

/-- A turn of the selection adds its event. -/
theorem Selects.turn {next : Table String Json} (selects : Selects python start stop events selected)
    (turn : selectEvent python start stop selected event = .ok next) :
    Selects python start stop (events ++ [event]) next := by
  obtain ⟨time, normalized, ⟨outside, rfl⟩ | ⟨inside, identifier, named, agrees, rfl⟩⟩ := selectEvent_ok.mp turn
  · have apart : ¬ InWindow python start stop event := (InWindow.iff_of_timestamp normalized.timestamp).not.mpr outside
    refine ⟨selects.distinct, fun identifier other known => ?_, fun other member within identifier named => ?_⟩
    · obtain ⟨member, fits⟩ := selects.listed identifier other known
      exact ⟨List.mem_append_left _ member, fits⟩
    · rcases List.mem_append.mp member with old | new
      · exact selects.found other old within identifier named
      · rw [List.mem_singleton.mp new] at within
        exact absurd within apart
  · have within : InWindow python start stop event := (InWindow.iff_of_timestamp normalized.timestamp).mpr inside
    refine ⟨Table.nodup_keys_upsert selects.distinct _ _, fun other previous known => ?_,
      fun other member fits name given => ?_⟩
    · rw [Table.find?_upsert] at known
      split at known
      · rename_i same
        cases known
        exact ⟨by simp, within, same ▸ named⟩
      · obtain ⟨member, fits⟩ := selects.listed other previous known
        exact ⟨List.mem_append_left _ member, fits⟩
    · rw [Table.find?_upsert]
      split
      · rename_i same
        refine ⟨event, rfl, ?_⟩
        rcases List.mem_append.mp member with old | new
        · obtain ⟨previous, known, content⟩ := selects.found other old fits name given
          rw [← content]
          exact (agrees previous (same ▸ known)).symm
        · rw [List.mem_singleton.mp new]
      · rename_i different
        rcases List.mem_append.mp member with old | new
        · exact selects.found other old fits name given
        · rw [List.mem_singleton.mp new, named] at given
          cases given
          exact absurd rfl different

/-- A selection that passes has what its events ask for. -/
theorem selects_of_ok (ok : events.foldlM (selectEvent python start stop) [] = .ok selected) :
    Selects python start stop events selected := by
  induction events using List.reverseRecOn generalizing selected with
  | nil =>
      cases ok
      exact ⟨by simp [Table.keys], by simp [Table.find?], by simp⟩
  | append_singleton front last ih =>
      rw [List.foldlM_append, Check.bind_ok] at ok
      obtain ⟨before, passed, turn⟩ := ok
      rw [List.foldlM_cons, Check.bind_ok] at turn
      obtain ⟨after, turn, same⟩ := turn
      cases same
      exact (ih passed).turn turn

/-- The selection passes exactly when its events are fine, and this does not depend on their order. -/
theorem selectable_iff : (∃ selected, events.foldlM (selectEvent python start stop) [] = .ok selected) ↔
    Selectable python start stop events := by
  constructor
  · rintro ⟨selected, ok⟩
    have selects := selects_of_ok ok
    have named : ∀ event ∈ events, InWindow python start stop event → ∃ identifier, eventId event = .ok identifier := by
      intro event member within
      obtain ⟨before, after, turn⟩ := Check.foldlM_each ok event member
      obtain ⟨time, normalized, ⟨outside, _⟩ | ⟨_, identifier, named, _⟩⟩ := selectEvent_ok.mp turn
      · exact absurd ((InWindow.iff_of_timestamp normalized.timestamp).mp within) outside
      · exact ⟨identifier, named⟩
    refine ⟨fun event member => ?_, named, fun event member other listed within inside same => ?_⟩
    · obtain ⟨before, after, turn⟩ := Check.foldlM_each ok event member
      obtain ⟨time, normalized, _⟩ := selectEvent_ok.mp turn
      exact ⟨time, normalized⟩
    · obtain ⟨identifier, given⟩ := named event member within
      obtain ⟨kept, known, content⟩ := selects.found event member within identifier given
      obtain ⟨again, known', content'⟩ := selects.found other listed inside identifier (same ▸ given)
      rw [known] at known'
      cases known'
      exact content.symm.trans content'
  · intro fine
    induction events using List.reverseRecOn with
    | nil => exact ⟨[], rfl⟩
    | append_singleton front last ih =>
        have inner : ∀ event ∈ front, event ∈ front ++ [last] := fun event member => List.mem_append_left _ member
        obtain ⟨selected, passed⟩ := ih ⟨fun event member => fine.normalized event (inner event member),
          fun event member => fine.named event (inner event member),
          fun event member other listed => fine.agree event (inner event member) other (inner other listed)⟩
        have here : last ∈ front ++ [last] := by simp
        obtain ⟨time, normalized⟩ := fine.normalized last here
        have turn : ∃ next, selectEvent python start stop selected last = .ok next := by
          by_cases inside : start ≤ time ∧ time < stop
          · have within := (InWindow.iff_of_timestamp normalized.timestamp).mpr inside
            obtain ⟨identifier, named⟩ := fine.named last here within
            refine ⟨_, selectEvent_ok.mpr ⟨time, normalized, Or.inr ⟨inside, identifier, named, ?_, rfl⟩⟩⟩
            intro previous known
            obtain ⟨member, fits, given⟩ := (selects_of_ok passed).listed identifier previous known
            exact fine.agree previous (inner previous member) last here fits within (given.trans named.symm)
          · exact ⟨_, selectEvent_ok.mpr ⟨time, normalized, Or.inl ⟨inside, rfl⟩⟩⟩
        obtain ⟨next, turn⟩ := turn
        exact ⟨next, by simp [List.foldlM_append, passed, turn, bind, Except.bind, pure, Except.pure]⟩

end Selection

end ClosedLoop.Workers
