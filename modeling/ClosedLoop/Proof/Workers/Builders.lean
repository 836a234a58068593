import ClosedLoop.Proof.Workers.Pulling
import ClosedLoop.Proof.Workers.Selection
import Mathlib.Data.Set.Card

namespace ClosedLoop.Workers

open ClosedLoop.Library ClosedLoop.Response

section Words

/-- The words that the endpoint features look for. -/
def actionWords : List String :=
  ["powershell", "pwsh", "account", "useradd", "usermod", "userdel", "privilege", "sudo", "setuid", "capability"]

/-- The text of an object has its fields one after another, and no word goes from one of them into the next. So the
order of the fields does not matter for the words. -/
def ReprKeepsWords (python : Python) (values : PythonValues) : Prop :=
  ∀ value : Json, ∀ word ∈ actionWords,
    contains word (python.lower (values.repr value.sortKeys)) = contains word (python.lower (values.repr value))

/-- `in` on texts looks for the characters in a row. -/
theorem contains_iff {token text : String} : contains token text = true ↔ token.toList <:+: text.toList := by
  simp only [contains, List.any_eq_true, List.mem_tails, List.isPrefixOf_iff_prefix, List.infix_iff_prefix_suffix]
  exact exists_congr fun rest => and_comm

/-- A word without the mark that starts a text starts the part before the mark. -/
theorem prefix_mark {word left right : List Char} {mark : Char} (solid : mark ∉ word)
    (starts : word <+: left ++ mark :: right) : word <+: left := by
  induction left generalizing word with
  | nil =>
      rcases List.prefix_cons_iff.mp starts with rfl | ⟨rest, rfl, _⟩
      · exact List.prefix_rfl
      · exact absurd List.mem_cons_self solid
  | cons head left ih =>
      rcases List.prefix_cons_iff.mp starts with rfl | ⟨rest, rfl, more⟩
      · exact List.nil_prefix
      · exact List.cons_prefix_cons.mpr ⟨rfl, ih (fun inside => solid (List.mem_cons_of_mem _ inside)) more⟩

/-- A word without a mark is in one of two texts with the mark between them. -/
theorem infix_mark {word left right : List Char} {mark : Char} (solid : mark ∉ word) :
    word <:+: left ++ mark :: right ↔ word <:+: left ∨ word <:+: right := by
  constructor
  · intro inside
    induction left with
    | nil =>
        rcases List.infix_cons_iff.mp inside with starts | later
        · exact Or.inl (prefix_mark solid starts).isInfix
        · exact Or.inr later
    | cons head left ih =>
        rcases List.infix_cons_iff.mp inside with starts | later
        · exact Or.inl (prefix_mark solid starts).isInfix
        · exact (ih later).imp_left fun found => List.infix_cons_iff.mpr (Or.inr found)
  · rintro (found | found)
    · exact found.trans (List.prefix_append left _).isInfix
    · exact found.trans (List.suffix_append_of_suffix (List.suffix_cons mark right)).isInfix

/-- A word without blanks is in one of the texts that are joined by blanks. -/
theorem contains_intercalate {word : String} (solid : ' ' ∉ word.toList) (filled : word ≠ "") (texts : List String) :
    contains word (String.intercalate " " texts) = texts.any (contains word) := by
  have missing : contains word "" = false := by
    rw [Bool.eq_false_iff, Ne, contains_iff]
    intro inside
    exact filled (String.toList_eq_nil_iff.mp (List.infix_nil.mp inside))
  induction texts with
  | nil => exact missing
  | cons text rest ih =>
      cases rest with
      | nil => simp [String.intercalate_singleton]
      | cons next rest =>
          rw [List.any_cons, ← ih, Bool.eq_iff_iff, Bool.or_eq_true, contains_iff, contains_iff, contains_iff,
            String.intercalate_cons_cons, ← infix_mark solid]
          simp

/-- The words that the endpoint features look for are not empty and hold no blank. -/
theorem actionWords_solid : ∀ word ∈ actionWords, ' ' ∉ word.toList ∧ word ≠ "" := by decide

end Words

section Fields

variable (python : Python) (values : PythonValues)

/-- The dataset of an event does not depend on the order of its fields. -/
@[simp] theorem eventDataset_sortKeys (event : Json) : eventDataset event.sortKeys = eventDataset event := by
  simp [eventDataset]

@[simp] theorem blocked_sortKeys (event : Json) : blocked python event.sortKeys = blocked python event := by
  simp [blocked]

@[simp] theorem suricataType_sortKeys (event : Json) : suricataType python event.sortKeys = suricataType python event := by
  simp [suricataType]

@[simp] theorem isConnectionRecord_sortKeys (event : Json) :
    isConnectionRecord python event.sortKeys = isConnectionRecord python event := by
  simp [isConnectionRecord]

@[simp] theorem domainOf_sortKeys (event : Json) : domainOf python event.sortKeys = domainOf python event := by
  simp [domainOf]

@[simp] theorem isDnsQuery_sortKeys (event : Json) : isDnsQuery python event.sortKeys = isDnsQuery python event := by
  simp only [isDnsQuery, eventDataset_sortKeys, suricataType_sortKeys, nested_sortKeys]
  cases nested event ["dns", "type"] <;> rfl

@[simp] theorem hasCategory_sortKeys (name : String) (event : Json) :
    hasCategory name event.sortKeys = hasCategory name event := by
  simp only [hasCategory, nested_sortKeys]
  cases nested event ["event", "category"] with
  | arr items => simp [Json.sortKeys, Json.sortItems_eq, List.any_map, Function.comp_def]
  | _ => rfl

@[simp] theorem isFailedLogin_sortKeys (event : Json) : isFailedLogin python event.sortKeys = isFailedLogin python event := by
  simp [isFailedLogin]

@[simp] theorem portOf_sortKeys (event : Json) : portOf python values event.sortKeys = portOf python values event := by
  simp only [portOf, nested_sortKeys]
  cases nested event ["destination", "port"] <;> rfl

/-- The number of a field does not depend on the order of fields. The message of its error does. -/
theorem numeric_sortKeys (value : Json) : Check.Agree (numeric python values value.sortKeys) (numeric python values value) := by
  cases value with
  | arr items => intro number; constructor <;> intro read <;> cases read
  | obj fields => intro number; constructor <;> intro read <;> cases read
  | _ => exact Check.Agree.refl _

/-- The bytes of an event are the same in any order of its fields, or both reads fail. -/
theorem eventBytes_sortKeys (event : Json) :
    Check.Agree (eventBytes python values event.sortKeys) (eventBytes python values event) := by
  simp only [eventBytes, eventDataset_sortKeys, suricataType_sortKeys, nested_sortKeys]
  split
  · split
    · exact Check.Agree.refl _
    · exact (numeric_sortKeys python values _).bind fun _ =>
        (numeric_sortKeys python values _).bind fun _ => Check.Agree.refl _
  · exact (numeric_sortKeys python values _).bind fun _ => Check.Agree.refl _

@[simp] theorem isRareIn_sortKeys (rareProcesses : List String) (baseline : Option (List String)) (event : Json) :
    isRareIn python rareProcesses baseline event.sortKeys = isRareIn python rareProcesses baseline event := by
  simp [isRareIn, isRare]

@[simp] theorem isRare_sortKeys (baseline : Option (List String)) (event : Json) :
    isRare python baseline event.sortKeys = isRare python baseline event := by
  simp [isRare]

variable {python values}

/-- A `repr` that keeps words finds the same words in any order of the fields. -/
theorem mentions_sortKeys (words : ReprKeepsWords python values) {tokens : List String} (known : tokens ⊆ actionWords)
    (event : Json) : mentions python values tokens event.sortKeys = mentions python values tokens event := by
  unfold mentions
  rw [Bool.eq_iff_iff, List.any_eq_true, List.any_eq_true]
  refine exists_congr fun token => and_congr_right fun member => ?_
  obtain ⟨solid, filled⟩ := actionWords_solid token (known member)
  have piece : ∀ value : Json, contains token (python.lower (pyStr values value.sortKeys)) =
      contains token (python.lower (pyStr values value)) := by
    intro value
    cases value with
    | arr items => exact words (.arr items) token (known member)
    | obj fields => exact words (.obj fields) token (known member)
    | _ => rfl
  unfold eventActionText
  rw [contains_intercalate solid filled, contains_intercalate solid filled, List.any_filterMap, List.any_filterMap,
    List.any_map, List.any_map]
  refine Bool.eq_iff_iff.mp (congrArg (List.any _) (funext fun path => ?_))
  simp only [Function.comp_def, nested_sortKeys]
  have read := piece (nested event path)
  cases found : nested event path with
  | null => rfl
  | _ =>
      rw [found] at read
      exact read

end Fields

section Features

/-- Features that do not depend on the order of the fields in the events. -/
def OrderFree (features : List Json → Except FeatureError (List (String × Json))) : Prop :=
  ∀ events, Check.Agree (features (events.map Json.sortKeys)) (features events)

/-- A test that is free of the order of fields selects the same events. -/
theorem filter_sortKeys {test : Json → Bool} (free : ∀ event, test event.sortKeys = test event) (events : List Json) :
    (events.map Json.sortKeys).filter test = (events.filter test).map Json.sortKeys := by
  rw [List.filter_map]
  exact congrArg (fun kept => (events.filter kept).map Json.sortKeys) (funext free)

theorem countP_sortKeys {test : Json → Bool} (free : ∀ event, test event.sortKeys = test event) (events : List Json) :
    (events.map Json.sortKeys).countP test = events.countP test := by
  rw [List.countP_map]
  exact congrArg (fun counted => events.countP counted) (funext free)

theorem map_sortKeys {α : Type} {read : Json → α} (free : ∀ event, read event.sortKeys = read event) (events : List Json) :
    (events.map Json.sortKeys).map read = events.map read := by
  rw [List.map_map]
  exact congrArg (fun reads => events.map reads) (funext free)

variable {python : Python} {values : PythonValues}

/-- The network features do not depend on the order of the events or of their fields. -/
theorem networkFeatures_orderFree : OrderFree (networkFeatures python values) := by
  intro events
  have ports (connections : List Json) : (connections.map Json.sortKeys).mapM (portOf python values) =
      connections.mapM (portOf python values) := by
    rw [List.mapM_map]
    exact congrArg connections.mapM (funext (portOf_sortKeys python values))
  have bytes (connections : List Json) : Check.Agree ((connections.map Json.sortKeys).mapM (eventBytes python values))
      (connections.mapM (eventBytes python values)) := by
    rw [List.mapM_map]
    exact Check.Agree.mapM fun event _ => eventBytes_sortKeys python values event
  unfold networkFeatures
  rw [filter_sortKeys (isConnectionRecord_sortKeys python), filter_sortKeys (isDnsQuery_sortKeys python)]
  dsimp only
  rw [ports]
  refine (Check.Agree.refl _).bind fun _ => (bytes _).bind fun _ => ?_
  simp only [List.length_map, countP_sortKeys (blocked_sortKeys python), map_sortKeys (domainOf_sortKeys python),
    countP_sortKeys (isFailedLogin_sortKeys python), List.map_map, List.countP_map, Function.comp_def, nested_sortKeys,
    text_sortKeys, eventDataset_sortKeys, suricataType_sortKeys]
  refine Check.Agree.of_eq (congrArg pure ?_)
  simp only [List.cons.injEq, Prod.mk.injEq, true_and, and_true, Json.int.injEq, Nat.cast_inj]
  refine congrArg (fun alert => events.countP alert) (funext fun event => ?_)
  cases nested event ["alert"] <;> rfl

/-- Nor do the endpoint features, when `repr` keeps the words that they look for. -/
theorem endpointFeaturesIn_orderFree (words : ReprKeepsWords python values) (rareProcesses : List String)
    (baseline : Option (List String)) :
    OrderFree fun events => .ok (endpointFeaturesIn python values rareProcesses baseline events) := by
  intro events
  have mention (tokens : List String) (known : tokens ⊆ actionWords) (listed : List Json) :
      (listed.map Json.sortKeys).countP (mentions python values tokens) =
        listed.countP (mentions python values tokens) := countP_sortKeys (mentions_sortKeys words known) listed
  have same : endpointFeaturesIn python values rareProcesses baseline (events.map Json.sortKeys) =
      endpointFeaturesIn python values rareProcesses baseline events := by
    simp only [endpointFeaturesIn, endpointFeatures, filter_sortKeys (hasCategory_sortKeys "process"), List.length_map,
      countP_sortKeys (isRareIn_sortKeys python rareProcesses baseline), countP_sortKeys (isRare_sortKeys python baseline),
      countP_sortKeys (isFailedLogin_sortKeys python), countP_sortKeys (hasCategory_sortKeys "file")]
    rw [mention _ (by decide), mention _ (by decide), mention _ (by decide)]
  dsimp only
  rw [same]
  exact Check.Agree.refl _

end Features

section Groups

variable {python : Python} {schema : FeatureSchema} {features : List Json → Except FeatureError (List (String × Json))}

/-- An event goes to the same group in any order of its fields. -/
theorem groupEvent_sortKeys (grouped : Table String (List Json)) (event : Json) :
    groupEvent python schema (grouped.mapValues (List.map Json.sortKeys)) event.sortKeys =
      (groupEvent python schema grouped event).map (Table.mapValues (List.map Json.sortKeys)) := by
  unfold groupEvent
  rw [entityOf_sortKeys]
  cases entityOf python schema event with
  | error _ => rfl
  | ok entity =>
      cases entity with
      | none => rfl
      | some entity =>
          have pushed : ((grouped.mapValues (List.map Json.sortKeys)).find? entity).getD [] ++ [event.sortKeys] =
              ((grouped.find? entity).getD [] ++ [event]).map Json.sortKeys := by
            rw [Table.find?_mapValues]
            cases grouped.find? entity <;> simp
          simp only [bind, Except.bind, pushed, ← Table.mapValues_upsert]
          rfl

/-- Events that are sorted inside give the groups that are sorted inside. -/
theorem foldlM_groupEvent_sortKeys (events : List Json) (grouped : Table String (List Json)) :
    (events.map Json.sortKeys).foldlM (groupEvent python schema) (grouped.mapValues (List.map Json.sortKeys)) =
      (events.foldlM (groupEvent python schema) grouped).map (Table.mapValues (List.map Json.sortKeys)) := by
  induction events generalizing grouped with
  | nil => rfl
  | cons event rest ih =>
      rw [List.map_cons, List.foldlM_cons, List.foldlM_cons, groupEvent_sortKeys]
      cases groupEvent python schema grouped event with
      | error _ => rfl
      | ok next => exact ih next

variable (features) in
/-- The group of an entity. -/
def describeGroup (row : String × List Json) : Except FeatureError Group := do
  let eventIds ← row.2.mapM eventId
  return ⟨row.1, eventIds, ← features row.2⟩

variable (schema features) in
/-- The groups of the entities, in their order. -/
def describeGroups (grouped : Table String (List Json)) : Except FeatureError (List Group) :=
  (grouped.insertionSort fun first second => entityBefore schema first.1 second.1).mapM (describeGroup features)

variable (python schema features) in
/-- The groups of the selected events. -/
def entityGroups (selected : List Json) : Except FeatureError (List Group) :=
  selected.foldlM (groupEvent python schema) [] >>= describeGroups schema features

/-- A window is validated and then grouped by entity. -/
theorem groupsWith_eq (events : List Json) (start : Int) :
    groupsWith python features schema events start =
      validateAndSelect python events start (start + fiveMinutes) >>= entityGroups python schema features := rfl

/-- Features that are free of the order describe groups of sorted events alike. -/
theorem describeGroups_sortKeys (free : OrderFree features) (grouped : Table String (List Json)) :
    Check.Agree (describeGroups schema features (grouped.mapValues (List.map Json.sortKeys)))
      (describeGroups schema features grouped) := by
  unfold describeGroups
  rw [Table.insertionSort_mapValues (entityBefore schema), Table.mapValues, List.mapM_map]
  refine Check.Agree.mapM fun row _ => ?_
  have identifiers : (row.2.map Json.sortKeys).mapM eventId = row.2.mapM eventId := by
    rw [List.mapM_map]
    exact congrArg row.2.mapM (funext eventId_sortKeys)
  exact (Check.Agree.of_eq identifiers).bind fun _ => (free row.2).bind fun _ => Check.Agree.refl _

/-- The groups do not depend on the order of the fields in the events. -/
theorem entityGroups_sortKeys (free : OrderFree features) (selected : List Json) :
    Check.Agree (entityGroups python schema features (selected.map Json.sortKeys))
      (entityGroups python schema features selected) := by
  have grouping : (selected.map Json.sortKeys).foldlM (groupEvent python schema) [] =
      (selected.foldlM (groupEvent python schema) []).map (Table.mapValues (List.map Json.sortKeys)) :=
    foldlM_groupEvent_sortKeys selected []
  unfold entityGroups
  rw [grouping]
  cases selected.foldlM (groupEvent python schema) [] with
  | error _ => exact Check.Agree.refl _
  | ok grouped => exact describeGroups_sortKeys free grouped

end Groups

section Order

/-- Two lists have the same events, if the order of the fields in an event is left aside. -/
def SameEvents (events others : List Json) : Prop :=
  ∀ event, event ∈ events.map Json.sortKeys ↔ event ∈ others.map Json.sortKeys

variable {python : Python} {start stop : Int} {events others : List Json}

/-- Two lists with the same events stay so when they trade places. -/
theorem SameEvents.symm (same : SameEvents events others) : SameEvents others events := fun event => (same event).symm

/-- Every event of one list has its counterpart in the other. -/
theorem SameEvents.other (same : SameEvents events others) {event : Json} (member : event ∈ events) :
    ∃ other ∈ others, other.sortKeys = event.sortKeys :=
  List.mem_map.mp ((same event.sortKeys).mp (List.mem_map_of_mem member))

/-- An event that differs in the order of fields is normalised to the same time. -/
theorem Normalized.of_same {event other : Json} {time : Int} (normalized : Normalized python event time)
    (same : other.sortKeys = event.sortKeys) : Normalized python other time := by
  obtain ⟨⟨fields, rfl⟩, version, timestamp⟩ := normalized
  refine ⟨?_, ?_, ?_⟩
  · cases other with
    | obj others => exact ⟨others, rfl⟩
    | _ => cases same
  · rw [← isText_sortKeys, ← nested_sortKeys, same, nested_sortKeys, isText_sortKeys]
    exact version
  · rw [← eventTimestamp_sortKeys, same, eventTimestamp_sortKeys]
    exact timestamp

/-- Such an event lies in the same window. -/
theorem InWindow.of_same {event other : Json} (within : InWindow python start stop event)
    (same : other.sortKeys = event.sortKeys) : InWindow python start stop other := by
  obtain ⟨time, timestamp, inside⟩ := within
  refine ⟨time, ?_, inside⟩
  rw [← eventTimestamp_sortKeys, same, eventTimestamp_sortKeys]
  exact timestamp

/-- Such an event has the same identifier. -/
theorem eventId_of_same {event other : Json} (same : other.sortKeys = event.sortKeys) : eventId other = eventId event := by
  rw [← eventId_sortKeys, same, eventId_sortKeys]

/-- Whether a selection passes depends on the set of its events only. -/
theorem Selectable.of_same (fine : Selectable python start stop events) (same : SameEvents events others) :
    Selectable python start stop others := by
  refine ⟨fun other member => ?_, fun other member within => ?_, fun other member last listed within inside equal => ?_⟩
  · obtain ⟨event, listed, content⟩ := same.symm.other member
    obtain ⟨time, normalized⟩ := fine.normalized event listed
    exact ⟨time, normalized.of_same content.symm⟩
  · obtain ⟨event, listed, content⟩ := same.symm.other member
    rw [← eventId_of_same content]
    exact fine.named event listed (within.of_same content)
  · obtain ⟨event, there, content⟩ := same.symm.other member
    obtain ⟨final, also, content'⟩ := same.symm.other listed
    have agree := fine.agree event there final also (within.of_same content) (inside.of_same content')
      (by rw [eventId_of_same content, eventId_of_same content', equal])
    rw [Json.canonical_eq_iff] at agree ⊢
    rw [← content, agree, content']

/-- The rows of a selection, with the fields of the events in order, depend on the set of the events only. -/
theorem Selects.mem_of_same {selected chosen : Table String Json} (selects : Selects python start stop events selected)
    (chooses : Selects python start stop others chosen) (same : SameEvents events others)
    {row : String × Json} (member : row ∈ selected.mapValues Json.sortKeys) : row ∈ chosen.mapValues Json.sortKeys := by
  obtain ⟨⟨identifier, event⟩, listed, rfl⟩ := List.mem_map.mp member
  obtain ⟨there, within, named⟩ := selects.listed identifier event (Table.find?_of_mem selects.distinct listed)
  obtain ⟨other, also, content⟩ := same.other there
  obtain ⟨kept, known, equal⟩ := chooses.found other also (within.of_same content) identifier
    (by rw [eventId_of_same content, named])
  refine List.mem_map.mpr ⟨(identifier, kept), Table.mem_of_find? known, ?_⟩
  rw [Json.canonical_eq_iff] at equal
  rw [equal, content]

/-- The selections from two lists with the same events differ in order only. -/
theorem Selects.perm_of_same {selected chosen : Table String Json} (selects : Selects python start stop events selected)
    (chooses : Selects python start stop others chosen) (same : SameEvents events others) :
    (selected.mapValues Json.sortKeys).Perm (chosen.mapValues Json.sortKeys) := by
  have distinct : ∀ {table : Table String Json}, table.keys.Nodup → (table.mapValues Json.sortKeys).Nodup := by
    intro table nodup
    rw [← Table.keys_mapValues Json.sortKeys] at nodup
    exact List.Nodup.of_map _ nodup
  rw [List.perm_ext_iff_of_nodup (distinct selects.distinct) (distinct chooses.distinct)]
  exact fun row => ⟨selects.mem_of_same chooses same, chooses.mem_of_same selects same.symm⟩

/-- The selected events are the same but for the order of their fields. -/
theorem validateAndSelect_same (same : SameEvents events others) {selected : List Json}
    (ok : validateAndSelect python events start stop = .ok selected) :
    ∃ chosen, validateAndSelect python others start stop = .ok chosen ∧
      chosen.map Json.sortKeys = selected.map Json.sortKeys := by
  simp only [validateAndSelect, Check.bind_ok, Check.pure_ok] at ok ⊢
  obtain ⟨table, passes, rfl⟩ := ok
  obtain ⟨other, chooses⟩ := selectable_iff.mpr ((selectable_iff.mp ⟨table, passes⟩).of_same same)
  refine ⟨_, ⟨other, chooses, rfl⟩, ?_⟩
  have sorted : ∀ table : Table String Json,
      ((table.insertionSort fun first second => first.1 ≤ second.1).map Prod.snd).map Json.sortKeys =
        ((table.mapValues Json.sortKeys).insertionSort fun first second => first.1 ≤ second.1).map Prod.snd := by
    intro table
    rw [Table.insertionSort_mapValues (· ≤ ·), Table.mapValues, List.map_map, List.map_map]
    rfl
  have perm := (selects_of_ok passes).perm_of_same (selects_of_ok chooses) same
  have distinct : (table.mapValues Json.sortKeys).keys.Nodup := by
    rw [Table.keys_mapValues]
    exact (selects_of_ok passes).distinct
  rw [sorted, sorted, Table.insertionSort_of_perm distinct perm]

/-- The groups depend on the set of the events only. -/
theorem groupsWith_same {features : List Json → Except FeatureError (List (String × Json))} {schema : FeatureSchema}
    (free : OrderFree features) (same : SameEvents events others) :
    Check.Agree (groupsWith python features schema events start) (groupsWith python features schema others start) := by
  have forward : ∀ {events others : List Json}, SameEvents events others → ∀ groups,
      groupsWith python features schema events start = .ok groups →
        groupsWith python features schema others start = .ok groups := by
    intro events others same groups ok
    rw [groupsWith_eq, Check.bind_ok] at ok ⊢
    obtain ⟨selected, selects, grouped⟩ := ok
    obtain ⟨chosen, chooses, content⟩ := validateAndSelect_same same selects
    refine ⟨chosen, chooses, ?_⟩
    rw [← entityGroups_sortKeys free, content, entityGroups_sortKeys free]
    exact grouped
  exact fun groups => ⟨forward same groups, forward same.symm groups⟩

end Order

section Entities

/-- The text of the entity field of an event, which is empty when there is none. -/
def entityText (schema : FeatureSchema) (event : Json) : String :=
  match schema with
  | .networkWindow => (nested event ["source", "ip"]).text
  | .endpointWindow => (nested event ["host", "name"]).text

/-- The text of the id of an event. -/
def idText (event : Json) : String := (nested event ["event", "id"]).text

/-- An event is identified by the text of its identifier, which must not be empty. -/
theorem eventId_ok {event : Json} {identifier : String} :
    eventId event = .ok identifier ↔ idText event = identifier ∧ identifier ≠ "" := by
  unfold eventId idText
  cases nested event ["event", "id"] with
  | str value =>
      by_cases empty : value = ""
      · simp only [empty, if_true, Json.text]
        constructor
        · intro ok
          cases ok
        · rintro ⟨rfl, filled⟩
          exact absurd rfl filled
      · simp only [empty, if_false, Json.text, Except.ok.injEq]
        constructor
        · rintro rfl
          exact ⟨rfl, empty⟩
        · exact And.left
  | _ =>
      simp only [Json.text]
      constructor
      · intro ok
        cases ok
      · rintro ⟨rfl, filled⟩
        exact absurd rfl filled

variable {python : Python} {schema : FeatureSchema}

/-- The entity of an event is the text of its field. -/
theorem entityOf_ok {event : Json} {entity : Option String} (ok : entityOf python schema event = .ok entity) :
    entity = if entityText schema event = "" then none else some (entityText schema event) := by
  unfold entityOf at ok
  unfold entityText
  cases schema with
  | networkWindow =>
      dsimp only at ok ⊢
      split at ok
      · rename_i empty
        cases ok
        rw [if_pos empty]
      · rename_i filled
        split at ok
        · cases ok
          rw [if_neg filled]
        · cases ok
  | endpointWindow =>
      dsimp only at ok ⊢
      split at ok
      · rename_i empty
        cases ok
        rw [if_pos empty]
      · rename_i filled
        cases ok
        rw [if_neg filled]

/-- What the grouping has after some events. -/
structure Groups (schema : FeatureSchema) (selected : List Json) (grouped : Table String (List Json)) : Prop where
  distinct : grouped.keys.Nodup
  rows : ∀ entity events, grouped.find? entity = some events →
    entity ≠ "" ∧ events = selected.filter fun event => decide (entityText schema event = entity)
  inhabited : ∀ entity ∈ grouped.keys, ∃ event ∈ selected, entityText schema event = entity
  found : ∀ event ∈ selected, entityText schema event ≠ "" → ∃ events, grouped.find? (entityText schema event) = some events

/-- A last event that fails the test leaves the filtered list as it was. -/
theorem filter_snoc_of_neg {test : Json → Bool} {front : List Json} {last : Json} (fails : ¬ test last = true) :
    (front ++ [last]).filter test = front.filter test := by
  rw [List.filter_append, List.filter_cons_of_neg fails, List.filter_nil, List.append_nil]

variable {selected : List Json} {grouped : Table String (List Json)} {event : Json}

/-- An event without an entity is in no group. -/
theorem Groups.skip (groups : Groups schema selected grouped) (empty : entityText schema event = "") :
    Groups schema (selected ++ [event]) grouped := by
  refine ⟨groups.distinct, fun entity events known => ?_, fun entity listed => ?_, fun other member filled => ?_⟩
  · obtain ⟨filled, rfl⟩ := groups.rows entity events known
    refine ⟨filled, (filter_snoc_of_neg ?_).symm⟩
    rw [decide_eq_true_iff, empty]
    exact Ne.symm filled
  · obtain ⟨other, member, same⟩ := groups.inhabited entity listed
    exact ⟨other, List.mem_append_left _ member, same⟩
  · rcases List.mem_append.mp member with old | new
    · exact groups.found other old filled
    · rw [List.mem_singleton.mp new] at filled
      exact absurd empty filled

/-- The events of an entity so far. -/
theorem Groups.own (groups : Groups schema selected grouped) {entity : String} (filled : entity ≠ "") :
    (grouped.find? entity).getD [] = selected.filter fun event => decide (entityText schema event = entity) := by
  cases known : grouped.find? entity with
  | some events => exact (groups.rows entity events known).2
  | none =>
      refine (List.filter_eq_nil_iff.mpr fun event member equal => ?_).symm
      have equal := of_decide_eq_true equal
      obtain ⟨events, other⟩ := groups.found event member (equal ▸ filled)
      rw [equal, known] at other
      cases other

/-- An event is put at the end of its group. -/
theorem Groups.push (groups : Groups schema selected grouped) (filled : entityText schema event ≠ "") :
    Groups schema (selected ++ [event]) (grouped.upsert (entityText schema event)
      ((grouped.find? (entityText schema event)).getD [] ++ [event])) := by
  refine ⟨Table.nodup_keys_upsert groups.distinct _ _, fun entity events known => ?_, fun entity listed => ?_,
    fun other member named => ?_⟩
  · rw [Table.find?_upsert] at known
    split at known
    · rename_i same
      subst same
      cases known
      refine ⟨filled, ?_⟩
      rw [groups.own filled, List.filter_append]
      simp
    · rename_i different
      obtain ⟨named, rfl⟩ := groups.rows entity events known
      refine ⟨named, (filter_snoc_of_neg ?_).symm⟩
      rw [decide_eq_true_iff]
      exact Ne.symm different
  · rcases Table.mem_keys_upsert.mp listed with same | old
    · exact ⟨event, by simp, same.symm⟩
    · obtain ⟨other, member, same⟩ := groups.inhabited entity old
      exact ⟨other, List.mem_append_left _ member, same⟩
  · rw [Table.find?_upsert]
    split
    · exact ⟨_, rfl⟩
    · rename_i different
      rcases List.mem_append.mp member with old | new
      · exact groups.found other old named
      · rw [List.mem_singleton.mp new] at different
        exact absurd rfl different

/-- Grouping that succeeds gives the groups of the selected events. -/
theorem groups_of_ok (ok : selected.foldlM (groupEvent python schema) [] = .ok grouped) :
    Groups schema selected grouped := by
  induction selected using List.reverseRecOn generalizing grouped with
  | nil =>
      cases ok
      exact ⟨by simp [Table.keys], by simp [Table.find?], by simp [Table.keys], by simp⟩
  | append_singleton front last ih =>
      rw [List.foldlM_append, Check.bind_ok] at ok
      obtain ⟨before, passed, turn⟩ := ok
      rw [List.foldlM_cons, Check.bind_ok] at turn
      obtain ⟨after, turn, same⟩ := turn
      cases same
      rw [groupEvent, Check.bind_ok] at turn
      obtain ⟨entity, read, turn⟩ := turn
      rw [entityOf_ok read] at turn
      by_cases empty : entityText schema last = ""
      · rw [if_pos empty] at turn
        cases turn
        exact (ih passed).skip empty
      · rw [if_neg empty] at turn
        cases turn
        exact (ih passed).push empty

end Entities

section Counts

variable (python : Python)

/-- The selected events, one for each id. -/
structure Chosen (start stop : Int) (events chosen : List Json) : Prop where
  distinct : (chosen.map idText).Nodup
  listed : ∀ event ∈ chosen, event ∈ events ∧ InWindow python start stop event ∧ eventId event = .ok (idText event)
  found : ∀ event ∈ events, InWindow python start stop event → ∃ other ∈ chosen, other.sortKeys = event.sortKeys

variable {python} {schema : FeatureSchema} {features : List Json → Except FeatureError (List (String × Json))}
  {events : List Json} {start stop : Int} {groups : List Group}

/-- Validation that succeeds chooses the events of the window. -/
theorem chosen_of_ok {chosen : List Json} (ok : validateAndSelect python events start stop = .ok chosen) :
    Chosen python start stop events chosen := by
  simp only [validateAndSelect, Check.bind_ok, Check.pure_ok] at ok
  obtain ⟨selected, passes, rfl⟩ := ok
  have selects := selects_of_ok passes
  have named : ∀ row ∈ selected, idText row.2 = row.1 := fun row member =>
    (eventId_ok.mp (selects.listed row.1 row.2 (Table.find?_of_mem selects.distinct member)).2.2).1
  refine ⟨?_, fun event member => ?_, fun event member within => ?_⟩
  · rw [List.map_map]
    have keys : ((selected.insertionSort fun first second => first.1 ≤ second.1).map (idText ∘ Prod.snd)) =
        (selected.insertionSort fun first second => first.1 ≤ second.1).map Prod.fst :=
      List.map_congr_left fun row member => named row ((List.mem_insertionSort _).mp member)
    rw [keys]
    exact (((List.perm_insertionSort _ _).map Prod.fst).nodup_iff).mpr selects.distinct
  · obtain ⟨row, sorted, rfl⟩ := List.mem_map.mp member
    have listed := (List.mem_insertionSort _).mp sorted
    obtain ⟨there, within, name⟩ := selects.listed row.1 row.2 (Table.find?_of_mem selects.distinct listed)
    exact ⟨there, within, by rw [name, named row listed]⟩
  · obtain ⟨identifier, name⟩ := (selectable_iff.mp ⟨selected, passes⟩).named event member within
    obtain ⟨other, known, content⟩ := selects.found event member within identifier name
    refine ⟨other, List.mem_map.mpr ⟨(identifier, other), ?_, rfl⟩, Json.canonical_eq_iff.mp content⟩
    exact (List.mem_insertionSort _).mpr (Table.mem_of_find? known)

/-- The entity of an event does not depend on the order of its fields. -/
theorem entityText_of_same {event other : Json} (same : other.sortKeys = event.sortKeys) :
    entityText schema other = entityText schema event := by
  have read : ∀ value : Json, entityText schema value.sortKeys = entityText schema value := by
    intro value
    cases schema <;> simp [entityText]
  rw [← read, same, read]

/-- Identifiers that are all present are the texts of the events. -/
theorem mapM_eventId {own : List Json} {identifiers : List String} (ok : own.mapM eventId = .ok identifiers) :
    identifiers = own.map idText := by
  have same : own.map idText = identifiers.map id :=
    Check.map_related (Check.mapM_ok.mp ok) fun event identifier read => (eventId_ok.mp read).1
  rw [same, List.map_id]

/-- The groups of a window. -/
structure Described (chosen : List Json) (groups : List Group) (schema : FeatureSchema) : Prop where
  distinct : (groups.map (·.entity)).Nodup
  rows : ∀ group ∈ groups, group.entity ≠ "" ∧
    group.eventIds = (chosen.filter fun event => decide (entityText schema event = group.entity)).map idText
  inhabited : ∀ group ∈ groups, ∃ event ∈ chosen, entityText schema event = group.entity
  found : ∀ event ∈ chosen, entityText schema event ≠ "" → ∃ group ∈ groups, group.entity = entityText schema event

/-- Groups that could be built describe the chosen events. -/
theorem described_of_ok {chosen : List Json} (ok : entityGroups python schema features chosen = .ok groups) :
    Described chosen groups schema := by
  rw [entityGroups, Check.bind_ok] at ok
  obtain ⟨grouped, passes, described⟩ := ok
  have fine := groups_of_ok passes
  have each := Check.mapM_ok.mp described
  have entities : groups.map (·.entity) =
      (grouped.insertionSort fun first second => entityBefore schema first.1 second.1).map Prod.fst := by
    refine (Check.map_related each fun row group made => ?_).symm
    simp only [describeGroup, Check.bind_ok, Check.pure_ok] at made
    obtain ⟨_, _, _, _, rfl⟩ := made
    rfl
  refine ⟨?_, fun group member => ?_, fun group member => ?_, fun event member filled => ?_⟩
  · rw [entities]
    exact (((List.perm_insertionSort _ _).map Prod.fst).nodup_iff).mpr fine.distinct
  · obtain ⟨row, sorted, made⟩ := Check.exists_of_mem each member
    simp only [describeGroup, Check.bind_ok, Check.pure_ok] at made
    obtain ⟨identifiers, read, _, _, rfl⟩ := made
    have listed := (List.mem_insertionSort _).mp sorted
    obtain ⟨filled, own⟩ := fine.rows row.1 row.2 (Table.find?_of_mem fine.distinct listed)
    exact ⟨filled, by rw [mapM_eventId read, own]⟩
  · have listed : group.entity ∈ groups.map (·.entity) := List.mem_map_of_mem member
    rw [entities] at listed
    exact fine.inhabited _ (((List.perm_insertionSort _ _).map Prod.fst).mem_iff.mp listed)
  · obtain ⟨own, known⟩ := fine.found event member filled
    have listed : entityText schema event ∈ groups.map (·.entity) := by
      rw [entities]
      exact List.mem_map.mpr ⟨_, (List.mem_insertionSort _).mpr (Table.mem_of_find? known), rfl⟩
    exact List.mem_map.mp listed

/-- The ids of the events of a window that have an entity. -/
def entityIds (python : Python) (schema : FeatureSchema) (events : List Json) (start stop : Int) : Set String :=
  {identifier | ∃ event ∈ events, InWindow python start stop event ∧ eventId event = .ok identifier ∧
    entityText schema event ≠ ""}

variable {chosen : List Json}

/-- The ids of a group are the ids of the events of its entity. -/
theorem Described.mem_eventIds (chooses : Chosen python start stop events chosen)
    (described : Described chosen groups schema) {group : Group} (member : group ∈ groups) {identifier : String} :
    identifier ∈ group.eventIds ↔ ∃ event ∈ events, InWindow python start stop event ∧
      eventId event = .ok identifier ∧ entityText schema event = group.entity := by
  rw [(described.rows group member).2, List.mem_map]
  constructor
  · rintro ⟨event, own, rfl⟩
    obtain ⟨listed, same⟩ := List.mem_filter.mp own
    obtain ⟨there, within, name⟩ := chooses.listed event listed
    exact ⟨event, there, within, name, of_decide_eq_true same⟩
  · rintro ⟨event, there, within, name, same⟩
    obtain ⟨other, listed, content⟩ := chooses.found event there within
    refine ⟨other, List.mem_filter.mpr ⟨listed, decide_eq_true ?_⟩, ?_⟩
    · rw [entityText_of_same content, same]
    · rw [← eventId_of_same content] at name
      exact (eventId_ok.mp name).1

/-- No id is in two groups, and none is twice in a group. -/
theorem Described.nodup_flatten (chooses : Chosen python start stop events chosen)
    (described : Described chosen groups schema) : (groups.map (·.eventIds)).flatten.Nodup := by
  have injective : ∀ event ∈ chosen, ∀ other ∈ chosen, idText event = idText other → event = other :=
    fun event member other listed same => List.inj_on_of_nodup_map chooses.distinct member listed same
  have own : ∀ group ∈ groups, group.eventIds.Nodup := by
    intro group member
    rw [(described.rows group member).2]
    exact (List.filter_sublist.map idText).nodup chooses.distinct
  rw [List.nodup_flatten]
  refine ⟨?_, ?_⟩
  · intro identifiers member
    obtain ⟨group, listed, rfl⟩ := List.mem_map.mp member
    exact own group listed
  · rw [List.pairwise_map]
    have apart : groups.Pairwise fun first second => first.entity ≠ second.entity :=
      List.pairwise_map.mp described.distinct
    refine apart.imp_of_mem fun {first second} member listed different identifier here there => ?_
    rw [(described.rows first member).2] at here
    rw [(described.rows second listed).2] at there
    obtain ⟨event, filtered, named⟩ := List.mem_map.mp here
    obtain ⟨other, filtered', named'⟩ := List.mem_map.mp there
    obtain ⟨event_mem, entity⟩ := List.mem_filter.mp filtered
    obtain ⟨other_mem, entity'⟩ := List.mem_filter.mp filtered'
    have same := injective event event_mem other other_mem (named.trans named'.symm)
    subst same
    exact different ((of_decide_eq_true entity).symm.trans (of_decide_eq_true entity'))

/-- The ids of the groups are the ids of the events of the window that have an entity. -/
theorem Described.flatten_eq (chooses : Chosen python start stop events chosen)
    (described : Described chosen groups schema) {identifier : String} :
    identifier ∈ (groups.map (·.eventIds)).flatten ↔ identifier ∈ entityIds python schema events start stop := by
  rw [List.mem_flatten]
  constructor
  · rintro ⟨identifiers, member, inside⟩
    obtain ⟨group, listed, rfl⟩ := List.mem_map.mp member
    obtain ⟨event, there, within, name, same⟩ := (described.mem_eventIds chooses listed).mp inside
    exact ⟨event, there, within, name, same ▸ (described.rows group listed).1⟩
  · rintro ⟨event, there, within, name, filled⟩
    obtain ⟨other, chosenOther, content⟩ := chooses.found event there within
    obtain ⟨group, listed, same⟩ := described.found other chosenOther
      (by rw [entityText_of_same content]; exact filled)
    refine ⟨group.eventIds, List.mem_map_of_mem listed, (described.mem_eventIds chooses listed).mpr ?_⟩
    exact ⟨event, there, within, name, by rw [same, entityText_of_same content]⟩

end Counts

section Main

variable {python : Python} {contracts : Contracts} {features : List Json → Except FeatureError (List (String × Json))}
  {schema : FeatureSchema} {events : List Json} {windowStart windowEnd : Int} {gitSha : String} {generatedAt : Option Int}

/-- A builder succeeds on a window of five minutes whose groups and schema hash are there. -/
theorem buildWith_ok {vectors : List FeatureVector} :
    buildWith python contracts features schema events windowStart windowEnd gitSha generatedAt = .ok vectors ↔
      windowEnd = windowStart + fiveMinutes ∧ ∃ groups, groupsWith python features schema events windowStart = .ok groups ∧
        ∃ schemaHash, (contracts.sha256 schema).mapError FeatureError.schema = .ok schemaHash ∧ groups.map (fun group =>
          emittedAt generatedAt (vectorOf python gitSha schema schemaHash windowStart group)) = vectors := by
  have bounds : ∀ passed, windowBounds windowStart windowEnd = .ok passed ↔ windowEnd = windowStart + fiveMinutes := by
    intro passed
    simp only [windowBounds, Check.bind_ok, Check.guard_ok, exists_const]
    unfold fiveMinutes
    omega
  simp only [buildWith, Check.bind_ok, Check.pure_ok, bounds, exists_const]

/-- A builder depends on the set of its events only. -/
theorem buildWith_same {others : List Json} (free : OrderFree features) (same : SameEvents events others) :
    Check.Agree (buildWith python contracts features schema events windowStart windowEnd gitSha generatedAt)
      (buildWith python contracts features schema others windowStart windowEnd gitSha generatedAt) :=
  (Check.Agree.refl _).bind fun _ => (groupsWith_same free same).bind fun _ => Check.Agree.refl _

/-- A builder that passes has selected its events. -/
theorem buildWith_selectable {vectors : List FeatureVector}
    (ok : buildWith python contracts features schema events windowStart windowEnd gitSha generatedAt = .ok vectors) :
    Selectable python windowStart windowEnd events := by
  obtain ⟨rfl, groups, grouped, _⟩ := buildWith_ok.mp ok
  rw [groupsWith_eq, Check.bind_ok] at grouped
  obtain ⟨_, selects, _⟩ := grouped
  rw [validateAndSelect, Check.bind_ok] at selects
  obtain ⟨selected, passes, _⟩ := selects
  exact selectable_iff.mp ⟨selected, passes⟩

/-- The ids that a vector counts. -/
def Counts (python : Python) (schema : FeatureSchema) (events : List Json) (start stop : Int) (vector : FeatureVector)
    (identifiers : List String) : Prop :=
  vector.sourceEventCount = identifiers.length ∧ vector.sourceEventSetSha256 = sourceEventSetSha256 python identifiers ∧
    ∀ identifier, identifier ∈ identifiers ↔ ∃ event ∈ events, InWindow python start stop event ∧
      eventId event = .ok identifier ∧ entityText schema event = vector.entity

/-- Each id is counted in one vector, and the vectors are of different entities. -/
theorem buildWith_counts {vectors : List FeatureVector}
    (ok : buildWith python contracts features schema events windowStart windowEnd gitSha generatedAt = .ok vectors) :
    (vectors.map (·.entity)).Nodup ∧
      (∃ counted : List (List String), List.Forall₂ (Counts python schema events windowStart windowEnd) vectors counted ∧
        counted.flatten.Nodup ∧
        ∀ identifier, identifier ∈ counted.flatten ↔ identifier ∈ entityIds python schema events windowStart windowEnd) ∧
      (vectors.map (·.sourceEventCount)).sum = (entityIds python schema events windowStart windowEnd).ncard := by
  obtain ⟨rfl, groups, grouped, schemaHash, _, rfl⟩ := buildWith_ok.mp ok
  rw [groupsWith_eq, Check.bind_ok] at grouped
  obtain ⟨chosen, selects, grouped⟩ := grouped
  have chooses := chosen_of_ok selects
  have described := described_of_ok grouped
  have nodup := described.nodup_flatten chooses
  refine ⟨?_, ⟨groups.map (·.eventIds), ?_, nodup, fun _ => described.flatten_eq chooses⟩, ?_⟩
  · rw [List.map_map]
    exact described.distinct
  · rw [List.forall₂_map_left_iff, List.forall₂_map_right_iff, List.forall₂_same]
    exact fun group member => ⟨rfl, rfl, fun identifier => described.mem_eventIds chooses member⟩
  · have lengths : ((groups.map fun group =>
        emittedAt generatedAt (vectorOf python gitSha schema schemaHash windowStart group)).map
          (·.sourceEventCount)).sum = ((groups.map (·.eventIds)).flatten).length := by
      rw [List.length_flatten, List.map_map, List.map_map]
      rfl
    have members : entityIds python schema events windowStart (windowStart + fiveMinutes) =
        ((groups.map (·.eventIds)).flatten.toFinset : Set String) := by
      ext identifier
      rw [List.coe_toFinset, Set.mem_ofPred_eq, described.flatten_eq chooses]
    rw [lengths, members, Set.ncard_coe_finset, List.toFinset_card_of_nodup nodup]

variable (python contracts) (values : PythonValues)

/-- A builder gives the same vectors, or an error, for every order and every repetition of its events. -/
theorem vectors_ignore_order (words : ReprKeepsWords python values) (builder : Builder) (windowStart windowEnd : Int)
    (gitSha : String) (generatedAt : Option Int) :
    (∀ events others, SameEvents events others → ∀ vectors,
      builder.build python contracts values events windowStart windowEnd gitSha generatedAt = .ok vectors ↔
        builder.build python contracts values others windowStart windowEnd gitSha generatedAt = .ok vectors) ∧
    (∀ events, ∀ event ∈ events, ∀ other ∈ events, InWindow python windowStart windowEnd event →
      InWindow python windowStart windowEnd other → eventId event = eventId other → event.sortKeys ≠ other.sortKeys →
        ∀ vectors, builder.build python contracts values events windowStart windowEnd gitSha generatedAt ≠ .ok vectors) ∧
    ∀ events vectors, builder.build python contracts values events windowStart windowEnd gitSha generatedAt = .ok vectors →
      (vectors.map (·.entity)).Nodup ∧
        (∃ counted : List (List String),
          List.Forall₂ (Counts python builder.schema events windowStart windowEnd) vectors counted ∧
          counted.flatten.Nodup ∧ ∀ identifier,
            identifier ∈ counted.flatten ↔ identifier ∈ entityIds python builder.schema events windowStart windowEnd) ∧
        (vectors.map (·.sourceEventCount)).sum =
          (entityIds python builder.schema events windowStart windowEnd).ncard := by
  have general : ∃ features, OrderFree features ∧ ∀ events,
      builder.build python contracts values events windowStart windowEnd gitSha generatedAt =
        buildWith python contracts features builder.schema events windowStart windowEnd gitSha generatedAt := by
    cases builder with
    | network => exact ⟨_, networkFeatures_orderFree, fun _ => rfl⟩
    | endpoint rareProcesses processBaseline =>
        exact ⟨_, endpointFeaturesIn_orderFree words (lowerNames python rareProcesses)
          (processBaseline.map (lowerNames python)), fun _ => rfl⟩
  obtain ⟨features, free, calls⟩ := general
  simp only [calls]
  refine ⟨fun events others same => buildWith_same free same, ?_, fun events vectors ok => buildWith_counts ok⟩
  intro events event member other listed within inside same different vectors ok
  exact different (Json.canonical_eq_iff.mp ((buildWith_selectable ok).agree event member other listed within inside same))

end Main

section Repr

/-- Texts with a comma and a blank between them. -/
def listed : List (List Char) → List Char
  | [] => []
  | [part] => part
  | part :: next :: rest => part ++ ',' :: ' ' :: listed (next :: rest)

mutual

/-- `repr` of a value whose texts need no escapes. -/
def reprChars : Json → List Char
  | .null => "None".toList
  | .bool value => (if value then "True" else "False").toList
  | .int value => intChars value
  | .float value => value.toChars
  | .str value => '\'' :: value.toList ++ ['\'']
  | .arr items => '[' :: listed (reprItems items) ++ [']']
  | .obj fields => '{' :: listed (reprFields fields) ++ ['}']

def reprItems : List Json → List (List Char)
  | [] => []
  | item :: rest => reprChars item :: reprItems rest

def reprFields : List (String × Json) → List (List Char)
  | [] => []
  | (name, value) :: rest => ('\'' :: name.toList ++ ['\'', ':'] ++ ' ' :: reprChars value) :: reprFields rest

end

/-- A part of the text of a list is the text of one of its items. -/
theorem mem_reprItems {items : List Json} {part : List Char} :
    part ∈ reprItems items ↔ ∃ item ∈ items, reprChars item = part := by
  induction items with
  | nil => simp [reprItems]
  | cons item rest ih => simp [reprItems, ih, eq_comm]

/-- A part of the text of a dictionary is the text of one of its fields. -/
theorem mem_reprFields {fields : List (String × Json)} {part : List Char} :
    part ∈ reprFields fields ↔
      ∃ field ∈ fields, '\'' :: field.1.toList ++ ['\'', ':'] ++ ' ' :: reprChars field.2 = part := by
  induction fields with
  | nil => simp [reprFields]
  | cons field rest ih => simp [reprFields, ih, eq_comm]

/-- A text has a word in it, in capitals or not. -/
def Mentions (word text : List Char) : Prop := word <:+: text.map Char.toLower

/-- No word that the endpoint features look for has one of the marks that `repr` writes. -/
structure Plain (word : List Char) : Prop where
  filled : word ≠ []
  marks : ∀ mark ∈ [' ', ',', '[', ']', '{', '}'], Char.toLower mark ∉ word

variable {word : List Char}

/-- An empty text mentions no word. -/
theorem Plain.mentions_nil (plain : Plain word) : ¬Mentions word [] := fun inside =>
  plain.filled (List.infix_nil.mp inside)

/-- A word lies before a mark or after it. -/
theorem Plain.mentions_mark (plain : Plain word) {left right : List Char} {mark : Char}
    (known : mark ∈ [' ', ',', '[', ']', '{', '}']) :
    Mentions word (left ++ mark :: right) ↔ Mentions word left ∨ Mentions word right := by
  unfold Mentions
  rw [List.map_append, List.map_cons]
  exact infix_mark (plain.marks mark known)

/-- A mark before a text does not matter. -/
theorem Plain.mentions_cons (plain : Plain word) {right : List Char} {mark : Char}
    (known : mark ∈ [' ', ',', '[', ']', '{', '}']) : Mentions word (mark :: right) ↔ Mentions word right := by
  rw [← List.nil_append (mark :: right), plain.mentions_mark known]
  exact or_iff_right plain.mentions_nil

/-- A word is in a list of parts when it is in one of them. -/
theorem Plain.mentions_listed (plain : Plain word) (parts : List (List Char)) :
    Mentions word (listed parts) ↔ ∃ part ∈ parts, Mentions word part := by
  induction parts with
  | nil => simpa [listed] using plain.mentions_nil
  | cons part rest ih =>
      cases rest with
      | nil => simp [listed]
      | cons next rest =>
          rw [listed, plain.mentions_mark (by simp), plain.mentions_cons (by simp), ih]
          simp

/-- The marks around a list do not matter. -/
theorem Plain.mentions_within (plain : Plain word) {text : List Char} {first last : Char}
    (opens : first ∈ [' ', ',', '[', ']', '{', '}']) (closes : last ∈ [' ', ',', '[', ']', '{', '}']) :
    Mentions word (first :: text ++ [last]) ↔ Mentions word text :=
  (plain.mentions_cons opens).trans
    ((plain.mentions_mark closes).trans (or_iff_left plain.mentions_nil))

/-- The order of the fields does not matter for the words of a text. -/
theorem Plain.mentions_sortKeys (plain : Plain word) (value : Json) :
    Mentions word (reprChars value.sortKeys) ↔ Mentions word (reprChars value) := by
  induction value using Json.induct with
  | null | bool | int | float | str => rfl
  | arr items ih =>
      rw [Json.sortKeys, Json.sortItems_eq, reprChars, reprChars, plain.mentions_within (by simp) (by simp),
        plain.mentions_within (by simp) (by simp), plain.mentions_listed, plain.mentions_listed]
      simp only [mem_reprItems, List.mem_map]
      constructor
      · rintro ⟨_, ⟨_, ⟨item, member, rfl⟩, rfl⟩, inside⟩
        exact ⟨_, ⟨item, member, rfl⟩, (ih item member).mp inside⟩
      · rintro ⟨_, ⟨item, member, rfl⟩, inside⟩
        exact ⟨_, ⟨_, ⟨item, member, rfl⟩, rfl⟩, (ih item member).mpr inside⟩
  | obj fields ih =>
      rw [Json.sortKeys, Json.sortFields_eq, reprChars, reprChars, plain.mentions_within (by simp) (by simp),
        plain.mentions_within (by simp) (by simp), plain.mentions_listed, plain.mentions_listed]
      simp only [mem_reprFields, List.mem_insertionSort, List.mem_map]
      constructor
      · rintro ⟨_, ⟨_, ⟨field, member, rfl⟩, rfl⟩, inside⟩
        refine ⟨_, ⟨field, member, rfl⟩, ?_⟩
        rw [plain.mentions_mark (by simp)] at inside ⊢
        exact inside.imp_right (ih field member).mp
      · rintro ⟨_, ⟨field, member, rfl⟩, inside⟩
        refine ⟨_, ⟨_, ⟨field, member, rfl⟩, rfl⟩, ?_⟩
        rw [plain.mentions_mark (by simp)] at inside ⊢
        exact inside.imp_right (ih field member).mpr

/-- The values of the lab with the texts that Python gives them. -/
def reprValues : PythonValues := { labValues with repr := fun value => String.ofList (reprChars value) }

/-- The `repr` of the examples keeps the words in any order of the fields. -/
theorem reprValues_keepWords : ReprKeepsWords labPython reprValues := by
  have plain : (actionWords.all fun word => word.toList ≠ [] &&
      [' ', ',', '[', ']', '{', '}'].all fun mark => Char.toLower mark ∉ word.toList) = true := by decide
  simp only [List.all_eq_true, Bool.and_eq_true, decide_eq_true_eq] at plain
  intro value word known
  rw [Bool.eq_iff_iff, contains_iff, contains_iff]
  have same := Plain.mentions_sortKeys ⟨(plain word known).1, (plain word known).2⟩ value
  unfold Mentions at same
  simpa [labPython, reprValues] using same

/-- Two flows of one window. -/
def labFlows : List Json := [labFlow "flow-1" "2026-01-01T00:01:00Z", labFlow "flow-3" "2026-01-01T00:02:00Z"]

/-- A process of a host, whose command line is logged as an object. -/
def labProcess (identifier timestamp : String) (commandLine : List (String × Json)) : Json :=
  .obj [("@timestamp", .str timestamp), ("event", .obj [("id", .str identifier), ("category", .arr [.str "process"])]),
    ("host", .obj [("name", .str "ws-1")]), ("process", .obj [("name", .str "cmd"), ("command_line", .obj commandLine)]),
    ("cxyz", .obj [("schema_version", .str "soc-event-v1")])]

/-- Two processes of one window. The first one starts a shell. -/
def labProcesses : List Json :=
  [labProcess "process-1" "2026-01-01T00:01:00Z" [("file", .str "PowerShell"), ("args", .arr [.str "-enc", .str "AA"])],
    labProcess "process-2" "2026-01-01T00:02:00Z" [("file", .str "dir")]]

/-- The same processes in another order, with the fields of a command line in another order. -/
def labProcessesAgain : List Json :=
  [labProcess "process-2" "2026-01-01T00:02:00Z" [("file", .str "dir")],
    labProcess "process-1" "2026-01-01T00:01:00Z" [("args", .arr [.str "-enc", .str "AA"]), ("file", .str "PowerShell")]]

/-- Another order of the events, and one of them twice, give the same vectors with two events, from both builders. -/
theorem labFlows_ignore_order :
    ((buildNetworkVectors labPython labContracts reprValues labFlows deskTime (deskTime + fiveMinutes) "0123abc" none).map
      fun vectors => vectors.map (·.sourceEventCount)).toOption = some [2] ∧
    (∀ vectors, buildNetworkVectors labPython labContracts reprValues labFlows deskTime (deskTime + fiveMinutes)
        "0123abc" none = .ok vectors ↔
      buildNetworkVectors labPython labContracts reprValues (labFlows.reverse ++ labFlows) deskTime
        (deskTime + fiveMinutes) "0123abc" none = .ok vectors) ∧
    ((buildEndpointVectors labPython labContracts reprValues labProcesses deskTime (deskTime + fiveMinutes) "0123abc" ["cmd"]
      none none).map fun vectors => vectors.map fun vector =>
        (vector.sourceEventCount, (Json.get vector.features "powershell_count").equalsInt 1)).toOption =
          some [(2, true)] ∧
    ∀ vectors, buildEndpointVectors labPython labContracts reprValues labProcesses deskTime (deskTime + fiveMinutes)
        "0123abc" ["cmd"] none none = .ok vectors ↔
      buildEndpointVectors labPython labContracts reprValues labProcessesAgain deskTime (deskTime + fiveMinutes)
        "0123abc" ["cmd"] none none = .ok vectors := by
  refine ⟨by decide +kernel, ?_, by decide +kernel, ?_⟩
  · refine (vectors_ignore_order labPython labContracts reprValues reprValues_keepWords .network deskTime
      (deskTime + fiveMinutes) "0123abc" none).1 labFlows (labFlows.reverse ++ labFlows) fun event => ?_
    simp [List.map_append, List.map_reverse]
  · refine (vectors_ignore_order labPython labContracts reprValues reprValues_keepWords (.endpoint ["cmd"] none) deskTime
      (deskTime + fiveMinutes) "0123abc" none).1 labProcesses labProcessesAgain fun event => ?_
    have sorted : labProcessesAgain.map Json.sortKeys = (labProcesses.map Json.sortKeys).reverse := by rfl
    rw [sorted, List.mem_reverse]

end Repr

section Addresses

/-- The address that a text spells. -/
def sameAddress (first second : String) : Prop := IPAddress.parse first = IPAddress.parse second

instance (first second : String) : Decidable (sameAddress first second) :=
  inferInstanceAs (Decidable (_ = _))

/-- No two vectors are of one address, and one vector counts the ids of any two events of one address. -/
def OneVectorPerAddress (python : Python) (events : List Json) (start stop : Int) (vectors : List FeatureVector) : Prop :=
  (vectors.Pairwise fun first second => ¬ sameAddress first.entity second.entity) ∧
    ∀ event ∈ events, ∀ other ∈ events, InWindow python start stop event → InWindow python start stop other →
      entityText .networkWindow event ≠ "" → entityText .networkWindow other ≠ "" →
      sameAddress (entityText .networkWindow event) (entityText .networkWindow other) →
        ∃ vector ∈ vectors, ∃ identifiers, Counts python .networkWindow events start stop vector identifiers ∧
          ∃ first ∈ identifiers, ∃ second ∈ identifiers, eventId event = .ok first ∧ eventId other = .ok second

variable (python : Python) (contracts : Contracts) (values : PythonValues)

/-- The events of a window spell each address in one way. -/
def SpelledOneWay (events : List Json) (start stop : Int) : Prop :=
  ∀ event ∈ events, ∀ other ∈ events, InWindow python start stop event → InWindow python start stop other →
    entityText .networkWindow event ≠ "" → entityText .networkWindow other ≠ "" →
    sameAddress (entityText .networkWindow event) (entityText .networkWindow other) →
      entityText .networkWindow event = entityText .networkWindow other

variable {python contracts values}

/-- The entities of the vectors are the texts of the events. -/
theorem buildWith_entities {features : List Json → Except FeatureError (List (String × Json))} {schema : FeatureSchema}
    {events : List Json} {windowStart windowEnd : Int} {gitSha : String} {generatedAt : Option Int}
    {vectors : List FeatureVector}
    (ok : buildWith python contracts features schema events windowStart windowEnd gitSha generatedAt = .ok vectors)
    {entity : String} : entity ∈ vectors.map (·.entity) ↔ ∃ event ∈ events, InWindow python windowStart windowEnd event ∧
      entityText schema event = entity ∧ entity ≠ "" := by
  obtain ⟨rfl, groups, grouped, schemaHash, _, rfl⟩ := buildWith_ok.mp ok
  rw [groupsWith_eq, Check.bind_ok] at grouped
  obtain ⟨chosen, selects, grouped⟩ := grouped
  have chooses := chosen_of_ok selects
  have described := described_of_ok grouped
  rw [List.map_map, List.mem_map]
  constructor
  · rintro ⟨group, member, rfl⟩
    obtain ⟨event, listed, same⟩ := described.inhabited group member
    obtain ⟨there, within, _⟩ := chooses.listed event listed
    exact ⟨event, there, within, same, (described.rows group member).1⟩
  · rintro ⟨event, there, within, rfl, filled⟩
    obtain ⟨other, listed, content⟩ := chooses.found event there within
    obtain ⟨group, member, same⟩ := described.found other listed (by rw [entityText_of_same content]; exact filled)
    exact ⟨group, member, same.trans (entityText_of_same content)⟩

/-- A vector that counts the id of an event is of the event's entity. -/
theorem entity_of_counted {features : List Json → Except FeatureError (List (String × Json))} {schema : FeatureSchema}
    {events : List Json} {windowStart windowEnd : Int} {gitSha : String} {generatedAt : Option Int}
    {vectors : List FeatureVector}
    (ok : buildWith python contracts features schema events windowStart windowEnd gitSha generatedAt = .ok vectors)
    {vector : FeatureVector} {identifiers : List String} {identifier : String} {event : Json}
    (counts : Counts python schema events windowStart windowEnd vector identifiers) (counted : identifier ∈ identifiers)
    (member : event ∈ events) (within : InWindow python windowStart windowEnd event)
    (named : eventId event = .ok identifier) : vector.entity = entityText schema event := by
  obtain ⟨own, listed, inside, alsoNamed, same⟩ := (counts.2.2 identifier).mp counted
  have content := (buildWith_selectable ok).agree own listed event member inside within (alsoNamed.trans named.symm)
  rw [← same, entityText_of_same (Json.canonical_eq_iff.mp content)]

/-- The ids of the events of an entity are counted in its vector. -/
theorem exists_counts {features : List Json → Except FeatureError (List (String × Json))} {schema : FeatureSchema}
    {events : List Json} {windowStart windowEnd : Int} {gitSha : String} {generatedAt : Option Int}
    {vectors : List FeatureVector}
    (ok : buildWith python contracts features schema events windowStart windowEnd gitSha generatedAt = .ok vectors)
    {vector : FeatureVector} (member : vector ∈ vectors) :
    ∃ identifiers, Counts python schema events windowStart windowEnd vector identifiers := by
  obtain ⟨-, ⟨counted, each, -⟩, -⟩ := buildWith_counts ok
  obtain ⟨identifiers, -, counts⟩ := Check.exists_of_mem each.flip member
  exact ⟨identifiers, counts⟩

variable (python contracts values)

/-- There is one vector for each address exactly when the events spell each address in one way. -/
theorem one_vector_per_address_iff (events : List Json) (windowStart windowEnd : Int) (gitSha : String)
    (generatedAt : Option Int) (vectors : List FeatureVector)
    (ok : buildNetworkVectors python contracts values events windowStart windowEnd gitSha generatedAt = .ok vectors) :
    OneVectorPerAddress python events windowStart windowEnd vectors ↔
      SpelledOneWay python events windowStart windowEnd := by
  have entities : ∀ entity, entity ∈ vectors.map (·.entity) ↔ ∃ event ∈ events,
      InWindow python windowStart windowEnd event ∧ entityText .networkWindow event = entity ∧ entity ≠ "" :=
    fun _ => buildWith_entities ok
  constructor
  · rintro ⟨_, together⟩ event member other listed within inside filled filled' same
    obtain ⟨vector, -, identifiers, counts, first, counted, second, alsoCounted, named, named'⟩ :=
      together event member other listed within inside filled filled' same
    exact (entity_of_counted ok counts counted member within named).symm.trans
      (entity_of_counted ok counts alsoCounted listed inside named')
  · intro oneWay
    refine ⟨?_, ?_⟩
    · have distinct : vectors.Pairwise fun first second => first.entity ≠ second.entity :=
        List.pairwise_map.mp (buildWith_counts ok).1
      refine distinct.imp_of_mem fun {first second} member listed different same => different ?_
      obtain ⟨event, there, within, named, filled⟩ := (entities first.entity).mp (List.mem_map_of_mem member)
      obtain ⟨other, also, inside, named', filled'⟩ := (entities second.entity).mp (List.mem_map_of_mem listed)
      have equal := oneWay event there other also within inside (named ▸ filled) (named' ▸ filled')
        (by rw [named, named']; exact same)
      rw [← named, ← named', equal]
    · intro event member other listed within inside filled filled' same
      have equal := oneWay event member other listed within inside filled filled' same
      obtain ⟨vector, built, entity⟩ := List.mem_map.mp
        ((entities (entityText .networkWindow event)).mpr ⟨event, member, within, rfl, filled⟩)
      obtain ⟨first, named⟩ := (buildWith_selectable ok).named event member within
      obtain ⟨second, named'⟩ := (buildWith_selectable ok).named other listed inside
      obtain ⟨identifiers, counts⟩ := exists_counts ok built
      exact ⟨vector, built, identifiers, counts, first,
        (counts.2.2 first).mpr ⟨event, member, within, named, entity.symm⟩, second,
        (counts.2.2 second).mpr ⟨other, listed, inside, named', equal.symm.trans entity.symm⟩, named, named'⟩

/-- A flow from a source address. -/
def labSource (identifier source : String) : Json :=
  .obj [("@timestamp", .str "2026-01-01T00:01:00Z"), ("event_type", .str "flow"),
    ("event", .obj [("id", .str identifier), ("dataset", .str "suricata.eve")]), ("source", .obj [("ip", .str source)]),
    ("cxyz", .obj [("schema_version", .str "soc-event-v1")])]

/-- Two flows of one address, which is written with and without its zeros. -/
def labSpellings : List Json := [labSource "flow-1" "2001:db8::1", labSource "flow-2" "2001:0DB8:0:0:0:0:0:1"]

/-- Each spelling has a vector of its own. -/
theorem spellings_split_address : ∃ vectors, buildNetworkVectors labPython labContracts labValues labSpellings deskTime
      (deskTime + fiveMinutes) "0123abc" none = .ok vectors ∧
    vectors.map (·.entity) = ["2001:0DB8:0:0:0:0:0:1", "2001:db8::1"] ∧
    ¬ OneVectorPerAddress labPython labSpellings deskTime (deskTime + fiveMinutes) vectors := by
  have built : ((buildNetworkVectors labPython labContracts labValues labSpellings deskTime (deskTime + fiveMinutes)
      "0123abc" none).map fun vectors => vectors.map (·.entity)).toOption =
        some ["2001:0DB8:0:0:0:0:0:1", "2001:db8::1"] := by decide +kernel
  have spelled : sameAddress "2001:0DB8:0:0:0:0:0:1" "2001:db8::1" := by decide +kernel
  cases result : buildNetworkVectors labPython labContracts labValues labSpellings deskTime (deskTime + fiveMinutes)
      "0123abc" none with
  | error error =>
      rw [result] at built
      cases built
  | ok vectors =>
      rw [result] at built
      have entities : vectors.map (·.entity) = ["2001:0DB8:0:0:0:0:0:1", "2001:db8::1"] := Option.some.inj built
      refine ⟨vectors, rfl, entities, fun one => ?_⟩
      have apart : (vectors.map (·.entity)).Pairwise fun first second => ¬ sameAddress first second :=
        List.pairwise_map.mpr one.1
      rw [entities] at apart
      exact (List.pairwise_cons.mp apart).1 "2001:db8::1" (by simp) spelled

/-- Two flows of one address with one spelling are in one vector. -/
theorem labFlows_one_vector : ∃ vectors, buildNetworkVectors labPython labContracts labValues labFlows deskTime
      (deskTime + fiveMinutes) "0123abc" none = .ok vectors ∧
    OneVectorPerAddress labPython labFlows deskTime (deskTime + fiveMinutes) vectors := by
  have built : (buildNetworkVectors labPython labContracts labValues labFlows deskTime (deskTime + fiveMinutes)
      "0123abc" none).toOption.isSome = true := by decide +kernel
  have source : ∀ event ∈ labFlows, entityText .networkWindow event = "192.168.40.10" := by decide +kernel
  refine ⟨_, Check.ok_get built, (one_vector_per_address_iff labPython labContracts labValues labFlows deskTime
    (deskTime + fiveMinutes) "0123abc" none _ (Check.ok_get built)).mpr ?_⟩
  intro event member other listed _ _ _ _ _
  rw [source event member, source other listed]

end Addresses

end ClosedLoop.Workers
