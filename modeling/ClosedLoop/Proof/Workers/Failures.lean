import ClosedLoop.Construction.Workers.Engine
import ClosedLoop.Proof.Workers.Windows

namespace ClosedLoop.Workers

open ClosedLoop.Library ClosedLoop.Response

section Rows

variable {state : FeatureState} {schema : FeatureSchema} {start : Int}

/-- The status of a window. -/
def FeatureState.statusOf (state : FeatureState) (schema : FeatureSchema) (start : Int) : Option WindowStatus :=
  (state.find? (schema, start)).map WindowRow.status

/-- A window that was written has the status it was written with. -/
theorem statusOf_upsert_self (row : WindowRow) :
    FeatureState.statusOf (state.upsert (schema, start) row) schema start = some row.status := by
  rw [FeatureState.statusOf, Table.find?_upsert_self, Option.map_some]

/-- Every other window keeps its status. -/
theorem statusOf_upsert_of_ne {other : FeatureSchema × Int} (different : (schema, start) ≠ other) (row : WindowRow) :
    FeatureState.statusOf (state.upsert other row) schema start = state.statusOf schema start := by
  rw [FeatureState.statusOf, Table.find?_upsert_of_ne _ _ different, FeatureState.statusOf]

/-- The windows of a schema are read off the statuses. -/
theorem mem_starts (distinct : state.keys.Nodup) {wanted : WindowStatus → Bool} :
    start ∈ state.starts schema wanted ↔ ∃ status, state.statusOf schema start = some status ∧ wanted status = true := by
  unfold FeatureState.starts FeatureState.statusOf
  constructor
  · intro member
    obtain ⟨⟨⟨named, place⟩, row⟩, listed, rfl⟩ := List.mem_map.mp member
    obtain ⟨there, fits⟩ := List.mem_filter.mp listed
    obtain ⟨same, fit⟩ := of_decide_eq_true fits
    subst same
    exact ⟨row.status, by rw [Table.find?_of_mem distinct there, Option.map_some], fit⟩
  · rintro ⟨status, found, fit⟩
    obtain ⟨row, there, rfl⟩ := Option.map_eq_some_iff.mp found
    refine List.mem_map.mpr ⟨((schema, start), row), List.mem_filter.mpr ⟨Table.mem_of_find? there, ?_⟩, rfl⟩
    exact decide_eq_true ⟨rfl, fit⟩

/-- The starts of distinct rows are distinct. -/
theorem nodup_starts (distinct : state.keys.Nodup) (wanted : WindowStatus → Bool) :
    (state.starts schema wanted).Nodup := by
  refine List.Nodup.map_on ?_ ((List.Nodup.of_map _ distinct).filter _)
  intro first member second other same
  obtain ⟨there, fits⟩ := List.mem_filter.mp member
  obtain ⟨here, agrees⟩ := List.mem_filter.mp other
  have left := (of_decide_eq_true fits).1
  have right := (of_decide_eq_true agrees).1
  have keys : first.1 = second.1 := Prod.ext (left.trans right.symm) same
  exact List.inj_on_of_nodup_map distinct there here keys

/-- The failed windows of a schema that are older than a window. -/
def FeatureState.olderFailed (state : FeatureState) (schema : FeatureSchema) (start : Int) : Nat :=
  (state.starts schema (· = .failed)).countP (· < start)

/-- The number of failed windows that a pass tries again. -/
def Schedule.retryRoom (schedule : Schedule) : Nat := (max 1 (schedule.maxWindows / 4)).toNat

/-- A failed window is tried again when few failed windows are older. -/
theorem mem_retried (distinct : state.keys.Nodup) (schedule : Schedule) :
    start ∈ state.retried schema schedule.maxWindows ↔
      state.statusOf schema start = some .failed ∧ state.olderFailed schema start < schedule.retryRoom := by
  have perm := List.perm_insertionSort (· ≤ ·) (state.starts schema (· = .failed))
  have unique : ((state.starts schema (· = .failed)).insertionSort (· ≤ ·)).Nodup :=
    perm.symm.nodup (nodup_starts distinct _)
  have ordered : ((state.starts schema (· = .failed)).insertionSort (· ≤ ·)).Pairwise (· < ·) :=
    ((List.pairwise_insertionSort _ _).and unique).imp fun ⟨before, different⟩ => lt_of_le_of_ne before different
  unfold FeatureState.retried
  rw [mem_take_iff ordered, perm.mem_iff, perm.countP_eq, mem_starts distinct]
  simp only [decide_eq_true_eq, exists_eq_right, FeatureState.olderFailed, Schedule.retryRoom]

end Rows

section Attempts

/-- The attempts that a pass makes at its windows. -/
def triedWith : List Int → List Attempt → List (Int × Attempt)
  | [], _ => []
  | start :: rest, attempts =>
      (start, attempts.headD { fetched := .ok (.events []) }) :: triedWith rest attempts.tail

variable (python : Python) (contracts : Contracts) (engine : FeatureEngine) (gitSha : String)

/-- The attempts that a call makes at the windows of its schemas. -/
def triedByCall (schedule : Schedule) (now : Int) :
    FeatureStore → List FeatureSchema → List Attempt → List ((FeatureSchema × Int) × Attempt)
  | _, [], _ => []
  | store, schema :: rest, attempts =>
      let plan := schedule.plan store.windows schema now
      (triedWith plan attempts).map (fun tried => ((schema, tried.1), tried.2)) ++
        match processWindows python contracts engine gitSha schema store plan attempts with
        | (_, none, _) => []
        | (store, some _, attempts) => triedByCall schedule now store rest attempts

/-- The search of an attempt gives events that build, if there are any, and the index takes all documents. -/
def Attempt.Healthy (schema : FeatureSchema) (start : Int) (attempt : Attempt) : Prop :=
  (∃ found, attempt.fetched = .ok (.events found) ∧
    (found ≠ [] → ∃ vectors, buildVectors python contracts engine gitSha schema found start = .ok vectors)) ∧
    ∀ fate ∈ attempt.creates, fate = .answered none

/-- The window was processed with success. -/
def FeatureState.Settled (state : FeatureState) (schema : FeatureSchema) (start : Int) : Prop :=
  state.statusOf schema start = some .done ∨ state.statusOf schema start = some .empty

variable {python contracts engine gitSha}

/-- An index that takes all documents reports no failure. -/
theorem createVectors_healthy {fates : List CreateFate} (answers : ∀ fate ∈ fates, fate = .answered none)
    (index : String) (vectors : List FeatureVector) (documents : List (Stored FeatureVector)) (error : DeliveryError) :
    (createVectors index documents vectors fates).2 ≠ .failed error := by
  induction vectors generalizing documents fates with
  | nil => simp [createVectors]
  | cons vector rest ih =>
      have head : fates.headD (.answered none) = .answered none := by
        cases fates with
        | nil => rfl
        | cons fate more => exact answers fate List.mem_cons_self
      have later : ∀ documents, (createVectors index documents rest fates.tail).2 ≠ .failed error :=
        ih fun fate member => answers fate (List.mem_of_mem_tail member)
      unfold createVectors
      rw [head]
      dsimp only
      unfold create put
      by_cases refused : vector.vectorId = "" ∨ 512 < vector.vectorId.toList.length
      · simp [refused]
      · by_cases there : exists? documents index vector.vectorId = true
        · simpa [refused, there] using later _
        · simpa [refused, there] using later _

/-- A healthy attempt at a window ends well, when nothing is raised. -/
theorem Attempt.Healthy.settles {schema : FeatureSchema} {start : Int} {attempt : Attempt}
    (healthy : attempt.Healthy python contracts engine gitSha schema start) {store : FeatureStore}
    {status : WindowStatus}
    (ended : (processWindow python contracts engine gitSha store schema start attempt).2 = some status) :
    status = .done ∨ status = .empty := by
  obtain ⟨⟨found, fetched, builds⟩, answers⟩ := healthy
  cases found with
  | nil =>
      simp only [processWindow, attemptWindow, fetched, openWindow, Table.upsert, Table.find?, if_true] at ended
      split at ended
      · exact Or.inr (Option.some.inj ended).symm
      · cases ended
  | cons event events =>
      obtain ⟨vectors, built⟩ := builds (List.cons_ne_nil event events)
      have calm := createVectors_healthy answers (featureIndex (start + fiveMinutes)) vectors store.documents
      simp only [processWindow, attemptWindow, fetched, openWindow, built] at ended
      generalize createVectors (featureIndex (start + fiveMinutes)) store.documents vectors attempt.creates = result
        at ended calm
      obtain ⟨after, all | error | raised⟩ := result
      · dsimp only at ended
        split at ended
        · exact Or.inl (Option.some.inj ended).symm
        · cases ended
      · exact absurd rfl (calm error)
      · cases ended

end Attempts

section Passes

variable {python : Python} {contracts : Contracts} {engine : FeatureEngine} {gitSha : String}

/-- The row of a processed window has the status that is returned. -/
theorem processWindow_row {store after : FeatureStore} {schema : FeatureSchema} {start : Int} {attempt : Attempt}
    {status : WindowStatus}
    (ended : processWindow python contracts engine gitSha store schema start attempt = (after, some status)) :
    ∃ row : WindowRow, row.status = status ∧ after.windows = store.windows.upsert (schema, start) row := by
  unfold processWindow at ended
  split at ended
  · cases ended
  · rename_i row _
    split at ended
    · obtain ⟨rfl, same⟩ := Prod.mk.inj ended
      exact ⟨row, Option.some.inj same, rfl⟩
    · cases ended

/-- A completed loop over the windows of a schema. -/
structure Passed (schema : FeatureSchema) (store after : FeatureStore) (windows : List Int)
    (tried : List (Int × Attempt)) (python : Python) (contracts : Contracts) (engine : FeatureEngine)
    (gitSha : String) : Prop where
  /-- The other windows keep their rows. -/
  others : ∀ other start, other ≠ schema ∨ start ∉ windows →
    after.windows.statusOf other start = store.windows.statusOf other start
  /-- Each window has the outcome of its attempt. -/
  outcomes : ∀ start ∈ windows, ∃ attempt before status, (start, attempt) ∈ tried ∧
    (processWindow python contracts engine gitSha before schema start attempt).2 = some status ∧
      after.windows.statusOf schema start = some status
  /-- The keys stay distinct. -/
  distinct : store.windows.keys.Nodup → after.windows.keys.Nodup

/-- A pass over distinct windows tries each of them once. -/
theorem processWindows_passed {schema : FeatureSchema} {windows : List Int} (unique : windows.Nodup)
    {store after : FeatureStore} {attempts left : List Attempt} {statuses : List WindowStatus}
    (ended : processWindows python contracts engine gitSha schema store windows attempts =
      (after, some statuses, left)) :
    Passed schema store after windows (triedWith windows attempts) python contracts engine gitSha := by
  induction windows generalizing store attempts statuses with
  | nil =>
      simp only [processWindows, Prod.mk.injEq] at ended
      obtain ⟨rfl, _⟩ := ended
      exact ⟨fun _ _ _ => rfl, by simp, id⟩
  | cons start rest ih =>
      obtain ⟨absent, others⟩ := List.nodup_cons.mp unique
      unfold processWindows at ended
      split at ended
      · cases ended
      · rename_i middle status first
        obtain ⟨row, reported, rows⟩ := processWindow_row first
        generalize done : processWindows python contracts engine gitSha schema middle rest attempts.tail = result
          at ended
        obtain ⟨last, outcomes, remaining⟩ := result
        obtain ⟨rfl, some, rfl⟩ : last = after ∧ outcomes.map (status :: ·) = some statuses ∧ remaining = left := by
          simpa using ended
        obtain ⟨more, rfl, _⟩ := Option.map_eq_some_iff.mp some
        have later := ih others done
        refine ⟨fun other place outside => ?_, fun place member => ?_, fun distinct => later.distinct ?_⟩
        · rw [later.others other place (outside.imp_right fun out inside => out (List.mem_cons_of_mem _ inside)), rows]
          refine statusOf_upsert_of_ne (fun same => ?_) row
          obtain ⟨rfl, rfl⟩ := Prod.mk.inj same
          exact outside.elim (fun different => different rfl) fun out => out List.mem_cons_self
        · rcases List.mem_cons.mp member with rfl | inside
          · refine ⟨_, store, status, List.mem_cons_self, by rw [first], ?_⟩
            rw [later.others schema place (Or.inr absent), rows, statusOf_upsert_self, reported]
          · obtain ⟨attempt, before, outcome, listed, result⟩ := later.outcomes place inside
            exact ⟨attempt, before, outcome, List.mem_cons_of_mem _ listed, result⟩
        · rw [rows]
          exact Table.nodup_keys_upsert distinct _ row

end Passes

section Calls

variable (python : Python) (contracts : Contracts) (engine : FeatureEngine) (gitSha : String) (schedule : Schedule)

/-- The store after further calls. -/
def callsFrom (store : FeatureStore) (calls : List WorkerCall) : FeatureStore :=
  calls.foldl (fun store call =>
    (runOnce python contracts engine gitSha schedule call.now store call.schemas call.attempts).1) store

/-- A call for the schema completes, and its attempts at the window are healthy. -/
def WorkerCall.Undisturbed (store : FeatureStore) (schema : FeatureSchema) (start : Int) (call : WorkerCall) : Prop :=
  schema ∈ call.schemas ∧
    (runOnce python contracts engine gitSha schedule call.now store call.schemas call.attempts).2.isSome = true ∧
      ∀ tried ∈ triedByCall python contracts engine gitSha schedule call.now store call.schemas call.attempts,
        tried.1 = (schema, start) → tried.2.Healthy python contracts engine gitSha schema start

/-- As many calls as there are failed windows settle the window, whatever happens to the others. -/
def Recovers (store : FeatureStore) (schema : FeatureSchema) (start : Int) : Prop :=
  ∀ calls : List WorkerCall, calls.length = (store.windows.starts schema (· = .failed)).length →
    Always (fun earlier call => call.Undisturbed python contracts engine gitSha schedule
      (callsFrom python contracts engine gitSha schedule store earlier) schema start) calls →
    ∃ count ≤ calls.length,
      (callsFrom python contracts engine gitSha schedule store (calls.take count)).windows.Settled schema start

/-- The window is settled, or it is among those that are tried again. -/
def FeatureState.Due (state : FeatureState) (schema : FeatureSchema) (start : Int) : Prop :=
  state.Settled schema start ∨
    (state.statusOf schema start = some .failed ∧ state.olderFailed schema start < schedule.retryRoom)

variable {python contracts engine gitSha schedule}

/-- The number of older failed windows grows with the failed windows. -/
theorem olderFailed_le {before after : FeatureState} (first : before.keys.Nodup) (second : after.keys.Nodup)
    {schema : FeatureSchema} {start : Int} (grows : ∀ place < start, before.statusOf schema place = some .failed →
      after.statusOf schema place = some .failed) :
    before.olderFailed schema start ≤ after.olderFailed schema start := by
  unfold FeatureState.olderFailed
  rw [List.countP_eq_length_filter, List.countP_eq_length_filter]
  refine (List.subperm_of_subset ((nodup_starts first _).filter _) ?_).length_le
  intro place member
  obtain ⟨listed, older⟩ := List.mem_filter.mp member
  obtain ⟨status, found, failed⟩ := (mem_starts first).mp listed
  rw [of_decide_eq_true failed] at found
  refine List.mem_filter.mpr ⟨(mem_starts second).mpr ⟨.failed, ?_, by simp⟩, older⟩
  exact grows place (of_decide_eq_true older) found

/-- A window that has not failed is not processed again. -/
theorem not_planned {state : FeatureState} (distinct : state.keys.Nodup) {schema : FeatureSchema} {start : Int}
    {status : WindowStatus} (recorded : state.statusOf schema start = some status) (well : status ≠ .failed) (now : Int) :
    start ∉ schedule.plan state schema now := by
  unfold Schedule.plan
  rw [mem_firsts, List.mem_append, mem_retried distinct]
  rintro (⟨failed, _⟩ | pending)
  · rw [recorded] at failed
    exact well (Option.some.inj failed)
  · obtain ⟨_, waits⟩ := List.mem_filter.mp pending
    exact of_decide_eq_true waits ((mem_starts distinct).mpr ⟨status, recorded, by simpa using well⟩)

/-- A pass keeps a settled window, and it settles a window that it tries again. -/
theorem pass_settles {schema other : FeatureSchema} {start now : Int} {store after : FeatureStore}
    {attempts left : List Attempt} {statuses : List WindowStatus} (distinct : store.windows.keys.Nodup)
    (ended : processWindows python contracts engine gitSha other store (schedule.plan store.windows other now) attempts =
      (after, some statuses, left))
    (healthy : ∀ tried ∈ triedWith (schedule.plan store.windows other now) attempts, other = schema → tried.1 = start →
      tried.2.Healthy python contracts engine gitSha schema start) :
    after.windows.keys.Nodup ∧ (store.windows.Settled schema start → after.windows.Settled schema start) ∧
      (store.windows.Due schedule schema start → after.windows.Due schedule schema start ∧
        (other = schema → after.windows.Settled schema start)) := by
  have passed := processWindows_passed (nodup_firsts _) ended
  have settled : store.windows.Settled schema start → after.windows.Settled schema start := by
    intro settled
    unfold FeatureState.Settled
    rw [passed.others schema start]
    · exact settled
    · by_cases same : schema = other
      · subst same
        rcases settled with done | empty
        · exact Or.inr (not_planned distinct done (by decide) now)
        · exact Or.inr (not_planned distinct empty (by decide) now)
      · exact Or.inl same
  refine ⟨passed.distinct distinct, settled, ?_⟩
  rintro (done | ⟨failed, few⟩)
  · exact ⟨Or.inl (settled done), fun _ => settled done⟩
  · by_cases same : other = schema
    · subst same
      have planned : start ∈ schedule.plan store.windows other now :=
        mem_firsts.mpr (List.mem_append_left _ ((mem_retried distinct schedule).mpr ⟨failed, few⟩))
      obtain ⟨attempt, before, status, listed, outcome, recorded⟩ := passed.outcomes start planned
      have well : after.windows.Settled other start := by
        unfold FeatureState.Settled
        rw [recorded]
        exact ((healthy _ listed rfl rfl).settles outcome).imp (congrArg some) (congrArg some)
      exact ⟨Or.inl well, fun _ => well⟩
    · have kept : ∀ place, after.windows.statusOf schema place = store.windows.statusOf schema place :=
        fun place => passed.others schema place (Or.inl (Ne.symm same))
      refine ⟨Or.inr ⟨(kept start).trans failed, lt_of_le_of_lt ?_ few⟩, fun equal => absurd equal same⟩
      exact olderFailed_le (passed.distinct distinct) distinct fun place _ here => (kept place).symm.trans here

/-- A completed call for its schema settles a window that is due. -/
theorem runOnce_settles {schema : FeatureSchema} {start now : Int} (schemas : List FeatureSchema)
    {store : FeatureStore} {attempts : List Attempt} (distinct : store.windows.keys.Nodup)
    (completes : (runOnce python contracts engine gitSha schedule now store schemas attempts).2.isSome = true)
    (healthy : ∀ tried ∈ triedByCall python contracts engine gitSha schedule now store schemas attempts,
      tried.1 = (schema, start) → tried.2.Healthy python contracts engine gitSha schema start) :
    (store.windows.Settled schema start →
      (runOnce python contracts engine gitSha schedule now store schemas attempts).1.windows.Settled schema start) ∧
    (store.windows.Due schedule schema start → schema ∈ schemas →
      (runOnce python contracts engine gitSha schedule now store schemas attempts).1.windows.Settled schema start) := by
  induction schemas generalizing store attempts with
  | nil => exact ⟨id, fun _ member => absurd member List.not_mem_nil⟩
  | cons other rest ih =>
      unfold runOnce at completes ⊢
      unfold triedByCall at healthy
      dsimp only at healthy
      generalize ended : processWindows python contracts engine gitSha other store
        (schedule.plan store.windows other now) attempts = result at completes healthy
      obtain ⟨after, none | statuses, left⟩ := result
      · simp at completes
      · have first : ∀ tried ∈ triedWith (schedule.plan store.windows other now) attempts, other = schema →
            tried.1 = start → tried.2.Healthy python contracts engine gitSha schema start := by
          intro tried member same place
          refine healthy _ (List.mem_append_left _ (List.mem_map_of_mem member)) ?_
          rw [same, place]
        obtain ⟨unique, keeps, settles⟩ := pass_settles distinct ended first
        have finished : (runOnce python contracts engine gitSha schedule now after rest left).2.isSome = true := by
          simpa using completes
        obtain ⟨kept, well⟩ := ih unique finished fun tried member => healthy tried (List.mem_append_right _ member)
        refine ⟨fun settled => kept (keeps settled), fun due member => ?_⟩
        obtain ⟨still, at_once⟩ := settles due
        rcases List.mem_cons.mp member with same | later
        · exact kept (at_once same.symm)
        · exact well still later

/-- A window with few older failed windows is settled by the next call. -/
theorem recovers_of_few {store : FeatureStore} (distinct : store.windows.keys.Nodup) {schema : FeatureSchema}
    {start : Int} (failed : store.windows.statusOf schema start = some .failed)
    (few : store.windows.olderFailed schema start < schedule.retryRoom) :
    Recovers python contracts engine gitSha schedule store schema start := by
  intro calls length undisturbed
  have listed : start ∈ store.windows.starts schema (· = .failed) := (mem_starts distinct).mpr ⟨.failed, failed, by simp⟩
  have positive : 0 < calls.length := by
    rw [length]
    exact List.length_pos_of_mem listed
  cases calls with
  | nil => simp at positive
  | cons call rest =>
      obtain ⟨named, completes, healthy⟩ := undisturbed [] call rest rfl
      exact ⟨1, positive, (runOnce_settles call.schemas distinct completes healthy).2 (Or.inr ⟨failed, few⟩) named⟩

end Calls

section Starving

variable {schedule : Schedule} {schema : FeatureSchema} {start : Int}

/-- The planned windows lie between the first one and the last end. -/
theorem windowsFrom_bounds {latestEnd first place : Int} {room : Nat} (member : place ∈ windowsFrom latestEnd first room) :
    first ≤ place ∧ place + fiveMinutes ≤ latestEnd := by
  induction room generalizing first with
  | zero => simp [windowsFrom] at member
  | succ room ih =>
      unfold windowsFrom at member
      split at member
      · rename_i closed
        rcases List.mem_cons.mp member with rfl | later
        · exact ⟨le_rfl, closed⟩
        · have bounds := ih later
          unfold fiveMinutes at *
          omega
      · cases member

/-- There are no more of them than room. -/
theorem length_windowsFrom (latestEnd first : Int) (room : Nat) : (windowsFrom latestEnd first room).length ≤ room := by
  induction room generalizing first with
  | zero => simp [windowsFrom]
  | succ room ih =>
      unfold windowsFrom
      split
      · exact Nat.succ_le_succ (ih _)
      · exact Nat.zero_le _

/-- A plan is no longer than its two bounds. -/
theorem length_plan (state : FeatureState) (now : Int) :
    (schedule.plan state schema now).length ≤ schedule.retryRoom + schedule.maxWindows.toNat := by
  refine (length_firsts_le _).trans ?_
  rw [List.length_append]
  have retried : (state.retried schema schedule.maxWindows).length ≤ schedule.retryRoom := List.length_take_le _ _
  have pending : (state.pending schema (schedule.candidates state schema now)).length ≤ schedule.maxWindows.toNat :=
    (List.length_filter_le _ _).trans (length_windowsFrom _ _ _)
  exact Nat.add_le_add retried pending

/-- A time at which a call does not find the window among the closed ones. -/
def Schedule.blindTo (schedule : Schedule) (state : FeatureState) (schema : FeatureSchema) (start : Int) : Int :=
  match state.lastDone schema with
  | some last => last + schedule.lag
  | none => start + fiveMinutes + schedule.lookback

/-- A clock that is blind to a window does not offer it. -/
theorem blindTo_candidates {first state : FeatureState} (same : state.lastDone schema = first.lastDone schema) :
    start ∉ schedule.candidates state schema (schedule.blindTo first schema start) := by
  intro member
  obtain ⟨after, before⟩ := windowsFrom_bounds member
  unfold Schedule.since at after
  unfold Schedule.blindTo at after before
  rw [same] at after
  generalize first.lastDone schema = done at after before
  cases done with
  | some last =>
      dsimp only at after before
      rw [floorWindow_eq] at after before
      unfold fiveMinutes at *
      omega
  | none =>
      dsimp only at after
      rw [floorWindow_of_aligned (floorWindow_aligned _), floorWindow_eq] at after
      unfold fiveMinutes at *
      omega

/-- The last window that is done depends on the windows that are not failed. -/
theorem lastDone_congr {before after : FeatureState} (first : before.keys.Nodup) (second : after.keys.Nodup)
    (same : ∀ place status, status ≠ .failed →
      (after.statusOf schema place = some status ↔ before.statusOf schema place = some status)) :
    after.lastDone schema = before.lastDone schema := by
  have members : ∀ place, place ∈ after.starts schema (· ≠ .failed) ↔ place ∈ before.starts schema (· ≠ .failed) := by
    intro place
    rw [mem_starts first, mem_starts second]
    refine exists_congr fun status => ⟨fun ⟨found, well⟩ => ?_, fun ⟨found, well⟩ => ?_⟩
    · exact ⟨(same place status (of_decide_eq_true well)).mp found, well⟩
    · exact ⟨(same place status (of_decide_eq_true well)).mpr found, well⟩
  unfold FeatureState.lastDone
  cases last : (before.starts schema (· ≠ .failed)).max? with
  | none =>
      rw [List.max?_eq_none_iff] at last ⊢
      rw [List.eq_nil_iff_forall_not_mem] at last ⊢
      exact fun place member => last place ((members place).mp member)
  | some greatest =>
      rw [List.max?_eq_some_iff] at last ⊢
      exact ⟨(members greatest).mpr last.1, fun place member => last.2 place ((members place).mp member)⟩

variable (python : Python) (contracts : Contracts) (values : PythonValues) (baseline : Option (List String))
  (gitSha : String)

/-- An event without a schema makes its window fail. -/
theorem processWindow_broken (store : FeatureStore) (schema : FeatureSchema) (start : Int) :
    (processWindow python contracts (featureEngine python values baseline) gitSha store schema start labFailure).2 =
      some .failed := by
  simp [processWindow, attemptWindow, labFailure, openWindow, buildVectors, build, featureEngine, groupsOf,
    validateAndSelect, selectEvent, nested, Json.get, isText, Check.guard, Table.upsert, Table.find?,
    bind, Except.bind]

/-- With enough outcomes of one kind every window meets that outcome. -/
theorem triedWith_replicate {attempt : Attempt} {room : Nat} {windows : List Int} (enough : windows.length ≤ room) :
    ∀ tried ∈ triedWith windows (List.replicate room attempt), tried.2 = attempt := by
  induction windows generalizing room with
  | nil => simp [triedWith]
  | cons first rest ih =>
      cases room with
      | zero => simp at enough
      | succ room =>
          intro tried member
          rcases List.mem_cons.mp member with rfl | later
          · rfl
          · exact ih (Nat.le_of_succ_le_succ enough) tried later

/-- Only planned windows are tried. -/
theorem mem_triedWith {windows : List Int} {attempts : List Attempt} {tried : Int × Attempt}
    (member : tried ∈ triedWith windows attempts) : tried.1 ∈ windows := by
  induction windows generalizing attempts with
  | nil => simp [triedWith] at member
  | cons first rest ih =>
      rcases List.mem_cons.mp member with rfl | later
      · exact List.mem_cons_self
      · exact List.mem_cons_of_mem _ (ih later)

/-- A call for one schema tries the windows of its plan. -/
theorem triedByCall_single {python : Python} {contracts : Contracts} {engine : FeatureEngine} {gitSha : String} {now : Int}
    {store : FeatureStore} {attempts : List Attempt} {tried : (FeatureSchema × Int) × Attempt}
    (member : tried ∈ triedByCall python contracts engine gitSha schedule now store [schema] attempts)
    (place : tried.1 = (schema, start)) : start ∈ schedule.plan store.windows schema now := by
  unfold triedByCall at member
  rcases List.mem_append.mp member with here | later
  · obtain ⟨pair, listed, rfl⟩ := List.mem_map.mp here
    exact (Prod.mk.inj place).2 ▸ mem_triedWith listed
  · split at later <;> cases later

/-- A loop with broken events completes. -/
theorem processWindows_broken {windows : List Int} {attempts : List Attempt}
    (broken : ∀ tried ∈ triedWith windows attempts, tried.2 = labFailure) (store : FeatureStore) :
    ∃ after statuses left, processWindows python contracts (featureEngine python values baseline) gitSha schema store
      windows attempts = (after, some statuses, left) := by
  induction windows generalizing store attempts with
  | nil => exact ⟨store, [], attempts, rfl⟩
  | cons first rest ih =>
      have head : attempts.headD { fetched := .ok (.events []) } = labFailure := broken _ List.mem_cons_self
      have ends := processWindow_broken python contracts values baseline gitSha store schema first
      generalize result : processWindow python contracts (featureEngine python values baseline) gitSha store schema first
        labFailure = outcome at ends
      obtain ⟨middle, status⟩ := outcome
      cases ends
      obtain ⟨after, statuses, left, ended⟩ := ih (fun tried member => broken tried (List.mem_cons_of_mem _ member)) middle
      refine ⟨after, .failed :: statuses, left, ?_⟩
      unfold processWindows
      rw [head, result]
      simp [ended]

/-- A call in which every event of the schema is broken. -/
def brokenCall (schedule : Schedule) (schema : FeatureSchema) (now : Int) : WorkerCall :=
  ⟨now, [schema], List.replicate (schedule.retryRoom + schedule.maxWindows.toNat) labFailure⟩

/-- The window has failed, enough older windows have failed, and the search for closed windows starts as before. -/
structure Stuck (schedule : Schedule) (first : FeatureState) (schema : FeatureSchema) (start : Int)
    (state : FeatureState) : Prop where
  distinct : state.keys.Nodup
  failed : state.statusOf schema start = some .failed
  crowded : schedule.retryRoom ≤ state.olderFailed schema start
  lastDone : state.lastDone schema = first.lastDone schema

/-- A stuck window is not planned again. -/
theorem Stuck.not_planned {first state : FeatureState} (stuck : Stuck schedule first schema start state) :
    start ∉ schedule.plan state schema (schedule.blindTo first schema start) := by
  unfold Schedule.plan
  rw [mem_firsts, List.mem_append, mem_retried stuck.distinct]
  rintro (⟨_, few⟩ | pending)
  · exact absurd few (Nat.not_lt.mpr stuck.crowded)
  · exact blindTo_candidates stuck.lastDone (List.mem_filter.mp pending).1

/-- Broken events leave the window stuck. -/
theorem Stuck.call {first : FeatureState} {store : FeatureStore} (stuck : Stuck schedule first schema start store.windows) :
    let call := brokenCall schedule schema (schedule.blindTo first schema start)
    let done := runOnce python contracts (featureEngine python values baseline) gitSha schedule call.now store call.schemas
      call.attempts
    done.2.isSome = true ∧ Stuck schedule first schema start done.1.windows := by
  intro call done
  have broken : ∀ tried ∈ triedWith (schedule.plan store.windows schema call.now) call.attempts, tried.2 = labFailure :=
    triedWith_replicate (length_plan store.windows call.now)
  obtain ⟨after, statuses, left, ended⟩ : ∃ after statuses left,
      processWindows python contracts (featureEngine python values baseline) gitSha schema store
        (schedule.plan store.windows schema call.now) call.attempts = (after, some statuses, left) :=
    processWindows_broken python contracts values baseline gitSha broken store
  have passed := processWindows_passed (nodup_firsts _) ended
  have result : done = (after, some [(schema, statuses)]) := by
    change runOnce _ _ _ _ _ _ _ [schema] call.attempts = _
    unfold runOnce
    rw [ended]
    rfl
  have retried : ∀ place ∈ schedule.plan store.windows schema call.now,
      after.windows.statusOf schema place = some .failed := by
    intro place member
    obtain ⟨attempt, before, status, listed, outcome, recorded⟩ := passed.outcomes place member
    rw [show attempt = labFailure from broken _ listed, processWindow_broken] at outcome
    rw [recorded, outcome]
  have kept : ∀ place ∉ schedule.plan store.windows schema call.now,
      after.windows.statusOf schema place = store.windows.statusOf schema place :=
    fun place outside => passed.others schema place (Or.inr outside)
  rw [result]
  refine ⟨rfl, passed.distinct stuck.distinct, (kept start stuck.not_planned).trans stuck.failed, ?_, ?_⟩
  · refine stuck.crowded.trans (olderFailed_le stuck.distinct (passed.distinct stuck.distinct) ?_)
    intro place _ failed
    by_cases planned : place ∈ schedule.plan store.windows schema call.now
    · exact retried place planned
    · exact (kept place planned).trans failed
  · refine (lastDone_congr stuck.distinct (passed.distinct stuck.distinct) ?_).trans stuck.lastDone
    intro place status well
    by_cases planned : place ∈ schedule.plan store.windows schema call.now
    · rw [retried place planned]
      refine ⟨fun same => absurd (Option.some.inj same).symm well, fun recorded => ?_⟩
      exact absurd planned (Workers.not_planned stuck.distinct recorded well _)
    · rw [kept place planned]

/-- It is stuck after any number of such calls. -/
theorem Stuck.calls {first : FeatureState} {store : FeatureStore} (stuck : Stuck schedule first schema start store.windows)
    (count : Nat) : Stuck schedule first schema start
      (callsFrom python contracts (featureEngine python values baseline) gitSha schedule store
        (List.replicate count (brokenCall schedule schema (schedule.blindTo first schema start)))).windows := by
  induction count generalizing store with
  | zero => exact stuck
  | succ count ih => exact ih (stuck.call python contracts values baseline gitSha).2

/-- A window behind enough older failed windows is starved when these keep failing. -/
theorem not_recovers_of_many {store : FeatureStore} (distinct : store.windows.keys.Nodup)
    (failed : store.windows.statusOf schema start = some .failed)
    (many : schedule.retryRoom ≤ store.windows.olderFailed schema start) :
    ¬ Recovers python contracts (featureEngine python values baseline) gitSha schedule store schema start := by
  intro recovers
  have stuck : Stuck schedule store.windows schema start store.windows := ⟨distinct, failed, many, rfl⟩
  let call := brokenCall schedule schema (schedule.blindTo store.windows schema start)
  let total := (store.windows.starts schema (· = .failed)).length
  have undisturbed : Always (fun earlier call => call.Undisturbed python contracts (featureEngine python values baseline)
      gitSha schedule (callsFrom python contracts (featureEngine python values baseline) gitSha schedule store earlier)
        schema start) (List.replicate total call) := by
    intro earlier entry later same
    have each : ∀ member ∈ earlier ++ entry :: later, member = call := by
      rw [← same]
      exact fun member => List.eq_of_mem_replicate
    obtain rfl := each entry (by simp)
    rw [List.eq_replicate_of_mem fun member listed => each member (List.mem_append_left _ listed)]
    have here := stuck.calls python contracts values baseline gitSha earlier.length
    refine ⟨List.mem_singleton_self schema, (here.call python contracts values baseline gitSha).1, ?_⟩
    intro tried member place
    exact absurd (triedByCall_single member place) here.not_planned
  obtain ⟨count, _, settled⟩ := recovers (List.replicate total call) List.length_replicate undisturbed
  rw [List.take_replicate] at settled
  have still := (stuck.calls python contracts values baseline gitSha (min count total)).failed
  rcases settled with done | empty
  · exact absurd (done.symm.trans still) (by decide)
  · exact absurd (empty.symm.trans still) (by decide)

/-- A failed window recovers exactly when fewer failed windows are older than a pass tries again. -/
theorem failed_window_recovers_iff (store : FeatureStore) (distinct : store.windows.keys.Nodup)
    (failed : store.windows.statusOf schema start = some .failed) :
    Recovers python contracts (featureEngine python values baseline) gitSha schedule store schema start ↔
      store.windows.olderFailed schema start < schedule.retryRoom := by
  refine ⟨fun recovers => ?_, recovers_of_few distinct failed⟩
  by_contra many
  exact not_recovers_of_many python contracts values baseline gitSha distinct failed (Nat.not_lt.mp many) recovers

/-- Two failed windows, of which a call tries one again. -/
def failedPair : FeatureStore where
  windows := [((.networkWindow, deskTime), { status := .failed, events := 1 }),
    ((.networkWindow, deskTime + fiveMinutes), { status := .failed, events := 1 })]

/-- The second of the failed windows is starved. -/
theorem second_failed_window_starves :
    ¬ Recovers labPython labContracts (featureEngine labPython labValues none) "0123abc" labSchedule failedPair
      .networkWindow (deskTime + fiveMinutes) :=
  not_recovers_of_many labPython labContracts labValues none "0123abc" (by decide) (by decide) (by decide)

/-- The first of them recovers. -/
theorem first_failed_window_recovers :
    failedPair.windows.olderFailed .networkWindow deskTime = 0 ∧
      Recovers labPython labContracts (featureEngine labPython labValues none) "0123abc" labSchedule failedPair
        .networkWindow deskTime :=
  ⟨by decide, (failed_window_recovers_iff labPython labContracts labValues none "0123abc" failedPair (by decide)
    (by decide)).mpr (by decide)⟩

end Starving

end ClosedLoop.Workers
