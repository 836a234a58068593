import ClosedLoop.Construction.Workers.Windows
import ClosedLoop.Library.Trace
import ClosedLoop.Proof.Workers.Pulling

namespace ClosedLoop.Workers

open ClosedLoop.Library ClosedLoop.Library.Progression ClosedLoop.Response

section Alignment

/-- The window of a moment starts at the last multiple of five minutes. -/
theorem floorWindow_eq (moment : Int) : floorWindow moment = moment / fiveMinutes * fiveMinutes := by
  simp only [floorWindow, fiveMinutes]
  omega

/-- A window starts at a multiple of five minutes. -/
theorem floorWindow_aligned (moment : Int) : floorWindow moment % fiveMinutes = 0 := by
  rw [floorWindow_eq, Int.mul_emod_left]

/-- A multiple of five minutes starts its own window. -/
theorem floorWindow_of_aligned {start : Int} (aligned : start % fiveMinutes = 0) : floorWindow start = start := by
  rw [floorWindow_eq, Int.ediv_mul_cancel (Int.dvd_of_emod_eq_zero aligned)]

/-- Later moments lie in later windows. -/
theorem floorWindow_mono {first second : Int} (before : first ≤ second) : floorWindow first ≤ floorWindow second := by
  rw [floorWindow_eq, floorWindow_eq]
  unfold fiveMinutes
  omega

example : floorWindow (deskTime + seconds 299) = deskTime ∧ floorWindow (deskTime + seconds 300) ≠ deskTime := by
  decide +kernel

/-- The closed windows go on from a member of a progression. -/
theorem windowsFrom_extends (latestEnd first : Int) (room : Nat) {place count : Nat} (reached : place ≤ count) :
    Extends fiveMinutes first count (windowsFrom latestEnd (first + place * fiveMinutes) room) := by
  induction room generalizing place count with
  | zero => exact .nil count
  | succ room ih =>
      unfold windowsFrom
      split
      · have next : first + place * fiveMinutes + fiveMinutes = first + (place + 1 : Nat) * fiveMinutes := by
          push_cast
          ring
        rw [next]
        rcases Nat.lt_or_eq_of_le reached with inside | rfl
        · exact .old ⟨place, inside, rfl⟩ (ih inside)
        · exact .next rfl (ih le_rfl)
      · exact .nil count

end Alignment

section Ledger

/-- A window has a row. -/
def FeatureState.Records (state : FeatureState) (schema : FeatureSchema) (start : Int) : Prop :=
  (schema, start) ∈ state.keys

variable {state : FeatureState} {schema : FeatureSchema} {start : Int}

/-- A start that is listed is recorded. -/
theorem FeatureState.Records.of_starts {wanted : WindowStatus → Bool} (member : start ∈ state.starts schema wanted) :
    state.Records schema start := by
  obtain ⟨row, listed, rfl⟩ := List.mem_map.mp member
  obtain ⟨there, fits⟩ := List.mem_filter.mp listed
  obtain ⟨same, _⟩ := of_decide_eq_true fits
  subst same
  exact List.mem_map_of_mem there

/-- A window that is written is recorded, besides those before it. -/
theorem records_upsert {other : FeatureSchema} {place : Int} {row : WindowRow} :
    FeatureState.Records (state.upsert (other, place) row) schema start ↔
      state.Records schema start ∨ (schema = other ∧ start = place) := by
  unfold FeatureState.Records
  rw [Table.mem_keys_upsert, Prod.mk.injEq, or_comm]

end Ledger

section Passes

variable (python : Python) (contracts : Contracts) (engine : FeatureEngine) (gitSha : String)

/-- A window that was processed has a row, and a call that was ended leaves the rows. -/
theorem processWindow_windows (store : FeatureStore) (schema : FeatureSchema) (start : Int) (attempt : Attempt) :
    match processWindow python contracts engine gitSha store schema start attempt with
    | (after, none) => after.windows = store.windows
    | (after, some _) => ∃ row, after.windows = store.windows.upsert (schema, start) row := by
  unfold processWindow
  generalize attemptWindow python contracts engine gitSha store.documents schema start attempt = result
  obtain ⟨documents, row⟩ := result
  cases row with
  | none => rfl
  | some row =>
      cases attempt.recorded with
      | true => exact ⟨row, rfl⟩
      | false => rfl

/-- The recorded windows of a schema are the first members of a progression of windows. -/
def Spread (state : FeatureState) (schema : FeatureSchema) (first : Int) (count : Nat) : Prop :=
  ∀ start, state.Records schema start ↔ Within fiveMinutes first count start

variable {python contracts engine gitSha}

/-- The loop over windows that go on from the recorded ones leaves no gap, wherever it ends. -/
theorem processWindows_spread {schema : FeatureSchema} {first : Int} {count : Nat} {store : FeatureStore}
    {windows : List Int} {attempts : List Attempt} (spread : Spread store.windows schema first count)
    (grows : Extends fiveMinutes first count windows) :
    ∃ more ≥ count, Spread (processWindows python contracts engine gitSha schema store windows attempts).1.windows
      schema first more := by
  induction grows generalizing store attempts with
  | nil count => exact ⟨count, le_rfl, spread⟩
  | @old count value rest known _ ih =>
      have step := processWindow_windows python contracts engine gitSha store schema value
        (attempts.headD { fetched := .ok (.events []) })
      unfold processWindows
      split
      · rename_i ended
        rw [ended] at step
        dsimp only at step ⊢
        rw [step]
        exact ⟨count, le_rfl, spread⟩
      · rename_i went
        rw [went] at step
        obtain ⟨row, after⟩ := step
        refine ih ?_
        intro start
        rw [after, records_upsert, spread start]
        exact ⟨fun either => either.elim id fun same => same.2 ▸ known, Or.inl⟩
  | @next count value rest place _ ih =>
      have step := processWindow_windows python contracts engine gitSha store schema value
        (attempts.headD { fetched := .ok (.events []) })
      unfold processWindows
      split
      · rename_i ended
        rw [ended] at step
        dsimp only at step ⊢
        rw [step]
        exact ⟨count, le_rfl, spread⟩
      · rename_i went
        rw [went] at step
        obtain ⟨row, after⟩ := step
        have one : Spread (store.windows.upsert (schema, value) row) schema first (count + 1) := by
          intro start
          rw [records_upsert, spread start, within_succ, place]
          simp
        obtain ⟨more, larger, wide⟩ := ih (after ▸ one)
        exact ⟨more, Nat.le_of_succ_le larger, wide⟩

/-- A pass over one schema leaves the rows of the others. -/
theorem processWindows_other {schema other : FeatureSchema} (different : other ≠ schema) (store : FeatureStore)
    (windows : List Int) (attempts : List Attempt) (start : Int) :
    (processWindows python contracts engine gitSha schema store windows attempts).1.windows.Records other start ↔
      store.windows.Records other start := by
  induction windows generalizing store attempts with
  | nil => exact Iff.rfl
  | cons value rest ih =>
      have step := processWindow_windows python contracts engine gitSha store schema value
        (attempts.headD { fetched := .ok (.events []) })
      unfold processWindows
      split
      · rename_i ended
        rw [ended] at step
        dsimp only at step ⊢
        rw [step]
      · rename_i went
        rw [went] at step
        obtain ⟨row, after⟩ := step
        rw [ih, after, records_upsert]
        exact ⟨fun either => either.resolve_right fun same => different same.1, Or.inl⟩

end Passes

section Plans

variable {schedule : Schedule} {state : FeatureState} {schema : FeatureSchema} {now : Int} {first : Int} {count : Nat}

/-- The lookback still reaches the recorded windows when all of them have failed and there is a window to process. -/
def Schedule.Reaches (schedule : Schedule) (state : FeatureState) (schema : FeatureSchema) (now : Int) : Prop :=
  state.lastDone schema = none → schedule.candidates state schema now ≠ [] → ∀ start, state.Records schema start →
    ∃ later, state.Records schema later ∧ floorWindow (now - schedule.lookback) ≤ later + fiveMinutes

/-- The recorded windows of a schema are one run of aligned windows that began within the lookback of an earlier
call. -/
structure Rooted (schedule : Schedule) (state : FeatureState) (schema : FeatureSchema) (now : Int) (first : Int)
    (count : Nat) : Prop where
  aligned : first % fiveMinutes = 0
  spread : Spread state schema first count
  early : 0 < count → first ≤ floorWindow (now - schedule.lookback)

/-- A schedule that is rooted stays so at a later clock. -/
theorem Rooted.later {later : Int} (rooted : Rooted schedule state schema now first count) (passed : now ≤ later) :
    Rooted schedule state schema later first count :=
  { rooted with
    early := fun some => (rooted.early some).trans (floorWindow_mono (by omega)) }

/-- The failed windows that are tried again have a row. -/
theorem retried_within (spread : Spread state schema first count) (maxWindows : Int) :
    ∀ start ∈ state.retried schema maxWindows, Within fiveMinutes first count start := by
  intro start member
  have listed := (List.mem_insertionSort _).mp (List.mem_of_mem_take member)
  exact (spread start).mp (FeatureState.Records.of_starts listed)

/-- The plan goes on from the recorded windows when the candidates do. -/
theorem plan_extends (spread : Spread state schema first count)
    (grows : Extends fiveMinutes first count (schedule.candidates state schema now)) :
    Extends fiveMinutes first count (schedule.plan state schema now) := by
  have positive : 0 < fiveMinutes := by decide
  refine Extends.firsts positive (Extends.append (retried_within spread _) (grows.filter positive ?_))
  intro start done
  rw [decide_eq_false_iff_not, not_not] at done
  exact (spread start).mp (FeatureState.Records.of_starts done)

/-- The candidates go on from a member of the progression at which the search starts. -/
theorem candidates_extends {place : Nat} (aligned : first % fiveMinutes = 0)
    (starts : schedule.since state schema now = first + place * fiveMinutes) (reached : place ≤ count) :
    Extends fiveMinutes first count (schedule.candidates state schema now) := by
  have whole : (first + place * fiveMinutes) % fiveMinutes = 0 := by
    rw [Int.add_mul_emod_self_right, aligned]
  unfold Schedule.candidates closedWindows
  rw [starts, floorWindow_of_aligned whole]
  exact windowsFrom_extends _ first _ reached

/-- An aligned time between two members of a progression is a member. -/
theorem place_of_aligned {time : Int} (aligned : first % fiveMinutes = 0) (whole : time % fiveMinutes = 0)
    (after : first ≤ time) (before : time ≤ first + count * fiveMinutes) :
    ∃ place ≤ count, time = first + place * fiveMinutes := by
  unfold fiveMinutes at *
  refine ⟨((time - first) / 300000000).toNat, ?_, ?_⟩ <;> omega

/-- With a window that is done, the search starts right after a recorded one. -/
theorem since_done {last : Int} (spread : Spread state schema first count) (done : state.lastDone schema = some last) :
    ∃ place ≤ count, schedule.since state schema now = first + place * fiveMinutes := by
  have member := List.max?_mem done
  obtain ⟨index, below, same⟩ := (spread last).mp (FeatureState.Records.of_starts member)
  refine ⟨index + 1, below, ?_⟩
  rw [Schedule.since, done, same]
  push_cast
  ring

/-- The plan of a pass goes on from the recorded windows. Before the first row the lookback says where they begin. -/
theorem Rooted.plan (rooted : Rooted schedule state schema now first count)
    (reaches : schedule.Reaches state schema now) :
    ∃ root, root % fiveMinutes = 0 ∧ root ≤ floorWindow (now - schedule.lookback) ∧ Spread state schema root count ∧
      Extends fiveMinutes root count (schedule.plan state schema now) := by
  rcases Nat.eq_zero_or_pos count with rfl | some
  · have empty : ∀ start, ¬ state.Records schema start := by
      intro start there
      obtain ⟨index, below, _⟩ := (rooted.spread start).mp there
      omega
    have spread : Spread state schema (floorWindow (now - schedule.lookback)) 0 := by
      intro start
      exact ⟨fun there => absurd there (empty start), fun ⟨index, below, _⟩ => absurd below (Nat.not_lt_zero index)⟩
    have undone : state.lastDone schema = none := by
      cases done : state.lastDone schema with
      | none => rfl
      | some last => exact absurd (FeatureState.Records.of_starts (List.max?_mem done)) (empty last)
    have starts : schedule.since state schema now = floorWindow (now - schedule.lookback) + (0 : Nat) * fiveMinutes := by
      rw [Schedule.since, undone]
      simp
    have aligned := floorWindow_aligned (now - schedule.lookback)
    exact ⟨_, aligned, le_rfl, spread, plan_extends spread (candidates_extends aligned starts le_rfl)⟩
  · refine ⟨first, rooted.aligned, rooted.early some, rooted.spread, plan_extends rooted.spread ?_⟩
    cases done : state.lastDone schema with
    | some last =>
        obtain ⟨place, reached, starts⟩ := since_done rooted.spread done
        exact candidates_extends rooted.aligned starts reached
    | none =>
        by_cases none : schedule.candidates state schema now = []
        · rw [none]
          exact .nil count
        · have there : state.Records schema first := (rooted.spread first).mpr ⟨0, some, by simp⟩
          obtain ⟨later, recorded, near⟩ := reaches done none first there
          obtain ⟨index, below, same⟩ := (rooted.spread later).mp recorded
          have before : floorWindow (now - schedule.lookback) ≤ first + count * fiveMinutes := by
            unfold fiveMinutes at *
            omega
          obtain ⟨place, reached, starts⟩ := place_of_aligned rooted.aligned
            (floorWindow_aligned (now - schedule.lookback)) (rooted.early some) before
          refine candidates_extends rooted.aligned ?_ reached
          rw [Schedule.since, done]
          exact starts

end Plans

section Runs

variable (python : Python) (contracts : Contracts) (engine : FeatureEngine) (gitSha : String) (schedule : Schedule)

/-- The ledger and the schema at the start of each pass of a call. -/
def passesOf (now : Int) : FeatureStore → List FeatureSchema → List Attempt → List (FeatureState × FeatureSchema)
  | _, [], _ => []
  | store, schema :: rest, attempts =>
      (store.windows, schema) ::
        match processWindows python contracts engine gitSha schema store
          (schedule.plan store.windows schema now) attempts with
        | (_, none, _) => []
        | (store, some _, attempts) => passesOf now store rest attempts

/-- In each pass of a call the lookback reaches the recorded windows. -/
def WorkerCall.Reaches (store : FeatureStore) (call : WorkerCall) : Prop :=
  ∀ pass ∈ passesOf python contracts engine gitSha schedule call.now store call.schemas call.attempts,
    schedule.Reaches pass.1 pass.2 call.now

/-- The recorded windows of a schema are one run of five-minute windows without a gap. -/
def GapFree (state : FeatureState) (schema : FeatureSchema) : Prop :=
  ∃ first count, first % fiveMinutes = 0 ∧ Spread state schema first count

variable {python contracts engine gitSha schedule}

/-- What holds of the rows of every schema. -/
def Grounded (schedule : Schedule) (state : FeatureState) (now : Int) : Prop :=
  ∀ schema, ∃ first count, Rooted schedule state schema now first count

/-- A pass leaves no gap in any schema. -/
theorem pass_grounded {store : FeatureStore} {now : Int} (grounded : Grounded schedule store.windows now)
    {schema : FeatureSchema} (reaches : schedule.Reaches store.windows schema now) (attempts : List Attempt) :
    Grounded schedule (processWindows python contracts engine gitSha schema store
      (schedule.plan store.windows schema now) attempts).1.windows now := by
  intro other
  by_cases same : other = schema
  · subst same
    obtain ⟨first, count, rooted⟩ := grounded other
    obtain ⟨root, aligned, early, spread, grows⟩ := rooted.plan reaches
    obtain ⟨more, _, wide⟩ : ∃ more ≥ count, Spread (processWindows python contracts engine gitSha other store
        (schedule.plan store.windows other now) attempts).1.windows other root more := processWindows_spread spread grows
    exact ⟨root, more, aligned, wide, fun _ => early⟩
  · obtain ⟨first, count, rooted⟩ := grounded other
    refine ⟨first, count, rooted.aligned, ?_, rooted.early⟩
    intro start
    rw [processWindows_other same]
    exact rooted.spread start

/-- A call leaves no gap in any schema. -/
theorem call_grounded {now : Int} (schemas : List FeatureSchema) {store : FeatureStore} {attempts : List Attempt}
    (grounded : Grounded schedule store.windows now)
    (reaches : ∀ pass ∈ passesOf python contracts engine gitSha schedule now store schemas attempts,
      schedule.Reaches pass.1 pass.2 now) :
    Grounded schedule (runOnce python contracts engine gitSha schedule now store schemas attempts).1.windows now := by
  induction schemas generalizing store attempts with
  | nil => exact grounded
  | cons schema rest ih =>
      unfold passesOf at reaches
      have one : Grounded schedule (processWindows python contracts engine gitSha schema store
          (schedule.plan store.windows schema now) attempts).1.windows now :=
        pass_grounded grounded (reaches _ List.mem_cons_self) attempts
      unfold runOnce
      split
      · rename_i ended
        rw [ended] at one
        exact one
      · rename_i went
        rw [went] at one reaches
        exact ih one fun pass member => reaches pass (List.mem_cons_of_mem _ member)

/-- The last call runs on what the earlier ones left. -/
theorem runCalls_snoc (front : List WorkerCall) (last : WorkerCall) :
    runCalls python contracts engine gitSha schedule (front ++ [last]) =
      (runOnce python contracts engine gitSha schedule last.now (runCalls python contracts engine gitSha schedule front)
        last.schemas last.attempts).1 := by
  simp [runCalls, List.foldl_append]

/-- After calls that reach the recorded windows, no schema has a gap. -/
theorem runCalls_grounded {calls : List WorkerCall} (ordered : calls.Pairwise fun first second => first.now ≤ second.now)
    (reaches : Always (fun earlier call => WorkerCall.Reaches python contracts engine gitSha schedule
      (runCalls python contracts engine gitSha schedule earlier) call) calls)
    {now : Int} (passed : ∀ call ∈ calls, call.now ≤ now) :
    Grounded schedule (runCalls python contracts engine gitSha schedule calls).windows now := by
  induction calls using List.reverseRecOn generalizing now with
  | nil =>
      intro schema
      refine ⟨0, 0, by decide, fun start => ?_, by simp⟩
      simp [runCalls, FeatureState.Records, Table.keys, Within]
  | append_singleton front last ih =>
      obtain ⟨earlier, _, before⟩ := List.pairwise_append.mp ordered
      have grounded := ih earlier reaches.earlier fun call member => before call member last (List.mem_singleton_self last)
      rw [runCalls_snoc]
      have after := call_grounded last.schemas grounded (reaches front last [] rfl)
      intro schema
      obtain ⟨first, count, rooted⟩ := after schema
      exact ⟨first, count, rooted.later (passed last (by simp))⟩

variable (python contracts engine gitSha schedule)

/-- The recorded windows are gap-free for every schema after every call. -/
def WindowsGapFree (calls : List WorkerCall) : Prop :=
  ∀ before after, calls = before ++ after → ∀ schema,
    GapFree (runCalls python contracts engine gitSha schedule before).windows schema

/-- The recorded windows have no gap in a run in which the lookback of each pass reaches the recorded windows. -/
theorem windows_without_gap (calls : List WorkerCall)
    (ordered : calls.Pairwise fun first second => first.now ≤ second.now)
    (reaches : Always (fun earlier call => WorkerCall.Reaches python contracts engine gitSha schedule
      (runCalls python contracts engine gitSha schedule earlier) call) calls) :
    WindowsGapFree python contracts engine gitSha schedule calls := by
  intro before after split schema
  subst split
  have bounded : ∃ now, ∀ call ∈ before, call.now ≤ now := by
    rcases List.eq_nil_or_concat before with rfl | ⟨front, last, rfl⟩
    · exact ⟨0, by simp⟩
    · refine ⟨last.now, fun call member => ?_⟩
      rw [List.concat_eq_append] at member ordered
      rcases List.mem_append.mp member with early | final
      · exact (List.pairwise_append.mp (List.pairwise_append.mp ordered).1).2.2 call early last (List.mem_singleton_self last)
      · exact List.mem_singleton.mp final ▸ le_rfl
  obtain ⟨now, passed⟩ := bounded
  obtain ⟨first, count, rooted⟩ := runCalls_grounded (List.pairwise_append.mp ordered).1 reaches.earlier passed schema
  exact ⟨first, count, rooted.aligned, rooted.spread⟩

end Runs

section Lab

def labSchedule : Schedule := ⟨seconds 30, seconds 600, 1⟩

/-- An event that no engine accepts makes its window fail. -/
def labFailure : Attempt := { fetched := .ok (.events [.obj []]) }

def labCall (minute : Int) : WorkerCall :=
  ⟨deskTime + seconds (60 * minute), [.networkWindow], [labFailure, { fetched := .ok (.events []) }]⟩

/-- The first window fails, and the worker is down for an hour. -/
def downtime : List WorkerCall := [labCall 11, labCall 71]

/-- After the downtime of the example two windows are recorded. -/
theorem downtime_rows : (runCalls labPython labContracts labDeployment.engine "0123abc" labSchedule downtime).windows.keys =
    [(.networkWindow, deskTime), (.networkWindow, deskTime + seconds 3600)] := by
  decide +kernel

/-- After the downtime the windows of the hour are skipped. -/
theorem downtime_skips_windows : (downtime.Pairwise fun first second => first.now ≤ second.now) ∧
    ¬ WindowsGapFree labPython labContracts labDeployment.engine "0123abc" labSchedule downtime := by
  refine ⟨by decide +kernel, fun free => ?_⟩
  obtain ⟨first, count, _, spread⟩ := free downtime [] (by simp) .networkWindow
  have recorded : ∀ start, FeatureState.Records (runCalls labPython labContracts labDeployment.engine "0123abc" labSchedule
      downtime).windows .networkWindow start ↔ start = deskTime ∨ start = deskTime + seconds 3600 := by
    intro start
    rw [FeatureState.Records, downtime_rows]
    simp
  obtain ⟨index, _, here⟩ := (spread deskTime).mp ((recorded _).mpr (Or.inl rfl))
  obtain ⟨last, below, there⟩ := (spread (deskTime + seconds 3600)).mp ((recorded _).mpr (Or.inr rfl))
  have between : Within fiveMinutes first count (deskTime + seconds 300) := by
    refine ⟨index + 1, ?_, ?_⟩ <;> simp only [seconds, fiveMinutes] at * <;> omega
  rcases (recorded _).mp ((spread _).mpr between) with same | same <;> simp only [seconds] at same <;> omega

/-- The worker is down for one window only, and the lookback reaches the failed one. -/
def shortDowntime : List WorkerCall := [labCall 11, labCall 16]

/-- A call for one schema makes one pass. -/
theorem passesOf_single (python : Python) (contracts : Contracts) (engine : FeatureEngine) (gitSha : String)
    (schedule : Schedule) (now : Int) (store : FeatureStore) (schema : FeatureSchema) (attempts : List Attempt) :
    passesOf python contracts engine gitSha schedule now store [schema] attempts = [(store.windows, schema)] := by
  unfold passesOf
  split <;> rfl

/-- After a shorter downtime every call still reaches its windows. -/
theorem short_downtime_reaches : Always (fun earlier call => WorkerCall.Reaches labPython labContracts labDeployment.engine
    "0123abc" labSchedule (runCalls labPython labContracts labDeployment.engine "0123abc" labSchedule earlier) call)
      shortDowntime := by
  have recorded : (runCalls labPython labContracts labDeployment.engine "0123abc" labSchedule [labCall 11]).windows.keys =
      [(.networkWindow, deskTime)] := by decide +kernel
  refine Always.of_getElem fun index inside pass member => ?_
  have below : index = 0 ∨ index = 1 := by
    simp only [shortDowntime, List.length_cons, List.length_nil] at inside
    omega
  rcases below with rfl | rfl
  · change pass ∈ passesOf _ _ _ _ _ _ _ [.networkWindow] _ at member
    rw [passesOf_single, List.mem_singleton] at member
    subst member
    intro _ _ start there
    cases there
  · change pass ∈ passesOf _ _ _ _ _ _ (runCalls _ _ _ _ _ [labCall 11]) [.networkWindow] _ at member
    rw [passesOf_single, List.mem_singleton] at member
    subst member
    intro _ _ start _
    have near : floorWindow ((labCall 16).now - labSchedule.lookback) ≤ deskTime + fiveMinutes := by decide +kernel
    refine ⟨deskTime, ?_, near⟩
    rw [FeatureState.Records, recorded]
    exact List.mem_singleton_self _

/-- After a short downtime two windows are recorded, and there is no gap between them. -/
theorem short_downtime_gap_free : (runCalls labPython labContracts labDeployment.engine "0123abc" labSchedule
      shortDowntime).windows.keys = [(.networkWindow, deskTime), (.networkWindow, deskTime + seconds 300)] ∧
    WindowsGapFree labPython labContracts labDeployment.engine "0123abc" labSchedule shortDowntime :=
  ⟨by decide +kernel, windows_without_gap _ _ _ _ _ shortDowntime (by decide +kernel) short_downtime_reaches⟩

end Lab

end ClosedLoop.Workers
