import Mathlib.Data.List.Forall2

namespace ClosedLoop.Library.Check

variable {ε α β : Type}

/-- A guard of a pure check. -/
def guard (condition : Prop) [Decidable condition] (error : ε) : Except ε Unit :=
  if condition then .ok () else .error error

@[simp] theorem guard_ok {condition : Prop} [Decidable condition] {error : ε} {passed : Unit} :
    guard condition error = .ok passed ↔ condition := by
  unfold guard
  split <;> simp_all

/-- A sequence of checks passes when its parts do. -/
theorem bind_ok {first : Except ε α} {next : α → Except ε β} {result : β} :
    (first >>= next) = .ok result ↔ ∃ value, first = .ok value ∧ next value = .ok result := by
  cases first with
  | ok value => simp [bind, Except.bind]
  | error error => simp [bind, Except.bind]

@[simp] theorem pure_ok {value result : α} : (pure value : Except ε α) = .ok result ↔ value = result := by
  simp [pure, Except.pure]

@[simp] theorem mapError_ok {δ : Type} {check : Except ε α} {change : ε → δ} {value : α} :
    check.mapError change = .ok value ↔ check = .ok value := by
  cases check <;> simp [Except.mapError]

/-- A check that passes has its result. -/
theorem ok_get {check : Except ε α} (passes : check.toOption.isSome = true) :
    check = .ok (check.toOption.get passes) := by
  cases check with
  | ok value => rfl
  | error _ => cases passes

theorem ok_of_toOption {check : Except ε α} {value : α} (found : check.toOption = some value) : check = .ok value := by
  cases check with
  | ok result => exact congrArg Except.ok (Option.some.inj found)
  | error _ => cases found

/-- A check with a part of its result passes. -/
theorem ok_of_isSome {check : Except ε α} {part : α → Option β} (given : (check.toOption.bind part).isSome = true) :
    ∃ value result, check = .ok value ∧ part value = some result := by
  cases check with
  | ok value => exact ⟨value, _, rfl, (Option.some_get given).symm⟩
  | error _ => cases given

/-- A check of a list passes when the check of each item does. -/
theorem mapM_ok {check : α → Except ε β} {items : List α} {results : List β} :
    items.mapM check = .ok results ↔ List.Forall₂ (fun item result => check item = .ok result) items results := by
  induction items generalizing results with
  | nil => rw [List.mapM_nil, pure_ok, List.forall₂_nil_left_iff, eq_comm]
  | cons item rest ih =>
      simp only [List.mapM_cons, bind_ok, pure_ok, ih, List.forall₂_cons_left_iff]
      constructor
      · rintro ⟨head, checked, tail, others, rfl⟩
        exact ⟨head, tail, checked, others, rfl⟩
      · rintro ⟨head, tail, checked, others, rfl⟩
        exact ⟨head, checked, tail, others, rfl⟩

/-- A loop passes when every turn does. -/
theorem forM_ok {check : α → Except ε PUnit} {items : List α} {passed : PUnit} :
    items.forM check = .ok passed ↔ ∀ item ∈ items, check item = .ok () := by
  induction items with
  | nil => simp [pure, Except.pure]
  | cons item rest ih =>
      rw [List.forM, bind_ok, List.forall_mem_cons, ← ih]
      exact ⟨fun ⟨_, head, tail⟩ => ⟨head, tail⟩, fun ⟨head, tail⟩ => ⟨(), head, tail⟩⟩

/-- A filter with a fallible test keeps what passes, when every test returns. -/
theorem filterAuxM_ok {check : α → Except ε Bool} {items kept found : List α} :
    items.filterAuxM check kept = .ok found ↔ (∀ item ∈ items, ∃ holds, check item = .ok holds) ∧
      found = (items.filter fun item => (check item).toOption = some true).reverse ++ kept := by
  induction items generalizing kept with
  | nil => simp [List.filterAuxM, pure, Except.pure, eq_comm]
  | cons item rest ih =>
      simp only [List.filterAuxM, bind_ok, ih, List.forall_mem_cons]
      cases checked : check item with
      | error error => simp
      | ok holds => cases holds <;> simp [checked, Except.toOption]

/-- A filter keeps the items that pass when the check of each item has an answer. -/
theorem filterM_ok {check : α → Except ε Bool} {items found : List α} :
    items.filterM check = .ok found ↔ (∀ item ∈ items, ∃ holds, check item = .ok holds) ∧
      found = items.filter fun item => (check item).toOption = some true := by
  simp only [List.filterM, bind_ok, pure_ok, filterAuxM_ok, List.append_nil]
  constructor
  · rintro ⟨_, ⟨answers, rfl⟩, rfl⟩
    exact ⟨answers, List.reverse_reverse _⟩
  · rintro ⟨answers, rfl⟩
    exact ⟨_, ⟨answers, rfl⟩, List.reverse_reverse _⟩

/-- A kept item passed the test. -/
theorem mem_filterM {check : α → Except ε Bool} {items found : List α} (passes : items.filterM check = .ok found)
    {item : α} : item ∈ found ↔ item ∈ items ∧ check item = .ok true := by
  rw [(filterM_ok.mp passes).2, List.mem_filter]
  cases check item with
  | error error => simp [Except.toOption]
  | ok holds => cases holds <;> simp [Except.toOption]

/-- The last item that a filter keeps is followed by items that it drops. -/
theorem getLast?_filterM {check : α → Except ε Bool} {items found : List α} (passes : items.filterM check = .ok found)
    {last : α} : found.getLast? = some last ↔ ∃ before after, items = before ++ last :: after ∧ check last = .ok true ∧
      ∀ item ∈ after, check item ≠ .ok true := by
  have kept (item : α) : (check item).toOption = some true ↔ check item = .ok true := by
    cases check item <;> simp [Except.toOption]
  rw [(filterM_ok.mp passes).2, List.getLast?_filter, List.find?_eq_some_iff_append]
  simp only [decide_eq_true_eq, Bool.not_eq_true', decide_eq_false_iff_not, kept]
  constructor
  · rintro ⟨holds, after, before, split, dropped⟩
    refine ⟨before.reverse, after.reverse, ?_, holds, fun item member => dropped item (List.mem_reverse.mp member)⟩
    rw [← List.reverse_reverse items, split]
    simp
  · rintro ⟨before, after, rfl, holds, dropped⟩
    exact ⟨holds, after.reverse, before.reverse, by simp, fun item member => dropped item (List.mem_reverse.mp member)⟩

section Related

variable {related : α → β → Prop} {items : List α} {results : List β}

/-- What holds of a result exactly when it holds of its item holds of all results exactly when of all items. -/
theorem forall_related {first : α → Prop} {second : β → Prop} (each : List.Forall₂ related items results)
    (agree : ∀ item result, related item result → (first item ↔ second result)) :
    (∀ item ∈ items, first item) ↔ ∀ result ∈ results, second result := by
  induction each with
  | nil => simp
  | cons here _ ih => simp only [List.forall_mem_cons, agree _ _ here, ih]

/-- Items that go together have a property in one list when they have it in the other. -/
theorem exists_related {first : α → Prop} {second : β → Prop} (each : List.Forall₂ related items results)
    (agree : ∀ item result, related item result → (first item ↔ second result)) :
    (∃ item ∈ items, first item) ↔ ∃ result ∈ results, second result := by
  induction each with
  | nil => simp
  | cons here _ ih => simp only [List.exists_mem_cons_iff, agree _ _ here, ih]

/-- Items that go together have the same images. -/
theorem map_related {γ : Type} {first : α → γ} {second : β → γ} (each : List.Forall₂ related items results)
    (agree : ∀ item result, related item result → first item = second result) :
    items.map first = results.map second := by
  induction each with
  | nil => rfl
  | cons here _ ih => rw [List.map_cons, List.map_cons, agree _ _ here, ih]

/-- Each result has its item. -/
theorem exists_of_mem {result : β} (each : List.Forall₂ related items results) (member : result ∈ results) :
    ∃ item ∈ items, related item result := by
  induction each with
  | nil => cases member
  | cons here _ ih =>
      rcases List.mem_cons.mp member with same | later
      · exact ⟨_, List.mem_cons_self, same ▸ here⟩
      · obtain ⟨item, listed, fits⟩ := ih later
        exact ⟨item, List.mem_cons_of_mem _ listed, fits⟩

end Related

/-- What every turn of a checked loop keeps holds after the loop. -/
theorem foldlM_keeps {σ : Type} {step : σ → α → Except ε σ} {invariant : σ → Prop}
    (keeps : ∀ state item next, invariant state → step state item = .ok next → invariant next) {items : List α}
    {first last : σ} (start : invariant first) (ok : items.foldlM step first = .ok last) : invariant last := by
  induction items generalizing first with
  | nil =>
      cases ok
      exact start
  | cons item rest ih =>
      rw [List.foldlM_cons, bind_ok] at ok
      obtain ⟨next, one, more⟩ := ok
      exact ih (keeps first item next start one) more

/-- A checked loop whose turns all pass is a plain loop. -/
theorem foldlM_pure {σ : Type} {step : σ → α → Except ε σ} {turn : σ → α → σ} {items : List α}
    (passes : ∀ item ∈ items, ∀ state, step state item = .ok (turn state item)) (first : σ) :
    items.foldlM step first = .ok (items.foldl turn first) := by
  induction items generalizing first with
  | nil => rfl
  | cons item rest ih =>
      rw [List.foldlM_cons, passes item List.mem_cons_self]
      exact ih (fun other member => passes other (List.mem_cons_of_mem _ member)) _

/-- Loops whose turns pass alike pass alike, whatever their errors are. -/
theorem foldlM_ok_congr {ε' σ : Type} {step : σ → α → Except ε σ} {other : σ → α → Except ε' σ} {items : List α}
    (same : ∀ item ∈ items, ∀ before after, step before item = .ok after ↔ other before item = .ok after) {first last : σ} :
    items.foldlM step first = .ok last ↔ items.foldlM other first = .ok last := by
  induction items generalizing first with
  | nil => simp [pure, Except.pure]
  | cons item rest ih =>
      simp only [List.foldlM_cons, bind_ok, same item List.mem_cons_self]
      exact exists_congr fun _ => and_congr_right fun _ => ih fun item member => same item (List.mem_cons_of_mem _ member)

/-- A checked loop may leave out the items that leave its state. -/
theorem foldlM_filter {σ : Type} {step : σ → α → Except ε σ} {kept : α → Bool} {items : List α}
    (skips : ∀ item ∈ items, kept item = false → ∀ state, step state item = .ok state) (first : σ) :
    (items.filter kept).foldlM step first = items.foldlM step first := by
  induction items generalizing first with
  | nil => rfl
  | cons item rest ih =>
      have others := ih fun other member => skips other (List.mem_cons_of_mem _ member)
      by_cases keeps : kept item = true
      · rw [List.filter_cons_of_pos keeps, List.foldlM_cons, List.foldlM_cons]
        exact congrArg _ (funext others)
      · rw [List.filter_cons_of_neg keeps, List.foldlM_cons,
          skips item List.mem_cons_self (Bool.eq_false_iff.mpr keeps)]
        exact others first

/-- Every item of a checked loop that passes has passed its turn. -/
theorem foldlM_each {σ : Type} {step : σ → α → Except ε σ} {items : List α} {first last : σ}
    (ok : items.foldlM step first = .ok last) : ∀ item ∈ items, ∃ before after, step before item = .ok after := by
  induction items generalizing first with
  | nil => simp
  | cons item rest ih =>
      rw [List.foldlM_cons, bind_ok] at ok
      obtain ⟨next, one, more⟩ := ok
      exact List.forall_mem_cons.mpr ⟨⟨first, next, one⟩, ih more⟩

/-- A checked loop whose turns append to a list. -/
theorem foldlM_appends {σ γ : Type} {step : σ → α → Except ε σ} {read : σ → List γ} {adds : α → List γ}
    (turn : ∀ state item next, step state item = .ok next → read next = read state ++ adds item) {items : List α}
    {first last : σ} (ok : items.foldlM step first = .ok last) : read last = read first ++ items.flatMap adds := by
  induction items generalizing first with
  | nil =>
      cases ok
      simp
  | cons item rest ih =>
      rw [List.foldlM_cons, bind_ok] at ok
      obtain ⟨next, one, more⟩ := ok
      rw [ih more, turn first item next one, List.flatMap_cons, List.append_assoc]

/-- Two checks both fail, or both pass with the same result. -/
def Agree (first second : Except ε α) : Prop := ∀ value, first = .ok value ↔ second = .ok value

section Agreement

variable {first second : Except ε α}

theorem Agree.refl (check : Except ε α) : Agree check check := fun _ => Iff.rfl

theorem Agree.of_eq (same : first = second) : Agree first second := same ▸ Agree.refl _

theorem Agree.symm (agree : Agree first second) : Agree second first := fun value => (agree value).symm

theorem Agree.trans {third : Except ε α} (agree : Agree first second) (next : Agree second third) : Agree first third :=
  fun value => (agree value).trans (next value)

/-- Checks that agree may be followed by checks that agree. -/
theorem Agree.bind {left right : α → Except ε β} (agree : Agree first second)
    (each : ∀ value, Agree (left value) (right value)) : Agree (first >>= left) (second >>= right) := by
  intro result
  rw [bind_ok, bind_ok]
  exact exists_congr fun value => and_congr (agree value) (each value result)

/-- Loops whose turns agree do so too. -/
theorem Agree.mapM {left right : α → Except ε β} {items : List α}
    (each : ∀ item ∈ items, Agree (left item) (right item)) : Agree (items.mapM left) (items.mapM right) := by
  intro results
  rw [mapM_ok, mapM_ok]
  induction items generalizing results with
  | nil => simp
  | cons item rest ih =>
      simp only [List.forall₂_cons_left_iff]
      have others := ih fun other member => each other (List.mem_cons_of_mem _ member)
      refine exists_congr fun result => exists_congr fun tail => ?_
      rw [each item List.mem_cons_self, others]

end Agreement

/-- Every error of the check is a known one. -/
def Fails (known : ε → Prop) (check : Except ε α) : Prop := ∀ error, check = .error error → known error

section Errors

variable {known : ε → Prop}

@[simp] theorem fails_error {error : ε} : Fails known (.error error : Except ε α) ↔ known error := by
  simp [Fails]

@[simp] theorem fails_ok {value : α} : Fails known (.ok value : Except ε α) := by
  simp [Fails]

@[simp] theorem fails_pure {value : α} : Fails known (pure value : Except ε α) := by
  simp [Fails, pure, Except.pure]

@[simp] theorem fails_guard {condition : Prop} [Decidable condition] {error : ε} (reported : known error) :
    Fails known (guard condition error) := by
  unfold guard
  split <;> simp [reported]

/-- The rest of a sequence fails after a value of its first part. -/
theorem Fails.andThen {first : Except ε α} {next : α → Except ε β} (head : Fails known first)
    (tail : ∀ value, first = .ok value → Fails known (next value)) : Fails known (first >>= next) := by
  cases first with
  | ok value => exact tail value rfl
  | error error => exact fails_error.mpr (fails_error.mp head)

/-- A sequence of checks fails as its parts do. -/
theorem Fails.bind {first : Except ε α} {next : α → Except ε β} (head : Fails known first)
    (tail : ∀ value, Fails known (next value)) : Fails known (first >>= next) :=
  head.andThen fun value _ => tail value

/-- A check with few errors fails with more errors allowed. -/
theorem Fails.weaken {weaker : ε → Prop} {check : Except ε α} (fails : Fails known check)
    (implies : ∀ error, known error → weaker error) : Fails weaker check :=
  fun error failed => implies error (fails error failed)

end Errors

end ClosedLoop.Library.Check
