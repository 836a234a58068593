import Mathlib.Order.Defs.Unbundled

namespace ClosedLoop.Library

/-- A call returns a value, raises an error, or dies with its process. -/
inductive Outcome (ε α : Type) where
  | returned (value : α)
  | raised (error : ε)
  | crashed
  deriving DecidableEq, Repr

/-- A program changes a state and ends in one outcome. -/
def Program (σ ε α : Type) := σ → Outcome ε α × σ

namespace Program

variable {σ ε α β γ : Type}

/-- The rest of a sequence runs only after a returned value. -/
def andThen (first : Program σ ε α) (next : α → Program σ ε β) : Program σ ε β := fun state =>
  match first state with
  | (.returned value, after) => next value after
  | (.raised error, after) => (.raised error, after)
  | (.crashed, after) => (.crashed, after)

instance : Monad (Program σ ε) where
  pure value := fun state => (.returned value, state)
  bind := andThen

/-- This program raises an error and leaves the state as it is. -/
def raise (error : ε) : Program σ ε α := fun state => (.raised error, state)

/-- This program dies with its process. -/
def crash : Program σ ε α := fun state => (.crashed, state)

/-- This program reads one part of the state. -/
def gets (part : σ → α) : Program σ ε α := fun state => (.returned (part state), state)

/-- This program replaces the state. -/
def update (change : σ → σ) : Program σ ε Unit := fun state => (.returned (), change state)

/-- A pure check either returns or raises. -/
def ofExcept : Except ε α → Program σ ε α
  | .ok value => pure value
  | .error error => raise error

/-- The handler sees a raised error and never a crash. -/
def rescue (body : Program σ ε α) (handler : ε → Program σ ε α) : Program σ ε α := fun state =>
  match body state with
  | (.raised error, after) => handler error after
  | ended => ended

/-- A program on one part of the state runs inside the whole state. -/
def focus {τ : Type} (read : σ → τ) (write : τ → σ → σ) (body : Program τ ε α) : Program σ ε α := fun state =>
  let ended := body (read state)
  (ended.1, write ended.2 state)

/-- A guard raises its error when its condition fails. -/
def require (condition : Prop) [Decidable condition] (error : ε) : Program σ ε Unit :=
  if condition then pure () else raise error

/-- The loop runs its body on each item and keeps the results that the body gives. -/
def collect (body : β → Program σ ε (Option γ)) : List β → Program σ ε (List γ)
  | [] => pure []
  | item :: rest => do
      let head ← body item
      let tail ← collect body rest
      return head.toList ++ tail

/-- A postcondition covers every way a program can end. -/
structure Post (σ ε α : Type) where
  returned : α → σ → Prop
  raised : ε → σ → Prop
  crashed : σ → Prop

/-- From this state the program ends inside its postcondition. -/
def Ends (program : Program σ ε α) (state : σ) (post : Post σ ε α) : Prop :=
  match program state with
  | (.returned value, after) => post.returned value after
  | (.raised error, after) => post.raised error after
  | (.crashed, after) => post.crashed after

section Rules

variable {state : σ} {post : Post σ ε α}

@[simp] theorem ends_pure {value : α} :
    Ends (pure value : Program σ ε α) state post ↔ post.returned value state := Iff.rfl

@[simp] theorem ends_raise {error : ε} : Ends (raise error) state post ↔ post.raised error state := Iff.rfl

@[simp] theorem ends_crash : Ends crash state post ↔ post.crashed state := Iff.rfl

@[simp] theorem ends_gets {part : σ → α} : Ends (gets part) state post ↔ post.returned (part state) state := Iff.rfl

@[simp] theorem ends_update {post : Post σ ε Unit} {change : σ → σ} :
    Ends (update change) state post ↔ post.returned () (change state) := Iff.rfl

/-- A sequence ends well when its first part ends where its second part ends well. -/
@[simp] theorem ends_bind {last : Post σ ε β} {first : Program σ ε α} {next : α → Program σ ε β} :
    Ends (first >>= next) state last ↔
      Ends first state ⟨fun value after => Ends (next value) after last, last.raised, last.crashed⟩ := by
  change Ends (andThen first next) state last ↔ _
  unfold Ends andThen
  rcases first state with ⟨outcome, after⟩
  cases outcome <;> rfl

/-- The rest of a sequence starts where its first part has returned. -/
theorem Ends.after {last : Post σ ε β} {first : Program σ ε α} {next : α → Program σ ε β} {value : α} {middle : σ}
    (returned : first state = (.returned value, middle)) (rest : Ends (next value) middle last) :
    Ends (first >>= next) state last := by
  rw [ends_bind]
  simpa only [Ends, returned] using rest

/-- A check ends as it returns or raises. -/
theorem ends_ofExcept {check : Except ε α} :
    Ends (ofExcept check) state post ↔
      (∀ value, check = .ok value → post.returned value state) ∧
        (∀ error, check = .error error → post.raised error state) := by
  cases check <;> simp [ofExcept]

@[simp] theorem ends_require {post : Post σ ε Unit} {condition : Prop} [Decidable condition] {error : ε} :
    Ends (require condition error) state post ↔
      (condition → post.returned () state) ∧ (¬ condition → post.raised error state) := by
  unfold require
  split <;> simp_all

/-- A handler ends what the body raised. -/
theorem ends_rescue {body : Program σ ε α} {handler : ε → Program σ ε α} :
    Ends (rescue body handler) state post ↔
      Ends body state ⟨post.returned, fun error after => Ends (handler error) after post, post.crashed⟩ := by
  unfold Ends rescue
  rcases body state with ⟨outcome, after⟩
  cases outcome <;> rfl

/-- A program on a part ends on the whole. -/
theorem ends_focus {τ : Type} {read : σ → τ} {write : τ → σ → σ} {body : Program τ ε α} :
    Ends (focus read write body) state post ↔
      Ends body (read state) ⟨fun value after => post.returned value (write after state),
        fun error after => post.raised error (write after state), fun after => post.crashed (write after state)⟩ := by
  unfold Ends focus
  rcases body (read state) with ⟨outcome, after⟩
  cases outcome <;> rfl

/-- A program that ends only in one error at one state ends exactly there. -/
theorem ends_raised {error : ε} {last : σ} {program : Program σ ε α} :
    Ends program state ⟨fun _ _ => False, fun found after => found = error ∧ after = last, fun _ => False⟩ ↔
      program state = (.raised error, last) := by
  unfold Ends
  rcases program state with ⟨outcome, after⟩
  cases outcome <;> simp

/-- A postcondition may be replaced by a weaker one. -/
theorem Ends.weaken {weaker : Post σ ε α} {program : Program σ ε α} (ended : Ends program state post)
    (returned : ∀ value after, post.returned value after → weaker.returned value after)
    (raised : ∀ error after, post.raised error after → weaker.raised error after)
    (crashed : ∀ after, post.crashed after → weaker.crashed after) : Ends program state weaker := by
  unfold Ends at ended ⊢
  generalize program state = result at ended ⊢
  obtain ⟨outcome, after⟩ := result
  cases outcome with
  | returned value => exact returned value after ended
  | raised error => exact raised error after ended
  | crashed => exact crashed after ended

/-- Only the returned part of a postcondition changes. -/
theorem Ends.returning {program : Program σ ε α} {last : α → σ → Prop} (ended : Ends program state post)
    (returned : ∀ value after, post.returned value after → last value after) :
    Ends program state ⟨last, post.raised, post.crashed⟩ :=
  ended.weaken returned (fun _ _ held => held) (fun _ held => held)

/-- The returned part of a postcondition may speak of the run itself. -/
theorem Ends.tracked {program : Program σ ε α} (ended : Ends program state post) :
    Ends program state ⟨fun value after => program state = (.returned value, after) ∧ post.returned value after,
      post.raised, post.crashed⟩ := by
  unfold Ends at ended ⊢
  generalize program state = result at ended ⊢
  obtain ⟨outcome, after⟩ := result
  cases outcome with
  | returned value => exact ⟨rfl, ended⟩
  | raised error => exact ended
  | crashed => exact ended

/-- Two postconditions hold together. -/
theorem Ends.and {other : Post σ ε α} {program : Program σ ε α} (first : Ends program state post)
    (second : Ends program state other) :
    Ends program state ⟨fun value after => post.returned value after ∧ other.returned value after,
      fun error after => post.raised error after ∧ other.raised error after,
      fun after => post.crashed after ∧ other.crashed after⟩ := by
  unfold Ends at first second ⊢
  generalize program state = result at first second ⊢
  obtain ⟨outcome, after⟩ := result
  cases outcome <;> exact ⟨first, second⟩

/-- A loop keeps an invariant about the items that are left. -/
theorem ends_collect {post : Post σ ε (List γ)} {body : β → Program σ ε (Option γ)}
    (invariant : List β → σ → Prop) {items : List β}
    (turn : ∀ item rest state, invariant (item :: rest) state → Ends (body item) state
      ⟨fun _ after => invariant rest after, post.raised, post.crashed⟩)
    (leave : ∀ results after, invariant [] after → post.returned results after)
    (enter : invariant items state) : Ends (collect body items) state post := by
  suffices loop : Ends (collect body items) state
      ⟨fun _ after => invariant [] after, post.raised, post.crashed⟩ from
    loop.weaken leave (fun _ _ held => held) (fun _ held => held)
  clear leave
  induction items generalizing state with
  | nil => exact enter
  | cons item rest ih =>
      unfold collect
      rw [ends_bind]
      refine (turn item rest state enter).returning fun head after inside => ?_
      rw [ends_bind]
      exact (ih inside).returning fun tail last ended => ended

/-- A loop over two lists is a loop over the first and then over the second. -/
theorem ends_collect_append {post : Post σ ε (List γ)} {body : β → Program σ ε (Option γ)} {first second : List β} :
    Ends (collect body (first ++ second)) state post ↔ Ends (collect body first) state
      ⟨fun head middle => Ends (collect body second) middle
        ⟨fun tail after => post.returned (head ++ tail) after, post.raised, post.crashed⟩,
        post.raised, post.crashed⟩ := by
  induction first generalizing state post with
  | nil => exact Iff.rfl
  | cons item rest ih =>
      simp only [List.cons_append, collect, ends_bind, ends_pure, ih, List.append_assoc]

end Rules

section Keeping

/-- However the program ends, its last state is related to its first one. -/
def Keeps (keeps : σ → σ → Prop) (program : Program σ ε α) : Prop :=
  ∀ state, Ends program state ⟨fun _ after => keeps state after, fun _ after => keeps state after, keeps state⟩

variable {keeps : σ → σ → Prop}

/-- A program that keeps a relation keeps it from every state. -/
theorem Keeps.state {program : Program σ ε α} (kept : Keeps keeps program) (state : σ) :
    keeps state (program state).2 := by
  have ended := kept state
  unfold Ends at ended
  generalize program state = result at ended ⊢
  obtain ⟨outcome, after⟩ := result
  cases outcome <;> exact ended

/-- An update keeps what its change keeps. -/
theorem keeps_update {change : σ → σ} (changed : ∀ state, keeps state (change state)) :
    Keeps keeps (update change : Program σ ε Unit) := changed

variable [IsPreorder σ keeps]

theorem keeps_pure {value : α} : Keeps keeps (pure value : Program σ ε α) := fun state => refl_of keeps state

theorem keeps_raise {error : ε} : Keeps keeps (raise error : Program σ ε α) := fun state => refl_of keeps state

theorem keeps_crash : Keeps keeps (crash : Program σ ε α) := fun state => refl_of keeps state

theorem keeps_gets {part : σ → α} : Keeps keeps (gets part : Program σ ε α) := fun state => refl_of keeps state

/-- The parts of a sequence keep a preorder together. -/
theorem Keeps.bind {first : Program σ ε α} {next : α → Program σ ε β} (head : Keeps keeps first)
    (tail : ∀ value, Keeps keeps (next value)) : Keeps keeps (first >>= next) := by
  intro state
  rw [ends_bind]
  refine (head state).returning fun value middle before => ?_
  exact (tail value middle).weaken (fun _ _ later => trans_of keeps before later)
    (fun _ _ later => trans_of keeps before later) (fun _ later => trans_of keeps before later)

/-- The handler of an error keeps the preorder from where the body ended. -/
theorem keeps_rescue {body : Program σ ε α} {handler : ε → Program σ ε α} (inside : Keeps keeps body)
    (handles : ∀ error, Keeps keeps (handler error)) : Keeps keeps (rescue body handler) := by
  intro state
  rw [ends_rescue]
  refine (inside state).weaken (fun _ _ kept => kept) (fun error after kept => ?_) (fun _ kept => kept)
  exact (handles error after).weaken (fun _ _ later => trans_of keeps kept later)
    (fun _ _ later => trans_of keeps kept later) (fun _ later => trans_of keeps kept later)

theorem keeps_ofExcept {check : Except ε α} : Keeps keeps (ofExcept check : Program σ ε α) := by
  cases check with
  | ok value => exact keeps_pure
  | error error => exact keeps_raise

theorem keeps_require {condition : Prop} [Decidable condition] {error : ε} :
    Keeps keeps (require condition error : Program σ ε Unit) := by
  unfold require
  split
  · exact keeps_pure
  · exact keeps_raise

/-- A loop keeps what its turns keep. -/
theorem keeps_collect {body : β → Program σ ε (Option γ)} {items : List β}
    (turn : ∀ item, Keeps keeps (body item)) : Keeps keeps (collect body items) := by
  induction items with
  | nil => exact keeps_pure
  | cons item rest ih => exact (turn item).bind fun head => ih.bind fun tail => keeps_pure

end Keeping

end Program

end ClosedLoop.Library
