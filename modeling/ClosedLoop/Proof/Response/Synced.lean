import ClosedLoop.Proof.Response.Durable
import ClosedLoop.Construction.Response.World

namespace ClosedLoop.Response

open ClosedLoop.Library ClosedLoop.Library.Program

/-- The records in memory in their committed form. -/
def Session.view (session : Session) : Table String Snapshot :=
  session.orchestrator.records.mapValues (·.asdict)

/-- A checkpoint has raised since the store was opened. -/
def raisedSinceOpen (log : List Entry) : Bool :=
  log.foldl (fun raised entry => match entry.occurrence with
    | .opened => false
    | .checkpointRaised => true
    | _ => raised) false

/-- The record has a reference and a state from which it can be reverted. -/
def Snapshot.contained (record : Snapshot) : Prop :=
  (∃ reference ∈ record.adapterReference, reference ≠ "") ∧
    (record.state = .applied ∨ record.state = .verified ∨ record.pendingOperation.isSome ∨ record.state = .failed)

/-- The records in memory lose no containment of the store and share no target. -/
structure Kept (python : Python) (journal : Journal) (view : Table String Snapshot) : Prop where
  guarded : ∀ row ∈ view, row.1 ∈ journal.applyIntents →
    row.2.contained ∨ ∃ event ∈ journal.history row.1, event.state.terminal = true
  separate : Separate python view

section States

variable (python : Python) (trusted : CommandAuthenticator → Prop)

/-- The records in memory are the committed records. -/
structure Synced (session : Session) : Prop where
  running : session.orchestrator.storageFailed = false
  keyRing : trusted session.orchestrator.authenticator
  reached : Reached python trusted session.journal session.log
  mirror : session.view = session.journal.records
  quiet : raisedSinceOpen session.log = false

/-- A checkpoint has raised, and the records in memory may be stale. -/
structure Halted (session : Session) : Prop where
  stopped : session.orchestrator.storageFailed = true
  keyRing : trusted session.orchestrator.authenticator
  reached : Reached python trusted session.journal session.log
  kept : Kept python session.journal session.view
  raised : raisedSinceOpen session.log = true

/-- An error leaves the process in sync or halted, and it is never a failed assertion. -/
def Stops (error : PyError) (session : Session) : Prop :=
  error ≠ .assertionError ∧ (Synced python trusted session ∨ Halted python trusted session)

end States

/-- The store works and the process lives: every commit is durable, every read succeeds, no call is
interrupted. The adapters may still answer or raise what they like. -/
structure Calm (tape : Tape) : Prop where
  commits : ∀ fate ∈ tape.commits, fate = .durable
  replies : ∀ reply ∈ tape.replies, reply ≠ .interrupted ∧ reply ≠ .crashed
  references : ∀ reply ∈ tape.references, reply ≠ .crashed
  reads : ∀ fate ∈ tape.reads, fate = .read
  deliveries : ∀ reply ∈ tape.deliveries, reply ≠ .crashed

/-- A calm tape stays calm while its answers are consumed, and no reference is consumed. -/
structure Consumed (before after : Tape) : Prop where
  calm : Calm before → Calm after
  replies : after.replies ⊆ before.replies
  references : after.references = before.references

theorem Consumed.refl (tape : Tape) : Consumed tape tape := ⟨id, List.Subset.refl _, rfl⟩

/-- What is consumed twice is consumed. -/
theorem Consumed.trans {first second third : Tape} (head : Consumed first second) (tail : Consumed second third) :
    Consumed first third :=
  ⟨tail.calm ∘ head.calm, List.Subset.trans tail.replies head.replies, tail.references.trans head.references⟩

/-- The program ends in its result, or the environment was not calm. -/
def upon {α : Type} (python : Python) (trusted : CommandAuthenticator → Prop) (session : Session)
    (result : α → Session → Prop) : Post Session PyError α where
  returned value after := result value after ∧ Consumed session.tape after.tape
  raised error after := Stops python trusted error after ∧ ¬ Calm session.tape
  crashed after := Reached python trusted after.journal after.log ∧ ¬ Calm session.tape

/-- The session after one more log entry. -/
def Session.observed (session : Session) (occurrence : Occurrence) : Session :=
  { session with log := session.log ++ [session.entry occurrence] }

/-- The session with a changed record in memory. -/
def Session.remembering (session : Session) (record : ResponseRecord) : Session :=
  { session with orchestrator :=
    { session.orchestrator with records := session.orchestrator.records.upsert record.responseId record } }

section Leaves

variable {python : Python} {trusted : CommandAuthenticator → Prop} {session : Session}

/-- A noted occurrence stands at the end of the log. -/
@[simp] theorem ends_note {occurrence : Occurrence} {post : Post Session PyError Unit} :
    Ends (note occurrence) session post ↔ post.returned () (session.observed occurrence) := Iff.rfl

/-- A remembered record stands in memory. -/
@[simp] theorem ends_remember {record : ResponseRecord} {post : Post Session PyError Unit} :
    Ends (remember record) session post ↔ post.returned () (session.remembering record) := Iff.rfl

/-- A sequence of parts that each need a calm environment needs a calm environment. -/
theorem upon_bind {α β : Type} {first : Op α} {next : α → Op β} {middle : α → Session → Prop}
    {result : β → Session → Prop} (head : Ends first session (upon python trusted session middle))
    (tail : ∀ value after, middle value after → Consumed session.tape after.tape →
      Ends (next value) after (upon python trusted after result)) :
    Ends (first >>= next) session (upon python trusted session result) := by
  rw [ends_bind]
  refine head.returning fun value after ⟨inside, consumed⟩ => ?_
  exact (tail value after inside consumed).weaken (fun _ _ ended => ⟨ended.1, consumed.trans ended.2⟩)
    (fun _ _ ended => ⟨ended.1, ended.2 ∘ consumed.calm⟩) (fun _ ended => ⟨ended.1, ended.2 ∘ consumed.calm⟩)

theorem upon_pure {α : Type} {value : α} {result : α → Session → Prop} (holds : result value session) :
    Ends (pure value : Op α) session (upon python trusted session result) :=
  ⟨holds, Consumed.refl _⟩

/-- A program with a strong result has every weaker one. -/
theorem upon_weaken {α : Type} {program : Op α} {result weaker : α → Session → Prop}
    (ended : Ends program session (upon python trusted session result))
    (implies : ∀ value after, result value after → weaker value after) :
    Ends program session (upon python trusted session weaker) :=
  ended.weaken (fun _ _ returned => ⟨implies _ _ returned.1, returned.2⟩) (fun _ _ stops => stops)
    (fun _ crashed => crashed)

/-- A draw answers the head of its tape, or the good outcome when the tape is used up. -/
theorem draw_ends {α : Type} {read : Tape → List α} {write : Tape → List α → Tape} {good : α}
    {post : Post Session PyError α} (empty : read session.tape = [] → post.returned good session)
    (head : ∀ answer rest, read session.tape = answer :: rest →
      post.returned answer { session with tape := write session.tape rest }) :
    Ends (draw read write good) session post := by
  unfold Ends draw
  cases answers : read session.tape with
  | nil => exact empty answers
  | cons answer rest => exact head answer rest answers

/-- A calm commit is durable. -/
theorem nextCommit_ends {post : Post Session PyError CommitFate}
    (answer : ∀ fate tape, Consumed session.tape tape → (Calm session.tape → fate = .durable) →
      post.returned fate { session with tape }) : Ends nextCommit session post := by
  refine draw_ends (fun _ => answer _ _ (Consumed.refl _) fun _ => rfl) fun fate rest answers => ?_
  refine answer _ _ ⟨fun calm => ⟨?_, calm.replies, calm.references, calm.reads, calm.deliveries⟩,
    List.Subset.refl _, rfl⟩ fun calm => calm.commits fate (answers ▸ List.mem_cons_self)
  exact fun other member => calm.commits other (answers ▸ List.mem_cons_of_mem _ member)

/-- A calm adapter answers, and no reply is made up but success. -/
theorem nextReply_ends {post : Post Session PyError AdapterReply}
    (answer : ∀ reply tape, Consumed session.tape tape →
      (Calm session.tape → reply ≠ .interrupted ∧ reply ≠ .crashed) →
      (reply = .answered .success ∨ reply ∈ session.tape.replies) →
      post.returned reply { session with tape }) : Ends nextReply session post := by
  refine draw_ends (fun _ => answer _ _ (Consumed.refl _) (fun _ => ⟨by simp, by simp⟩) (Or.inl rfl))
    fun reply rest answers => ?_
  have inside : reply ∈ session.tape.replies := answers ▸ List.mem_cons_self
  have within : rest ⊆ session.tape.replies := fun other member => answers ▸ List.mem_cons_of_mem _ member
  exact answer _ _ ⟨fun calm => ⟨calm.commits, fun other member => calm.replies other (within member),
    calm.references, calm.reads, calm.deliveries⟩, within, rfl⟩ (fun calm => calm.replies reply inside) (Or.inr inside)

/-- The reference that the adapter gives next. -/
def Tape.reference (tape : Tape) : ReferenceReply := tape.references.head?.getD (.value (some "reference"))

/-- The tape after one reference was given. -/
def Tape.referenced (tape : Tape) : Tape := { tape with references := tape.references.tail }

/-- A calm tape stays calm behind a reference. -/
theorem Calm.referenced {tape : Tape} (calm : Calm tape) : Calm tape.referenced :=
  ⟨calm.commits, calm.replies, fun reply member => calm.references reply (List.mem_of_mem_tail member), calm.reads,
    calm.deliveries⟩

/-- A calm adapter does not crash on a reference. -/
theorem Calm.reference {tape : Tape} (calm : Calm tape) : tape.reference ≠ .crashed := by
  unfold Tape.reference
  cases answers : tape.references with
  | nil => simp
  | cons reply rest => exact calm.references reply (answers ▸ List.mem_cons_self)

/-- The reference is the next one on the tape. -/
theorem nextReference_ends {post : Post Session PyError ReferenceReply}
    (answer : post.returned session.tape.reference { session with tape := session.tape.referenced }) :
    Ends nextReference session post := by
  refine draw_ends (fun empty => ?_) fun reply rest answers => ?_
  · have same : session.tape.referenced = session.tape := by
      rw [Tape.referenced, empty, List.tail_nil, ← empty]
    simpa [same, Tape.reference, empty] using answer
  · simpa [Tape.reference, Tape.referenced, answers] using answer

theorem nextRead_ends {post : Post Session PyError ReadFate}
    (answer : ∀ fate tape, Consumed session.tape tape → (Calm session.tape → fate = .read) →
      post.returned fate { session with tape }) : Ends nextRead session post := by
  refine draw_ends (fun _ => answer _ _ (Consumed.refl _) fun _ => rfl) fun fate rest answers => ?_
  refine answer _ _ ⟨fun calm => ⟨calm.commits, calm.replies, calm.references, ?_, calm.deliveries⟩,
    List.Subset.refl _, rfl⟩ fun calm => calm.reads fate (answers ▸ List.mem_cons_self)
  exact fun other member => calm.reads other (answers ▸ List.mem_cons_of_mem _ member)

theorem nextDelivery_ends {post : Post Session PyError DeliveryReply}
    (answer : ∀ reply tape, Consumed session.tape tape → (Calm session.tape → reply ≠ .crashed) →
      post.returned reply { session with tape }) : Ends nextDelivery session post := by
  refine draw_ends (fun _ => answer _ _ (Consumed.refl _) fun _ => by simp) fun reply rest answers => ?_
  refine answer _ _ ⟨fun calm => ⟨calm.commits, calm.replies, calm.references, calm.reads, ?_⟩,
    List.Subset.refl _, rfl⟩ fun calm => calm.deliveries reply (answers ▸ List.mem_cons_self)
  exact fun other member => calm.deliveries other (answers ▸ List.mem_cons_of_mem _ member)

end Leaves

end ClosedLoop.Response
