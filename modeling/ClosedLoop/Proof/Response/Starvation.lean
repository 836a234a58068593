import ClosedLoop.Proof.Response.Containment
import ClosedLoop.Proof.Response.Schedule

namespace ClosedLoop.Response

open ClosedLoop.Library ClosedLoop.Library.Program

variable {python : Python} {trusted : CommandAuthenticator → Prop} {session : Session} {now : Int}

section Exporting

/-- The log grew without a call of `adapter.revert`. -/
def Unreverted (session after : Session) : Prop :=
  ∃ more, after.log = session.log ++ more ∧ reverted more = []

instance : IsPreorder Session Unreverted where
  refl session := ⟨[], by simp, rfl⟩
  trans first second third := by
    rintro ⟨earlier, firstLog, none⟩ ⟨later, secondLog, alsoNone⟩
    refine ⟨earlier ++ later, by rw [secondLog, firstLog, List.append_assoc], ?_⟩
    rw [reverted, List.filterMap_append]
    exact List.append_eq_nil_iff.mpr ⟨none, alsoNone⟩

/-- The program reverts nothing, and it dies only in a bad environment. -/
def delivers {α : Type} (session : Session) : Post Session PyError α :=
  ⟨fun _ after => Unreverted session after ∧ (Calm session.tape → Calm after.tape),
    fun _ after => Unreverted session after ∧ (Calm session.tape → Calm after.tape),
    fun _ => ¬ Calm session.tape⟩

/-- A mark reverts nothing and leaves a calm tape calm. -/
theorem markExported_ends {auditId : String} : Ends (markExported auditId) session (delivers session) := by
  have silent : ∀ {journal tape}, Unreverted session { session with journal, tape } := ⟨[], by simp, rfl⟩
  unfold markExported
  rw [ends_bind]
  refine nextCommit_ends fun fate tape consumed answered => ?_
  cases fate with
  | durable => exact ⟨silent, consumed.calm⟩
  | lost => exact ⟨silent, consumed.calm⟩
  | unacknowledged => exact ⟨silent, consumed.calm⟩
  | crashBefore => exact fun calm => by simpa using answered calm
  | crashAfter => exact fun calm => by simpa using answered calm

/-- What is true after a part of a delivery is true after all of it. -/
theorem delivers_later {α : Type} {program : Op α} {middle : Session} (before : Unreverted session middle)
    (calm : Calm session.tape → Calm middle.tape) (ended : Ends program middle (delivers middle)) :
    Ends program middle (delivers session) :=
  ended.weaken (fun _ _ later => ⟨trans_of Unreverted before later.1, later.2 ∘ calm⟩)
    (fun _ _ later => ⟨trans_of Unreverted before later.1, later.2 ∘ calm⟩) (fun _ uncalm => uncalm ∘ calm)

theorem deliver_ends {delivered : Nat} {events : List (String × AuditEvent)} :
    Ends (deliver delivered events) session (delivers session) := by
  induction events generalizing session delivered with
  | nil => exact ⟨refl_of Unreverted session, id⟩
  | cons row rest ih =>
      unfold deliver
      rw [ends_bind, ends_note]
      dsimp only
      rw [ends_bind]
      refine nextDelivery_ends fun reply tape consumed answered => ?_
      have sent : Unreverted session { session.observed (.sent row.2) with tape } := ⟨_, rfl, rfl⟩
      cases reply with
      | delivered =>
          dsimp only
          refine delivers_later sent consumed.calm ?_
          rw [ends_bind]
          refine markExported_ends.weaken (fun _ after marked => ?_) (fun _ _ later => later) (fun _ uncalm => uncalm)
          exact delivers_later marked.1 marked.2 ih
      | blocked code => exact ⟨sent, consumed.calm⟩
      | raised => exact ⟨sent, consumed.calm⟩
      | crashed => exact fun calm => answered calm rfl

theorem exportAudit_ends {limit : Nat} :
    Ends (exportAudit limit) session (delivers (session.observed .exportRan)) := by
  unfold exportAudit readLedger
  rw [ends_bind, ends_note]
  dsimp only
  rw [ends_bind, ends_bind]
  refine nextRead_ends fun fate tape consumed _ => ?_
  have read : Unreverted (session.observed .exportRan) { session.observed .exportRan with tape } := ⟨[], by simp, rfl⟩
  cases fate with
  | read => exact delivers_later read consumed.calm deliver_ends
  | failed => exact ⟨read, consumed.calm⟩

/-- The entries of a finished export pass. -/
def Exported (session after : Session) : Prop :=
  ∃ more, after.log = session.log ++ more ∧ reverted more = [] ∧
    (session.service.exporter = true → ∃ entry ∈ more, entry.occurrence = .exportRan)

/-- The exporter runs in every pass that comes to it. -/
theorem exportPass_ends :
    Ends exportPass session ⟨fun _ after => Exported session after, fun _ _ => False, fun _ => ¬ Calm session.tape⟩ := by
  have ran : ∀ {after service}, Unreverted (session.observed .exportRan) after →
      Exported session { after with service } := by
    rintro after service ⟨more, log, none⟩
    refine ⟨session.entry .exportRan :: more, by rw [log, Session.observed, List.append_assoc]; rfl, none,
      fun _ => ⟨_, List.mem_cons_self, rfl⟩⟩
  unfold exportPass
  rw [ends_bind, ends_gets]
  dsimp only
  split
  · rw [ends_bind, ends_rescue]
    refine exportAudit_ends.weaken (fun _ after later => ?_) (fun _ after later => ?_) (fun _ uncalm => uncalm)
    · exact ran later.1
    · exact ran later.1
  · rename_i off
    exact ⟨[], by simp, rfl, fun on => absurd on off⟩

end Exporting

section Ticking

/-- The work of a pass that returned. -/
structure Served (now : Int) (session : Session) (more : List Entry) : Prop where
  complete : Complete now session (reverted more)
  only : ∀ responseId ∈ reverted more, ∀ record, session.orchestrator.records.find? responseId = some record →
    record.expiresAt ≤ now → record.due now = true
  exported : session.service.exporter = true → ∃ entry ∈ more, entry.occurrence = .exportRan

/-- How a tick in enforce mode ends in a calm environment: it serves every due record, or it is blocked and does
nothing. -/
def ticked {α : Type} (python : Python) (now : Int) (session : Session) : Post Session PyError α where
  returned _ after := (∃ more, after.log = session.log ++ more ∧ Served now session more) ∧
    ¬ Blocked python session.orchestrator session.tape now
  raised _ after := Calm session.tape →
    Blocked python session.orchestrator session.tape now ∧ Extends [] session.log after.log
  crashed _ := ¬ Calm session.tape

variable (now) in
/-- A tick in enforce mode that is not blocked serves what is due. -/
theorem tick_ends (synced : Synced python trusted session) (mode : session.service.mode = .enforce) :
    Ends (tick python (.aware now)) session (ticked python now session) := by
  unfold tick
  rw [ends_bind, ends_gets]
  dsimp only
  rw [mode, if_pos rfl, ends_bind]
  refine (lifecyclePass_ends now synced).weaken ?_ (fun _ _ stops => stops.2) (fun _ crashed => crashed.2)
  rintro report middle ⟨⟨done, stage, complete⟩, clear⟩
  dsimp only
  rw [ends_bind, ends_changeService]
  dsimp only
  rw [ends_bind]
  refine exportPass_ends.weaken (fun _ after exported => ?_) (fun _ _ never => never.elim)
    (fun _ uncalm => fun calm => uncalm (stage.calm calm))
  obtain ⟨first, firstLog, sameDone, -⟩ := stage.log
  obtain ⟨second, secondLog, none, ran⟩ := exported
  have all : reverted (first ++ second) = done := by
    rw [reverted, List.filterMap_append]
    exact (congrArg₂ _ sameDone none).trans (List.append_nil _)
  refine ⟨⟨first ++ second, ?_, all ▸ complete, all ▸ stage.only, fun exporter => ?_⟩, clear⟩
  · rw [secondLog]
    change middle.log ++ second = _
    rw [firstLog, List.append_assoc]
  · obtain ⟨entry, member, seen⟩ := ran (stage.exporter.trans exporter)
    exact ⟨entry, List.mem_append_right _ member, seen⟩

/-- The tick reverts every due record and runs the exporter. -/
def Serves (python : Python) (world : World) (process : Process) (tape : Tape) (now : Int) : Prop :=
  (∀ responseId record, process.orchestrator.records.find? responseId = some record → record.due now = true →
    responseId ∈ reverted (world.added python (.call (.tick (.aware now)) tape))) ∧
  (process.service.exporter = true →
    ∃ entry ∈ world.added python (.call (.tick (.aware now)) tape), entry.occurrence = .exportRan)

/-- A tick in a calm environment serves its records exactly when it is not blocked, or when there is nothing to
serve. -/
theorem Coherent.serves_iff {world : World} {process : Process} {tape : Tape}
    (coherent : Coherent python trusted world) (live : world.process = some process)
    (mode : process.service.mode = .enforce) (running : process.orchestrator.storageFailed = false)
    (calm : Calm tape) :
    Serves python world process tape now ↔ ¬ Blocked python process.orchestrator tape now ∨
      (process.service.exporter = false ∧ ∀ responseId record,
        process.orchestrator.records.find? responseId = some record → record.due now = false) := by
  have synced : Synced python trusted (world.session process tape) := by
    rcases coherent.live process live tape with synced | halted
    · exact synced
    · have stopped : process.orchestrator.storageFailed = true := halted.stopped
      rw [running] at stopped
      cases stopped
  have ended := tick_ends now synced mode
  have added : ∀ more, (tick python (.aware now) (world.session process tape)).2.log = world.log ++ more →
      world.added python (.call (.tick (.aware now)) tape) = more := by
    intro more log
    refine World.added_call _ live ?_
    rw [← log]
    change ((tick python (.aware now)) >>= fun _ => (pure () : Op Unit)) _ |>.2.log = _
    change (andThen (tick python (.aware now)) _ _).2.log = _
    unfold andThen
    rcases tick python (.aware now) (world.session process tape) with ⟨outcome, after⟩
    cases outcome <;> rfl
  unfold Ends at ended
  rcases result : tick python (.aware now) (world.session process tape) with ⟨outcome, after⟩
  rw [result] at ended added
  cases outcome with
  | returned report =>
      obtain ⟨⟨more, log, served⟩, clear⟩ := ended
      refine ⟨fun _ => Or.inl clear, fun _ => ?_⟩
      unfold Serves
      rw [added more log]
      exact ⟨served.complete, served.exported⟩
  | raised error =>
      obtain ⟨blocked, more, log, none, unexported⟩ := ended calm
      unfold Serves
      rw [added more log, none]
      constructor
      · rintro ⟨reverts, exports⟩
        refine Or.inr ⟨?_, fun responseId record found => ?_⟩
        · by_contra on
          obtain ⟨entry, member, seen⟩ := exports (by simpa using on)
          exact unexported entry member seen
        · by_contra due
          simpa using reverts responseId record found (by simpa using due)
      · rintro (clear | ⟨off, idle⟩)
        · exact absurd blocked clear
        · refine ⟨fun responseId record found due => ?_, fun on => ?_⟩
          · rw [idle responseId record found] at due
            cases due
          · rw [off] at on
            cases on
  | crashed => exact absurd calm ended

end Ticking

section Starving

/-- A used-up tape is calm. -/
theorem calm_empty : Calm {} := ⟨by simp, by simp, by simp, by simp, by simp⟩

/-- A second command for the same target, which waits while the first containment holds the target. -/
def labSecond : Command := labCommand "2" "OzQtBMpTs437Qcytg_TB2e03n5bxV_j_CIalLGoRcpI"

/-- One second after the first containment the second command is accepted. -/
def labContested : List Step :=
  labSteps ++ [.call (.accept labSecond.toJson (.aware (newYear + seconds 1))) {}]

/-- The end of the first containment. -/
def labExpiry : Int := newYear + seconds 300

/-- The first containment of the contested lab store is due, and the tick at its end does not revert it. -/
theorem labContested_starves :
    ((World.run labPython labContested).process.any fun process => process.service.mode = .enforce &&
      process.service.started && !process.orchestrator.storageFailed &&
      (process.orchestrator.records.find? "resp-ff79968c49633feffb257582").any (·.due labExpiry)) = true ∧
    "resp-ff79968c49633feffb257582" ∉
      reverted ((World.run labPython labContested).added labPython (.call (.tick (.aware labExpiry)) {})) := by
  decide +kernel

/-- The contested process of the example is live and holds a record that is due. -/
theorem labContested_process :
    ∃ process, (World.run labPython labContested).process = some process ∧ process.service.mode = .enforce ∧
      process.service.started = true ∧ process.orchestrator.storageFailed = false ∧
      ∃ record, process.orchestrator.records.find? "resp-ff79968c49633feffb257582" = some record ∧
        record.due labExpiry = true := by
  have facts := labContested_starves.1
  simpa [Option.any_eq_true, and_assoc] using facts

end Starving

end ClosedLoop.Response
