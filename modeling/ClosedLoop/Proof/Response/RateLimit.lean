import ClosedLoop.Proof.Response.Configuration
import Mathlib.Data.Finset.Max

namespace ClosedLoop.Response

open ClosedLoop.Library

/-- The REQUESTED event that an entry commits. -/
def Entry.requestedEvent (entry : Entry) : Option AuditEvent :=
  match entry.occurrence with
  | .committed _ (some event) => if event.state = .requested then some event else none
  | _ => none

/-- The response that an entry commits as authorized. -/
def Entry.authorizedId (entry : Entry) : Option String :=
  match entry.occurrence with
  | .committed record _ => if record.authorized then some record.responseId else none
  | _ => none

/-- The responses of a policy that became authorized and whose REQUESTED timestamp is after `since` and not
after `last`. -/
def authorizedWithin (log : List Entry) (policyId : String) (since last : Int) : List String :=
  (((log.filterMap Entry.requestedEvent).filter fun event =>
    event.policyId = policyId ∧ since < event.timestamp.parse ∧ event.timestamp.parse ≤ last ∧
      event.responseId ∈ log.filterMap Entry.authorizedId).map (·.responseId)).dedup

section Admissions

variable {python : Python} {trusted : CommandAuthenticator → Prop} {journal next : Journal} {log : List Entry}
  {entry : Entry} {record : Snapshot} {event : AuditEvent}

/-- Every committed REQUESTED event has its admission row. -/
structure Enrolled (journal : Journal) (log : List Entry) : Prop where
  audited : ∀ row ∈ journal.admissions, ∃ event ∈ journal.audit, event.responseId = row.1
  started : journal.admissions = [] → journal.audit = []
  requests : ∀ entry ∈ log, ∀ record event, entry.occurrence = .committed record (some event) →
    event.state = .requested → event.responseId = record.responseId ∧
      (record.responseId, (⟨event.policyId, event.timestamp⟩ : Admission)) ∈ journal.admissions

/-- A store that holds every admission is not backfilled. -/
theorem Enrolled.backfill (enrolled : Enrolled journal log) : journal.backfillAdmissions = journal := by
  unfold Journal.backfillAdmissions
  split
  · rfl
  · rename_i empty
    rw [enrolled.started (not_not.mp empty)]
    rfl

/-- The first event of a new response gets its own admission row. -/
theorem Enrolled.fresh (enrolled : Enrolled journal log) (durable : Durable python trusted journal)
    (absent : journal.records.find? event.responseId = none) (first : event.transitionNumber = 1) :
    newAdmissions journal (some event) = [(event.responseId, ⟨event.policyId, event.timestamp⟩)] := by
  have unknown : event.responseId ∉ journal.admissions.keys := by
    intro known
    obtain ⟨row, member, key⟩ := List.mem_map.mp known
    obtain ⟨audited, inside, same⟩ := enrolled.audited row member
    have present : audited ∈ journal.history event.responseId := by
      simp [Journal.history, inside, same, key]
    rw [(durable.silent _ absent).1] at present
    exact absurd present List.not_mem_nil
  simp [newAdmissions, first, unknown]

/-- A committed REQUESTED event is the first event of a new response. -/
theorem Change.request_first {catalog : PolicyCatalog} {authenticator : CommandAuthenticator}
    {records : Table String Snapshot} {old : Option Snapshot}
    (change : Change python trusted records log catalog authenticator old record (some event))
    (requested : event.state = .requested) :
    old = none ∧ event.transitionNumber = 1 ∧ event.responseId = record.responseId := by
  cases change with
  | request identified waiting first unauthorized stamp => exact ⟨rfl, stamp.number.trans first, stamp.responseId⟩
  | decline waiting stamp => exact absurd (stamp.state.symm.trans requested) (by simp [Snapshot.moved])
  | confirmApply pending state named stamp =>
      exact absurd (stamp.state.symm.trans requested) (by simp [Snapshot.moved, Snapshot.cleared])
  | confirmVerify state idle stamp => exact absurd (stamp.state.symm.trans requested) (by simp [Snapshot.moved])
  | breakOff pending stamp => exact absurd (stamp.state.symm.trans requested) (by simp [Snapshot.moved])
  | conclude pending ends expiry stamp =>
      have terminal := stamp.state.symm.trans requested
      simp only [Snapshot.moved, Snapshot.cleared] at terminal
      simp [terminal, ResponseState.terminal] at ends

theorem Enrolled.commit (enrolled : Enrolled journal log) (durable : Durable python trusted journal)
    {payload : Option AuditEvent}
    (change : Change python trusted journal.records log entry.catalog entry.authenticator
      (journal.records.find? record.responseId) record payload)
    (accepted : journal.checkpoint record payload = .ok next) (seen : entry.occurrence = .committed record payload) :
    Enrolled next (log ++ [entry]) := by
  have committed := checkpoint_ok accepted
  refine ⟨fun row member => ?_, fun empty => ?_, fun other member found event here requested => ?_⟩
  · rw [committed.admissions] at member
    rw [committed.audit]
    rcases List.mem_append.mp member with old | new
    · obtain ⟨event, inside, same⟩ := enrolled.audited row old
      exact ⟨event, List.mem_append_left _ inside, same⟩
    · cases payload with
      | none => simp [newAdmissions] at new
      | some event =>
          simp only [newAdmissions] at new
          split at new
          · rw [List.mem_singleton] at new
            exact ⟨event, by simp, by rw [new]⟩
          · simp at new
  · rw [committed.admissions, List.append_eq_nil_iff] at empty
    have silent := enrolled.started empty.1
    rw [committed.audit, silent]
    cases payload with
    | none => rfl
    | some event =>
        -- A later event needs an earlier one, and the first event of a response gets its row.
        by_cases requested : event.state = .requested
        · obtain ⟨absent, first, same⟩ := change.request_first requested
          rw [← same] at absent
          have row := enrolled.fresh durable absent first
          rw [row] at empty
          simp at empty
        · exfalso
          rcases present : journal.records.find? record.responseId with _ | old
          · rw [present] at change
            cases change with
            | request identified waiting first unauthorized stamp =>
                exact requested (stamp.state.trans waiting.1)
          · refine (durable.chronicle _ _ present).length_pos ?_
            rw [Journal.history, silent]
            rfl
  · rw [committed.admissions]
    rcases List.mem_append.mp member with before | last
    · obtain ⟨same, row⟩ := enrolled.requests other before found event here requested
      exact ⟨same, List.mem_append_left _ row⟩
    · rw [List.mem_singleton] at last
      subst last
      rw [seen] at here
      cases here
      obtain ⟨absent, first, same⟩ := change.request_first requested
      refine ⟨same, List.mem_append_right _ ?_⟩
      rw [← same] at absent ⊢
      rw [enrolled.fresh durable absent first]
      exact List.mem_singleton_self _

theorem Reached.enrolled (reached : Reached python trusted journal log) : Enrolled journal log := by
  induction reached with
  | empty => exact ⟨by simp, by simp, by simp⟩
  | @observe journal log entry reached present harmless ih =>
      refine ⟨ih.audited, ih.started, fun other member found event here requested => ?_⟩
      rcases List.mem_append.mp member with before | last
      · exact ih.requests other before found event here requested
      · rw [List.mem_singleton] at last
        subst last
        simp [Harmless, here] at harmless
  | commit reached change accepted seen present ih => exact ih.commit reached.durable change accepted seen
  | housekeeping reached records audit intents admissions ih =>
      rcases admissions with same | backfilled
      · refine ⟨?_, ?_, ?_⟩
        · rw [same, audit]
          exact ih.audited
        · rw [same, audit]
          exact ih.started
        · rw [same]
          exact ih.requests
      · rw [backfilled, ih.backfill]
        exact ih

end Admissions

section Windows

variable {python : Python} {trusted : CommandAuthenticator → Prop} {journal : Journal} {log : List Entry}
  {policyId responseId : String} {since last : Int}

/-- The submission at this place of the log was authorized, and its REQUESTED event lies in the window. -/
def GrantedAt (python : Python) (log : List Entry) (policyId : String) (since last : Int) (responseId : String)
    (place : Nat) : Prop :=
  ∃ before requested authorized after granted raw now event,
    Granted python log granted before requested authorized after granted raw now event ∧
      before.length = place ∧ granted.responseId = responseId ∧ event.policyId = policyId ∧
      since < event.timestamp.parse ∧ event.timestamp.parse ≤ last

/-- The log holds one REQUESTED event for a response. -/
theorem Reached.requestedOne (reached : Reached python trusted journal log) {first second : Entry}
    {record other : Snapshot} (firstMember : first ∈ log) (secondMember : second ∈ log)
    (firstRequests : first.requests record) (secondRequests : second.requests other)
    (same : record.responseId = other.responseId) : first = second := by
  have once : Always (fun earlier entry => (∃ row, entry.requests row ∧ row.responseId = other.responseId) →
      ∀ found ∈ earlier, ¬ ∃ row, found.requests row ∧ row.responseId = other.responseId) log := by
    refine reached.requestedOnce.weaken fun earlier entry only => ?_
    rintro ⟨row, request, key⟩ found inside ⟨stored, ⟨event, seen, -⟩, alsoKey⟩
    exact only row request found inside stored (some event) seen (alsoKey.trans key.symm)
  obtain ⟨before, after, firstSplit⟩ := List.append_of_mem firstMember
  obtain ⟨front, back, secondSplit⟩ := List.append_of_mem secondMember
  exact (once.split_unique firstSplit secondSplit ⟨record, firstRequests, same⟩ ⟨other, secondRequests, rfl⟩).2.1

/-- Every counted response was granted by one submission of the log. -/
theorem Reached.grantedWithin (reached : Reached python trusted journal log)
    (member : responseId ∈ authorizedWithin log policyId since last) :
    ∃ place, GrantedAt python log policyId since last responseId place := by
  simp only [authorizedWithin, List.mem_dedup, List.mem_map, List.mem_filter, List.mem_filterMap,
    decide_eq_true_eq] at member
  obtain ⟨event, ⟨⟨requestEntry, inside, requested⟩, policy, lower, upper, ⟨entry, present, authorized⟩⟩, key⟩ :=
    member
  -- The entry that commits the authorization holds a granted record.
  unfold Entry.authorizedId at authorized
  split at authorized
  · rename_i record payload seen
    split at authorized
    · rename_i marked
      have sameId := Option.some.inj authorized
      obtain ⟨earlier, later, split, there⟩ := reached.entries.of_mem present
      have stored : entry.journal.records.find? record.responseId = some record := by
        rw [there.lastCommitted, lastCommitted_append, seen]
        simp
      obtain ⟨before, request, grantEntry, after, granted, raw, now, first, grant⟩ := there.granted stored marked
      have whole : Granted python (earlier ++ [entry] ++ later) granted before request grantEntry (after ++ later)
        granted raw now first := grant.later grant.responseId grant.command
      rw [List.append_assoc, List.singleton_append, ← split] at whole
      refine ⟨before.length, before, request, grantEntry, _, granted, raw, now, first, whole, rfl,
        grant.responseId.trans (sameId.trans key), ?_⟩
      -- The response has one REQUESTED event, so the counted event is the granted one.
      unfold Entry.requestedEvent at requested
      split at requested
      · rename_i stored payload seenRequest
        split at requested
        · rename_i state
          cases requested
          have requestMember : request ∈ log := by
            rw [whole.split]
            simp
          have enrolledId := (reached.enrolled.requests requestEntry inside stored event seenRequest state).1
          have same := reached.requestedOne inside requestMember ⟨event, seenRequest, state⟩
            ⟨first, whole.requests, whole.admitted.requested⟩
            (enrolledId.symm.trans (sameId.symm.trans grant.responseId.symm))
          have clash := seenRequest
          rw [same, whole.requests] at clash
          cases clash
          exact ⟨policy, lower, upper⟩
        · cases requested
      · cases requested
    · cases authorized
  · cases authorized

/-- A counted submission was enrolled in the store that a later submission saw. -/
theorem GrantedAt.enrolled {place : Nat} (granted : GrantedAt python log policyId since last responseId place)
    {before after : List Entry} {requested : Entry} (split : log = before ++ requested :: after)
    (reached : Reached python trusted requested.journal (before ++ [requested])) (early : place ≤ before.length) :
    ∃ timestamp : Rfc3339, (responseId, (⟨policyId, timestamp⟩ : Admission)) ∈ requested.journal.admissions ∧
      since < timestamp.parse ∧ timestamp.parse ≤ last := by
  obtain ⟨front, request, _, _, record, _, _, event, grant, length, key, policy, lower, upper⟩ := granted
  have inside : request ∈ before ++ [requested] := by
    have cut : before ++ [requested] = log.take (before.length + 1) := by
      rw [split]
      simp [List.take_append]
    rw [cut, grant.split, List.mem_iff_getElem]
    exact ⟨front.length, by simp; omega, by simp⟩
  have row := (reached.enrolled.requests request inside _ event grant.requests grant.admitted.requested).2
  rw [policy] at row
  exact ⟨event.timestamp, key ▸ row, lower, upper⟩

/-- In every half-open window of the catalog's length, whatever the clocks, denials, crashes, and reopenings
were, no more responses of a policy were authorized than its rate limit allows. -/
theorem rate_limit_in_every_window (python : Python) (catalog : PolicyCatalog) (steps : List Step)
    (fixed : ∀ step ∈ steps, step.configures catalog) (policyId : String) (instant : Int) :
    (authorizedWithin (World.run python steps).log policyId instant
      (instant + seconds catalog.rateLimit.windowSeconds)).length ≤ catalog.rateLimit.maxActions := by
  have reached := (run_reached python steps).reached
  obtain ⟨-, uses⟩ : (World.run python steps).Uses catalog := run_uses steps fixed
  generalize (World.run python steps).log = log at reached uses ⊢
  set ids := authorizedWithin log policyId instant (instant + seconds catalog.rateLimit.windowSeconds) with same
  have places : ∀ id ∈ ids, ∃ place, GrantedAt python log policyId instant
      (instant + seconds catalog.rateLimit.windowSeconds) id place := fun id member =>
    reached.grantedWithin (same ▸ member)
  rcases List.eq_nil_or_concat ids with empty | ⟨_, final, ends⟩
  · simp [empty]
  -- The last submission of the window saw the admission rows of all the others.
  choose! place granted using places
  obtain ⟨latest, member, greatest⟩ := Finset.exists_max_image ids.toFinset place ⟨final, by simp [ends]⟩
  obtain ⟨before, requested, authorized, after, record, raw, now, event, grant, length, key, policy, lower, upper⟩ :=
    granted latest (by simpa using member)
  have there : Reached python (fun _ => True) requested.journal (before ++ [requested]) :=
    reached.entries before requested _ grant.split
  obtain ⟨_, _, _, found, split, -, -, -, limit⟩ := grant.admitted.submitted
  have foundIs : found = requested := by
    have tails := List.append_inj' (show before ++ [requested] = (_ ++ [_, _]) ++ [found] by simpa using split) rfl
    simpa using tails.2.symm
  have catalogIs : authorized.catalog = catalog := uses authorized (by rw [grant.split]; simp)
  rw [foundIs, catalogIs, ← grant.admitted.stamped.2, policy] at limit
  refine le_trans (Table.length_le_countP (List.nodup_dedup _) fun id inside => ?_) limit
  obtain ⟨timestamp, row, after, _⟩ := (granted id inside).enrolled grant.split there
    (length ▸ greatest id (by simpa using inside))
  refine ⟨_, row, rfl, ?_⟩
  -- Both times are whole milliseconds, so the truncation of the clock does not matter.
  rw [grant.admitted.stamped.1] at upper
  simp only [decide_eq_true_eq, true_and, rfc3339, Rfc3339.parse, seconds] at *
  omega

/-- The command of the lab run is counted in the window that ends with its timestamp. -/
theorem rate_limit_in_every_window_lab :
    authorizedWithin (World.run labPython labSteps).log "block" (newYear - seconds 60)
      (newYear - seconds 60 + seconds labCatalog.rateLimit.windowSeconds) = ["resp-ff79968c49633feffb257582"] ∧
    (authorizedWithin (World.run labPython labSteps).log "block" (newYear - seconds 60)
      (newYear - seconds 60 + seconds labCatalog.rateLimit.windowSeconds)).length ≤ 10 := by
  refine ⟨by decide +kernel, rate_limit_in_every_window labPython labCatalog labSteps ?_ "block" _⟩
  simp [labSteps, Step.configures, labConfig]

end Windows

end ClosedLoop.Response
