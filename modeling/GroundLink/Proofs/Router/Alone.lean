import GroundLink.Proofs.Router.Operations
import GroundLink.Proofs.Router.Race
import GroundLink.Proofs.Router.Teardown

/-! # A router with one caller

When one caller makes one request after the other, nobody waits between the requests. The router is
then as good as its counter and its gates: the next number is that of the counter, a request is
refused by a gate or sent, and what happens on the link until the caller waits decides it alone,
or else time does.
-/

namespace GroundLink

open Link

namespace RequestTable

variable {table : RequestTable} {steps : List RouterStep}

/-! ## The counter -/

/-- When nobody waits, the next number is free. -/
theorem allocateId_of_idle (h : table.pending = []) :
    table.allocateId = (table.nextId, { table with nextId := table.nextId + 1 }) := by
  have hsearch : searchId table.isPending 256 table.nextId =
      (table.nextId, table.nextId + 1) := by
    refine if_neg ?_
    rw [isPending_of_idle h]
    exact Bool.false_ne_true
  rw [allocateId, hsearch]

/-! ## Requests -/

theorem beginIssue_of_idle {id : CorrelationId} (hopen : table.ensureOpen id = .ok ())
    (h : table.pending = []) (filter : FrameFilter) (deadline : Nat) :
    table.beginIssue id filter deadline =
        (.ok ⟨id, table.slots.length, deadline⟩, table.apply (.beginIssue id filter deadline)) ∧
      (table.apply (.beginIssue id filter deadline)).pending =
        [⟨⟨id, table.slots.length, deadline⟩, filter⟩] := by
  have hfree : (table.dropHeld id).isPending id = false := isPending_of_idle h id
  have hbegin : table.beginIssue id filter deadline =
      (table.dropHeld id).register id filter deadline := by
    simp only [beginIssue, hopen]
  rw [apply, hbegin, register_of_free filter deadline hfree]
  exact ⟨rfl, congrArg (· ++ _) h⟩

/-- Nobody waits after steps that give out no handle and end the only request. -/
theorem Sound.idle_run (h : table.Sound) {request : Pending} (hmem : table.pending = [request])
    (hmade : table.made steps = [])
    (hends : (steps.findSome? (RouterStep.ends? request)).isSome) :
    (table.run steps).pending = [] := by
  rw [List.eq_nil_iff_forall_not_mem]
  intro other hother
  have hwaited : request ∈ table.pending := hmem ▸ List.mem_singleton_self request
  have hslot := h.outcome?_run_pending hwaited steps
  rcases h.waited_or_mem_made hother with hearlier | hlater
  · rw [hmem, List.mem_singleton] at hearlier
    rw [hearlier] at hother
    rw [← hslot, (h.run steps).outcome?_pending hother] at hends
    cases hends
  · rw [hmade] at hlater
    exact absurd hlater List.not_mem_nil

theorem expire_of_idle (h : table.pending = []) (id : CorrelationId) (ticket : Nat) :
    table.expire id ticket = table := by
  have hnone : table.find? id = none := by rw [find?, h, List.find?_nil]
  rw [expire, resolve, hnone]

/-- The timer ends nothing when nobody waits. -/
theorem run_expiries_of_idle (h : table.pending = []) (due : List Expiry) :
    table.run (due.map Expiry.step) = table := by
  induction due with
  | nil => rfl
  | cons expiry rest ih =>
      have hexpire : table.apply expiry.step = table := expire_of_idle h _ _
      rw [List.map_cons, run_cons, hexpire, ih]

end RequestTable

/-! ## Events of the link -/

namespace LinkEvent

/-- The reason that an event gives for the end of the link. -/
def closing? : LinkEvent → Option String
  | .close reason => some reason
  | _ => none

/-- What an event makes of a request for a response of the terminal under a number, if it is about
this request. -/
def decides? (id : CorrelationId) : LinkEvent → Option Outcome
  | .deliver (.response response) =>
      if response.id = id ∧ response.kind.apid = .terminal then some (.fulfilled response) else none
  | .deliver _ => none
  | .close reason => some (.failed reason)
  | .cancelAll => some .cancelled

/-- The outcome of such a request, when its caller waits after some events. -/
def outcome (id : CorrelationId) (events : List LinkEvent) : Outcome :=
  (events.findSome? (decides? id)).getD .timedOut

variable (now : Nat) (event : LinkEvent)

theorem closing?_step : (event.step now).closing? = event.closing? := by
  cases event <;> rfl

theorem step_eq_cancelAll_iff : event.step now = .cancelAll ↔ event = .cancelAll := by
  cases event <;> simp [step]

theorem made?_step (table : RequestTable) : table.made? (event.step now) = none := by
  cases event <;> rfl

theorem ends?_step (handle : Handle) :
    (event.step now).ends? ⟨handle, .apid .terminal⟩ = event.decides? handle.id := by
  cases event with
  | deliver frame =>
      cases frame with
      | response response =>
          simp [step, RouterStep.ends?, RouterStep.event?, decides?, FrameFilter.accepts]
      | _ => rfl
  | close reason => rfl
  | cancelAll => rfl

end LinkEvent

/-- The steps that follow a request: events of the link, and then what the timer ends. -/
def stepsAfter (now : Nat) (events : List LinkEvent) (due : List Expiry) : List RouterStep :=
  events.map (LinkEvent.step now) ++ due.map Expiry.step

section StepsAfter

variable (now : Nat) (events : List LinkEvent) (due : List Expiry)

theorem made_stepsAfter (table : RequestTable) : table.made (stepsAfter now events due) = [] := by
  have hnone : ∀ step ∈ stepsAfter now events due, ∀ table : RequestTable,
      table.made? step = none := by
    intro step hstep table
    rcases List.mem_append.mp hstep with hstep | hstep
    · obtain ⟨event, -, rfl⟩ := List.mem_map.mp hstep
      exact event.made?_step now table
    · obtain ⟨expiry, -, rfl⟩ := List.mem_map.mp hstep
      rfl
  generalize stepsAfter now events due = steps at hnone
  induction steps generalizing table with
  | nil => rfl
  | cons step rest ih =>
      rw [RequestTable.made, hnone step List.mem_cons_self,
        ih _ fun other hother => hnone other (List.mem_cons_of_mem step hother)]
      rfl

theorem allocate_not_mem_stepsAfter : .allocate ∉ stepsAfter now events due := by
  intro hmem
  rcases List.mem_append.mp hmem with hmem | hmem
  · obtain ⟨event, -, hevent⟩ := List.mem_map.mp hmem
    cases event <;> cases hevent
  · obtain ⟨expiry, -, hexpiry⟩ := List.mem_map.mp hmem
    cases hexpiry

theorem cancelAll_mem_stepsAfter :
    .cancelAll ∈ stepsAfter now events due ↔ .cancelAll ∈ events := by
  constructor
  · intro hmem
    rcases List.mem_append.mp hmem with hmem | hmem
    · obtain ⟨event, hevent, hstep⟩ := List.mem_map.mp hmem
      rwa [(event.step_eq_cancelAll_iff now).mp hstep] at hevent
    · obtain ⟨expiry, -, hexpiry⟩ := List.mem_map.mp hmem
      cases hexpiry
  · exact fun hmem => List.mem_append_left _ (List.mem_map.mpr ⟨_, hmem, rfl⟩)

theorem closing?_stepsAfter :
    (stepsAfter now events due).findSome? RouterStep.closing? =
      events.findSome? LinkEvent.closing? := by
  have hdue : (due.map Expiry.step).findSome? RouterStep.closing? = none := by
    rw [List.findSome?_map]
    exact List.findSome?_eq_none_iff.mpr fun _ _ => rfl
  rw [stepsAfter, List.findSome?_append, hdue, Option.or_none, List.findSome?_map]
  exact congrArg (events.findSome? ·) (funext fun event => event.closing?_step now)

/-- What is due counts only if no event has come before. -/
theorem ends?_stepsAfter (handle : Handle) :
    (stepsAfter now events due).findSome? (RouterStep.ends? ⟨handle, .apid .terminal⟩) =
      (events.findSome? (LinkEvent.decides? handle.id)).or
        ((due.map Expiry.step).findSome? (RouterStep.ends? ⟨handle, .apid .terminal⟩)) := by
  have hevents : RouterStep.ends? ⟨handle, .apid .terminal⟩ ∘ LinkEvent.step now =
      LinkEvent.decides? handle.id := funext fun event => event.ends?_step now handle
  rw [stepsAfter, List.findSome?_append, List.findSome?_map, hevents]

end StepsAfter

theorem ends?_expiries (request : Pending) (due : List Expiry) :
    ((due ++ [request.handle.expiry]).map Expiry.step).findSome?
      (RouterStep.ends? request) = some .timedOut := by
  induction due with
  | nil => simp [Handle.expiry, Expiry.step, RouterStep.ends?, RouterStep.event?]
  | cons expiry rest ih =>
      rw [List.cons_append, List.map_cons, List.findSome?_cons]
      by_cases hown : request.handle.id = expiry.id ∧ request.handle.ticket = expiry.ticket
      · have hends : expiry.step.ends? request = some .timedOut := if_pos hown
        rw [hends]
      · have hends : expiry.step.ends? request = none := if_neg hown
        rw [hends]
        exact ih

/-- Why a request is refused after some events, if it is. Teardown comes before the end of the
link, for which the first reason counts. -/
def refusal? (played : List LinkEvent) (id : CorrelationId) : Option RouterError :=
  if .cancelAll ∈ played then some (.cancelled id)
  else (played.findSome? LinkEvent.closing?).map .transportUnavailable

namespace Router

/-- These requests wait, so many numbers have been taken, and these events have happened on the
link. -/
structure Stands (router : Router) (waiting : List Pending) (numbered : Nat)
    (played : List LinkEvent) : Prop where
  sound : router.table.Sound
  pending : router.table.pending = waiting
  next : router.table.nextId = UInt8.ofNat numbered
  shutDown : router.table.shutDown = true ↔ .cancelAll ∈ played
  closed : router.table.closed = played.findSome? LinkEvent.closing?

variable {router other : Router} {waiting : List Pending} {numbered : Nat}
  {played : List LinkEvent} {request : CorrelatedRequest}

theorem stands_of_fresh (h : router.table = {}) : router.Stands [] 0 [] := by
  refine ⟨?_, ?_, ?_, ?_, ?_⟩ <;> rw [h]
  · exact RequestTable.Sound.empty
  · rfl
  · simp
  · rfl

/-- What does not reach the table does not matter. -/
theorem Stands.elsewhere (h : router.Stands waiting numbered played)
    (htable : other.table = router.table) : other.Stands waiting numbered played := by
  refine ⟨?_, ?_, ?_, ?_, ?_⟩ <;> rw [htable]
  · exact h.sound
  · exact h.pending
  · exact h.next
  · exact h.shutDown
  · exact h.closed

theorem Stands.sleep (h : router.Stands [] numbered played) (milliseconds : Nat) :
    (router.sleep milliseconds).Stands [] numbered played := by
  obtain ⟨now, timer, due, hsleep⟩ := router.sleep_eq milliseconds
  apply h.elsewhere
  rw [hsleep]
  exact RequestTable.run_expiries_of_idle h.pending due

theorem Stands.allocateId (h : router.Stands [] numbered played) :
    router.allocateId.1 = UInt8.ofNat numbered ∧
      router.allocateId.2.Stands [] (numbered + 1) played := by
  have hallocate : router.allocateId = (router.table.nextId,
      { router with table := { router.table with nextId := router.table.nextId + 1 } }) := by
    rw [Router.allocateId, RequestTable.allocateId_of_idle h.pending]
  have hsound := h.sound.apply .allocate
  rw [hallocate]
  rw [RequestTable.apply, RequestTable.allocateId_of_idle h.pending] at hsound
  refine ⟨h.next, hsound, h.pending, ?_, h.shutDown, h.closed⟩
  rw [UInt8.ofNat_add, ← h.next]
  rfl

theorem Stands.ensureOpen (h : router.Stands waiting numbered played) (id : CorrelationId) :
    router.table.ensureOpen id =
      match refusal? played id with
      | some error => .error error
      | none => .ok () := by
  unfold RequestTable.ensureOpen refusal?
  by_cases hshutDown : .cancelAll ∈ played
  · rw [if_pos (h.shutDown.mpr hshutDown), if_pos hshutDown]
  · rw [if_neg (mt h.shutDown.mp hshutDown), if_neg hshutDown, h.closed]
    cases played.findSome? LinkEvent.closing? <;> rfl

/-- A request that finds the gates open waits alone. -/
theorem Stands.register (h : router.Stands [] numbered played)
    (hopen : refusal? played request.id = none) :
    ∃ handle entered, router.register request = (.ok handle, entered) ∧ handle.id = request.id ∧
      entered.transport = router.transport ∧
      entered.Stands [⟨handle, request.filter⟩] numbered played := by
  have hensure := h.ensureOpen request.id
  rw [hopen] at hensure
  obtain ⟨hbegin, hpending⟩ := RequestTable.beginIssue_of_idle hensure h.pending request.filter
    (router.now + request.timeout)
  have hsound := h.sound.apply
    (.beginIssue request.id request.filter (router.now + request.timeout))
  have hnext := @RequestTable.nextId_apply router.table
    (.beginIssue request.id request.filter (router.now + request.timeout)) nofun
  obtain ⟨hshutDown, hclosed⟩ := Prod.mk.inj (router.table.gates_apply
    (.beginIssue request.id request.filter (router.now + request.timeout)))
  have hregister : router.register request =
      (.ok ⟨request.id, router.table.slots.length, router.now + request.timeout⟩,
        { router with table := router.table.apply (.beginIssue request.id request.filter
          (router.now + request.timeout)) }.schedule
            ⟨request.id, router.table.slots.length, router.now + request.timeout⟩) := by
    rw [Router.register, hbegin]
  refine ⟨_, _, hregister, rfl, rfl, hsound, hpending, ?_, ?_, ?_⟩
  · exact hnext.trans h.next
  · exact (Bool.eq_iff_iff.mp hshutDown).trans h.shutDown
  · exact hclosed.trans h.closed

/-- Steps that end the only request leave the router at rest. -/
theorem Stands.ended {pending : Pending} (h : router.Stands [pending] numbered played)
    {steps : List RouterStep} {events : List LinkEvent}
    (htable : other.table = router.table.run steps)
    (hends : (steps.findSome? (RouterStep.ends? pending)).isSome)
    (hmade : router.table.made steps = []) (hcounter : .allocate ∉ steps)
    (hteardown : .cancelAll ∈ steps ↔ .cancelAll ∈ events)
    (hclosing : steps.findSome? RouterStep.closing? = events.findSome? LinkEvent.closing?) :
    other.Stands [] numbered (played ++ events) := by
  refine ⟨?_, ?_, ?_, ?_, ?_⟩ <;> rw [htable]
  · exact h.sound.run steps
  · exact h.sound.idle_run h.pending hmade hends
  · rw [RequestTable.nextId_run hcounter, h.next]
  · rw [RequestTable.shutDown_run, h.shutDown, hteardown, List.mem_append]
  · rw [RequestTable.closed_run, h.closed, hclosing, List.findSome?_append]

/-- A request that cannot be sent is ended at once. -/
theorem Stands.abandon {handle : Handle} {filter : FrameFilter}
    (h : router.Stands [⟨handle, filter⟩] numbered played) (reason : String)
    (htable : other.table = router.table.abandonIssue handle reason) :
    other.Stands [] numbered played := by
  have hended := @Stands.ended router other numbered played ⟨handle, filter⟩ h
    [.abandonIssue handle reason] [] htable (by simp [RouterStep.ends?]) rfl (by simp) (by simp) rfl
  rwa [List.append_nil] at hended

/-- Whoever waits after some events is told what the first of them that is about his request makes
of it, or that time has run out. -/
theorem settle_after {handle : Handle}
    (h : router.Stands [⟨handle, .apid .terminal⟩] numbered played) (events : List LinkEvent) :
    ∃ due, ((events.foldl apply router).settle handle).table =
        router.table.run (stepsAfter router.now events due) ∧
      (stepsAfter router.now events due).findSome?
        (RouterStep.ends? ⟨handle, .apid .terminal⟩) =
          some (LinkEvent.outcome handle.id events) := by
  obtain ⟨timer, observers, observed, hevents⟩ := router.foldl_apply_eq events
  have hmem : ⟨handle, .apid .terminal⟩ ∈ router.table.pending :=
    h.pending ▸ List.mem_singleton_self _
  have htable : (events.foldl apply router).table =
      router.table.run (stepsAfter router.now events []) := by
    rw [hevents, stepsAfter, List.map_nil, List.append_nil]
  have hslot : (events.foldl apply router).table.outcome? handle.ticket =
      events.findSome? (LinkEvent.decides? handle.id) := by
    rw [htable, h.sound.outcome?_run_pending hmem, ends?_stepsAfter]
    exact Option.or_none
  unfold LinkEvent.outcome
  cases hdecided : events.findSome? (LinkEvent.decides? handle.id) with
  | some outcome =>
      have hresolved : (events.foldl apply router).isResolved handle := by
        rw [isResolved, hslot, hdecided]
        rfl
      refine ⟨[], by rw [settle_of_resolved hresolved, htable], ?_⟩
      rw [ends?_stepsAfter, hdecided]
      rfl
  | none =>
      have hresolved : ¬ (events.foldl apply router).isResolved handle := by
        rw [isResolved, hslot, hdecided]
        exact Bool.false_ne_true
      obtain ⟨now, last, due, hsettle⟩ := settle_of_unresolved hresolved
      refine ⟨due ++ [handle.expiry], ?_, ?_⟩
      · rw [hsettle, hevents, stepsAfter, RequestTable.run_append]
      · rw [ends?_stepsAfter, hdecided, Option.none_or]
        exact ends?_expiries ⟨handle, .apid .terminal⟩ due

theorem Stands.waitAfter {handle : Handle}
    (h : router.Stands [⟨handle, .apid .terminal⟩] numbered played) (events : List LinkEvent) :
    (router.waitAfter events handle).1 =
        (LinkEvent.outcome handle.id events).result handle.id ∧
      (router.waitAfter events handle).2.Stands [] numbered (played ++ events) := by
  obtain ⟨due, hsettle, hends⟩ := settle_after h events
  have hmem : ⟨handle, .apid .terminal⟩ ∈ router.table.pending :=
    h.pending ▸ List.mem_singleton_self _
  have hfilled : ((events.foldl apply router).settle handle).table.outcome? handle.ticket =
      some (LinkEvent.outcome handle.id events) := by
    rw [hsettle, ← hends]
    exact h.sound.outcome?_run_pending hmem _
  have hwait : router.waitAfter events handle =
      ((LinkEvent.outcome handle.id events).result handle.id,
        (events.foldl apply router).settle handle) := by
    simp only [Router.waitAfter, wait, hfilled]
  rw [hwait]
  refine ⟨rfl, h.ended hsettle (by rw [hends]; rfl) ?_ ?_ ?_ ?_⟩
  · exact made_stepsAfter _ _ _ _
  · exact allocate_not_mem_stepsAfter _ _ _
  · exact cancelAll_mem_stepsAfter _ _ _
  · exact closing?_stepsAfter _ _ _

/-! ## Making a request -/

theorem Stands.issue_refused (h : router.Stands waiting numbered played)
    (request : CorrelatedRequest) {error : RouterError}
    (hrefused : refusal? played request.id = some error) :
    router.issue request = (.error error, router) := by
  apply issue_of_ensureOpen
  rw [h.ensureOpen, hrefused]

theorem Stands.issue_failed (h : router.Stands [] numbered played) (request : CorrelatedRequest)
    (hopen : refusal? played request.id = none) {error : TransportError} {transport : Transport}
    (hsend : router.transport.send request.payload = (.error error, transport)) :
    ∃ after, router.issue request = (.error (.transportUnavailable error.message), after) ∧
      after.transport = transport ∧ after.Stands [] numbered played := by
  obtain ⟨handle, entered, hregister, -, htransport, hentered⟩ := h.register hopen
  rw [← htransport] at hsend
  refine ⟨{ entered with transport, table := entered.table.abandonIssue handle error.message }, ?_,
    rfl, hentered.abandon error.message rfl⟩
  simp only [issue, hregister, transmit, hsend]

theorem Stands.issue_sent (h : router.Stands [] numbered played) (request : CorrelatedRequest)
    (hopen : refusal? played request.id = none) {transport : Transport}
    (hsend : router.transport.send request.payload = (.ok (), transport)) :
    ∃ handle after, router.issue request = (.ok handle, after) ∧ handle.id = request.id ∧
      after.transport = transport ∧ after.Stands [⟨handle, request.filter⟩] numbered played := by
  obtain ⟨handle, entered, hregister, hid, htransport, hentered⟩ := h.register hopen
  rw [← htransport] at hsend
  refine ⟨handle, { entered with transport }, ?_, hid, rfl, hentered.elsewhere rfl⟩
  simp only [issue, hregister, transmit, hsend]

end Router

end GroundLink
