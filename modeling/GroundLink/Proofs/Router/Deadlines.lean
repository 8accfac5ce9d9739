import GroundLink.Proofs.Router.Calls

/-! # Nothing expires early

A request expires by its own number and ticket, which the timer thread and the callers of `wait`
carry with them for a while before they enter the router. Whatever happens in between, they only
carry what has been due: the timer keeps every entry with the deadline of its handle, and the
clock never goes back.
-/

namespace GroundLink

/-- Whether a handle of this number and ticket has been given out and its deadline has come. -/
def Due (log : List RouterStep) (now : Nat) (id : CorrelationId) (ticket : Nat) : Prop :=
  ∃ handle, Given log handle ∧ handle.id = id ∧ handle.ticket = ticket ∧ handle.deadline ≤ now

variable {log later : List RouterStep} {now : Nat} {id : CorrelationId} {ticket : Nat}

theorem Given.of_prefix {handle : Handle} (h : Given log handle) (hlog : log <+: later) :
    Given later handle := by
  obtain ⟨request, hmade, heq⟩ := h
  obtain ⟨rest, rfl⟩ := hlog
  refine ⟨request, ?_, heq⟩
  rw [RequestTable.made_append]
  exact List.mem_append_left _ hmade

theorem Due.mono (h : Due log now id ticket) (hlog : log <+: later) {after : Nat}
    (hnow : now ≤ after) : Due later after id ticket := by
  obtain ⟨handle, hgiven, hid, hticket, hdeadline⟩ := h
  exact ⟨handle, hgiven.of_prefix hlog, hid, hticket, Nat.le_trans hdeadline hnow⟩

/-- The handle of a request that is due has been given out with a deadline that has come. -/
theorem Due.deadline_le (h : Due log now id ticket) {request : Pending}
    (hmade : request ∈ ({} : RequestTable).made log) (hticket : request.handle.ticket = ticket) :
    request.handle.id = id ∧ request.handle.deadline ≤ now := by
  obtain ⟨handle, ⟨other, hother, rfl⟩, hid, heq, hdeadline⟩ := h
  rw [RequestTable.eq_of_ticket_made hmade hother (hticket.trans heq.symm)]
  exact ⟨hid, hdeadline⟩

namespace Traffic

variable {traffic next : Traffic}

/-- The timer and the callers of `wait` carry nothing that is not due. -/
structure Timed (traffic : Traffic) : Prop where
  queued : ∀ entry ∈ traffic.timer.queue, ∃ handle, Given traffic.log handle ∧
    entry.item = ⟨handle.id, handle.ticket⟩ ∧ entry.deadline = handle.deadline
  firing : ∀ expiry, traffic.firing = some expiry →
    Due traffic.log traffic.now expiry.id expiry.ticket
  expiring : ∀ call ∈ traffic.waits, call.stage = .expiring →
    Due traffic.log traffic.now call.handle.id call.handle.ticket

/-- A turn enters the router at most once, and ends a request for want of time only when it is
due. -/
structure Advances (traffic next : Traffic) : Prop where
  timed : next.Timed
  logged : next.log = traffic.log ∨ ∃ step, next.log = traffic.log ++ [step] ∧
    ∀ id ticket, step = .expire id ticket → Due traffic.log traffic.now id ticket

theorem Timed.empty : Timed {} := ⟨nofun, nofun, nofun⟩

/-- Time may pass, the log may grow, and nothing new is carried. -/
theorem Timed.mono (h : traffic.Timed) (hlog : traffic.log <+: next.log)
    (hnow : traffic.now ≤ next.now) (hqueue : next.timer.queue ⊆ traffic.timer.queue)
    (hfiring : ∀ expiry, next.firing = some expiry → traffic.firing = some expiry)
    (hwaits : ∀ call ∈ next.waits, call.stage = .expiring → call ∈ traffic.waits) :
    next.Timed where
  queued entry hentry := by
    obtain ⟨handle, hgiven, hitem⟩ := h.queued entry (hqueue hentry)
    exact ⟨handle, hgiven.of_prefix hlog, hitem⟩
  firing expiry hexpiry := (h.firing expiry (hfiring expiry hexpiry)).mono hlog hnow
  expiring call hcall hstage :=
    (h.expiring call (hwaits call hcall hstage) hstage).mono hlog hnow

theorem Timed.enter (h : traffic.Timed) (step : RouterStep) : (traffic.enter step).Timed :=
  h.mono (List.prefix_append _ _) (Nat.le_refl _) (fun _ => id) (fun _ => id)
    (fun _ hcall _ => hcall)

/-- The timer takes a new entry with the deadline of its handle. -/
theorem Timed.schedule (h : traffic.Timed) {handle : Handle} (hgiven : Given traffic.log handle) :
    (traffic.schedule handle).Timed where
  queued entry hentry := by
    rcases DeadlineTimer.mem_insert.mp hentry with rfl | hentry
    · exact ⟨handle, hgiven, rfl, rfl⟩
    · exact h.queued entry hentry
  firing := h.firing
  expiring := h.expiring

theorem Timed.setWait (h : traffic.Timed) (index : Nat) {call : WaitCall}
    (hcall : call.stage = .expiring →
      Due traffic.log traffic.now call.handle.id call.handle.ticket) :
    (traffic.setWait index call).Timed where
  queued := h.queued
  firing := h.firing
  expiring other hother hstage := by
    rcases List.mem_or_eq_of_mem_set hother with hother | rfl
    · exact h.expiring other hother hstage
    · exact hcall hstage

/-- A turn that leaves the timer, the clock and the calls of `wait` alone. -/
theorem Timed.advances_enter (h : traffic.Timed) (step : RouterStep)
    (hlog : next.log = traffic.log ++ [step]) (hstep : ∀ id ticket, step ≠ .expire id ticket)
    (htimed : (traffic.enter step).Timed → next.Timed) : traffic.Advances next where
  timed := htimed (h.enter step)
  logged := Or.inr ⟨step, hlog, fun id ticket heq => absurd heq (hstep id ticket)⟩

theorem Timed.advances_issue (h : traffic.Timed) (hvalid : traffic.Valid)
    (request : CorrelatedRequest) : traffic.Advances (traffic.issue request) := by
  unfold Traffic.issue
  dsimp only
  split
  next => exact h.advances_enter _ rfl (fun _ _ => nofun) id
  next made hmade =>
    refine h.advances_enter (.beginIssue request.id request.filter
      (traffic.now + request.timeout)) rfl (fun _ _ => nofun) fun hentered => ?_
    have hgiven := given_of_made? (hvalid.table ▸ hmade)
    exact ⟨(hentered.schedule hgiven).queued, hentered.firing, hentered.expiring⟩

theorem Timed.advances_expect (h : traffic.Timed) (hvalid : traffic.Valid) (id : CorrelationId)
    (filter : FrameFilter) (timeout : Nat) :
    traffic.Advances (traffic.expect id filter timeout) := by
  unfold Traffic.expect
  dsimp only
  split
  next => exact h.advances_enter _ rfl (fun _ _ => nofun) fun htimed => htimed
  next made hmade =>
    have hgiven := given_of_made? (hvalid.table ▸ hmade)
    split
    · refine h.advances_enter (.expect id filter traffic.now timeout) rfl (fun _ _ => nofun)
        fun hentered => ?_
      exact ⟨hentered.queued, hentered.firing, hentered.expiring⟩
    · refine h.advances_enter (.expect id filter traffic.now timeout) rfl (fun _ _ => nofun)
        fun hentered => ?_
      exact ⟨(hentered.schedule hgiven).queued, hentered.firing, hentered.expiring⟩

theorem Timed.advances_giveUp (h : traffic.Timed) {index : Nat} {call : WaitCall}
    (hcall : traffic.waits[index]? = some call) (hstage : call.stage = .expiring) :
    traffic.Advances ((traffic.enter (.expire call.handle.id call.handle.ticket)).setWait index
      { call with stage := .looking, expiries := call.expiries + 1 }) := by
  refine ⟨(h.enter _).setWait index nofun, Or.inr ⟨_, rfl, ?_⟩⟩
  rintro _ _ ⟨⟩
  exact h.expiring call (List.mem_of_getElem? hcall) hstage

theorem Timed.advances_fire (h : traffic.Timed) {entry : TimerEntry Expiry}
    {timer : DeadlineTimer Expiry} (hpop : traffic.timer.pop? traffic.now = some (entry, timer)) :
    traffic.Advances { traffic with timer, firing := some entry.item } := by
  obtain ⟨hqueue, hdue⟩ := DeadlineTimer.pop?_eq_some hpop
  refine ⟨⟨?_, ?_, h.expiring⟩, Or.inl rfl⟩
  · exact fun other hother => h.queued other (hqueue ▸ List.mem_cons_of_mem entry hother)
  · rintro _ ⟨⟩
    obtain ⟨handle, hgiven, hitem, hdeadline⟩ := h.queued entry (hqueue ▸ List.mem_cons_self)
    exact ⟨handle, hgiven, by rw [hitem], by rw [hitem], hdeadline ▸ hdue⟩

theorem Timed.advances_callback (h : traffic.Timed) {expiry : Expiry}
    (hcarried : traffic.firing = some expiry) :
    traffic.Advances
      { traffic.enter (.expire expiry.id expiry.ticket) with firing := none } := by
  have hentered := h.enter (.expire expiry.id expiry.ticket)
  refine ⟨⟨hentered.queued, nofun, hentered.expiring⟩, Or.inr ⟨_, rfl, ?_⟩⟩
  rintro _ _ ⟨⟩
  exact h.firing expiry hcarried

/-- Every turn carries only what is due. -/
theorem Timed.take? (h : traffic.Timed) (hvalid : traffic.Valid) {turn : Turn}
    (hnext : traffic.take? turn = some next) : traffic.Advances next := by
  cases moves hnext with
  | issue request => exact h.advances_issue hvalid request
  | abandon | cancelAll =>
      refine h.advances_enter _ rfl (by simp) fun hentered => ?_
      exact ⟨hentered.queued, hentered.firing, hentered.expiring⟩
  | expect id filter timeout => exact h.advances_expect hvalid id filter timeout
  | wait hgiven =>
      refine ⟨⟨h.queued, h.firing, fun call hcall hstage => ?_⟩, Or.inl rfl⟩
      rcases List.mem_append.mp hcall with hcall | hcall
      · exact h.expiring call hcall hstage
      · rw [List.mem_singleton.mp hcall] at hstage
        cases hstage
  | lookFilled => exact ⟨h.setWait _ nofun, Or.inl rfl⟩
  | @lookLate index call hcall hstage hempty hdeadline =>
      refine ⟨h.setWait index fun _ => ?_, Or.inl rfl⟩
      have hgiven := (hvalid.waits call (List.mem_of_getElem? hcall)).given
      exact ⟨call.handle, hgiven, rfl, rfl, hdeadline⟩
  | giveUp hcall hstage => exact h.advances_giveUp hcall hstage
  | stopTimer =>
      exact ⟨⟨fun _ hentry => absurd hentry List.not_mem_nil, h.firing, h.expiring⟩, Or.inl rfl⟩
  | pass milliseconds =>
      refine ⟨?_, Or.inl rfl⟩
      exact h.mono (List.prefix_refl _) (Nat.le_add_right _ _) (fun _ => id) (fun _ => id)
        (fun _ hcall _ => hcall)
  | fire hidle hpop => exact h.advances_fire hpop
  | callback hcarried => exact h.advances_callback hcarried
  | allocate | deliver | cancel | close | countHeld => exact h.advances_enter _ rfl (by simp) id
  | startSend | sendOk | sendError | lookEarly =>
      exact ⟨⟨h.queued, h.firing, h.expiring⟩, Or.inl rfl⟩

theorem Timed.play? (h : traffic.Timed) (hvalid : traffic.Valid) {turns : List Turn}
    (hplay : traffic.play? turns = some next) : next.Timed :=
  hvalid.play?_keeps h (fun hvalid htimed hnext => (htimed.take? hvalid hnext).timed) hplay

end Traffic

end GroundLink
