import GroundLink.Proofs.Router.Moves

/-! # What holds between any two turns

However the turns of many calls are mixed, the table is where the logged steps lead from an empty
one; every handle a caller has comes from one of these steps; a call of `wait` ends its request at
most once; and the only requests ended for want of a send are those whose `issue` has failed.
-/

namespace GroundLink

/-- Whether a handle was given out by one of these steps. -/
def Given (log : List RouterStep) (handle : Handle) : Prop :=
  ∃ request ∈ ({} : RequestTable).made log, request.handle = handle

structure WaitCall.Valid (log : List RouterStep) (call : WaitCall) : Prop where
  given : Given log call.handle
  fresh : call.stage = .expiring → call.expiries = 0
  once : call.expiries ≤ 1
  filled : 0 < call.expiries →
    ((({} : RequestTable).run log).outcome? call.handle.ticket).isSome
  returned : ∀ result, call.stage = .returned result →
    ∃ outcome, (({} : RequestTable).run log).outcome? call.handle.ticket = some outcome ∧
      result = outcome.result call.handle.id

namespace IssueCall

/-- Whether the caller was told that its request could not be sent. -/
def HasFailed (call : IssueCall) : Prop := ∃ error, call.stage = .returned (.error error)

/-- The step that entered the request is found where the call says. -/
def Valid (log : List RouterStep) (call : IssueCall) : Prop :=
  ∃ before deadline after,
    log = before ++ .beginIssue call.request.id call.request.filter deadline :: after ∧
    before.length = call.since ∧
    (({} : RequestTable).run before).made?
      (.beginIssue call.request.id call.request.filter deadline) = some call.pending

end IssueCall

variable {log : List RouterStep}

theorem IssueCall.not_hasFailed {call : IssueCall} {stage : IssueStage}
    (hstage : call.stage = stage) (hgoing : ∀ error, stage ≠ .returned (.error error)) :
    ¬ call.HasFailed := by
  rintro ⟨error, hfailed⟩
  exact hgoing error (hstage.symm.trans hfailed)

theorem Given.tracks {handle : Handle} (h : Given log handle) :
    ∃ request, request.handle = handle ∧ (({} : RequestTable).run log).Tracks request := by
  obtain ⟨request, hmade, rfl⟩ := h
  exact ⟨request, rfl, RequestTable.Sound.empty.tracks_of_mem_made hmade⟩

theorem Given.concat {handle : Handle} (h : Given log handle) (step : RouterStep) :
    Given (log ++ [step]) handle := by
  obtain ⟨request, hmade, heq⟩ := h
  refine ⟨request, ?_, heq⟩
  rw [RequestTable.made_concat]
  exact List.mem_append_left _ hmade

theorem given_of_made? {step : RouterStep} {request : Pending}
    (h : (({} : RequestTable).run log).made? step = some request) :
    Given (log ++ [step]) request.handle := by
  refine ⟨request, ?_, rfl⟩
  rw [RequestTable.made_concat, h]
  exact List.mem_append_right _ (List.mem_singleton_self _)

theorem WaitCall.Valid.concat {call : WaitCall} (h : call.Valid log) (step : RouterStep) :
    call.Valid (log ++ [step]) where
  given := h.given.concat step
  fresh := h.fresh
  once := h.once
  filled hpos := by
    obtain ⟨outcome, hfilled⟩ := Option.isSome_iff_exists.mp (h.filled hpos)
    rw [RequestTable.run_concat, (RequestTable.sound_run log).outcome?_apply hfilled]
    rfl
  returned result hstage := by
    obtain ⟨outcome, hfilled, hresult⟩ := h.returned result hstage
    refine ⟨outcome, ?_, hresult⟩
    rw [RequestTable.run_concat, (RequestTable.sound_run log).outcome?_apply hfilled]

theorem IssueCall.Valid.concat {call : IssueCall} (h : call.Valid log) (step : RouterStep) :
    call.Valid (log ++ [step]) := by
  obtain ⟨before, deadline, after, rfl, hsince, hmade⟩ := h
  exact ⟨before, deadline, after ++ [step], by simp, hsince, hmade⟩

/-- What a call is known by does not change when the call gets on. -/
theorem IssueCall.map_set {α : Type} {calls : List IssueCall} {index : Nat} {call : IssueCall}
    (hcall : calls[index]? = some call) (field : IssueCall → α) (stage : IssueStage)
    (hfield : field { call with stage } = field call) :
    (calls.set index { call with stage }).map field = calls.map field := by
  obtain ⟨hlt, rfl⟩ := List.getElem?_eq_some_iff.mp hcall
  rw [List.map_set, hfield, ← List.map_set, List.set_getElem_self]

theorem IssueCall.Valid.ticket_lt {call : IssueCall} (h : call.Valid log) :
    call.handle.ticket < (({} : RequestTable).run log).slots.length := by
  obtain ⟨before, deadline, after, rfl, -, hmade⟩ := h
  have hsound := RequestTable.sound_run before
  rw [RequestTable.run_append, RequestTable.run_cons]
  exact ((hsound.tracks_of_made? hmade).run (hsound.apply _) after).lt

namespace Traffic

variable {traffic next : Traffic}

structure Valid (traffic : Traffic) : Prop where
  table : traffic.table = ({} : RequestTable).run traffic.log
  handles : ∀ handle ∈ traffic.handles, Given traffic.log handle
  waits : ∀ call ∈ traffic.waits, call.Valid traffic.log
  issues : ∀ call ∈ traffic.issues, call.Valid traffic.log
  tickets : (traffic.issues.map fun call => call.handle.ticket).Nodup
  abandoned : ∀ handle reason, .abandonIssue handle reason ∈ traffic.log →
    ∃ call ∈ traffic.issues, call.handle = handle ∧ call.HasFailed

theorem Valid.empty : Valid {} :=
  ⟨rfl, nofun, nofun, nofun, List.nodup_nil, nofun⟩

theorem Valid.sound (h : traffic.Valid) : traffic.table.Sound := by
  rw [h.table]
  exact RequestTable.sound_run traffic.log

/-- A step keeps everything in place, if it abandons only what has failed. -/
theorem Valid.enter (h : traffic.Valid) (step : RouterStep)
    (hstep : ∀ handle reason, step = .abandonIssue handle reason →
      ∃ call ∈ traffic.issues, call.handle = handle ∧ call.HasFailed) :
    (traffic.enter step).Valid where
  table := by
    simp only [Traffic.enter]
    rw [RequestTable.run_concat, ← h.table]
  handles handle hmem := (h.handles handle hmem).concat step
  waits call hmem := (h.waits call hmem).concat step
  issues call hmem := (h.issues call hmem).concat step
  tickets := h.tickets
  abandoned handle reason hmem := by
    rcases List.mem_append.mp hmem with hmem | hmem
    · exact h.abandoned handle reason hmem
    · exact hstep handle reason (List.mem_singleton.mp hmem).symm

/-- The clock, the timer and the transport do not matter. -/
theorem Valid.elsewhere (h : traffic.Valid) (timer : DeadlineTimer Expiry) (now : Nat)
    (firing : Option Expiry) (stopping : Nat) (sent : List Bytes) :
    Valid { traffic with timer, now, firing, stopping, sent } :=
  ⟨h.table, h.handles, h.waits, h.issues, h.tickets, h.abandoned⟩

theorem Valid.giveHandle (h : traffic.Valid) {handle : Handle}
    (hgiven : Given traffic.log handle) :
    Valid { traffic with handles := traffic.handles ++ [handle] } where
  table := h.table
  handles other hmem := by
    rcases List.mem_append.mp hmem with hmem | hmem
    · exact h.handles other hmem
    · exact List.mem_singleton.mp hmem ▸ hgiven
  waits := h.waits
  issues := h.issues
  tickets := h.tickets
  abandoned := h.abandoned

theorem Valid.setWait (h : traffic.Valid) (index : Nat) {call : WaitCall}
    (hcall : call.Valid traffic.log) : (traffic.setWait index call).Valid where
  table := h.table
  handles := h.handles
  waits other hmem := by
    rcases List.mem_or_eq_of_mem_set hmem with hmem | rfl
    · exact h.waits other hmem
    · exact hcall
  issues := h.issues
  tickets := h.tickets
  abandoned := h.abandoned

/-- A call of `issue` that has not failed may get on. -/
theorem Valid.setIssue (h : traffic.Valid) {index : Nat} {call : IssueCall}
    (hcall : traffic.issues[index]? = some call) (hgoing : ¬ call.HasFailed) (stage : IssueStage) :
    (traffic.setIssue index { call with stage }).Valid where
  table := h.table
  handles := h.handles
  waits := h.waits
  issues other hmem := by
    rcases List.mem_or_eq_of_mem_set hmem with hmem | rfl
    · exact h.issues other hmem
    · exact h.issues call (List.mem_of_getElem? hcall)
  tickets := by
    rw [Traffic.setIssue, IssueCall.map_set hcall (fun call => call.handle.ticket) stage rfl]
    exact h.tickets
  abandoned handle reason hmem := by
    obtain ⟨other, hother, heq, hfailed⟩ := h.abandoned handle reason hmem
    refine ⟨other, ?_, heq, hfailed⟩
    -- the failed call stands in another place, since this one has not failed
    obtain ⟨place, hplace⟩ := List.getElem?_of_mem hother
    have hne : index ≠ place := by
      rintro rfl
      rw [Option.some_inj.mp (hcall.symm.trans hplace)] at hgoing
      exact hgoing hfailed
    apply List.mem_of_getElem? (i := place)
    rw [Traffic.setIssue, List.getElem?_set_ne hne, hplace]

/-- The router takes a step that no failed send is behind. -/
theorem Valid.enter_other (h : traffic.Valid) (step : RouterStep)
    (hstep : ∀ handle reason, step ≠ .abandonIssue handle reason) :
    (traffic.enter step).Valid :=
  h.enter step fun handle reason heq => absurd heq (hstep handle reason)

theorem Valid.issue (h : traffic.Valid) (request : CorrelatedRequest) :
    (traffic.issue request).Valid := by
  unfold Traffic.issue
  dsimp only
  have hnext := h.enter_other
    (.beginIssue request.id request.filter (traffic.now + request.timeout)) nofun
  split
  next => exact hnext
  next made hmade =>
    have heq := RequestTable.made?_beginIssue hmade
    refine ⟨hnext.table, hnext.handles, hnext.waits, ?_, ?_, ?_⟩
    · intro call hmem
      rcases List.mem_append.mp hmem with hmem | hmem
      · exact hnext.issues call hmem
      · rw [List.mem_singleton.mp hmem]
        refine ⟨traffic.log, _, [], rfl, rfl, ?_⟩
        rw [← h.table, hmade, IssueCall.pending, heq]
    · refine RequestTable.nodup_map_concat h.tickets fun call hcall => ?_
      have hlt := (h.issues call hcall).ticket_lt
      rw [← h.table] at hlt
      rw [heq]
      exact Nat.ne_of_lt hlt
    · intro handle reason hmem
      obtain ⟨call, hcall, hfailed⟩ := hnext.abandoned handle reason hmem
      exact ⟨call, List.mem_append_left _ hcall, hfailed⟩

theorem Valid.endSend (h : traffic.Valid) {index : Nat} {call : IssueCall}
    (hcall : traffic.issues[index]? = some call) (hstage : call.stage = .sending) :
    Valid { traffic.setIssue index { call with stage := .returned (.ok call.handle) } with
      handles := traffic.handles ++ [call.handle] } := by
  have hset := h.setIssue hcall (IssueCall.not_hasFailed hstage (by simp))
    (.returned (.ok call.handle))
  apply hset.giveHandle
  obtain ⟨before, deadline, after, hlog, -, hmade⟩ := h.issues call (List.mem_of_getElem? hcall)
  refine ⟨call.pending, ?_, rfl⟩
  simp only [Traffic.setIssue, hlog, RequestTable.made_append, RequestTable.made, hmade]
  simp

theorem Valid.abandon (h : traffic.Valid) {index : Nat} {call : IssueCall} {reason : String}
    (hcall : traffic.issues[index]? = some call) (hstage : call.stage = .broken reason) :
    Valid ((traffic.enter (.abandonIssue call.handle reason)).setIssue index
      { call with stage := .returned (.error (.transportUnavailable reason)) }) := by
  have hset := h.setIssue hcall (IssueCall.not_hasFailed hstage nofun)
    (.returned (.error (.transportUnavailable reason)))
  refine hset.enter (.abandonIssue call.handle reason) fun handle _ heq => ?_
  cases heq
  have hlt := (List.getElem?_eq_some_iff.mp hcall).1
  exact ⟨_, List.mem_set hlt _, rfl, _, rfl⟩

theorem Valid.expect (h : traffic.Valid) (id : CorrelationId) (filter : FrameFilter)
    (timeout : Nat) : (traffic.expect id filter timeout).Valid := by
  unfold Traffic.expect
  dsimp only
  have hnext := h.enter_other (.expect id filter traffic.now timeout) nofun
  split
  next => exact hnext
  next made hmade =>
    have hgiven : Given (traffic.log ++ [.expect id filter traffic.now timeout]) made.handle := by
      apply given_of_made?
      rw [← h.table, hmade]
    split
    · exact hnext.giveHandle hgiven
    · exact (hnext.elsewhere _ _ _ _ _).giveHandle hgiven

theorem Valid.wait (h : traffic.Valid) {handle : Handle} (hgiven : handle ∈ traffic.handles) :
    Valid { traffic with waits := traffic.waits ++ [{ handle }] } := by
  refine ⟨h.table, h.handles, fun call hcall => ?_, h.issues, h.tickets, h.abandoned⟩
  rcases List.mem_append.mp hcall with hcall | hcall
  · exact h.waits call hcall
  · rw [List.mem_singleton.mp hcall]
    exact ⟨h.handles handle hgiven, nofun, Nat.zero_le _, nofun, nofun⟩

theorem Valid.look_filled (h : traffic.Valid) {index : Nat} {call : WaitCall} {outcome : Outcome}
    (hcall : traffic.waits[index]? = some call)
    (hfilled : traffic.table.outcome? call.handle.ticket = some outcome) :
    (traffic.setWait index
      { call with stage := .returned (outcome.result call.handle.id) }).Valid := by
  have hvalid := h.waits call (List.mem_of_getElem? hcall)
  rw [h.table] at hfilled
  refine h.setWait index ⟨hvalid.given, nofun, hvalid.once, hvalid.filled, ?_⟩
  intro result heq
  cases heq
  exact ⟨outcome, hfilled, rfl⟩

theorem Valid.look_late (h : traffic.Valid) {index : Nat} {call : WaitCall}
    (hcall : traffic.waits[index]? = some call)
    (hempty : traffic.table.outcome? call.handle.ticket = none) :
    (traffic.setWait index { call with stage := .expiring }).Valid := by
  have hvalid := h.waits call (List.mem_of_getElem? hcall)
  refine h.setWait index ⟨hvalid.given, fun _ => ?_, hvalid.once, hvalid.filled, nofun⟩
  -- a call that has ended its request would have found an outcome
  by_contra hne
  have hfilled := hvalid.filled (Nat.pos_of_ne_zero hne)
  rw [← h.table, hempty] at hfilled
  exact nomatch hfilled

theorem Valid.giveUp (h : traffic.Valid) {index : Nat} {call : WaitCall}
    (hcall : traffic.waits[index]? = some call) (hstage : call.stage = .expiring) :
    ((traffic.enter (.expire call.handle.id call.handle.ticket)).setWait index
      { call with stage := .looking, expiries := call.expiries + 1 }).Valid := by
  have hvalid := h.waits call (List.mem_of_getElem? hcall)
  have hzero := hvalid.fresh hstage
  have hentered := h.enter_other (.expire call.handle.id call.handle.ticket) nofun
  have hlater := hvalid.concat (.expire call.handle.id call.handle.ticket)
  refine hentered.setWait index ⟨hlater.given, nofun, by simp [hzero], fun _ => ?_, nofun⟩
  obtain ⟨request, heq, htracks⟩ := hvalid.given.tracks
  have hended := (RequestTable.sound_run traffic.log).outcome?_expire_isSome htracks
  rw [heq] at hended
  simp only [Traffic.enter]
  rw [RequestTable.run_concat]
  exact hended

/-- Every turn keeps everything in place. -/
theorem Valid.take? (h : traffic.Valid) {turn : Turn} (hnext : traffic.take? turn = some next) :
    next.Valid := by
  cases moves hnext with
  | issue request => exact h.issue request
  | startSend hcall hstage =>
      have hset := h.setIssue hcall (IssueCall.not_hasFailed hstage nofun) .sending
      exact hset.elsewhere _ _ _ _ _
  | sendOk hcall hstage => exact h.endSend hcall hstage
  | sendError error hcall hstage =>
      exact h.setIssue hcall (IssueCall.not_hasFailed hstage (by simp)) _
  | abandon hcall hstage => exact h.abandon hcall hstage
  | expect id filter timeout => exact h.expect id filter timeout
  | wait hgiven => exact h.wait hgiven
  | lookFilled hcall hstage hfilled => exact h.look_filled hcall hfilled
  | lookLate hcall hstage hempty hdeadline => exact h.look_late hcall hempty
  | lookEarly => exact h
  | giveUp hcall hstage => exact h.giveUp hcall hstage
  | allocate | deliver | cancel | close | countHeld => exact h.enter_other _ nofun
  | cancelAll => exact (h.enter_other .cancelAll nofun).elsewhere _ _ _ _ _
  | callback => exact (h.enter_other (.expire _ _) nofun).elsewhere _ _ _ _ _
  | stopTimer | pass | fire => exact h.elsewhere _ _ _ _ _

/-- What every turn keeps is kept by all of them. -/
theorem Valid.play?_keeps (h : traffic.Valid) {property : Traffic → Prop}
    (hstart : property traffic)
    (hturn : ∀ {earlier later : Traffic} {turn : Turn}, earlier.Valid → property earlier →
      earlier.take? turn = some later → property later)
    {turns : List Turn} (hplay : traffic.play? turns = some next) : property next := by
  induction turns generalizing traffic with
  | nil =>
      cases hplay
      exact hstart
  | cons turn rest ih =>
      obtain ⟨middle, hmiddle, hrest⟩ := Option.bind_eq_some_iff.mp hplay
      exact ih (h.take? hmiddle) (hturn h hstart hmiddle) hrest

theorem Valid.play? (h : traffic.Valid) {turns : List Turn}
    (hplay : traffic.play? turns = some next) : next.Valid :=
  h.play?_keeps h (fun hvalid _ => hvalid.take?) hplay

end Traffic

end GroundLink
