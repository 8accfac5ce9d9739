import GroundLink.Proofs.Router.Steps
import GroundLink.Router.Basic

/-! # The steps behind the operations

Each operation of the router is made of steps of its table, and of the little that it does to the
timer, to the observers and to the transport. The transport gets one payload for each request that
is entered. Nothing else reaches it: not the events of the link, not time and not those who wait.
-/

namespace GroundLink

open Link

/-- What the timer knows of a handle. -/
def Handle.expiry (handle : Handle) : Expiry := ⟨handle.id, handle.ticket⟩

/-- The step by which the timer ends a request. -/
def Expiry.step (expiry : Expiry) : RouterStep := .expire expiry.id expiry.ticket

/-- The step that an event of the link is at some time. -/
def LinkEvent.step (now : Nat) : LinkEvent → RouterStep
  | .deliver frame => .deliver now frame
  | .close reason => .close reason
  | .cancelAll => .cancelAll

namespace Router

variable (router : Router)

/-! ## Time -/

/-- What the timer ends at a time is ended step by step. -/
theorem expireDue_eq :
    ∃ timer, ∃ due : List Expiry, router.expireDue =
      { router with timer, table := router.table.run (due.map Expiry.step) } := by
  induction router using expireDue.induct with
  | case1 router hpop =>
      refine ⟨router.timer, [], ?_⟩
      rw [expireDue]
      split
      · rfl
      next hsome => exact nomatch hsome.symm.trans hpop
  | case2 router entry timer hpop hlength ih =>
      obtain ⟨last, due, hdue⟩ := ih
      refine ⟨last, entry.item :: due, ?_⟩
      rw [expireDue]
      split
      next hnone => exact nomatch hnone.symm.trans hpop
      next hsome =>
        cases hsome.symm.trans hpop
        exact hdue

theorem sleep_eq (milliseconds : Nat) :
    ∃ now timer, ∃ due : List Expiry, router.sleep milliseconds =
      { router with now, timer, table := router.table.run (due.map Expiry.step) } := by
  obtain ⟨timer, due, hdue⟩ :=
    expireDue_eq { router with now := max router.now (router.now + milliseconds) }
  exact ⟨_, timer, due, hdue⟩

@[simp] theorem now_expireDue : router.expireDue.now = router.now := by
  obtain ⟨timer, due, hdue⟩ := router.expireDue_eq
  rw [hdue]

theorem now_waitUntil (instant : Nat) : (router.waitUntil instant).now = max router.now instant :=
  now_expireDue _

theorem transport_waitUntil (instant : Nat) :
    (router.waitUntil instant).transport = router.transport := by
  obtain ⟨timer, due, hdue⟩ := expireDue_eq { router with now := max router.now instant }
  rw [waitUntil, hdue]

/-- Sleeping takes as long as it should. -/
theorem now_sleep (milliseconds : Nat) :
    (router.sleep milliseconds).now = router.now + milliseconds := by
  rw [sleep, now_waitUntil, Nat.max_eq_right (Nat.le_add_right _ _)]

theorem settle_of_resolved {router : Router} {handle : Handle} (h : router.isResolved handle) :
    router.settle handle = router := by
  rw [settle, if_pos h]

/-- Whoever waits to the end ends the request, if the timer has not done so before. -/
theorem settle_of_unresolved {router : Router} {handle : Handle} (h : ¬ router.isResolved handle) :
    ∃ now timer, ∃ due : List Expiry, router.settle handle =
      { router with
        now, timer
        table := router.table.run ((due ++ [handle.expiry]).map Expiry.step) } := by
  obtain ⟨timer, due, hdue⟩ :=
    expireDue_eq { router with now := max router.now handle.deadline }
  refine ⟨max router.now handle.deadline, timer, due, ?_⟩
  rw [settle, if_neg h, waitUntil, hdue, List.map_append, RequestTable.run_append]
  rfl

theorem wait_snd (handle : Handle) : (router.wait handle).2 = router.settle handle := by
  rw [wait]
  split <;> rfl

theorem transport_wait (handle : Handle) : (router.wait handle).2.transport = router.transport := by
  rw [wait_snd]
  by_cases hresolved : router.isResolved handle
  · rw [settle_of_resolved hresolved]
  · obtain ⟨now, timer, due, hsettle⟩ := settle_of_unresolved hresolved
    rw [hsettle]

theorem transport_expect (id : CorrelationId) (filter : FrameFilter) (timeout : Nat) :
    (router.expect id filter timeout).2.transport = router.transport := by
  unfold expect
  split
  · dsimp only
    split <;> rfl
  · rfl

/-- Nobody waits beyond the deadline. -/
theorem now_wait (handle : Handle) :
    router.now ≤ (router.wait handle).2.now ∧
      (router.wait handle).2.now ≤ max router.now handle.deadline := by
  rw [wait_snd, settle]
  split
  · exact ⟨Nat.le_refl _, Nat.le_max_left _ _⟩
  · dsimp only
    rw [now_waitUntil]
    exact ⟨Nat.le_max_left _ _, Nat.le_refl _⟩

/-! ## Events of the link -/

/-- A frame that nobody waits for is shown to the first observer, who makes way for the next one if
there is one. -/
theorem report_eq (frame : Frame) :
    router.report frame = { router with
      observers := if 1 < router.observers.length then router.observers.tail else router.observers
      observed := router.observed ++
        router.observers.head?.toList.map fun observer => (observer, frame) } := by
  cases router with
  | mk table timer transport now observers observed =>
  cases observers with
  | nil => simp [report]
  | cons first rest => cases rest <;> simp [report]

theorem apply_eq (event : LinkEvent) :
    ∃ timer observers observed, router.apply event =
      { router with
        timer, observers, observed
        table := router.table.apply (event.step router.now) } := by
  cases event with
  | deliver frame =>
      simp only [apply, deliver]
      split
      next table hdeliver =>
        rw [report_eq, LinkEvent.step, RequestTable.apply, hdeliver]
        exact ⟨_, _, _, rfl⟩
      next fate table _ hdeliver =>
        refine ⟨router.timer, router.observers, router.observed, ?_⟩
        rw [LinkEvent.step, RequestTable.apply, hdeliver]
  | close reason => exact ⟨_, _, _, rfl⟩
  | cancelAll => exact ⟨_, _, _, rfl⟩

theorem transport_apply (event : LinkEvent) :
    (router.apply event).transport = router.transport := by
  obtain ⟨timer, observers, observed, hevent⟩ := router.apply_eq event
  rw [hevent]

/-- Events are steps of the table at the present time. -/
theorem foldl_apply_eq (events : List LinkEvent) :
    ∃ timer observers observed, events.foldl apply router =
      { router with
        timer, observers, observed
        table := router.table.run (events.map (LinkEvent.step router.now)) } := by
  induction events generalizing router with
  | nil => exact ⟨_, _, _, rfl⟩
  | cons event rest ih =>
      obtain ⟨timer, observers, observed, hevent⟩ := router.apply_eq event
      rw [List.foldl_cons, hevent]
      exact ih _

theorem transport_waitAfter (events : List LinkEvent) (handle : Handle) :
    (router.waitAfter events handle).2.transport = router.transport := by
  obtain ⟨timer, observers, observed, hevents⟩ := router.foldl_apply_eq events
  rw [waitAfter, transport_wait, hevents]

theorem now_waitAfter (events : List LinkEvent) (handle : Handle) :
    router.now ≤ (router.waitAfter events handle).2.now ∧
      (router.waitAfter events handle).2.now ≤ max router.now handle.deadline := by
  obtain ⟨timer, observers, observed, hevents⟩ := router.foldl_apply_eq events
  have hnow : (events.foldl apply router).now = router.now := by rw [hevents]
  rw [waitAfter, ← hnow]
  exact now_wait _ handle

/-! ## Sending -/

theorem transport_register (request : CorrelatedRequest) :
    (router.register request).2.transport = router.transport := by
  unfold register
  split <;> rfl

theorem transport_transmit (handle : Handle) (payload : Bytes) :
    (router.transmit handle payload).2.transport = (router.transport.send payload).2 := by
  unfold transmit
  split
  next hsend => rw [hsend]
  next hsend => rw [hsend]

/-- A request is given to the transport once, if it is entered. -/
theorem transport_issue (request : CorrelatedRequest) :
    (router.issue request).2.transport =
      match (router.register request).1 with
      | .ok _ => (router.transport.send request.payload).2
      | .error _ => router.transport := by
  have hentered := router.transport_register request
  unfold issue
  split
  next hregister =>
    rw [hregister] at hentered ⊢
    exact hentered
  next handle entered hregister =>
    have hsent := entered.transport_transmit handle request.payload
    rw [hregister] at hentered ⊢
    dsimp only at hentered ⊢
    rw [hentered] at hsent
    split
    next htransmit =>
      rw [htransmit] at hsent
      exact hsent
    next htransmit =>
      rw [htransmit] at hsent
      exact hsent

theorem now_register (request : CorrelatedRequest) :
    (router.register request).2.now = router.now := by
  unfold register
  split <;> rfl

theorem now_transmit (handle : Handle) (payload : Bytes) :
    (router.transmit handle payload).2.now = router.now := by
  unfold transmit
  split <;> rfl

/-- Sending takes no time. -/
theorem now_issue (request : CorrelatedRequest) : (router.issue request).2.now = router.now := by
  have hentered := router.now_register request
  unfold issue
  split
  next hregister => rwa [hregister] at hentered
  next handle entered hregister =>
    have hsent := entered.now_transmit handle request.payload
    rw [hregister] at hentered
    split
    next htransmit =>
      rw [htransmit] at hsent
      exact hsent.trans hentered
    next htransmit =>
      rw [htransmit] at hsent
      exact hsent.trans hentered

theorem deadline_of_register {router : Router} {request : CorrelatedRequest} {handle : Handle}
    (h : (router.register request).1 = .ok handle) :
    handle.deadline = router.now + request.timeout := by
  unfold register at h
  split at h
  next made table hbegin =>
    cases h
    unfold RequestTable.beginIssue RequestTable.register RequestTable.newHandle at hbegin
    split at hbegin
    · cases hbegin
    · split at hbegin
      · cases hbegin
      · cases hbegin
        rfl
  next => cases h

/-- The deadline of a request that has gone out is as far off as the request says. -/
theorem deadline_of_issue {router : Router} {request : CorrelatedRequest} {handle : Handle}
    (h : (router.issue request).1 = .ok handle) :
    handle.deadline = router.now + request.timeout := by
  unfold issue at h
  split at h
  next => cases h
  next made entered hregister =>
    split at h
    next =>
      cases h
      exact deadline_of_register (congrArg Prod.fst hregister)
    next => cases h

end Router

end GroundLink
