import GroundLink.Proofs.Router.Sound

/-! # What a step does to the table

On a sound table every step has one of three effects: it enters a request with an empty slot, it
gives out a handle whose slot a kept response fills at once, or it settles requests that wait.
Later modules argue about these effects and not about the operations.
-/

namespace GroundLink

namespace RequestTable

variable {table next : RequestTable} {verdict : Pending → Option Outcome}

/-! ## The three effects -/

/-- What a step does to a sound table. -/
inductive Effect (table : RequestTable) (step : RouterStep) (next : RequestTable) : Prop
  /-- A request enters the table. Nothing kept back would answer it. -/
  | opens (request : Pending) (hmade : table.made? step = some request)
      (hticket : request.handle.ticket = table.slots.length)
      (hfree : ∀ other ∈ table.pending, other.handle.id ≠ request.handle.id)
      (hpending : next.pending = table.pending ++ [request])
      (hslots : next.slots = table.slots ++ [none])
      (hidle : next.shutDown = false ∧ next.closed = none)
      (hheld : ∀ kept ∈ next.held, kept ∈ table.held ∧
        kept.answers request.handle.id request.filter = false)
  /-- A kept response fills the slot of a new handle, when nothing is to be sent. -/
  | serves (request : Pending) (kept : HeldResponse) (hmade : table.made? step = some request)
      (hstep : ∀ id filter deadline, step ≠ .beginIssue id filter deadline)
      (hticket : request.handle.ticket = table.slots.length)
      (hpending : next.pending = table.pending)
      (hslots : next.slots = table.slots ++ [some (.fulfilled kept.response)])
      (hidle : next.shutDown = table.shutDown ∧ next.closed = table.closed)
      (hkept : kept ∈ table.held)
      (hanswers : kept.answers request.handle.id request.filter = true)
      (hheld : ∀ kept ∈ next.held, kept ∈ table.held)
  /-- Requests end. Only a response that the request of its number rejects is kept back. -/
  | settles (hmade : table.made? step = none)
      (hsettles : table.Settles (fun request => step.ends? request) next)
      (hheld : ∀ kept ∈ next.held, kept ∈ table.held ∨
        ∃ now, step = .deliver now (.response kept.response) ∧
          ∃ request ∈ table.pending, request.handle.id = kept.response.id ∧
            request.filter.accepts kept.response.kind = false)

theorem ensureOpen_eq_ok {id : CorrelationId} (h : table.ensureOpen id = .ok ()) :
    table.shutDown = false ∧ table.closed = none := by
  unfold ensureOpen at h
  split at h
  · exact nomatch h
  next hshutDown =>
    split at h
    · exact nomatch h
    next hclosed => exact ⟨by simpa using hshutDown, hclosed⟩

theorem isPending_eq_false_iff {id : CorrelationId} :
    table.isPending id = false ↔ ∀ request ∈ table.pending, request.handle.id ≠ id := by
  rw [isPending, Option.isSome_eq_false_iff, Option.isNone_iff_eq_none, find?_eq_none_iff]

theorem register_of_isPending {id : CorrelationId} (filter : FrameFilter) (deadline : Nat)
    (h : table.isPending id = true) :
    table.register id filter deadline = (.error (.duplicateId id), table) := by
  rw [register, if_pos h]

theorem register_of_free {id : CorrelationId} (filter : FrameFilter) (deadline : Nat)
    (h : table.isPending id = false) :
    table.register id filter deadline =
      (.ok ⟨id, table.slots.length, deadline⟩,
        { table with
          slots := table.slots ++ [none]
          pending := table.pending ++ [⟨⟨id, table.slots.length, deadline⟩, filter⟩] }) := by
  rw [register, if_neg (by simp [h])]
  rfl

theorem register_ok {id : CorrelationId} {filter : FrameFilter} {deadline : Nat} {handle : Handle}
    (h : (table.register id filter deadline).1 = .ok handle) :
    handle = ⟨id, table.slots.length, deadline⟩ := by
  cases hpending : table.isPending id with
  | true =>
      rw [register_of_isPending filter deadline hpending] at h
      exact nomatch h
  | false =>
      rw [register_of_free filter deadline hpending] at h
      exact (Except.ok.inj h).symm

/-- A request to be sent gets the next ticket. -/
theorem made?_beginIssue {id : CorrelationId} {filter : FrameFilter} {deadline : Nat}
    {made : Pending} (h : table.made? (.beginIssue id filter deadline) = some made) :
    made = ⟨⟨id, table.slots.length, deadline⟩, filter⟩ := by
  simp only [made?, beginIssue] at h
  split at h
  next handle hok =>
    split at hok
    · exact nomatch hok
    · rw [← Option.some_inj.mp h, register_ok hok]
      rfl
  next => exact nomatch h

theorem Sound.effect_beginIssue (h : table.Sound) (id : CorrelationId) (filter : FrameFilter)
    (deadline : Nat) :
    table.Effect (.beginIssue id filter deadline) (table.beginIssue id filter deadline).2 := by
  cases hensure : table.ensureOpen id with
  | error error =>
      refine .settles (by simp [made?, beginIssue, hensure]) ?_ ?_
      · simp only [beginIssue, hensure]
        exact h.settles_of_eq rfl rfl rfl rfl fun _ _ => rfl
      · simp only [beginIssue, hensure]
        exact fun kept hkept => Or.inl hkept
  | ok _ =>
      have hissue : table.beginIssue id filter deadline =
          (table.dropHeld id).register id filter deadline := by
        simp only [beginIssue, hensure]
      cases hpending : (table.dropHeld id).isPending id with
      | true =>
          rw [register_of_isPending filter deadline hpending] at hissue
          refine .settles (by simp [made?, hissue]) ?_ ?_
          · rw [hissue]
            exact h.settles_of_eq rfl rfl rfl rfl fun _ _ => rfl
          · rw [hissue]
            exact fun kept hkept => Or.inl (List.mem_of_mem_filter hkept)
      | false =>
          rw [register_of_free filter deadline hpending] at hissue
          refine .opens ⟨⟨id, table.slots.length, deadline⟩, filter⟩ ?_ rfl
            (isPending_eq_false_iff.mp hpending) ?_ ?_ ?_ ?_
          · simp only [made?, hissue]
            rfl
          · rw [hissue]
            rfl
          · rw [hissue]
            rfl
          · rw [hissue]
            exact ensureOpen_eq_ok hensure
          · rw [hissue]
            intro kept hkept
            obtain ⟨hmem, hid⟩ := List.mem_filter.mp hkept
            refine ⟨hmem, ?_⟩
            simp only [bne_iff_ne, ne_eq] at hid
            simp [HeldResponse.answers, hid]

theorem expect_of_free {id : CorrelationId} (filter : FrameFilter) (now timeout : Nat)
    (hshutDown : table.shutDown = false) (hpending : table.isPending id = false) :
    table.expect id filter now timeout =
      match (table.prune now).held.find? fun kept => kept.answers id filter with
      | some kept =>
          (.ok ⟨id, table.slots.length, now + timeout⟩,
            { table with
              slots := table.slots ++ [some (.fulfilled kept.response)]
              held := (table.prune now).held.eraseP fun kept => kept.answers id filter })
      | none =>
          match (table.prune now).ensureOpen id with
          | .error error => (.error error, table.prune now)
          | .ok () => (table.prune now).register id filter (now + timeout) := by
  rw [expect, if_neg (by simp [hshutDown]), if_neg (by simp [hpending])]
  rfl

/-- A handle for another response gets the next ticket. -/
theorem made?_expect {id : CorrelationId} {filter : FrameFilter} {now timeout : Nat}
    {made : Pending} (h : table.made? (.expect id filter now timeout) = some made) :
    made = ⟨⟨id, table.slots.length, now + timeout⟩, filter⟩ := by
  simp only [made?, expect] at h
  split at h
  next handle hok =>
    rw [← Option.some_inj.mp h]
    split at hok
    · exact nomatch hok
    · split at hok
      · exact nomatch hok
      · split at hok
        · rw [← Except.ok.inj hok]
          rfl
        · split at hok
          · exact nomatch hok
          · rw [register_ok hok]
            rfl
  next => exact nomatch h

/-- A refused `expect` changes the table at most by dropping responses kept back too long. -/
theorem Sound.effect_expect_refused (h : table.Sound) {id : CorrelationId} {filter : FrameFilter}
    {now timeout : Nat} {error : RouterError}
    (hexpect : table.expect id filter now timeout = (.error error, next))
    (hnext : next = table ∨ next = table.prune now) :
    table.Effect (.expect id filter now timeout) next := by
  refine .settles (by simp only [made?, hexpect]) ?_ ?_
  · rcases hnext with rfl | rfl <;> exact h.settles_of_eq rfl rfl rfl rfl fun _ _ => rfl
  · intro kept hkept
    rcases hnext with rfl | rfl
    · exact Or.inl hkept
    · exact Or.inl (List.mem_of_mem_filter hkept)

theorem Sound.effect_expect (h : table.Sound) (id : CorrelationId) (filter : FrameFilter)
    (now timeout : Nat) :
    table.Effect (.expect id filter now timeout) (table.expect id filter now timeout).2 := by
  have hpruned : ∀ kept ∈ (table.prune now).held, kept ∈ table.held :=
    fun kept hkept => List.mem_of_mem_filter hkept
  cases hshutDown : table.shutDown with
  | true =>
      have hexpect : table.expect id filter now timeout = (.error (.cancelled id), table) := by
        rw [expect, if_pos hshutDown]
      rw [hexpect]
      exact h.effect_expect_refused hexpect (Or.inl rfl)
  | false =>
  cases hpending : table.isPending id with
  | true =>
      have hexpect : table.expect id filter now timeout = (.error (.duplicateId id), table) := by
        rw [expect, if_neg (by simp [hshutDown]), if_pos hpending]
      rw [hexpect]
      exact h.effect_expect_refused hexpect (Or.inl rfl)
  | false =>
  have hexpect := expect_of_free filter now timeout hshutDown hpending
  cases hfind : (table.prune now).held.find? fun kept => kept.answers id filter with
  | some kept =>
      rw [hfind] at hexpect
      rw [hexpect]
      exact .serves ⟨⟨id, table.slots.length, now + timeout⟩, filter⟩ kept
        (by simp only [made?, hexpect]) (fun _ _ _ => nofun) rfl rfl rfl ⟨rfl, rfl⟩
        (hpruned kept (List.mem_of_find?_eq_some hfind))
        (List.find?_some (p := fun kept => HeldResponse.answers kept id filter) hfind)
        fun other hother => hpruned other (List.mem_of_mem_eraseP hother)
  | none =>
      rw [hfind] at hexpect
      cases hensure : (table.prune now).ensureOpen id with
      | error error =>
          rw [hensure] at hexpect
          rw [hexpect]
          exact h.effect_expect_refused hexpect (Or.inr rfl)
      | ok _ =>
          have hpruneFree : (table.prune now).isPending id = false := hpending
          rw [hensure] at hexpect
          dsimp only at hexpect
          rw [register_of_free filter (now + timeout) hpruneFree] at hexpect
          rw [hexpect]
          refine .opens ⟨⟨id, table.slots.length, now + timeout⟩, filter⟩
            (by simp only [made?, hexpect]; rfl) rfl (isPending_eq_false_iff.mp hpending)
            rfl rfl (ensureOpen_eq_ok hensure) ?_
          intro kept hkept
          exact ⟨hpruned kept hkept, by simpa using List.find?_eq_none.mp hfind kept hkept⟩

theorem mem_held_hold {now : Nat} {response : Response} {kept : HeldResponse}
    (h : kept ∈ (table.hold now response).held) : kept ∈ table.held ∨ kept = ⟨now, response⟩ := by
  simp only [hold, List.mem_append, List.mem_singleton] at h
  rcases h with hkept | rfl
  · left
    split at hkept
    · exact List.mem_of_mem_filter (List.mem_of_mem_tail hkept)
    · exact List.mem_of_mem_filter hkept
  · exact Or.inr rfl

/-- A delivery fulfils the request of its number, keeps back what that request rejects, or leaves
the table alone. -/
theorem deliver_cases (table : RequestTable) (now : Nat) (frame : Frame) :
    (∃ response request, frame = .response response ∧
      table.find? response.id = some request ∧
      request.filter.accepts response.kind = true ∧
      table.deliver now frame = (.fulfils request.handle.ticket,
        (table.remove request.handle.ticket).complete request.handle.ticket
          (.fulfilled response))) ∨
    (∃ response request, frame = .response response ∧
      table.find? response.id = some request ∧
      request.filter.accepts response.kind = false ∧
      table.deliver now frame = (.held, table.hold now response)) ∨
    (table.deliver now frame = (.unsolicited, table) ∧
      ∀ response, frame = .response response → table.find? response.id = none) := by
  cases frame with
  | beacon payload => exact Or.inr (Or.inr ⟨rfl, nofun⟩)
  | unknown raw => exact Or.inr (Or.inr ⟨rfl, nofun⟩)
  | response response =>
      cases hfind : table.find? response.id with
      | none =>
          refine Or.inr (Or.inr ⟨by simp only [deliver, hfind], ?_⟩)
          rintro _ ⟨⟩
          exact hfind
      | some request =>
          cases haccepts : request.filter.accepts response.kind with
          | true =>
              refine Or.inl ⟨response, request, rfl, hfind, haccepts, ?_⟩
              simp only [deliver, hfind, haccepts]
              rfl
          | false =>
              refine Or.inr (Or.inl ⟨response, request, rfl, hfind, haccepts, ?_⟩)
              simp only [deliver, hfind, haccepts]
              rfl

theorem Sound.effect_deliver (h : table.Sound) (now : Nat) (frame : Frame) :
    table.Effect (.deliver now frame) (table.deliver now frame).2 := by
  rcases table.deliver_cases now frame with
    ⟨response, request, rfl, hfind, haccepts, hdeliver⟩ |
    ⟨response, request, rfl, hfind, hrejects, hdeliver⟩ | ⟨hdeliver, hnone⟩
  · obtain ⟨hmem, hid⟩ := find?_mem hfind
    rw [hdeliver]
    refine .settles rfl ?_ fun kept hkept => Or.inl (by simpa [remove] using hkept)
    apply (h.settles_complete hmem (.fulfilled response)).congr
    -- numbers are as good as tickets here, since only one request has this number
    intro other hother
    by_cases heq : other.handle.ticket = request.handle.ticket
    · rw [h.eq_of_ticket hother hmem heq, if_pos rfl]
      exact (if_pos ⟨hid.symm, haccepts⟩).symm
    · rw [if_neg heq]
      refine (if_neg fun hboth => heq ?_).symm
      rw [h.eq_of_id hother hmem (hboth.1.symm.trans hid.symm)]
  · obtain ⟨hmem, hid⟩ := find?_mem hfind
    rw [hdeliver]
    refine .settles rfl ?_ fun kept hkept => ?_
    · refine h.settles_of_eq rfl rfl rfl rfl fun other hother => if_neg ?_
      rintro ⟨hotherId, haccepts⟩
      rw [h.eq_of_id hother hmem (hotherId.symm.trans hid.symm), hrejects] at haccepts
      exact nomatch haccepts
    · rcases mem_held_hold hkept with hkept | rfl
      · exact Or.inl hkept
      · exact Or.inr ⟨now, rfl, request, hmem, hid, hrejects⟩
  · rw [hdeliver]
    refine .settles rfl ?_ fun _ => Or.inl
    refine h.settles_of_eq rfl rfl rfl rfl fun request hmem => ?_
    cases frame with
    | response response =>
        exact if_neg fun hboth =>
          find?_eq_none_iff.mp (hnone response rfl) request hmem hboth.1.symm
    | _ => rfl

theorem Sound.effect_resolve (h : table.Sound) {step : RouterStep} {id : CorrelationId}
    {ticket : Nat} {outcome : Outcome} (hmade : table.made? step = none)
    (hends : ∀ request, step.ends? request =
      if request.handle.id = id ∧ request.handle.ticket = ticket then some outcome else none) :
    table.Effect step (table.resolve id ticket outcome) := by
  refine .settles hmade ?_ fun kept hkept => Or.inl ?_
  · exact (h.settles_resolve id ticket outcome).congr fun request _ => (hends request).symm
  · unfold resolve at hkept
    split at hkept
    · split at hkept
      · rwa [complete_held] at hkept
      · exact hkept
    · exact hkept

/-- Every step has one of the three effects. -/
theorem Sound.effect (h : table.Sound) (step : RouterStep) :
    table.Effect step (table.apply step) := by
  cases step with
  | allocate =>
      exact .settles rfl (h.settles_of_eq rfl rfl rfl rfl fun _ _ => rfl) fun _ => Or.inl
  | beginIssue id filter deadline => exact h.effect_beginIssue id filter deadline
  | abandonIssue handle reason => exact h.effect_resolve rfl fun _ => rfl
  | expect id filter now timeout => exact h.effect_expect id filter now timeout
  | deliver now frame => exact h.effect_deliver now frame
  | expire id ticket => exact h.effect_resolve rfl fun _ => rfl
  | cancel handle => exact h.effect_resolve rfl fun _ => rfl
  | cancelAll =>
      have hall := @Sound.settles_resolveAll table { table with shutDown := true, held := [] } h
        rfl rfl .cancelled
      refine .settles rfl hall fun kept hkept => ?_
      simp only [apply, cancelAll, resolveAll] at hkept
      rw [(foldl_complete_fields _ _).2.1] at hkept
      exact absurd hkept List.not_mem_nil
  | close reason =>
      simp only [apply, close]
      split
      next earlier hclosed =>
        -- nothing waits once the link is gone
        have hnone := h.idle (Or.inr (by rw [hclosed]; rfl))
        refine .settles rfl (h.settles_of_eq rfl rfl rfl rfl fun request hmem => ?_) fun _ => Or.inl
        rw [hnone] at hmem
        exact absurd hmem List.not_mem_nil
      next hclosed =>
        have hall := h.settles_resolveAll rfl rfl (.failed reason)
        refine .settles rfl ⟨hall.pending, hall.length, hall.ended, hall.others, Or.inr ?_⟩ ?_
        · exact (foldl_complete_fields _ _).1
        · intro kept hkept
          simp only [resolveAll] at hkept
          rw [(foldl_complete_fields _ _).2.1] at hkept
          exact Or.inl hkept
  | countHeld now =>
      refine .settles rfl (h.settles_of_eq rfl rfl rfl rfl fun _ _ => rfl) fun kept hkept => ?_
      exact Or.inl (List.mem_of_mem_filter hkept)

/-- A step that gives out no handle settles. -/
theorem Sound.settles_apply (h : table.Sound) (hmade : table.made? step = none) :
    table.Settles (fun request => step.ends? request) (table.apply step) := by
  cases h.effect step with
  | opens made hmade' hticket hfree hpending hslots hidle hheld =>
      exact nomatch hmade'.symm.trans hmade
  | serves made kept hmade' hstep hticket hpending hslots hidle hkept hanswers hheld =>
      exact nomatch hmade'.symm.trans hmade
  | settles hmade' hsettles hheld => exact hsettles

/-! ## Soundness of every run -/

theorem Settles.sound (hsettles : table.Settles verdict next) (h : table.Sound) : next.Sound where
  ids := by
    rw [hsettles.pending]
    exact h.ids.sublist (List.filter_sublist.map _)
  tickets := by
    rw [hsettles.pending]
    exact h.tickets.sublist (List.filter_sublist.map _)
  waiting request hmem := by
    rw [hsettles.pending] at hmem
    obtain ⟨hmem, hnone⟩ := List.mem_filter.mp hmem
    rw [hsettles.ended request hmem, Option.isNone_iff_eq_none.mp hnone]
  entered ticket hslot := by
    by_cases hticket : ∃ request ∈ table.pending, request.handle.ticket = ticket
    · obtain ⟨request, hmem, rfl⟩ := hticket
      rw [hsettles.ended request hmem, Option.some_inj] at hslot
      refine ⟨request, ?_, rfl⟩
      rw [hsettles.pending]
      exact List.mem_filter.mpr ⟨hmem, Option.isNone_iff_eq_none.mpr hslot⟩
    · have hother : ∀ request ∈ table.pending, request.handle.ticket ≠ ticket :=
        fun request hmem heq => hticket ⟨request, hmem, heq⟩
      rw [hsettles.others ticket hother] at hslot
      exact absurd (h.entered ticket hslot) hticket
  idle hidle := by
    rcases hsettles.idle with ⟨hshutDown, hclosed⟩ | hnone
    · rw [hshutDown, hclosed] at hidle
      rw [hsettles.pending, h.idle hidle]
      rfl
    · exact hnone

theorem Sound.getElem?_append (h : table.Sound) {request : Pending}
    (hmem : request ∈ table.pending) (content : Option Outcome) :
    (table.slots ++ [content])[request.handle.ticket]? = some none := by
  rw [List.getElem?_append_left (h.ticket_lt hmem), h.waiting request hmem]

/-- An empty slot was there before, or it is the new one. -/
theorem empty_of_concat {content : Option Outcome} {ticket : Nat}
    (hslot : (table.slots ++ [content])[ticket]? = some none) :
    table.slots[ticket]? = some none ∨ ticket = table.slots.length ∧ content = none := by
  by_cases hlt : ticket < table.slots.length
  · rw [List.getElem?_append_left hlt] at hslot
    exact Or.inl hslot
  · have hbound := (List.getElem?_eq_some_iff.mp hslot).1
    rw [List.length_append, List.length_singleton] at hbound
    obtain rfl : ticket = table.slots.length := by omega
    rw [List.getElem?_concat_length, Option.some_inj] at hslot
    exact Or.inr ⟨rfl, hslot⟩

theorem Sound.apply (h : table.Sound) (step : RouterStep) : (table.apply step).Sound := by
  cases h.effect step with
  | opens request hmade hticket hfree hpending hslots hidle hheld =>
      refine ⟨?_, ?_, ?_, ?_, ?_⟩
      · rw [hpending]
        exact nodup_map_concat h.ids hfree
      · rw [hpending]
        refine nodup_map_concat h.tickets fun other hother => ?_
        rw [hticket]
        exact Nat.ne_of_lt (h.ticket_lt hother)
      · intro other hother
        rw [hpending] at hother
        rw [hslots]
        rcases List.mem_append.mp hother with hother | hother
        · exact h.getElem?_append hother none
        · rw [List.mem_singleton.mp hother, hticket, List.getElem?_concat_length]
      · intro ticket hslot
        rw [hslots] at hslot
        rw [hpending]
        rcases empty_of_concat hslot with hslot | ⟨hlast, -⟩
        · obtain ⟨other, hother, heq⟩ := h.entered ticket hslot
          exact ⟨other, List.mem_append_left _ hother, heq⟩
        · exact ⟨request, List.mem_append_right _ (List.mem_singleton_self _), hlast ▸ hticket⟩
      · rw [hidle.1, hidle.2]
        simp
  | serves request kept hmade hstep hticket hpending hslots hidle hkept hanswers hheld =>
      refine ⟨?_, ?_, ?_, ?_, ?_⟩
      · rw [hpending]
        exact h.ids
      · rw [hpending]
        exact h.tickets
      · intro other hother
        rw [hpending] at hother
        rw [hslots]
        exact h.getElem?_append hother _
      · intro ticket hslot
        rw [hslots] at hslot
        rw [hpending]
        rcases empty_of_concat hslot with hslot | ⟨-, hfilled⟩
        · exact h.entered ticket hslot
        · exact nomatch hfilled
      · rw [hidle.1, hidle.2, hpending]
        exact h.idle
  | settles hmade hsettles hheld => exact hsettles.sound h

theorem Sound.run (h : table.Sound) (steps : List RouterStep) : (table.run steps).Sound := by
  induction steps generalizing table with
  | nil => exact h
  | cons step rest ih => exact ih (h.apply step)

theorem sound_run (steps : List RouterStep) : (({} : RequestTable).run steps).Sound :=
  Sound.empty.run steps

end RequestTable

end GroundLink
