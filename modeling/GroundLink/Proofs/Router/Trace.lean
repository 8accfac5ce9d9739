import GroundLink.Proofs.Router.Slots

/-! # Runs that number their deliveries

Two deliveries may bring the same response, so that the table alone does not tell which of them a
handle was fulfilled by. A trace is a run whose kept responses carry the number of the step that
delivered them, and whose handles remember this number once they are fulfilled. Leaving the
numbers out gives the run itself.
-/

namespace GroundLink

namespace RequestTable

variable {table : RequestTable}

theorem register_held (id : CorrelationId) (filter : FrameFilter) (deadline : Nat) :
    (table.register id filter deadline).2.held = table.held := by
  unfold register
  split <;> rfl

theorem resolve_held (id : CorrelationId) (ticket : Nat) (outcome : Outcome) :
    (table.resolve id ticket outcome).held = table.held := by
  obtain ⟨pending, slots, hresolve⟩ := table.resolve_eq ticket outcome id
  rw [hresolve]

theorem resolveAll_held (outcome : Outcome) : (table.resolveAll outcome).held = table.held :=
  (foldl_complete_fields _ _).2.1

/-- Unless it is refused at once, `expect` takes out the oldest response that answers it. -/
theorem expect_held (id : CorrelationId) (filter : FrameFilter) (now timeout : Nat) :
    (table.expect id filter now timeout).2.held =
      if table.shutDown || table.isPending id then table.held
      else (table.prune now).held.eraseP fun kept => kept.answers id filter := by
  cases hshutDown : table.shutDown with
  | true => rw [expect, if_pos hshutDown, Bool.true_or, if_pos rfl]
  | false =>
  cases hpending : table.isPending id with
  | true => rw [expect, if_neg (by simp [hshutDown]), if_pos hpending, Bool.false_or, if_pos rfl]
  | false =>
  rw [expect_of_free filter now timeout hshutDown hpending, Bool.false_or,
    if_neg Bool.false_ne_true]
  split
  next => rfl
  next hfind =>
    have herase : (table.prune now).held.eraseP (fun kept => kept.answers id filter) =
        (table.prune now).held :=
      List.eraseP_of_forall_not (List.find?_eq_none.mp hfind)
    rw [herase]
    split
    · rfl
    · exact register_held id filter (now + timeout)

end RequestTable

/-- A table with the numbers of the deliveries behind it. -/
structure Trace where
  table : RequestTable := {}
  /-- How many steps have been taken; the number of the next one. -/
  length : Nat := 0
  /-- The responses kept back, oldest first, with the numbers of their deliveries. -/
  held : List (Nat × HeldResponse) := []
  /-- For every handle by ticket the number of the delivery that has fulfilled it. -/
  sources : List (Option Nat) := []

namespace Trace

/-- The delivery that has fulfilled a handle. -/
def source? (trace : Trace) (ticket : Nat) : Option Nat := (trace.sources[ticket]?).join

def fresh (trace : Trace) (now : Nat) : List (Nat × HeldResponse) :=
  trace.held.filter fun entry => entry.2.isFresh now

/-- The kept responses after a step. -/
def heldAfter (trace : Trace) : RouterStep → List (Nat × HeldResponse)
  | .beginIssue id _ _ =>
      match trace.table.ensureOpen id with
      | .error _ => trace.held
      | .ok () => trace.held.filter fun entry => entry.2.response.id != id
  | .expect id filter now _ =>
      if trace.table.shutDown || trace.table.isPending id then trace.held
      else (trace.fresh now).eraseP fun entry => entry.2.answers id filter
  | .deliver now frame =>
      match (trace.table.deliver now frame).1, frame with
      | .held, .response response =>
          let fresh := trace.fresh now
          (if fresh.length ≥ maxHeld then fresh.tail else fresh) ++
            [(trace.length, ⟨now, response⟩)]
      | _, _ => trace.held
  | .cancelAll => []
  | .countHeld now => trace.fresh now
  | _ => trace.held

/-- The sources after a step. A handle served at once has the source of what serves it. -/
def sourcesAfter (trace : Trace) (step : RouterStep) : List (Option Nat) :=
  match step with
  | .beginIssue _ _ _ => if (trace.table.made? step).isSome then trace.sources ++ [none]
      else trace.sources
  | .expect id filter now _ =>
      if (trace.table.made? step).isSome then
        trace.sources ++
          [((trace.fresh now).find? fun entry => entry.2.answers id filter).map Prod.fst]
      else trace.sources
  | .deliver now frame =>
      match (trace.table.deliver now frame).1 with
      | .fulfils ticket => trace.sources.set ticket (some trace.length)
      | _ => trace.sources
  | _ => trace.sources

def apply (trace : Trace) (step : RouterStep) : Trace where
  table := trace.table.apply step
  length := trace.length + 1
  held := trace.heldAfter step
  sources := trace.sourcesAfter step

/-- The trace of a run that starts with an empty table. -/
def ofSteps (steps : List RouterStep) : Trace := steps.foldl apply {}

theorem ofSteps_concat (steps : List RouterStep) (step : RouterStep) :
    ofSteps (steps ++ [step]) = (ofSteps steps).apply step :=
  List.foldl_concat _ _ _ _

variable {trace : Trace}

/-! ## A trace is its run -/

/-- Leaving out the numbers gives the table. -/
structure Faithful (trace : Trace) : Prop where
  sound : trace.table.Sound
  held : trace.held.map Prod.snd = trace.table.held
  sources : trace.sources.length = trace.table.slots.length

theorem Faithful.map_fresh (h : trace.Faithful) (now : Nat) :
    (trace.fresh now).map Prod.snd = (trace.table.prune now).held := by
  simp only [fresh, RequestTable.prune, ← h.held, List.filter_map]
  rfl

theorem Faithful.map_heldAfter (h : trace.Faithful) (step : RouterStep) :
    (trace.heldAfter step).map Prod.snd = (trace.table.apply step).held := by
  cases step with
  | allocate => exact h.held
  | beginIssue id filter deadline =>
      cases hensure : trace.table.ensureOpen id with
      | error error =>
          simp only [heldAfter, RequestTable.apply, RequestTable.beginIssue, hensure]
          exact h.held
      | ok _ =>
          simp only [heldAfter, RequestTable.apply, RequestTable.beginIssue, hensure]
          rw [RequestTable.register_held, RequestTable.dropHeld, ← h.held, List.filter_map]
          rfl
  | abandonIssue handle reason =>
      exact h.held.trans (RequestTable.resolve_held _ _ _).symm
  | expect id filter now timeout =>
      simp only [heldAfter, RequestTable.apply, RequestTable.expect_held]
      split
      · exact h.held
      · rw [← h.map_fresh, List.eraseP_map]
        rfl
  | deliver now frame =>
      simp only [heldAfter, RequestTable.apply]
      rcases trace.table.deliver_cases now frame with
        ⟨response, request, rfl, hfind, haccepts, hdeliver⟩ |
        ⟨response, request, rfl, hfind, hrejects, hdeliver⟩ | ⟨hdeliver, hnone⟩
      · simp only [hdeliver, RequestTable.complete_held]
        exact h.held
      · simp only [hdeliver, RequestTable.hold, ← h.map_fresh, List.length_map]
        split <;> simp only [List.map_append, List.map_tail, List.map_cons, List.map_nil]
      · simp only [hdeliver]
        exact h.held
  | expire id ticket => exact h.held.trans (RequestTable.resolve_held _ _ _).symm
  | cancel handle => exact h.held.trans (RequestTable.resolve_held _ _ _).symm
  | cancelAll => exact (@RequestTable.resolveAll_held
      { trace.table with shutDown := true, held := [] } .cancelled).symm
  | close reason =>
      simp only [heldAfter, RequestTable.apply, RequestTable.close]
      split
      · exact h.held
      · exact h.held.trans (RequestTable.resolveAll_held _).symm
  | countHeld now => exact h.map_fresh now

/-! ## What a step does to a trace -/

theorem join_getElem?_concat {α : Type} (contents : List (Option α)) (content : Option α)
    (place : Nat) :
    ((contents ++ [content])[place]?).join =
      if place = contents.length then content else (contents[place]?).join := by
  rcases Nat.lt_trichotomy place contents.length with hlt | rfl | hgt
  · rw [List.getElem?_append_left hlt, if_neg (Nat.ne_of_lt hlt)]
  · simp
  · rw [if_neg (Nat.ne_of_gt hgt), List.getElem?_eq_none (by simp; omega),
      List.getElem?_eq_none (by omega)]

theorem join_getElem?_set {α : Type} {contents : List (Option α)} {place : Nat}
    (hlt : place < contents.length) (content : Option α) (other : Nat) :
    ((contents.set place content)[other]?).join =
      if other = place then content else (contents[other]?).join := by
  by_cases heq : other = place
  · rw [heq, List.getElem?_set_self hlt, if_pos rfl]
    rfl
  · rw [List.getElem?_set_ne (Ne.symm heq), if_neg heq]

/-- What a step does to the numbers of a trace. -/
inductive Change (trace : Trace) (step : RouterStep) (next : Trace) : Prop
  /-- Nothing is fulfilled. A request to be sent drops what is kept under its number. -/
  | passes (hheld : next.held.Sublist trace.held)
      (hslots : (trace.table.made? step).isSome →
        next.table.slots = trace.table.slots ++ [none])
      (hsource : ∀ ticket, next.source? ticket = trace.source? ticket)
      (hpurged : ∀ id filter deadline, step = .beginIssue id filter deadline →
        (trace.table.made? step).isSome → ∀ entry ∈ next.held, entry.2.response.id ≠ id)
  /-- A new handle is served by a kept response that is kept no more. -/
  | serves (entry : Nat × HeldResponse) (first rest : List (Nat × HeldResponse))
      (request : Pending) (hmade : trace.table.made? step = some request)
      (hstep : ∀ id filter deadline, step ≠ .beginIssue id filter deadline)
      (hfresh : (first ++ entry :: rest).Sublist trace.held) (hheld : next.held = first ++ rest)
      (hanswers : entry.2.answers request.handle.id request.filter = true)
      (hslots : next.table.slots =
        trace.table.slots ++ [some (.fulfilled entry.2.response)])
      (hsource : ∀ ticket, next.source? ticket =
        if ticket = trace.table.slots.length then some entry.1 else trace.source? ticket)
  /-- A delivery fulfils a request that waits. -/
  | fulfils (request : Pending) (now : Nat) (response : Response)
      (hstep : step = .deliver now (.response response))
      (hmem : request ∈ trace.table.pending) (hheld : next.held = trace.held)
      (hsource : ∀ ticket, next.source? ticket =
        if ticket = request.handle.ticket then some trace.length else trace.source? ticket)
  /-- A delivery is kept back. -/
  | keeps (now : Nat) (response : Response) (kept : List (Nat × HeldResponse))
      (hstep : step = .deliver now (.response response)) (hkept : kept.Sublist trace.held)
      (hheld : next.held = kept ++ [(trace.length, ⟨now, response⟩)])
      (hsource : ∀ ticket, next.source? ticket = trace.source? ticket)

/-- A new handle whose slot is empty has no source, as before it had none. -/
theorem join_getElem?_concat_none {α : Type} (contents : List (Option α)) (place : Nat) :
    ((contents ++ [none])[place]?).join = (contents[place]?).join := by
  rw [join_getElem?_concat]
  split
  next heq => rw [heq, List.getElem?_eq_none (Nat.le_refl _), Option.join_none]
  next => rfl

theorem Faithful.change_beginIssue (h : trace.Faithful) (id : CorrelationId)
    (filter : FrameFilter) (deadline : Nat) :
    trace.Change (.beginIssue id filter deadline)
      (trace.apply (.beginIssue id filter deadline)) := by
  have hsource : ∀ ticket, (trace.apply (.beginIssue id filter deadline)).source? ticket =
      trace.source? ticket := by
    intro ticket
    simp only [source?, apply, sourcesAfter]
    split
    · exact join_getElem?_concat_none _ _
    · rfl
  have hslots : (trace.table.made? (.beginIssue id filter deadline)).isSome →
      (trace.apply (.beginIssue id filter deadline)).table.slots =
        trace.table.slots ++ [none] := by
    intro hmade
    cases h.sound.effect (.beginIssue id filter deadline) with
    | opens made hmade' hticket hfree hpending hslots hidle hheld => exact hslots
    | serves made kept hmade' hstep hticket hpending hslots hidle hkept hanswers hheld =>
        exact absurd rfl (hstep id filter deadline)
    | settles hmade' hsettles hheld =>
        rw [hmade'] at hmade
        exact nomatch hmade
  cases hensure : trace.table.ensureOpen id with
  | error error =>
      refine .passes ?_ hslots hsource ?_
      · simp only [apply, heldAfter, hensure]
        exact List.Sublist.refl _
      · intro _ _ _ _ hmade
        simp [RequestTable.made?, RequestTable.beginIssue, hensure] at hmade
  | ok _ =>
      refine .passes ?_ hslots hsource ?_
      · simp only [apply, heldAfter, hensure]
        exact List.filter_sublist
      · rintro _ _ _ ⟨⟩ - entry hentry
        simp only [apply, heldAfter, hensure] at hentry
        simpa using (List.mem_filter.mp hentry).2

theorem Faithful.change_deliver (h : trace.Faithful) (now : Nat) (frame : Frame) :
    trace.Change (.deliver now frame) (trace.apply (.deliver now frame)) := by
  rcases trace.table.deliver_cases now frame with
    ⟨response, request, rfl, hfind, haccepts, hdeliver⟩ |
    ⟨response, request, rfl, hfind, hrejects, hdeliver⟩ | ⟨hdeliver, hnone⟩
  · have hmem := (RequestTable.find?_mem hfind).1
    refine .fulfils request now response rfl hmem ?_ ?_
    · simp only [apply, heldAfter, hdeliver]
    · intro ticket
      simp only [source?, apply, sourcesAfter, hdeliver]
      exact join_getElem?_set (h.sources ▸ h.sound.ticket_lt hmem) _ _
  · refine .keeps now response
      (if (trace.fresh now).length ≥ maxHeld then (trace.fresh now).tail else trace.fresh now)
      rfl ?_ ?_ ?_
    · split
      · exact (List.tail_sublist _).trans List.filter_sublist
      · exact List.filter_sublist
    · simp only [apply, heldAfter, hdeliver]
    · intro ticket
      simp only [source?, apply, sourcesAfter, hdeliver]
  · refine .passes ?_ nofun ?_ nofun
    · simp only [apply, heldAfter, hdeliver]
      exact List.Sublist.refl _
    · intro ticket
      simp only [source?, apply, sourcesAfter, hdeliver]

/-- The oldest response that answers a request is the same with its number and without. -/
theorem Faithful.find?_prune (h : trace.Faithful) (id : CorrelationId) (filter : FrameFilter)
    (now : Nat) :
    ((trace.table.prune now).held.find? fun kept => kept.answers id filter) =
      ((trace.fresh now).find? fun entry => entry.2.answers id filter).map Prod.snd := by
  rw [← h.map_fresh, List.find?_map]
  rfl

theorem change_expect_refused (trace : Trace) {id : CorrelationId} {filter : FrameFilter}
    {now timeout : Nat} (hrefused : (trace.table.shutDown || trace.table.isPending id) = true) :
    trace.Change (.expect id filter now timeout)
      (trace.apply (.expect id filter now timeout)) := by
  have hmade : trace.table.made? (.expect id filter now timeout) = none := by
    cases hshutDown : trace.table.shutDown with
    | true => simp only [RequestTable.made?, RequestTable.expect, hshutDown, if_true]
    | false =>
        rw [hshutDown, Bool.false_or] at hrefused
        simp [RequestTable.made?, RequestTable.expect, hshutDown, hrefused]
  refine .passes ?_ (by simp [hmade]) ?_ (by simp)
  · simp only [apply, heldAfter, hrefused, if_true]
    exact List.Sublist.refl _
  · intro ticket
    simp only [source?, apply, sourcesAfter, hmade]
    rfl

theorem Faithful.change_expect (h : trace.Faithful) (id : CorrelationId) (filter : FrameFilter)
    (now timeout : Nat) :
    trace.Change (.expect id filter now timeout)
      (trace.apply (.expect id filter now timeout)) := by
  cases hrefused : trace.table.shutDown || trace.table.isPending id with
  | true => exact trace.change_expect_refused hrefused
  | false =>
  obtain ⟨hshutDown, hpending⟩ := Bool.or_eq_false_iff.mp hrefused
  have hexpect := RequestTable.expect_of_free filter now timeout hshutDown hpending
  rw [h.find?_prune] at hexpect
  cases hfind : (trace.fresh now).find? fun entry => entry.2.answers id filter with
  | some entry =>
      obtain ⟨hanswers, first, rest, hsplit, hfirst⟩ := List.find?_eq_some_iff_append.mp hfind
      rw [hfind] at hexpect
      have hmade : trace.table.made? (.expect id filter now timeout) =
          some ⟨⟨id, trace.table.slots.length, now + timeout⟩, filter⟩ := by
        simp only [RequestTable.made?, hexpect, Option.map_some]
      refine .serves entry first rest _ hmade (by simp) ?_ ?_ hanswers ?_ ?_
      · exact hsplit ▸ List.filter_sublist
      · simp only [apply, heldAfter, hrefused, hsplit]
        rw [if_neg Bool.false_ne_true, List.eraseP_append_right _ (by simpa using hfirst)]
        exact congrArg (first ++ ·) (List.eraseP_cons_of_pos
          (p := fun entry : Nat × HeldResponse => entry.2.answers id filter) hanswers)
      · simp only [apply, RequestTable.apply, hexpect, Option.map_some]
      · intro ticket
        simp only [source?, apply, sourcesAfter, hmade, hfind]
        rw [← h.sources]
        exact join_getElem?_concat _ _ _
  | none =>
      rw [hfind] at hexpect
      refine .passes ?_ ?_ ?_ (by simp)
      · simp only [apply, heldAfter, hrefused]
        exact List.eraseP_sublist.trans List.filter_sublist
      · intro hmade
        cases hensure : (trace.table.prune now).ensureOpen id with
        | error error =>
            rw [hensure] at hexpect
            simp [RequestTable.made?, hexpect] at hmade
        | ok _ =>
            have hfree : (trace.table.prune now).isPending id = false := hpending
            rw [hensure] at hexpect
            simp only [Option.map_none] at hexpect
            rw [RequestTable.register_of_free filter (now + timeout) hfree] at hexpect
            simp only [apply, RequestTable.apply, hexpect]
            rfl
      · intro ticket
        simp only [source?, apply, sourcesAfter, hfind]
        split
        · exact join_getElem?_concat_none _ _
        · rfl

theorem Faithful.change (h : trace.Faithful) (step : RouterStep) :
    trace.Change step (trace.apply step) := by
  cases step with
  | beginIssue id filter deadline => exact h.change_beginIssue id filter deadline
  | expect id filter now timeout => exact h.change_expect id filter now timeout
  | deliver now frame => exact h.change_deliver now frame
  | cancelAll => exact .passes (List.nil_sublist _) nofun (fun _ => rfl) nofun
  | countHeld now => exact .passes List.filter_sublist nofun (fun _ => rfl) nofun
  | _ => exact .passes (List.Sublist.refl _) nofun (fun _ => rfl) nofun

theorem length_sourcesAfter (trace : Trace) (step : RouterStep) :
    (trace.sourcesAfter step).length =
      trace.sources.length + (trace.table.made? step).toList.length := by
  cases step with
  | beginIssue id filter deadline =>
      simp only [sourcesAfter]
      cases trace.table.made? (.beginIssue id filter deadline) <;> simp
  | expect id filter now timeout =>
      simp only [sourcesAfter]
      cases trace.table.made? (.expect id filter now timeout) <;> simp
  | deliver now frame =>
      simp only [sourcesAfter]
      split <;> simp [RequestTable.made?]
  | _ => rfl

theorem Faithful.apply (h : trace.Faithful) (step : RouterStep) :
    (trace.apply step).Faithful where
  sound := h.sound.apply step
  held := h.map_heldAfter step
  sources := by
    have hslots := h.sound.slots_length_apply step
    have hsources := trace.length_sourcesAfter step
    rw [h.sources] at hsources
    exact hsources.trans hslots.symm

/-! ## Numbers are used once -/

variable {step : RouterStep} {next : Trace}

/-- What is kept after a step was kept before it, unless the step registers its number, or the
step has just delivered it. -/
theorem Change.mem_held (h : trace.Change step next) {entry : Nat × HeldResponse}
    (hentry : entry ∈ next.held) :
    (entry ∈ trace.held ∧ ∀ filter deadline,
      step = .beginIssue entry.2.response.id filter deadline → trace.table.made? step = none) ∨
    (entry.1 = trace.length ∧ step = .deliver entry.2.received (.response entry.2.response)) := by
  cases h with
  | passes hheld hslots hsource hpurged =>
      refine Or.inl ⟨hheld.subset hentry, ?_⟩
      intro filter deadline hstep
      by_contra hmade
      have hsome := Option.isSome_iff_ne_none.mpr hmade
      exact hpurged _ filter deadline hstep hsome entry hentry rfl
  | serves served first rest request hmade hstep hfresh hheld hanswers hslots hsource =>
      refine Or.inl ⟨hfresh.subset ?_, fun filter deadline heq => absurd heq (hstep _ _ _)⟩
      rw [hheld] at hentry
      rcases List.mem_append.mp hentry with hentry | hentry <;> simp [hentry]
  | fulfils request now response hstep hmem hheld hsource =>
      refine Or.inl ⟨hheld ▸ hentry, fun filter deadline heq => ?_⟩
      exact nomatch hstep.symm.trans heq
  | keeps now response kept hstep hkept hheld hsource =>
      rw [hheld] at hentry
      rcases List.mem_append.mp hentry with hentry | hentry
      · refine Or.inl ⟨hkept.subset hentry, fun filter deadline heq => ?_⟩
        exact nomatch hstep.symm.trans heq
      · obtain rfl := List.mem_singleton.mp hentry
        exact Or.inr ⟨rfl, hstep⟩

/-- No two kept responses, no two handles, and no kept response and handle share a delivery. -/
structure Numbered (trace : Trace) : Prop where
  held_lt : ∀ entry ∈ trace.held, entry.1 < trace.length
  source_lt : ∀ ticket number, trace.source? ticket = some number → number < trace.length
  nodup : (trace.held.map Prod.fst).Nodup
  apart : ∀ entry ∈ trace.held, ∀ ticket, trace.source? ticket ≠ some entry.1
  once : ∀ first second number, trace.source? first = some number →
    trace.source? second = some number → first = second

/-- A source after a step is that of before, the number of what served the new handle, or the
number of the step. -/
theorem Change.source?_eq_some (h : trace.Change step next) {ticket number : Nat}
    (hnumber : next.source? ticket = some number) :
    trace.source? ticket = some number ∨ (∃ entry ∈ trace.held, entry.1 = number) ∨
      number = trace.length := by
  cases h with
  | passes hheld hslots hsource hpurged => exact Or.inl (hsource ticket ▸ hnumber)
  | serves entry first rest request hmade hstep hfresh hheld hanswers hslots hsource =>
      rw [hsource] at hnumber
      split at hnumber
      · exact Or.inr (Or.inl ⟨entry, hfresh.subset (by simp), Option.some_inj.mp hnumber⟩)
      · exact Or.inl hnumber
  | fulfils request now response hstep hmem hheld hsource =>
      rw [hsource] at hnumber
      split at hnumber
      · exact Or.inr (Or.inr (Option.some_inj.mp hnumber).symm)
      · exact Or.inl hnumber
  | keeps now response kept hstep hkept hheld hsource => exact Or.inl (hsource ticket ▸ hnumber)

theorem Numbered.source_lt_succ (h : trace.Numbered) (hchange : trace.Change step next)
    {ticket number : Nat} (hnumber : next.source? ticket = some number) :
    number < trace.length + 1 := by
  rcases hchange.source?_eq_some hnumber with hearlier | ⟨entry, hentry, rfl⟩ | rfl
  · exact Nat.lt_succ_of_lt (h.source_lt ticket number hearlier)
  · exact Nat.lt_succ_of_lt (h.held_lt entry hentry)
  · exact Nat.lt_succ_self _

theorem Numbered.nodup_change (h : trace.Numbered) (hchange : trace.Change step next) :
    (next.held.map Prod.fst).Nodup := by
  cases hchange with
  | passes hheld hslots hsource hpurged => exact h.nodup.sublist (hheld.map _)
  | serves entry first rest request hmade hstep hfresh hheld hanswers hslots hsource =>
      have hsub : (first ++ rest).Sublist trace.held :=
        (List.Sublist.append_left (List.sublist_cons_self entry rest) first).trans hfresh
      rw [hheld]
      exact h.nodup.sublist (hsub.map _)
  | fulfils request now response hstep hmem hheld hsource =>
      rw [hheld]
      exact h.nodup
  | keeps now response kept hstep hkept hheld hsource =>
      rw [hheld]
      refine RequestTable.nodup_map_concat (h.nodup.sublist (hkept.map _)) fun entry hentry => ?_
      exact Nat.ne_of_lt (h.held_lt entry (hkept.subset hentry))

theorem Numbered.apart_change (h : trace.Numbered) (hchange : trace.Change step next)
    {entry : Nat × HeldResponse} (hentry : entry ∈ next.held) (ticket : Nat) :
    next.source? ticket ≠ some entry.1 := by
  cases hchange with
  | passes hheld hslots hsource hpurged =>
      rw [hsource]
      exact h.apart entry (hheld.subset hentry) ticket
  | serves served first rest request hmade hstep hfresh hheld hanswers hslots hsource =>
      -- what has served the new handle is kept no more
      have hnodup : ((first ++ served :: rest).map Prod.fst).Nodup :=
        h.nodup.sublist (hfresh.map _)
      rw [List.map_append, List.map_cons, List.nodup_middle, List.nodup_cons,
        ← List.map_append] at hnodup
      rw [hheld] at hentry
      rw [hsource]
      split
      · intro heq
        rw [Option.some_inj.mp heq] at hnodup
        exact hnodup.1 (List.mem_map_of_mem hentry)
      · have hearlier : entry ∈ trace.held := by
          apply hfresh.subset
          rcases List.mem_append.mp hentry with hentry | hentry <;> simp [hentry]
        exact h.apart entry hearlier ticket
  | fulfils request now response hstep hmem hheld hsource =>
      rw [hheld] at hentry
      rw [hsource]
      split
      · exact fun heq => Nat.ne_of_gt (h.held_lt entry hentry) (Option.some_inj.mp heq)
      · exact h.apart entry hentry ticket
  | keeps now response kept hstep hkept hheld hsource =>
      rw [hheld] at hentry
      rw [hsource]
      rcases List.mem_append.mp hentry with hentry | hentry
      · exact h.apart entry (hkept.subset hentry) ticket
      · rw [List.mem_singleton.mp hentry]
        exact fun heq => Nat.lt_irrefl _ (h.source_lt ticket trace.length heq)

/-- A number that no handle had as its source may become the source of one. -/
theorem Numbered.once_insert (h : trace.Numbered) {place number : Nat}
    (hunused : ∀ ticket, trace.source? ticket ≠ some number)
    (hsource : ∀ ticket, next.source? ticket =
      if ticket = place then some number else trace.source? ticket)
    {one two other : Nat} (hone : next.source? one = some other)
    (htwo : next.source? two = some other) : one = two := by
  rw [hsource] at hone htwo
  split at hone <;> split at htwo
  · omega
  · exact absurd (htwo.trans hone.symm) (hunused two)
  · exact absurd (hone.trans htwo.symm) (hunused one)
  · exact h.once one two other hone htwo

theorem Numbered.once_change (h : trace.Numbered) (hchange : trace.Change step next)
    {one two number : Nat} (hone : next.source? one = some number)
    (htwo : next.source? two = some number) : one = two := by
  cases hchange with
  | passes hheld hslots hsource hpurged =>
      rw [hsource] at hone htwo
      exact h.once one two number hone htwo
  | serves entry first rest request hmade hstep hfresh hheld hanswers hslots hsource =>
      have hmem : entry ∈ trace.held := hfresh.subset (by simp)
      exact h.once_insert (h.apart entry hmem) hsource hone htwo
  | fulfils request now response hstep hmem hheld hsource =>
      have hunused : ∀ ticket, trace.source? ticket ≠ some trace.length :=
        fun ticket heq => Nat.lt_irrefl _ (h.source_lt ticket trace.length heq)
      exact h.once_insert hunused hsource hone htwo
  | keeps now response kept hstep hkept hheld hsource =>
      rw [hsource] at hone htwo
      exact h.once one two number hone htwo

theorem Numbered.apply (h : trace.Numbered) (hfaithful : trace.Faithful) (step : RouterStep) :
    (trace.apply step).Numbered where
  held_lt entry hentry := by
    rcases (hfaithful.change step).mem_held hentry with ⟨hearlier, -⟩ | ⟨hnumber, -⟩
    · exact Nat.lt_succ_of_lt (h.held_lt entry hearlier)
    · exact hnumber ▸ Nat.lt_succ_self _
  source_lt _ _ hnumber := h.source_lt_succ (hfaithful.change step) hnumber
  nodup := h.nodup_change (hfaithful.change step)
  apart _ hentry ticket := h.apart_change (hfaithful.change step) hentry ticket
  once _ _ _ hone htwo := h.once_change (hfaithful.change step) hone htwo

end Trace

end GroundLink
