import GroundLink.Proofs.Router.Trace
import Mathlib.Data.List.Induction

/-! # No stale response and no misdelivery

A response reaches a handle from the delivery that brought it, at once or after it was kept back.
Kept responses outlive the request that rejected them, and numbers are used again; but a request
to be sent drops everything kept under its number, so that whatever is kept was delivered after
the latest registration of its number. This is carried along the run, and with it the fact that
every delivery fulfils one handle at most.
-/

namespace GroundLink

open RequestTable

/-- Whether the step in this place registered a request to be sent under this number. -/
def Registers (steps : List RouterStep) (place : Nat) (id : CorrelationId) : Prop :=
  ∃ filter deadline, steps[place]? = some (.beginIssue id filter deadline) ∧
    ((({} : RequestTable).run (steps.take place)).made?
      (.beginIssue id filter deadline)).isSome

/-- Whether the step in this place delivered a response that a request accepts, after all
registrations of its number up to the step that created its handle. -/
def Brings (steps : List RouterStep) (created place : Nat) (request : Pending)
    (response : Response) : Prop :=
  (∃ now, steps[place]? = some (.deliver now (.response response))) ∧
    response.id = request.handle.id ∧ request.filter.accepts response.kind = true ∧
    ∀ earlier ≤ created, Registers steps earlier request.handle.id → earlier < place

variable {steps : List RouterStep} {step : RouterStep} {request : Pending} {response : Response}
  {id : CorrelationId} {place created : Nat}

theorem Registers.lt (h : Registers steps place id) : place < steps.length := by
  obtain ⟨filter, deadline, hstep, -⟩ := h
  exact (List.getElem?_eq_some_iff.mp hstep).1

/-- A registration in a longer run is one in the run so far, or the last step. -/
theorem Registers.of_concat (h : Registers (steps ++ [step]) place id) :
    Registers steps place id ∨ place = steps.length ∧ ∃ filter deadline,
      step = .beginIssue id filter deadline ∧
        ((({} : RequestTable).run steps).made? step).isSome := by
  have hbound := h.lt
  obtain ⟨filter, deadline, hstep, hmade⟩ := h
  rw [List.length_append, List.length_singleton] at hbound
  by_cases hlt : place < steps.length
  · left
    rw [List.getElem?_append_left hlt] at hstep
    rw [List.take_append_of_le_length (Nat.le_of_lt hlt)] at hmade
    exact ⟨filter, deadline, hstep, hmade⟩
  · right
    obtain rfl : place = steps.length := by omega
    rw [List.getElem?_concat_length, Option.some_inj] at hstep
    subst hstep
    rw [List.take_left] at hmade
    exact ⟨rfl, filter, deadline, rfl, hmade⟩

theorem Brings.concat (h : Brings steps created place request response)
    (hcreated : created < steps.length) (step : RouterStep) :
    Brings (steps ++ [step]) created place request response := by
  obtain ⟨⟨now, hstep⟩, hid, haccepts, hlater⟩ := h
  have hlt := (List.getElem?_eq_some_iff.mp hstep).1
  refine ⟨⟨now, by rw [List.getElem?_append_left hlt, hstep]⟩, hid, haccepts, ?_⟩
  intro earlier hearlier hregisters
  rcases hregisters.of_concat with hregisters | ⟨rfl, -⟩
  · exact hlater earlier hearlier hregisters
  · omega

/-! ## What the trace of a run knows -/

/-- A trace belongs to a run: what it keeps was delivered where its number says, after all
registrations of its number. -/
structure Records (trace : Trace) (steps : List RouterStep) : Prop where
  faithful : trace.Faithful
  numbered : trace.Numbered
  table : trace.table = ({} : RequestTable).run steps
  length : trace.length = steps.length
  origin : ∀ entry ∈ trace.held,
    steps[entry.1]? = some (.deliver entry.2.received (.response entry.2.response))
  later : ∀ entry ∈ trace.held, ∀ place, Registers steps place entry.2.response.id →
    place < entry.1

theorem Records.empty : Records {} [] where
  faithful := ⟨Sound.empty, rfl, rfl⟩
  numbered := ⟨nofun, nofun, List.nodup_nil, nofun, nofun⟩
  table := rfl
  length := rfl
  origin := nofun
  later := nofun

/-- What is kept was delivered where its number says, whatever step follows. -/
theorem Records.origin_concat {trace : Trace} (h : Records trace steps)
    {entry : Nat × HeldResponse} (hentry : entry ∈ trace.held) (step : RouterStep) :
    (steps ++ [step])[entry.1]? =
      some (.deliver entry.2.received (.response entry.2.response)) := by
  have horigin := h.origin entry hentry
  rw [List.getElem?_append_left (List.getElem?_eq_some_iff.mp horigin).1, horigin]

/-- A step that does not register its number leaves a kept response later than all
registrations. -/
theorem Records.later_concat {trace : Trace} (h : Records trace steps)
    {entry : Nat × HeldResponse} (hentry : entry ∈ trace.held)
    (hstep : ∀ filter deadline, step = .beginIssue entry.2.response.id filter deadline →
      trace.table.made? step = none)
    (hregisters : Registers (steps ++ [step]) place entry.2.response.id) : place < entry.1 := by
  rcases hregisters.of_concat with hregisters | ⟨-, filter, deadline, heq, hmade⟩
  · exact h.later entry hentry place hregisters
  · rw [← h.table, hstep filter deadline heq] at hmade
    exact nomatch hmade

theorem Records.concat {trace : Trace} (h : Records trace steps) (step : RouterStep) :
    Records (trace.apply step) (steps ++ [step]) where
  faithful := h.faithful.apply step
  numbered := h.numbered.apply h.faithful step
  table := by
    rw [run_concat, ← h.table]
    rfl
  length := by
    rw [List.length_append, List.length_singleton, ← h.length]
    rfl
  origin entry hentry := by
    rcases (h.faithful.change step).mem_held hentry with ⟨hearlier, -⟩ | ⟨hnumber, hstep⟩
    · exact h.origin_concat hearlier step
    · rw [hnumber, h.length, List.getElem?_concat_length, hstep]
  later entry hentry place hregisters := by
    rcases (h.faithful.change step).mem_held hentry with ⟨hearlier, hkept⟩ | ⟨hnumber, hstep⟩
    · exact h.later_concat hearlier hkept hregisters
    · -- the delivery is the last step, so that all registrations came before it
      rcases hregisters.of_concat with hregisters | ⟨-, filter, deadline, heq, -⟩
      · rw [hnumber, h.length]
        exact hregisters.lt
      · exact nomatch hstep.symm.trans heq

theorem records_ofSteps (steps : List RouterStep) : Records (Trace.ofSteps steps) steps := by
  induction steps using List.reverseRecOn with
  | nil => exact Records.empty
  | append_singleton rest step ih =>
      rw [Trace.ofSteps_concat]
      exact ih.concat step

/-! ## From the deliveries to the handles -/

namespace Trace

variable {trace : Trace}

/-- A fulfilled handle keeps its source. -/
theorem Faithful.source?_apply (h : trace.Faithful) {ticket : Nat} {outcome : Outcome}
    (hfilled : trace.table.outcome? ticket = some outcome) (step : RouterStep) :
    (trace.apply step).source? ticket = trace.source? ticket := by
  cases h.change step with
  | passes hheld hslots hsource hpurged => exact hsource ticket
  | serves entry first rest request hmade hstep hfresh hheld hanswers hslots hsource =>
      rw [hsource, if_neg]
      have hslot := getElem?_of_outcome? hfilled
      exact Nat.ne_of_lt (List.getElem?_eq_some_iff.mp hslot).1
  | fulfils request now response hstep hmem hheld hsource =>
      rw [hsource, if_neg]
      rintro rfl
      rw [h.sound.outcome?_pending hmem] at hfilled
      exact nomatch hfilled
  | keeps now response kept hstep hkept hheld hsource => exact hsource ticket

/-- A request that waits is fulfilled by the delivery of a response that it accepts. -/
theorem Faithful.source?_fulfilled (h : trace.Faithful) (hmem : request ∈ trace.table.pending)
    (hends : step.ends? request = some (.fulfilled response)) :
    (∃ now, step = .deliver now (.response response)) ∧ response.id = request.handle.id ∧
      request.filter.accepts response.kind = true ∧
      (trace.apply step).source? request.handle.ticket = some trace.length := by
  obtain ⟨now, rfl, hid, haccepts⟩ := RouterStep.ends?_fulfilled hends
  refine ⟨⟨now, rfl⟩, hid, haccepts, ?_⟩
  have hfind := h.sound.find?_eq_some_iff.mpr ⟨hmem, hid.symm⟩
  rcases trace.table.deliver_cases now (.response response) with
    ⟨_, found, ⟨⟩, hfound, -, hdeliver⟩ | ⟨_, found, ⟨⟩, hfound, hrejects, -⟩ | ⟨-, hnone⟩
  · obtain rfl : found = request := Option.some_inj.mp (hfound.symm.trans hfind)
    simp only [Trace.source?, Trace.apply, Trace.sourcesAfter, hdeliver]
    rw [join_getElem?_set (h.sources ▸ h.sound.ticket_lt hmem), if_pos rfl]
  · rw [Option.some_inj.mp (hfound.symm.trans hfind), haccepts] at hrejects
    cases hrejects
  · cases (hnone response rfl).symm.trans hfind

end Trace

/-- A new handle that is fulfilled at once is served by what was delivered after the latest
registration of its number. -/
theorem Records.source_of_made {trace : Trace} (h : Records trace steps)
    (hmade : (({} : RequestTable).run steps).made? step = some request)
    (hfilled : (({} : RequestTable).run (steps ++ [step])).outcome? request.handle.ticket =
      some (.fulfilled response)) :
    ∃ place, (trace.apply step).source? request.handle.ticket = some place ∧
      Brings (steps ++ [step]) steps.length place request response := by
  rw [← h.table] at hmade
  rw [run_concat, ← h.table] at hfilled
  have hticket := h.faithful.sound.ticket_of_made? hmade
  cases h.faithful.change step with
  | passes hheld hslots hsource hpurged =>
      -- the slot of the new handle is empty
      have hslot : (trace.apply step).table.outcome? request.handle.ticket = none := by
        apply outcome?_eq_of_getElem?
        rw [hslots (by rw [hmade]; rfl), hticket, List.getElem?_concat_length]
      cases hslot.symm.trans hfilled
  | serves entry first rest served hmade' hstep hfresh hheld hanswers hslots hsource =>
      obtain rfl : served = request := Option.some_inj.mp (hmade'.symm.trans hmade)
      have hmem : entry ∈ trace.held := hfresh.subset (by simp)
      have hslot : (trace.apply step).table.outcome? served.handle.ticket =
          some (.fulfilled entry.2.response) := by
        apply outcome?_eq_of_getElem?
        rw [hslots, hticket, List.getElem?_concat_length]
      obtain rfl : entry.2.response = response :=
        Outcome.fulfilled.inj (Option.some_inj.mp (hslot.symm.trans hfilled))
      simp only [HeldResponse.answers, Bool.and_eq_true, beq_iff_eq] at hanswers
      -- what is kept outlives its request, but no registration of its number
      refine ⟨entry.1, by rw [hsource, if_pos hticket], ⟨_, h.origin_concat hmem step⟩,
        hanswers.1, hanswers.2, ?_⟩
      intro earlier _ hregisters
      rw [← hanswers.1] at hregisters
      exact h.later_concat hmem (fun filter deadline heq => absurd heq (hstep _ _ _)) hregisters
  | fulfils waiting now response hstep hmem hheld hsource =>
      rw [hstep] at hmade
      cases hmade
  | keeps now response kept hstep hkept hheld hsource =>
      rw [hstep] at hmade
      cases hmade

theorem source_of_fulfilled {before : List RouterStep}
    (hmade : (({} : RequestTable).run before).made? step = some request)
    (after : List RouterStep)
    (hfilled : (({} : RequestTable).run (before ++ step :: after)).outcome?
      request.handle.ticket = some (.fulfilled response)) :
    ∃ place, (Trace.ofSteps (before ++ step :: after)).source? request.handle.ticket =
        some place ∧
      Brings (before ++ step :: after) before.length place request response := by
  -- either the handle was fulfilled before the last step, or it waits and the last step delivers
  induction after using List.reverseRecOn generalizing response with
  | nil =>
      rw [Trace.ofSteps_concat]
      exact (records_ofSteps before).source_of_made hmade hfilled
  | append_singleton rest last ih =>
      have hsplit : before ++ step :: (rest ++ [last]) = (before ++ step :: rest) ++ [last] := by
        simp
      rw [hsplit] at hfilled ⊢
      have hrecords := records_ofSteps (before ++ step :: rest)
      have hsound := sound_run (before ++ step :: rest)
      have hcreated : before.length < (before ++ step :: rest).length := by simp
      rw [run_concat] at hfilled
      rw [Trace.ofSteps_concat]
      cases hearlier : (({} : RequestTable).run (before ++ step :: rest)).outcome?
          request.handle.ticket with
      | some outcome =>
          have hkept := hsound.outcome?_apply hearlier last
          obtain rfl := Option.some_inj.mp (hkept.symm.trans hfilled)
          obtain ⟨place, hsource, hbrings⟩ := ih hearlier
          refine ⟨place, ?_, hbrings.concat hcreated last⟩
          rw [hrecords.faithful.source?_apply (hrecords.table ▸ hearlier), hsource]
      | none =>
          have htracks : (({} : RequestTable).run (before ++ step :: rest)).Tracks request := by
            rw [run_append, run_cons]
            exact ((sound_run before).tracks_of_made? hmade).run
              ((sound_run before).apply step) rest
          have hmem := (hsound.outcome?_eq_none_iff htracks).mp hearlier
          rw [hsound.outcome?_apply_pending hmem] at hfilled
          rw [← hrecords.table] at hmem
          obtain ⟨⟨now, rfl⟩, hid, haccepts, hsource⟩ :=
            hrecords.faithful.source?_fulfilled hmem hfilled
          refine ⟨_, hsource, ⟨now, ?_⟩, hid, haccepts, ?_⟩
          · rw [hrecords.length, List.getElem?_concat_length]
          · intro earlier hle _
            rw [hrecords.length]
            omega

/-- Whenever a handle has been fulfilled, by whatever path and after whatever steps: the response
has the handle's number and its filter accepts it; it was brought by a delivery that came after
every registration of that number, by a request to be sent, up to the creation of the handle; and
that delivery has fulfilled no other handle. The trace that names the delivery is the run itself
with numbers. -/
theorem fulfilled_by_own_fresh_delivery {before after : List RouterStep} {step : RouterStep}
    {request : Pending} {response : Response}
    (hmade : (({} : RequestTable).run before).made? step = some request)
    (hfilled : (({} : RequestTable).run (before ++ step :: after)).outcome?
      request.handle.ticket = some (.fulfilled response)) :
    let steps := before ++ step :: after
    let trace := Trace.ofSteps steps
    response.id = request.handle.id ∧ request.filter.accepts response.kind = true ∧
    trace.table = ({} : RequestTable).run steps ∧ trace.held.map Prod.snd = trace.table.held ∧
    ∃ place now, trace.source? request.handle.ticket = some place ∧
      steps[place]? = some (.deliver now (.response response)) ∧
      (∀ earlier ≤ before.length, Registers steps earlier request.handle.id →
        earlier < place) ∧
      ∀ ticket, trace.source? ticket = some place → ticket = request.handle.ticket := by
  obtain ⟨place, hsource, ⟨now, hstep⟩, hid, haccepts, hlater⟩ :=
    source_of_fulfilled hmade after hfilled
  have hrecords := records_ofSteps (before ++ step :: after)
  refine ⟨hid, haccepts, hrecords.table, hrecords.faithful.held, place, now, hsource, hstep,
    hlater, ?_⟩
  exact fun ticket hother => hrecords.numbered.once _ _ _ hother hsource

/-- A failure is kept back from the request that was sent, and serves another one that asks for
it under the same number. -/
theorem fulfilled_by_own_fresh_delivery_kept :
    let failure : Response := ⟨⟨.terminal, .error 3⟩, 7, []⟩
    let request : Pending := ⟨⟨7, 1, 17⟩, .error .terminal⟩
    let before : List RouterStep := [.beginIssue 7 (.success .terminal) 1000,
      .deliver 5 (.response failure), .deliver 6 (.response ⟨⟨.terminal, .success⟩, 7, []⟩)]
    let step : RouterStep := .expect 7 (.error .terminal) 7 10
    let steps := before ++ step :: [.close "gone"]
    (({} : RequestTable).run before).made? step = some request ∧
      (({} : RequestTable).run steps).outcome? 1 = some (.fulfilled failure) ∧
      ∃ place now, (Trace.ofSteps steps).source? 1 = some place ∧
        steps[place]? = some (.deliver now (.response failure)) ∧
        (∀ earlier ≤ 3, Registers steps earlier 7 → earlier < place) ∧
        ∀ ticket, (Trace.ofSteps steps).source? ticket = some place → ticket = 1 := by
  have h := @fulfilled_by_own_fresh_delivery
    [.beginIssue 7 (.success .terminal) 1000,
      .deliver 5 (.response ⟨⟨.terminal, .error 3⟩, 7, []⟩),
      .deliver 6 (.response ⟨⟨.terminal, .success⟩, 7, []⟩)]
    [.close "gone"] (.expect 7 (.error .terminal) 7 10) ⟨⟨7, 1, 17⟩, .error .terminal⟩
    ⟨⟨.terminal, .error 3⟩, 7, []⟩ (by decide) (by decide)
  exact ⟨by decide, by decide, h.2.2.2.2⟩

end GroundLink
