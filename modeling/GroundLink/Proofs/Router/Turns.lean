import GroundLink.Proofs.Router.Calls
import GroundLink.Proofs.Router.Gates
import Mathlib.Data.List.Induction

/-! # What a turn does

A turn enters the router with one step or with none, and the log grows by this step. For the timer
only a few turns matter: a request that begins to wait is scheduled, a teardown stops the timer
after it has entered the router, and the timer thread takes an entry out before it hands it over.
-/

namespace GroundLink

namespace RequestTable

variable {table : RequestTable} {step : RouterStep} {request : Pending}

/-- A new handle that is still empty belongs to a request that has begun to wait. -/
theorem Sound.opens_of_empty (h : table.Sound) (hmade : table.made? step = some request)
    (hempty : (table.apply step).outcome? request.handle.ticket = none) :
    (table.apply step).pending = table.pending ++ [request] ∧ table.shutDown = false := by
  cases h.effect step with
  | opens made hmade' hticket hfree hpending hslots hidle hheld =>
      obtain rfl : made = request := Option.some_inj.mp (hmade'.symm.trans hmade)
      have hshutDown := hidle.1
      rw [shutDown_apply, Bool.or_eq_false_iff] at hshutDown
      exact ⟨hpending, hshutDown.1⟩
  | serves made kept hmade' hstep hticket hpending hslots hidle hkept hanswers hheld =>
      obtain rfl : made = request := Option.some_inj.mp (hmade'.symm.trans hmade)
      rw [outcome?, hslots, hticket, List.getElem?_concat_length] at hempty
      cases hempty
  | settles hmade' hsettles hheld => cases hmade'.symm.trans hmade

/-- Whoever waits after a step has waited before, or the step has given out the handle. -/
theorem Sound.waited_or_made (h : table.Sound) (hmem : request ∈ (table.apply step).pending) :
    request ∈ table.pending ∨ table.made? step = some request := by
  cases h.effect step with
  | opens made hmade hticket hfree hpending hslots hidle hheld =>
      rw [hpending] at hmem
      refine (List.mem_append.mp hmem).imp_right fun hlast => ?_
      rw [hmade, List.mem_singleton.mp hlast]
  | serves made kept hmade hstep hticket hpending hslots hidle hkept hanswers hheld =>
      exact Or.inl (hpending ▸ hmem)
  | settles hmade hsettles hheld =>
      rw [hsettles.pending] at hmem
      exact Or.inl (List.mem_of_mem_filter hmem)

/-- If a step gives out no empty handle, whoever waits after it has waited before. -/
theorem Sound.mem_of_mem_apply (h : table.Sound)
    (hfilled : ∀ made, table.made? step = some made →
      ((table.apply step).outcome? made.handle.ticket).isSome)
    (hmem : request ∈ (table.apply step).pending) : request ∈ table.pending := by
  refine (h.waited_or_made hmem).resolve_right fun hmade => ?_
  have hempty := hfilled request hmade
  rw [(h.apply step).outcome?_pending hmem] at hempty
  exact nomatch hempty

theorem Sound.waited_or_mem_made (h : table.Sound) {steps : List RouterStep}
    (hmem : request ∈ (table.run steps).pending) :
    request ∈ table.pending ∨ request ∈ table.made steps := by
  induction steps generalizing table with
  | nil => exact Or.inl hmem
  | cons step rest ih =>
      rcases ih (h.apply step) hmem with hearlier | hlater
      · refine (h.waited_or_made hearlier).imp_right fun hmade => ?_
        exact List.mem_append_left _ (Option.mem_toList.mpr hmade)
      · exact Or.inr (List.mem_append_right _ hlater)

end RequestTable

namespace Traffic

variable {traffic next : Traffic} {turn : Turn}

/-- The step with which a turn enters the router. -/
def step? (traffic : Traffic) : Turn → Option RouterStep
  | .allocate => some .allocate
  | .issue request => some (.beginIssue request.id request.filter (traffic.now + request.timeout))
  | .abandon index => traffic.issues[index]?.bind fun call =>
      match call.stage with
      | .broken reason => some (.abandonIssue call.handle reason)
      | _ => none
  | .expect id filter timeout => some (.expect id filter traffic.now timeout)
  | .giveUp index =>
      traffic.waits[index]?.map fun call => .expire call.handle.id call.handle.ticket
  | .deliver frame => some (.deliver traffic.now frame)
  | .cancel handle => some (.cancel handle)
  | .cancelAll => some .cancelAll
  | .close reason => some (.close reason)
  | .countHeld => some (.countHeld traffic.now)
  | .callback => traffic.firing.map fun expiry => .expire expiry.id expiry.ticket
  | _ => none

/-- What a turn does to the timer and to its thread. -/
inductive Timing (traffic : Traffic) (turn : Turn) (next : Traffic) : Prop
  /-- Nothing happens to them, and nobody begins to wait. -/
  | rests (hturn : turn ≠ .callback) (htimer : next.timer = traffic.timer)
      (hfiring : next.firing = traffic.firing)
      (hstopping : next.stopping = traffic.stopping ∨ turn = .cancelAll)
      (hpending : ∀ request ∈ next.table.pending, request ∈ traffic.table.pending)
  /-- A request begins to wait and is scheduled. -/
  | schedules (request : Pending) (hturn : turn ≠ .callback)
      (htimer : next.timer = traffic.timer.schedule request.handle.deadline
        ⟨request.handle.id, request.handle.ticket⟩)
      (hfiring : next.firing = traffic.firing) (hstopping : next.stopping = traffic.stopping)
      (hpending : next.table.pending = traffic.table.pending ++ [request])
      (hopen : traffic.table.shutDown = false)
  /-- A teardown that has entered the router stops the timer. -/
  | stops (hturn : turn = .stopTimer) (hcalled : 0 < traffic.stopping)
      (htimer : next.timer = traffic.timer.stop) (hfiring : next.firing = traffic.firing)
      (htable : next.table = traffic.table)
  /-- The thread takes an entry out. -/
  | fires (entry : TimerEntry Expiry) (hturn : turn = .fire) (hidle : traffic.firing = none)
      (hpop : traffic.timer.pop? traffic.now = some (entry, next.timer))
      (hfiring : next.firing = some entry.item) (hstopping : next.stopping = traffic.stopping)
      (htable : next.table = traffic.table)
  /-- The thread hands over what it has taken out. -/
  | handsOver (expiry : Expiry) (hcarried : traffic.firing = some expiry)
      (htimer : next.timer = traffic.timer) (hfiring : next.firing = none)
      (hstopping : next.stopping = traffic.stopping)
      (htable : next.table = traffic.table.apply (.expire expiry.id expiry.ticket))

/-- What a turn does: the table takes its step and the log notes it. -/
structure Takes (traffic : Traffic) (turn : Turn) (next : Traffic) : Prop where
  table : next.table = traffic.table.run (traffic.step? turn).toList
  log : next.log = traffic.log ++ (traffic.step? turn).toList
  timing : traffic.Timing turn next

/-- A turn with which a call gets on outside of the router, or time passes. -/
theorem takes_elsewhere {now : Nat} {handles : List Handle} {issues : List IssueCall}
    {waits : List WaitCall} {sent : List Bytes} (hstep : traffic.step? turn = none)
    (hturn : turn ≠ .callback) :
    traffic.Takes turn { traffic with now, handles, issues, waits, sent } where
  table := by rw [hstep]; rfl
  log := by rw [hstep]; exact (List.append_nil _).symm
  timing := .rests hturn rfl rfl (Or.inl rfl) fun _ => id

/-- A turn that enters the router with a step that gives out no handle, while a call gets on. -/
theorem Valid.takes_step (h : traffic.Valid) {step : RouterStep} {stopping : Nat}
    {issues : List IssueCall} {waits : List WaitCall} (hstep : traffic.step? turn = some step)
    (hmade : traffic.table.made? step = none) (hturn : turn ≠ .callback)
    (hstopping : stopping = traffic.stopping ∨ turn = .cancelAll) :
    traffic.Takes turn { traffic.enter step with stopping, issues, waits } where
  table := by rw [hstep]; rfl
  log := by rw [hstep]; rfl
  timing := .rests hturn rfl rfl hstopping fun _ hmem =>
    h.sound.mem_of_mem_apply (fun _ hsome => nomatch hsome.symm.trans hmade) hmem

theorem Valid.takes_enter (h : traffic.Valid) {step : RouterStep}
    (hstep : traffic.step? turn = some step) (hmade : traffic.table.made? step = none)
    (hturn : turn ≠ .callback) : traffic.Takes turn (traffic.enter step) :=
  h.takes_step hstep hmade hturn (Or.inl rfl)

theorem Valid.takes_issue (h : traffic.Valid) (request : CorrelatedRequest) :
    traffic.Takes (.issue request) (traffic.issue request) := by
  unfold Traffic.issue
  dsimp only
  split
  next hmade => exact h.takes_enter rfl hmade nofun
  next made hmade =>
    have hwaits := h.sound.mem_pending_beginIssue hmade
    obtain ⟨hpending, hopen⟩ :=
      h.sound.opens_of_empty hmade ((h.sound.apply _).outcome?_pending hwaits)
    exact ⟨rfl, rfl, .schedules made nofun rfl rfl rfl hpending hopen⟩

theorem Valid.takes_expect (h : traffic.Valid) (id : CorrelationId) (filter : FrameFilter)
    (timeout : Nat) :
    traffic.Takes (.expect id filter timeout) (traffic.expect id filter timeout) := by
  unfold Traffic.expect
  dsimp only
  split
  next hmade => exact h.takes_enter rfl hmade nofun
  next made hmade =>
    split
    next hfilled =>
      refine ⟨rfl, rfl, .rests nofun rfl rfl (Or.inl rfl) fun request hmem => ?_⟩
      refine h.sound.mem_of_mem_apply (fun other hother => ?_) hmem
      rwa [← Option.some_inj.mp (hmade.symm.trans hother)]
    next hempty =>
      obtain ⟨hpending, hopen⟩ :=
        h.sound.opens_of_empty hmade (Option.not_isSome_iff_eq_none.mp hempty)
      exact ⟨rfl, rfl, .schedules made nofun rfl rfl rfl hpending hopen⟩

/-- Every turn that can be taken does one of these things. -/
theorem Valid.takes (h : traffic.Valid) (hnext : traffic.take? turn = some next) :
    traffic.Takes turn next := by
  cases moves hnext with
  | issue request => exact h.takes_issue request
  | @abandon index call reason hcall hstage =>
      have hstep : traffic.step? (.abandon index) = some (.abandonIssue call.handle reason) := by
        simp only [step?, hcall, Option.bind_some, hstage]
      exact h.takes_step hstep rfl (by simp) (Or.inl rfl)
  | expect id filter timeout => exact h.takes_expect id filter timeout
  | @giveUp index call hcall hstage =>
      have hstep : traffic.step? (.giveUp index) =
          some (.expire call.handle.id call.handle.ticket) := by
        simp only [step?, hcall, Option.map_some]
      exact h.takes_step hstep rfl (by simp) (Or.inl rfl)
  | cancelAll => exact h.takes_step rfl rfl (by simp) (Or.inr rfl)
  | stopTimer hcalled => exact ⟨rfl, (List.append_nil _).symm, .stops rfl hcalled rfl rfl rfl⟩
  | @fire entry timer hidle hpop =>
      exact ⟨rfl, (List.append_nil _).symm, .fires entry rfl hidle hpop rfl rfl rfl⟩
  | @callback expiry hcarried =>
      have hstep : traffic.step? .callback = some (.expire expiry.id expiry.ticket) := by
        simp only [step?, hcarried, Option.map_some]
      refine ⟨by rw [hstep]; rfl, by rw [hstep]; rfl, ?_⟩
      exact .handsOver expiry hcarried rfl rfl rfl rfl
  | allocate | deliver | cancel | close | countHeld => exact h.takes_enter rfl rfl (by simp)
  | startSend | sendOk | sendError | wait | lookFilled | lookLate | lookEarly | pass =>
      exact takes_elsewhere rfl (by simp)

/-! ## Runs -/

theorem play?_append (traffic : Traffic) (first second : List Turn) :
    traffic.play? (first ++ second) =
      (traffic.play? first).bind fun middle => middle.play? second := by
  induction first generalizing traffic with
  | nil => rfl
  | cons turn rest ih =>
      simp only [List.cons_append, play?, Option.bind_assoc]
      congr 1
      funext middle
      exact ih middle

/-- A run with a turn in its middle leads up to the turn, through it and on from there. -/
theorem play?_middle {before after : List Turn} {last : Traffic}
    (hplay : traffic.play? (before ++ turn :: after) = some last) :
    ∃ earlier next, traffic.play? before = some earlier ∧ earlier.take? turn = some next ∧
      next.play? after = some last := by
  rw [play?_append] at hplay
  obtain ⟨earlier, hbefore, hrest⟩ := Option.bind_eq_some_iff.mp hplay
  obtain ⟨next, hturn, hafter⟩ := Option.bind_eq_some_iff.mp hrest
  exact ⟨earlier, next, hbefore, hturn, hafter⟩

theorem play?_concat (traffic : Traffic) (turns : List Turn) (turn : Turn) :
    traffic.play? (turns ++ [turn]) =
      (traffic.play? turns).bind fun last => last.take? turn := by
  rw [play?_append]
  congr 1
  funext last
  exact Option.bind_fun_some _

/-- What is true before all turns and made true by each of them is true after them. -/
@[elab_as_elim]
theorem play?_induction {motive : Traffic → List Turn → Prop} {turns : List Turn}
    (hplay : ({} : Traffic).play? turns = some traffic) (hempty : motive {} [])
    (hturn : ∀ (turns : List Turn) (turn : Turn) (earlier later : Traffic),
      ({} : Traffic).play? turns = some earlier → motive earlier turns →
      earlier.take? turn = some later → motive later (turns ++ [turn])) :
    motive traffic turns := by
  induction turns using List.reverseRecOn generalizing traffic with
  | nil =>
      cases hplay
      exact hempty
  | append_singleton rest turn ih =>
      rw [play?_concat] at hplay
      obtain ⟨earlier, hearlier, hlast⟩ := Option.bind_eq_some_iff.mp hplay
      exact hturn rest turn earlier traffic hearlier (ih hearlier) hlast

/-- What happens to the table during some turns is a run of steps, which the log notes. -/
theorem Valid.run_play? (h : traffic.Valid) {turns : List Turn}
    (hplay : traffic.play? turns = some next) :
    ∃ steps, next.table = traffic.table.run steps ∧ next.log = traffic.log ++ steps := by
  induction turns generalizing traffic with
  | nil =>
      cases hplay
      exact ⟨[], rfl, (List.append_nil _).symm⟩
  | cons turn rest ih =>
      obtain ⟨middle, hmiddle, hrest⟩ := Option.bind_eq_some_iff.mp hplay
      obtain ⟨steps, htable, hlog⟩ := ih (h.take? hmiddle) hrest
      have htakes := h.takes hmiddle
      refine ⟨(traffic.step? turn).toList ++ steps, ?_, ?_⟩
      · rw [htable, htakes.table, RequestTable.run_append]
      · rw [hlog, htakes.log, List.append_assoc]

end Traffic

end GroundLink
