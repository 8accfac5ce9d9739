import GroundLink.Proofs.Router.Operations
import GroundLink.Proofs.Router.Trace
import GroundLink.Proofs.Router.Watch

/-! # Teardown and the end of the link are final

After teardown the router is empty for ever: nobody waits, nothing is kept back, the timer has
nothing to do, and whoever asks for a response is told that the request is cancelled. After the end
of the link nobody waits either, and requests are refused with the reason that was given first; but
what is kept back may still serve those who ask for it. Sends that are at work and entries that the
timer thread carries come to their ends afterwards and change nothing of this.
-/

namespace GroundLink

namespace RequestTable

variable {table : RequestTable} {id : CorrelationId} {filter : FrameFilter}

/-- What is kept back after teardown has been kept back since, and nothing has. -/
theorem held_of_shutDown {steps : List RouterStep}
    (h : (({} : RequestTable).run steps).shutDown = true) :
    (({} : RequestTable).run steps).held = [] := by
  induction steps using List.reverseRecOn with
  | nil => rfl
  | append_singleton rest step ih =>
      rw [run_concat] at h ⊢
      rw [shutDown_apply, Bool.or_eq_true, beq_iff_eq] at h
      rcases h with hearlier | rfl
      · have hsound := sound_run rest
        have hnobody := hsound.idle (Or.inl hearlier)
        rw [List.eq_nil_iff_forall_not_mem]
        intro kept hkept
        cases hsound.effect step with
        | opens made hmade hticket hfree hpending hslots hidle hheld =>
            exact nomatch (made?_of_shutDown hearlier step).symm.trans hmade
        | serves made served hmade hstep hticket hpending hslots hidle hserved hanswers hheld =>
            exact nomatch (made?_of_shutDown hearlier step).symm.trans hmade
        | settles hmade hsettles hheld =>
            rcases hheld kept hkept with hkept | ⟨now, -, request, hmem, -⟩
            · exact absurd (ih hearlier ▸ hkept) List.not_mem_nil
            · exact absurd (hnobody ▸ hmem) List.not_mem_nil
      · exact resolveAll_held _

/-- A teardown of what is torn down changes nothing. -/
theorem cancelAll_of_shutDown (hshutDown : table.shutDown = true) (hpending : table.pending = [])
    (hheld : table.held = []) : table.cancelAll = table := by
  cases table
  cases hshutDown
  cases hpending
  cases hheld
  rfl

theorem close_of_closed {reason : String} (h : table.closed = some reason) (later : String) :
    table.close later = table := by
  rw [close, h]

theorem deliver_of_idle (h : table.pending = []) (now : Nat) (frame : Frame) :
    table.deliver now frame = (.unsolicited, table) := by
  have hnone : ∀ id, table.find? id = none := by
    intro id
    rw [find?, h, List.find?_nil]
  cases frame with
  | response response => simp only [deliver, hnone]
  | _ => rfl

theorem isPending_of_idle (h : table.pending = []) (id : CorrelationId) :
    table.isPending id = false := by
  rw [isPending_eq_false_iff, h]
  exact fun _ hmem => absurd hmem List.not_mem_nil

/-- When the link is gone, a response kept back serves whoever asks for it. -/
theorem expect_kept (hshutDown : table.shutDown = false) (hpending : table.pending = [])
    {now : Nat} {kept : HeldResponse} (hkept : kept ∈ table.held) (hfresh : kept.isFresh now = true)
    (hanswers : kept.answers id filter = true) (timeout : Nat) :
    ∃ handle, (table.expect id filter now timeout).1 = .ok handle := by
  rw [expect_of_free filter now timeout hshutDown (isPending_of_idle hpending id)]
  cases hfind : (table.prune now).held.find? fun kept => kept.answers id filter with
  | some served => exact ⟨_, rfl⟩
  | none =>
      have hnot := List.find?_eq_none.mp hfind kept (List.mem_filter.mpr ⟨hkept, hfresh⟩)
      exact absurd hanswers hnot

theorem expect_of_closed {reason : String} (hshutDown : table.shutDown = false)
    (hclosed : table.closed = some reason) (hpending : table.pending = []) {now : Nat}
    (hnone : ∀ kept ∈ table.held, kept.isFresh now = true → kept.answers id filter = false)
    (timeout : Nat) :
    (table.expect id filter now timeout).1 = .error (.transportUnavailable reason) := by
  have hfind : (table.prune now).held.find? (fun kept => kept.answers id filter) = none := by
    refine List.find?_eq_none.mpr fun kept hkept => ?_
    obtain ⟨hkept, hfresh⟩ := List.mem_filter.mp hkept
    simp [hnone kept hkept hfresh]
  have hgate : (table.prune now).ensureOpen id = .error (.transportUnavailable reason) :=
    ensureOpen_of_closed hshutDown hclosed id
  rw [expect_of_free filter now timeout hshutDown (isPending_of_idle hpending id), hfind]
  simp only [hgate]

end RequestTable

namespace Router

variable {router : Router}

/-- A request that finds a gate closed is not sent, and leaves no trace. -/
theorem issue_of_ensureOpen {request : CorrelatedRequest} {error : RouterError}
    (h : router.table.ensureOpen request.id = .error error) :
    router.issue request = (.error error, router) := by
  simp only [issue, register, RequestTable.beginIssue_of_ensureOpen h]

theorem expect_of_shutDown (h : router.table.shutDown = true) (id : CorrelationId)
    (filter : FrameFilter) (timeout : Nat) :
    router.expect id filter timeout = (.error (.cancelled id), router) := by
  simp only [expect, RequestTable.expect_of_shutDown h]

theorem expect_answer (router : Router) (id : CorrelationId) (filter : FrameFilter)
    (timeout : Nat) :
    (router.expect id filter timeout).1 =
      (router.table.expect id filter router.now timeout).1 := by
  unfold expect
  split
  next handle table heq =>
    rw [heq]
    dsimp only
    split <;> rfl
  next error table heq => rw [heq]

/-- When nobody waits, every frame goes to the observer and to nobody else. -/
theorem deliver_of_idle (h : router.table.pending = []) (frame : Frame) :
    router.deliver frame = { router with
      observers := if 1 < router.observers.length then router.observers.tail else router.observers
      observed := router.observed ++
        router.observers.head?.toList.map fun observer => (observer, frame) } := by
  simp only [deliver, RequestTable.deliver_of_idle h, report_eq]

end Router

namespace Traffic

variable {traffic next : Traffic} {turn : Turn} {turns before after : List Turn}

/-! ## From turns to steps -/

/-- Only a teardown and the end of the link close a gate. -/
theorem gate_of_step? {step : RouterStep} (h : traffic.step? turn = some step) :
    (step = .cancelAll → turn = .cancelAll) ∧
      ∀ reason, step = .close reason → turn = .close reason := by
  cases turn with
  | abandon index =>
      obtain ⟨call, -, hstep⟩ := Option.bind_eq_some_iff.mp h
      split at hstep <;> cases hstep
      exact ⟨nofun, nofun⟩
  | giveUp index =>
      obtain ⟨call, -, rfl⟩ := Option.map_eq_some_iff.mp h
      exact ⟨nofun, nofun⟩
  | callback =>
      obtain ⟨expiry, -, rfl⟩ := Option.map_eq_some_iff.mp h
      exact ⟨nofun, nofun⟩
  | _ => cases h <;> simp

/-- Every step in the log is the step of some turn. -/
theorem Valid.exists_turn (h : traffic.Valid) (hplay : traffic.play? turns = some next)
    {step : RouterStep} (hstep : step ∈ next.log) :
    step ∈ traffic.log ∨ ∃ turn ∈ turns, ∃ earlier : Traffic, earlier.step? turn = some step := by
  induction turns generalizing traffic with
  | nil =>
      cases hplay
      exact Or.inl hstep
  | cons turn rest ih =>
      obtain ⟨middle, hmiddle, hrest⟩ := Option.bind_eq_some_iff.mp hplay
      rcases ih (h.take? hmiddle) hrest with hearlier | ⟨later, hlater, hentered⟩
      · rw [(h.takes hmiddle).log] at hearlier
        refine (List.mem_append.mp hearlier).imp_right fun hlast => ?_
        exact ⟨turn, List.mem_cons_self, traffic, Option.mem_toList.mp hlast⟩
      · exact Or.inr ⟨later, List.mem_cons_of_mem turn hlater, hentered⟩

/-- The table is torn down exactly when a teardown has entered the router. -/
theorem shutDown_iff (hplay : ({} : Traffic).play? turns = some traffic) :
    traffic.table.shutDown = true ↔ .cancelAll ∈ turns := by
  have hvalid := Valid.empty.play? hplay
  rw [hvalid.table, RequestTable.shutDown_run]
  constructor
  · rintro (hempty | hstep)
    · exact nomatch hempty
    · obtain ⟨turn, hturn, earlier, hentered⟩ :=
        (Valid.empty.exists_turn hplay hstep).resolve_left List.not_mem_nil
      exact (gate_of_step? hentered).1 rfl ▸ hturn
  · intro hmem
    obtain ⟨before, after, rfl⟩ := List.append_of_mem hmem
    obtain ⟨earlier, next, hbefore, hturn, hafter⟩ := play?_middle hplay
    have hearlier := Valid.empty.play? hbefore
    obtain ⟨steps, -, hlog⟩ := (hearlier.take? hturn).run_play? hafter
    right
    rw [hlog, (hearlier.takes hturn).log]
    exact List.mem_append_left _ (List.mem_append_right _ (List.mem_singleton_self _))

/-- The table keeps the reason with which the link was closed first. -/
theorem closed_of_first {reason : String}
    (hplay : ({} : Traffic).play? (before ++ .close reason :: after) = some traffic)
    (hfirst : ∀ earlier, .close earlier ∉ before) : traffic.table.closed = some reason := by
  obtain ⟨earlier, next, hbefore, hturn, hafter⟩ := play?_middle hplay
  have hearlier := Valid.empty.play? hbefore
  have hopen : earlier.table.closed = none := by
    rw [hearlier.table, RequestTable.closed_run, Option.none_or, List.findSome?_eq_none_iff]
    intro step hstep
    cases hclosing : step.closing? with
    | none => rfl
    | some other =>
        obtain ⟨turn, hmem, start, hentered⟩ :=
          (Valid.empty.exists_turn hbefore hstep).resolve_left List.not_mem_nil
        have hclose := RouterStep.eq_close_of_closing? hclosing
        exact absurd ((gate_of_step? hentered).2 other hclose ▸ hmem) (hfirst other)
  obtain ⟨steps, htable, -⟩ := (hearlier.take? hturn).run_play? hafter
  rw [htable, RequestTable.closed_run, (hearlier.takes hturn).table, RequestTable.closed_run, hopen]
  rfl

/-! ## The timer -/

theorem Takes.stopped (h : traffic.Takes turn next) (hstopped : traffic.timer.stopped = true) :
    next.timer.stopped = true := by
  cases h.timing with
  | rests hturn htimer hfiring hstopping hpending => rw [htimer, hstopped]
  | schedules made hturn htimer hfiring hstopping hpending hopen =>
      rw [htimer]
      exact hstopped
  | stops hturn hcalled htimer hfiring htable => rw [htimer]; rfl
  | fires entry hturn hidle hpop hfiring hstopping htable =>
      exact nomatch (DeadlineTimer.pop?_stopped hpop).1.symm.trans hstopped
  | handsOver expiry hcarried htimer hfiring hstopping htable => rw [htimer, hstopped]

theorem Valid.stopped_play? (h : traffic.Valid) (hplay : traffic.play? turns = some next)
    (hstopped : traffic.timer.stopped = true) : next.timer.stopped = true :=
  h.play?_keeps hstopped (fun hvalid hearlier hnext => (hvalid.takes hnext).stopped hearlier) hplay

/-- When a teardown has stopped the timer, its queue is empty for ever. -/
theorem stopped_of_stopTimer (hplay : ({} : Traffic).play? turns = some traffic)
    (hmem : .stopTimer ∈ turns) :
    traffic.timer.stopped = true ∧ traffic.timer.queue = [] := by
  obtain ⟨before, after, rfl⟩ := List.append_of_mem hmem
  obtain ⟨earlier, next, hbefore, hturn, hafter⟩ := play?_middle hplay
  have hnext : next.timer.stopped = true := by
    simp only [Traffic.take?] at hturn
    split at hturn
    · cases hturn
      rfl
    · cases hturn
  have hstopped :=
    ((Valid.empty.play? hbefore).take? hturn).stopped_play? hafter hnext
  exact ⟨hstopped, (Guarded.empty.play? Valid.empty hplay).emptied hstopped⟩

/-- A call that finds a gate closed leaves only its step in the log. -/
theorem issue_of_ensureOpen {request : CorrelatedRequest} {error : RouterError}
    (h : traffic.table.ensureOpen request.id = .error error) :
    traffic.issue request = { traffic with log := traffic.log ++
      [.beginIssue request.id request.filter (traffic.now + request.timeout)] } := by
  simp only [issue, enter, RequestTable.made?, RequestTable.apply,
    RequestTable.beginIssue_of_ensureOpen h]

theorem expect_of_shutDown (h : traffic.table.shutDown = true) (id : CorrelationId)
    (filter : FrameFilter) (timeout : Nat) :
    traffic.expect id filter timeout = { traffic with log := traffic.log ++
      [.expect id filter traffic.now timeout] } := by
  simp only [expect, enter, RequestTable.made?, RequestTable.apply,
    RequestTable.expect_of_shutDown h]

end Traffic

theorem DeadlineTimer.stop_of_stopped {α : Type} {timer : DeadlineTimer α}
    (hstopped : timer.stopped = true) (hqueue : timer.queue = []) : timer.stop = timer := by
  rw [stop, ← hstopped, ← hqueue]

/-- However the turns of all callers, the timer and the clock are mixed. From a teardown on nobody
waits and nothing is kept back, and when it has stopped the timer, the queue of the timer stays
empty. Every handle ever given out has an outcome; whoever asks for a response is told that the
request is cancelled, whether the link is gone or not, and nothing is sent; every frame is shown to
the observer as unsolicited and changes nothing else; another teardown changes nothing. From the
first end of the link on nobody waits, and another end of the link changes nothing. Unless there is
a teardown, requests to be sent are refused with the reason given first, and so is whoever asks for
another response, except when one that is kept back answers. -/
theorem teardown_and_close_are_final :
    (∀ before after traffic, ({} : Traffic).play? (before ++ .cancelAll :: after) = some traffic →
      traffic.table.pending = [] ∧ traffic.table.held = [] ∧
      (.stopTimer ∈ after → traffic.timer.queue = [] ∧ traffic.timer.stop = traffic.timer) ∧
      (∀ request ∈ ({} : RequestTable).made traffic.log,
        (traffic.table.outcome? request.handle.ticket).isSome) ∧
      traffic.table.cancelAll = traffic.table ∧
      (∀ request, traffic.take? (.issue request) = some { traffic with log := traffic.log ++
        [.beginIssue request.id request.filter (traffic.now + request.timeout)] }) ∧
      (∀ id filter timeout, traffic.take? (.expect id filter timeout) = some { traffic with
        log := traffic.log ++ [.expect id filter traffic.now timeout] }) ∧
      ∀ router : Router, router.table = traffic.table →
        (∀ request, router.issue request = (.error (.cancelled request.id), router)) ∧
        (∀ id filter timeout,
          router.expect id filter timeout = (.error (.cancelled id), router)) ∧
        ∀ frame, router.deliver frame = { router with
          observers :=
            if 1 < router.observers.length then router.observers.tail else router.observers
          observed := router.observed ++
            router.observers.head?.toList.map fun observer => (observer, frame) }) ∧
    ∀ before reason after traffic,
      ({} : Traffic).play? (before ++ .close reason :: after) = some traffic →
      (∀ earlier, .close earlier ∉ before) →
      traffic.table.pending = [] ∧ (∀ later, traffic.table.close later = traffic.table) ∧
      (.cancelAll ∉ before → .cancelAll ∉ after →
        ∀ router : Router, router.table = traffic.table →
          (∀ request,
            router.issue request = (.error (.transportUnavailable reason), router)) ∧
          ∀ id filter timeout,
            ((∃ kept ∈ router.table.held, kept.isFresh router.now = true ∧
                kept.answers id filter = true) →
              ∃ handle, (router.expect id filter timeout).1 = .ok handle) ∧
            ((∀ kept ∈ router.table.held, kept.isFresh router.now = true →
                kept.answers id filter = false) →
              (router.expect id filter timeout).1 = .error (.transportUnavailable reason))) := by
  constructor
  · intro before after traffic hplay
    have hvalid := Traffic.Valid.empty.play? hplay
    have hshutDown : traffic.table.shutDown = true :=
      (Traffic.shutDown_iff hplay).mpr (by simp)
    have hpending := hvalid.sound.idle (Or.inl hshutDown)
    have hheld : traffic.table.held = [] := by
      rw [hvalid.table] at hshutDown ⊢
      exact RequestTable.held_of_shutDown hshutDown
    refine ⟨hpending, hheld, fun hmem => ?_, fun request hmade => ?_,
      RequestTable.cancelAll_of_shutDown hshutDown hpending hheld, fun request => ?_,
      fun id filter timeout => ?_, fun router htable => ?_⟩
    · obtain ⟨hstopped, hqueue⟩ := Traffic.stopped_of_stopTimer hplay
        (List.mem_append_right _ (List.mem_cons_of_mem _ hmem))
      exact ⟨hqueue, DeadlineTimer.stop_of_stopped hstopped hqueue⟩
    · have htracks := RequestTable.Sound.empty.tracks_of_mem_made hmade
      rw [← hvalid.table] at htracks
      rw [Option.isSome_iff_ne_none, ne_eq, hvalid.sound.outcome?_eq_none_iff htracks, hpending]
      exact List.not_mem_nil
    · have hgate := RequestTable.ensureOpen_of_shutDown hshutDown request.id
      rw [Traffic.take?, Traffic.issue_of_ensureOpen hgate]
    · rw [Traffic.take?, Traffic.expect_of_shutDown hshutDown]
    · rw [← htable] at hshutDown hpending
      exact ⟨fun request =>
        Router.issue_of_ensureOpen (RequestTable.ensureOpen_of_shutDown hshutDown request.id),
        Router.expect_of_shutDown hshutDown, Router.deliver_of_idle hpending⟩
  · intro before reason after traffic hplay hfirst
    have hclosed := Traffic.closed_of_first hplay hfirst
    have hvalid := Traffic.Valid.empty.play? hplay
    have hpending := hvalid.sound.idle (Or.inr (by rw [hclosed]; rfl))
    refine ⟨hpending, RequestTable.close_of_closed hclosed, ?_⟩
    intro hbefore hafter router htable
    have hopen : traffic.table.shutDown = false := by
      rw [Bool.eq_false_iff, ne_eq, Traffic.shutDown_iff hplay]
      simp [hbefore, hafter]
    rw [← htable] at hclosed hpending hopen
    refine ⟨fun request => Router.issue_of_ensureOpen
      (RequestTable.ensureOpen_of_closed hopen hclosed request.id), ?_⟩
    intro id filter timeout
    rw [router.expect_answer]
    constructor
    · rintro ⟨kept, hkept, hfresh, hanswers⟩
      exact RequestTable.expect_kept hopen hpending hkept hfresh hanswers timeout
    · exact fun hnone => RequestTable.expect_of_closed hopen hclosed hpending hnone timeout

/-- A failure is kept back from a request that is being sent when the link ends. It still serves who
asks for it; after a teardown nothing does, and the send comes to its end. -/
theorem teardown_and_close_are_final_both :
    let failure : Frame := .response ⟨⟨.terminal, .error 3⟩, 7, []⟩
    let request : CorrelatedRequest := ⟨9, [2], .any, 10⟩
    let before : List Turn := [.issue ⟨7, [1], .success .terminal, 10⟩, .startSend 0,
      .deliver failure]
    let gone : List Turn := [.close "again", .pass 5]
    let torn : List Turn := [.endSend 0 (.ok ()), .stopTimer, .close "late", .deliver failure]
    (∃ traffic, ({} : Traffic).play? (before ++ .close "gone" :: gone) = some traffic ∧
      traffic.table.held.length = 1 ∧ traffic.table.pending = [] ∧
      traffic.table.closed = some "gone" ∧
      let router : Router := { table := traffic.table, now := 5 }
      router.issue request = (.error (.transportUnavailable "gone"), router) ∧
        (∃ handle, (router.expect 7 (.error .terminal) 10).1 = .ok handle) ∧
        (router.expect 7 (.success .terminal) 10).1 = .error (.transportUnavailable "gone")) ∧
    ∃ traffic, ({} : Traffic).play? ((before ++ [.close "gone"]) ++ .cancelAll :: torn) =
        some traffic ∧
      traffic.table.held = [] ∧ traffic.timer.queue = [] ∧ (traffic.table.outcome? 0).isSome ∧
      let router : Router := { table := traffic.table, now := 5, observers := ["log"] }
      router.issue request = (.error (.cancelled 9), router) ∧
        router.expect 7 (.error .terminal) 10 = (.error (.cancelled 7), router) ∧
        router.deliver failure = { router with observed := [("log", failure)] } := by
  have hgone := teardown_and_close_are_final.2 [.issue ⟨7, [1], .success .terminal, 10⟩,
    .startSend 0, .deliver (.response ⟨⟨.terminal, .error 3⟩, 7, []⟩)] "gone"
    [.close "again", .pass 5] _ rfl (by simp)
  have htorn := teardown_and_close_are_final.1 [.issue ⟨7, [1], .success .terminal, 10⟩,
    .startSend 0, .deliver (.response ⟨⟨.terminal, .error 3⟩, 7, []⟩), .close "gone"]
    [.endSend 0 (.ok ()), .stopTimer, .close "late",
      .deliver (.response ⟨⟨.terminal, .error 3⟩, 7, []⟩)] _ rfl
  obtain ⟨hissue, hexpect⟩ := hgone.2.2 (by simp) (by simp)
    { table := _, now := 5 } rfl
  obtain ⟨-, hheld, hqueue, hmade, -, -, -, hrouter⟩ := htorn
  obtain ⟨hcancelled, hnothing, hunsolicited⟩ :=
    hrouter { table := _, now := 5, observers := ["log"] } rfl
  refine ⟨⟨_, rfl, rfl, rfl, rfl, hissue _, ?_, ?_⟩, _, rfl, hheld, (hqueue (by simp)).1, ?_,
    hcancelled _, hnothing _ _ _, hunsolicited _⟩
  · exact (hexpect 7 (.error .terminal) 10).1 ⟨⟨0, ⟨⟨.terminal, .error 3⟩, 7, []⟩⟩, by decide⟩
  · exact (hexpect 7 (.success .terminal) 10).2 (by decide)
  · exact hmade ⟨⟨7, 0, 10⟩, .success .terminal⟩ (by decide)

end GroundLink
