import GroundLink.Proofs.Router.Deadlines
import GroundLink.Proofs.Router.Turns

/-! # Nobody waits without a deadline

The table of requests and the queue of the timer are separate, and between the two the timer thread
carries an entry that is in neither. Nevertheless every request that waits has its entry: it is
scheduled as soon as the request is entered, it leaves the queue only to be carried, and when it has
been handed over the request waits no more. The queue is emptied only by a teardown that has been in
the router before, and then nobody waits, now or later.
-/

namespace GroundLink

namespace Traffic

variable {traffic next : Traffic} {turn : Turn} {turns : List Turn}

/-- The entry of a handle is in the queue, or the timer thread carries what is in it. -/
def Watches (traffic : Traffic) (handle : Handle) : Prop :=
  (∃ entry ∈ traffic.timer.queue, entry.item = ⟨handle.id, handle.ticket⟩ ∧
      entry.deadline = handle.deadline) ∨
    traffic.firing = some ⟨handle.id, handle.ticket⟩

/-- Everyone who waits is watched, and the timer is stopped only after the router has been. -/
structure Guarded (traffic : Traffic) : Prop where
  watched : ∀ request ∈ traffic.table.pending, traffic.Watches request.handle
  torn : 0 < traffic.stopping ∨ traffic.timer.stopped = true → traffic.table.shutDown = true
  emptied : traffic.timer.stopped = true → traffic.timer.queue = []

theorem Guarded.empty : Guarded {} := ⟨nofun, nofun, fun _ => rfl⟩

/-- Where nothing is torn down the timer works. -/
theorem Guarded.running (h : traffic.Guarded) (hopen : traffic.table.shutDown = false) :
    traffic.stopping = 0 ∧ traffic.timer.stopped = false := by
  have hnone : ¬ (0 < traffic.stopping ∨ traffic.timer.stopped = true) := by
    intro htorn
    exact nomatch hopen.symm.trans (h.torn htorn)
  rw [not_or, Nat.not_lt, Nat.le_zero_eq, Bool.not_eq_true] at hnone
  exact hnone

/-- The request that a timer thread carries waits no more after it has been handed over. -/
theorem Guarded.watched_handsOver (h : traffic.Guarded) (hsound : traffic.table.Sound)
    {expiry : Expiry} (hcarried : traffic.firing = some expiry) {request : Pending}
    (hmem : request ∈ (traffic.table.apply (.expire expiry.id expiry.ticket)).pending) :
    ∃ entry ∈ traffic.timer.queue,
      entry.item = ⟨request.handle.id, request.handle.ticket⟩ ∧
        entry.deadline = request.handle.deadline := by
  have hwaits := hsound.mem_of_mem_apply (fun made hmade => by cases hmade) hmem
  rcases h.watched request hwaits with hqueued | hfiring
  · exact hqueued
  · obtain rfl := Option.some_inj.mp (hcarried.symm.trans hfiring)
    have hended := hsound.outcome?_apply_pending hwaits
      (.expire request.handle.id request.handle.ticket)
    rw [(hsound.apply _).outcome?_pending hmem] at hended
    simp [RouterStep.ends?, RouterStep.event?] at hended

theorem Guarded.take? (h : traffic.Guarded) (hvalid : traffic.Valid)
    (hnext : traffic.take? turn = some next) : next.Guarded := by
  have htakes := hvalid.takes hnext
  have hgate := traffic.table.shutDown_run (traffic.step? turn).toList
  rw [← htakes.table] at hgate
  cases htakes.timing with
  | rests hturn htimer hfiring hstopping hpending =>
      refine ⟨fun request hmem => ?_, fun htorn => ?_, by rw [htimer]; exact h.emptied⟩
      · rw [Watches, htimer, hfiring]
        exact h.watched request (hpending request hmem)
      · apply hgate.mpr
        rw [htimer] at htorn
        rcases hstopping with hsame | rfl
        · exact Or.inl (h.torn (hsame ▸ htorn))
        · exact Or.inr (List.mem_singleton_self _)
  | schedules made hturn htimer hfiring hstopping hpending hopen =>
      obtain ⟨hnone, hrunning⟩ := h.running hopen
      have hstopped : next.timer.stopped = false := by rw [htimer]; exact hrunning
      refine ⟨fun request hmem => ?_, ?_, ?_⟩
      · rw [hpending] at hmem
        rw [Watches, htimer, hfiring]
        rcases List.mem_append.mp hmem with hmem | hmem
        · refine (h.watched request hmem).imp_left ?_
          rintro ⟨entry, hentry, hitem⟩
          exact ⟨entry, DeadlineTimer.mem_insert.mpr (Or.inr hentry), hitem⟩
        · rw [List.mem_singleton.mp hmem]
          exact Or.inl ⟨_, DeadlineTimer.mem_insert.mpr (Or.inl rfl), rfl, rfl⟩
      · rintro (htorn | htorn)
        · omega
        · exact nomatch hstopped.symm.trans htorn
      · exact fun htorn => nomatch hstopped.symm.trans htorn
  | stops hturn hcalled htimer hfiring htable =>
      have hshutDown := h.torn (Or.inl hcalled)
      have hnobody := hvalid.sound.idle (Or.inl hshutDown)
      refine ⟨fun request hmem => ?_, fun _ => htable ▸ hshutDown, fun _ => by rw [htimer]; rfl⟩
      rw [htable, hnobody] at hmem
      exact absurd hmem List.not_mem_nil
  | fires entry hturn hidle hpop hfiring hstopping htable =>
      obtain ⟨hqueue, -⟩ := DeadlineTimer.pop?_eq_some hpop
      obtain ⟨hstopped, hrunning⟩ := DeadlineTimer.pop?_stopped hpop
      refine ⟨fun request hmem => ?_, ?_, fun htorn => nomatch hrunning.symm.trans htorn⟩
      · rw [htable] at hmem
        rcases h.watched request hmem with ⟨other, hother, hitem⟩ | hcarried
        · rw [hqueue] at hother
          rcases List.mem_cons.mp hother with rfl | hother
          · exact Or.inr (hfiring.trans (congrArg some hitem.1))
          · exact Or.inl ⟨other, hother, hitem⟩
        · exact nomatch hidle.symm.trans hcarried
      · rw [hrunning, hstopping, htable, ← hstopped]
        exact h.torn
  | handsOver expiry hcarried htimer hfiring hstopping htable =>
      refine ⟨fun request hmem => Or.inl ?_, ?_, by rw [htimer]; exact h.emptied⟩
      · rw [htable] at hmem
        rw [htimer]
        exact h.watched_handsOver hvalid.sound hcarried hmem
      · rw [htimer, hstopping]
        exact fun htorn => hgate.mpr (Or.inl (h.torn htorn))

theorem Guarded.play? (h : traffic.Guarded) (hvalid : traffic.Valid)
    (hplay : traffic.play? turns = some next) : next.Guarded :=
  hvalid.play?_keeps h (fun hvalid hguarded => hguarded.take? hvalid) hplay

/-! ## What the timer thread carries -/

/-- During these turns the timer thread has taken an entry out that it has not handed over. -/
def Carries (turns : List Turn) (entry : TimerEntry Expiry) : Prop :=
  ∃ before after earlier timer, turns = before ++ .fire :: after ∧ .callback ∉ after ∧
    ({} : Traffic).play? before = some earlier ∧
    earlier.timer.pop? earlier.now = some (entry, timer)

theorem Carries.concat {entry : TimerEntry Expiry} (h : Carries turns entry)
    (hturn : turn ≠ .callback) : Carries (turns ++ [turn]) entry := by
  obtain ⟨before, after, earlier, timer, rfl, hafter, hearlier⟩ := h
  refine ⟨before, after ++ [turn], earlier, timer, by simp, ?_, hearlier⟩
  simpa [Ne.symm hturn] using hafter

/-- What the timer thread has in its hands comes from an entry that it has taken out. -/
theorem carries_of_firing (hplay : ({} : Traffic).play? turns = some traffic) {expiry : Expiry}
    (hcarried : traffic.firing = some expiry) :
    ∃ entry, Carries turns entry ∧ entry.item = expiry := by
  revert hcarried
  refine play?_induction hplay ?_ ?_
  · intro hcarried
    cases hcarried
  · intro rest turn earlier traffic hbefore ih hturn hcarried
    -- only a turn that takes an entry out changes what is carried, unless nothing is carried
    have hsame : turn ≠ .callback → traffic.firing = earlier.firing →
        ∃ entry, Carries (rest ++ [turn]) entry ∧ entry.item = expiry := by
      intro hne heq
      obtain ⟨entry, hcarries, hitem⟩ := ih (heq ▸ hcarried)
      exact ⟨entry, hcarries.concat hne, hitem⟩
    cases ((Valid.empty.play? hbefore).takes hturn).timing with
    | rests hne htimer hfiring hstopping hpending => exact hsame hne hfiring
    | schedules made hne htimer hfiring hstopping hpending hopen => exact hsame hne hfiring
    | stops hstop hcalled htimer hfiring htable => exact hsame (by simp [hstop]) hfiring
    | fires entry hfire hidle hpop hfiring hstopping htable =>
        subst turn
        refine ⟨entry, ⟨rest, [], earlier, _, rfl, List.not_mem_nil, hbefore, hpop⟩, ?_⟩
        exact Option.some_inj.mp (hfiring.symm.trans hcarried)
    | handsOver other hearlier htimer hfiring hstopping htable =>
        exact nomatch hfiring.symm.trans hcarried

/-- An entry that has been taken out for a request that waits has the deadline of the request. -/
theorem Carries.deadline_eq {entry : TimerEntry Expiry} (h : Carries turns entry)
    (hplay : ({} : Traffic).play? turns = some traffic) {request : Pending}
    (hmem : request ∈ traffic.table.pending)
    (hitem : entry.item = ⟨request.handle.id, request.handle.ticket⟩) :
    entry.deadline = request.handle.deadline := by
  obtain ⟨before, after, earlier, timer, rfl, -, hbefore, hpop⟩ := h
  have hvalid := Valid.empty.play? hplay
  have hearlier := Valid.empty.play? hbefore
  -- in the queue the entry had the deadline of a handle with its ticket
  obtain ⟨hqueue, -⟩ := DeadlineTimer.pop?_eq_some hpop
  obtain ⟨handle, hgiven, hitem', hdeadline⟩ :=
    (Timed.empty.play? Valid.empty hbefore).queued entry (hqueue ▸ List.mem_cons_self)
  -- this handle is still given out, and no other one has the ticket
  rw [play?_append, hbefore] at hplay
  obtain ⟨steps, -, hlog⟩ := hearlier.run_play? hplay
  obtain ⟨other, hother, rfl⟩ := hgiven.of_prefix (hlog ▸ List.prefix_append _ steps)
  rw [hvalid.table] at hmem
  have hmade := (RequestTable.Sound.empty.waited_or_mem_made hmem).resolve_left List.not_mem_nil
  have hticket : request.handle.ticket = other.handle.ticket :=
    congrArg Expiry.ticket (hitem.symm.trans hitem')
  rw [hdeadline, RequestTable.eq_of_ticket_made hmade hother hticket]

end Traffic

/-- However the turns of all callers, the timer and the clock are mixed: every request that waits
has an entry with its number, its ticket and its deadline, which is in the queue of the timer, or
has been taken out by the timer thread and is yet to be handed over. Once the timer has been
stopped, and ever after, nobody waits and no step gives out a handle. -/
theorem waiting_has_entry_until_stopped {turns : List Turn} {traffic : Traffic}
    (hplay : ({} : Traffic).play? turns = some traffic) :
    (∀ request ∈ traffic.table.pending, ∃ entry : TimerEntry Expiry,
      entry.item = ⟨request.handle.id, request.handle.ticket⟩ ∧
      entry.deadline = request.handle.deadline ∧
      (entry ∈ traffic.timer.queue ∨
        Traffic.Carries turns entry ∧ traffic.firing = some entry.item)) ∧
    (traffic.timer.stopped = true → ∀ later last, traffic.play? later = some last →
      last.table.pending = [] ∧ ∀ step, last.table.made? step = none) := by
  have hvalid := Traffic.Valid.empty.play? hplay
  have hguarded := Traffic.Guarded.empty.play? Traffic.Valid.empty hplay
  constructor
  · intro request hmem
    rcases hguarded.watched request hmem with ⟨entry, hqueued, hitem, hdeadline⟩ | hcarried
    · exact ⟨entry, hitem, hdeadline, Or.inl hqueued⟩
    · obtain ⟨entry, hcarries, hitem⟩ := Traffic.carries_of_firing hplay hcarried
      refine ⟨entry, hitem, ?_, Or.inr ⟨hcarries, by rw [hcarried, hitem]⟩⟩
      exact hcarries.deadline_eq hplay hmem hitem
  · intro hstopped later last hlater
    obtain ⟨steps, htable, -⟩ := hvalid.run_play? hlater
    have hshutDown : last.table.shutDown = true := by
      rw [htable, RequestTable.shutDown_run]
      exact Or.inl (hguarded.torn (Or.inr hstopped))
    exact ⟨(hvalid.play? hlater).sound.idle (Or.inl hshutDown),
      RequestTable.made?_of_shutDown hshutDown⟩

/-- Two requests wait after the deadline of the first one: the timer thread carries its entry, and
the other one is in the queue. After a teardown a new request is refused, and the entry that is
handed over late ends nothing. -/
theorem waiting_has_entry_until_stopped_carried :
    let turns : List Turn :=
      [.issue ⟨7, [1], .any, 10⟩, .issue ⟨8, [2], .any, 20⟩, .pass 12, .fire]
    let later : List Turn := [.issue ⟨9, [3], .any, 10⟩, .callback]
    ∃ traffic, ({} : Traffic).play? turns = some traffic ∧
      traffic.table.pending = [⟨⟨7, 0, 10⟩, .any⟩, ⟨⟨8, 1, 20⟩, .any⟩] ∧
      traffic.timer.queue = [⟨20, 1, ⟨8, 1⟩⟩] ∧ traffic.firing = some ⟨7, 0⟩ ∧
      (∃ entry : TimerEntry Expiry, entry.item = ⟨7, 0⟩ ∧ entry.deadline = 10 ∧
        (entry ∈ traffic.timer.queue ∨
          Traffic.Carries turns entry ∧ traffic.firing = some entry.item)) ∧
      ∃ torn last, ({} : Traffic).play? (turns ++ [.cancelAll, .stopTimer]) = some torn ∧
        torn.timer.stopped = true ∧ torn.play? later = some last ∧ last.log.length = 5 ∧
        last.table.pending = [] ∧ ∀ step, last.table.made? step = none := by
  have hwaits := @waiting_has_entry_until_stopped
    [.issue ⟨7, [1], .any, 10⟩, .issue ⟨8, [2], .any, 20⟩, .pass 12, .fire] _ rfl
  have htorn := @waiting_has_entry_until_stopped [.issue ⟨7, [1], .any, 10⟩,
    .issue ⟨8, [2], .any, 20⟩, .pass 12, .fire, .cancelAll, .stopTimer] _ rfl
  refine ⟨_, rfl, rfl, rfl, rfl, ?_, _, _, rfl, rfl, rfl, rfl, ?_⟩
  · exact hwaits.1 ⟨⟨7, 0, 10⟩, .any⟩ List.mem_cons_self
  · exact htorn.2 rfl [.issue ⟨9, [3], .any, 10⟩, .callback] _ rfl

end GroundLink
