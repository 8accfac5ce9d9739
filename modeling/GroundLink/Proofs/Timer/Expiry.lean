import GroundLink.Proofs.Timer.Queue

/-! # What the thread of a timer hands over

Every entry is due when the thread takes it out, and so is it when the callback is called. An entry
is taken out only as the first of the queue, so entries that are in the queue together come out in
its order.
-/

namespace GroundLink

namespace TimerThread

variable {α : Type} {thread next : TimerThread α} {turn : TimerTurn α} {turns : List (TimerTurn α)}

/-- The thread goes by the clock, and hands over what it has taken out. -/
structure Punctual (thread : TimerThread α) : Prop where
  looked : ∀ {time}, thread.stage = .looking time →
    time ≤ thread.now ∧ thread.timer.stopped = false
  carried : ∀ entry ∈ thread.stage.carried, entry.deadline ≤ thread.now
  handed : ∀ given ∈ thread.handed, given.1.deadline ≤ given.2
  taken : thread.taken = thread.handed.map Prod.fst ++ thread.stage.carried

namespace Punctual

theorem empty : Punctual ({} : TimerThread α) where
  looked hstage := by cases hstage
  carried _ hentry := by cases hentry
  handed _ hgiven := by cases hgiven
  taken := rfl

theorem mem_taken (h : thread.Punctual) {given : TimerEntry α × Nat}
    (hgiven : given ∈ thread.handed) : given.1 ∈ thread.taken :=
  h.taken ▸ List.mem_append_left _ (List.mem_map_of_mem hgiven)

theorem taken_of_stage (h : thread.Punctual) (hcarried : thread.stage.carried = []) :
    thread.taken = thread.handed.map Prod.fst := by
  rw [h.taken, hcarried, List.append_nil]

/-- A turn after which the thread neither looks at the queue nor carries anything. -/
theorem idle (h : thread.Punctual) {stage : ThreadStage α} (hcarried : thread.stage.carried = [])
    (hlocked : stage.locked = false) (hidle : stage.carried = []) :
    Punctual { thread with stage } where
  looked hstage := by
    cases hstage
    cases hlocked
  carried entry hentry := by
    rw [hidle] at hentry
    cases hentry
  handed := h.handed
  taken := by rw [h.taken_of_stage hcarried, hidle, List.append_nil]

theorem takeOut (h : thread.Punctual) {time : Nat} {entry : TimerEntry α}
    {timer : DeadlineTimer α} (hstage : thread.stage = .looking time)
    (hpop : thread.timer.pop? time = some (entry, timer)) :
    Punctual { thread with timer, stage := .carrying entry, taken := thread.taken ++ [entry] } where
  looked hcarrying := by cases hcarrying
  carried other hother := by
    cases List.mem_singleton.mp hother
    exact (DeadlineTimer.pop?_eq_some hpop).2.trans (h.looked hstage).1
  handed := h.handed
  taken := by rw [h.taken_of_stage (by rw [hstage]; rfl)]; rfl

theorem handOver (h : thread.Punctual) {entry : TimerEntry α}
    (hstage : thread.stage = .carrying entry) :
    Punctual
      { thread with stage := .awake, handed := thread.handed ++ [(entry, thread.now)] } where
  looked hawake := by cases hawake
  carried _ hother := by cases hother
  handed given hgiven := by
    rcases List.mem_append.mp hgiven with hgiven | hgiven
    · exact h.handed given hgiven
    · cases List.mem_singleton.mp hgiven
      exact h.carried entry (by rw [hstage]; exact List.mem_singleton_self entry)
  taken := by
    have htaken := h.taken
    rw [hstage] at htaken
    simpa [ThreadStage.carried] using htaken

theorem moves (h : thread.Punctual) (hnext : thread.Moves turn next) : next.Punctual := by
  cases hnext with
  | schedule => exact { h with }
  | stop hfree =>
      -- while the thread looks at the queue nobody else has the lock
      refine { h with looked := fun hstage => ?_ }
      rw [show thread.stage = .looking _ from hstage] at hfree
      cases hfree
  | pass milliseconds =>
      exact { h with
        looked := fun hstage => ⟨Nat.le_add_right_of_le (h.looked hstage).1, (h.looked hstage).2⟩
        carried := fun entry hentry => Nat.le_add_right_of_le (h.carried entry hentry) }
  | ending hstage => exact h.idle (by rw [hstage]; rfl) rfl rfl
  | looking hstage hrunning =>
      have hcarried : thread.stage.carried = [] := by rw [hstage]; rfl
      refine ⟨fun hlooking => ?_, fun _ hentry => ?_, h.handed, ?_⟩
      · cases hlooking
        exact ⟨le_rfl, hrunning⟩
      · cases hentry
      · rw [h.taken_of_stage hcarried]
        exact (List.append_nil _).symm
  | takeOut hstage hpop => exact h.takeOut hstage hpop
  | sleep hstage => exact h.idle (by rw [hstage]; rfl) rfl rfl
  | wake hstage => exact h.idle (by rw [hstage]; rfl) rfl rfl
  | handOver hstage => exact h.handOver hstage

theorem play? (h : thread.Punctual) (hplay : thread.play? turns = some next) : next.Punctual :=
  play?_keeps Punctual moves h hplay

end Punctual

/-- Entries of some calls that come after those of them that have been taken out already. -/
structure Ranked (calls : Nat → Prop) (thread : TimerThread α) : Prop where
  made : ∀ index, calls index → index < thread.calls.length
  taken : thread.taken.Pairwise fun first second =>
    calls first.sequence → calls second.sequence → first.key < second.key
  left : ∀ first ∈ thread.taken, ∀ second ∈ thread.timer.queue,
    calls first.sequence → calls second.sequence → first.key < second.key

namespace Ranked

variable {calls : Nat → Prop}

/-- None of the calls has been taken out yet. -/
theorem of_untaken (hmade : ∀ index, calls index → index < thread.calls.length)
    (huntaken : ∀ entry ∈ thread.taken, ¬ calls entry.sequence) : Ranked calls thread where
  made := hmade
  taken := (List.pairwise_of_forall fun _ _ => trivial).imp_of_mem
    fun hfirst _ _ hcall => absurd hcall (huntaken _ hfirst)
  left first hfirst _ _ hcall := absurd hcall (huntaken first hfirst)

theorem moves (h : Ranked calls thread ∧ thread.Orderly) (hnext : thread.Moves turn next) :
    Ranked calls next ∧ next.Orderly := by
  obtain ⟨hranked, horderly⟩ := h
  refine ⟨?_, horderly.moves hnext⟩
  cases hnext with
  | schedule deadline item =>
      refine ⟨fun index hcall => ?_, hranked.taken, fun first hfirst second hsecond => ?_⟩
      · exact (hranked.made index hcall).trans_le (by simp)
      · rcases DeadlineTimer.mem_insert.mp hsecond with rfl | hsecond
        · -- the new call is none of those that had been made
          intro _ hcall
          exact absurd (hranked.made _ hcall) (by simp [horderly.numbered])
        · exact hranked.left first hfirst second hsecond
  | stop => exact { hranked with left := fun _ _ _ hsecond => by cases hsecond }
  | @takeOut _ entry timer _ hpop =>
      have hqueue := (DeadlineTimer.pop?_eq_some hpop).1
      refine ⟨hranked.made, ?_, fun first hfirst second hsecond => ?_⟩
      · refine List.pairwise_append.mpr ⟨hranked.taken, List.pairwise_singleton _ _, ?_⟩
        intro first hfirst second hsecond
        cases List.mem_singleton.mp hsecond
        exact hranked.left first hfirst entry (hqueue ▸ List.mem_cons_self)
      · rcases List.mem_append.mp hfirst with hfirst | hfirst
        · exact hranked.left first hfirst second (hqueue ▸ List.mem_cons_of_mem _ hsecond)
        · cases List.mem_singleton.mp hfirst
          exact fun _ _ => (horderly.sorted.of_pop? hpop).2 second hsecond
  | pass | ending | looking | sleep | wake | handOver => exact { hranked with }

theorem play? (h : Ranked calls thread) (horderly : thread.Orderly)
    (hplay : thread.play? turns = some next) : Ranked calls next :=
  (play?_keeps (fun later => Ranked calls later ∧ later.Orderly) moves ⟨h, horderly⟩ hplay).1

end Ranked

theorem stopped_moves (hstopped : thread.timer.stopped = true) (hnext : thread.Moves turn next) :
    next.timer.stopped = true ∧ next.taken = thread.taken := by
  cases hnext with
  | takeOut hstage hpop =>
      have hrunning := (DeadlineTimer.pop?_stopped hpop).1
      rw [hstopped] at hrunning
      cases hrunning
  | stop => exact ⟨rfl, rfl⟩
  | schedule | pass | ending | looking | sleep | wake | handOver => exact ⟨hstopped, rfl⟩

/-- Nothing is taken out of a stopped timer any more. -/
theorem stopped_play? (hstopped : thread.timer.stopped = true)
    (hplay : thread.play? turns = some next) :
    next.timer.stopped = true ∧ next.taken = thread.taken :=
  play?_keeps (fun later => later.timer.stopped = true ∧ later.taken = thread.taken)
    (fun h hnext => ⟨(stopped_moves h.1 hnext).1, (stopped_moves h.1 hnext).2.trans h.2⟩)
    ⟨hstopped, rfl⟩ hplay

theorem stopped_of_stop_mem (hplay : thread.play? turns = some next)
    (hstop : TimerTurn.stop ∈ turns) : next.timer.stopped = true := by
  induction turns generalizing thread with
  | nil => cases hstop
  | cons turn rest ih =>
      obtain ⟨middle, hturn, hrest⟩ := Option.bind_eq_some_iff.mp hplay
      rcases List.mem_cons.mp hstop with rfl | hstop
      · cases TimerThread.moves hturn with
        | stop => exact (stopped_play? rfl hrest).1
      · exact ih hrest hstop

namespace Orderly

/-- No call is handed over twice. -/
theorem nodup_handed (h : thread.Orderly) (hpunctual : thread.Punctual) :
    (thread.handed.map fun given => given.1.sequence).Nodup := by
  have hnodup := h.nodup
  rw [hpunctual.taken, List.map_append, List.map_append, List.map_map] at hnodup
  exact (List.nodup_append.mp (List.nodup_append.mp hnodup).2.1).1

/-- What a turn takes out is the first of all that is in the queue. -/
theorem key_le_of_taken (h : thread.Orderly) (hnext : thread.Moves turn next)
    {entry : TimerEntry α} (htaken : entry ∈ next.taken) (huntaken : entry ∉ thread.taken) :
    entry ∈ thread.timer.queue ∧ ∀ other ∈ thread.timer.queue, entry.key ≤ other.key := by
  cases hnext with
  | takeOut hstage hpop =>
      have hqueue := (DeadlineTimer.pop?_eq_some hpop).1
      cases List.mem_singleton.mp ((List.mem_append.mp htaken).resolve_left huntaken)
      refine ⟨hqueue ▸ List.mem_cons_self, fun other hother => ?_⟩
      rw [hqueue] at hother
      rcases List.mem_cons.mp hother with rfl | hother
      · exact le_rfl
      · exact ((h.sorted.of_pop? hpop).2 other hother).le
  | schedule | stop | pass | ending | looking | sleep | wake | handOver =>
      exact absurd htaken huntaken

/-- When the thread goes to sleep, everything in the queue is still to come. -/
theorem lt_deadline_of_waiting (h : thread.Orderly) (hpunctual : thread.Punctual)
    (hnext : thread.Moves turn next) {time : Nat} {timeout : Option Nat}
    (hlooking : thread.stage = .looking time) (hwaiting : next.stage = .waiting timeout) :
    next.timer.stopped = false ∧ ∀ entry ∈ next.timer.queue, time < entry.deadline := by
  have hrunning := (hpunctual.looked hlooking).2
  cases hnext with
  | sleep hstage hpop =>
      cases hstage.symm.trans hlooking
      exact ⟨hrunning, DeadlineTimer.lt_deadline_of_pop?_eq_none h.sorted hrunning hpop⟩
  | schedule | stop | pass => cases hlooking.symm.trans hwaiting
  | ending | looking | takeOut | wake | handOver => cases hwaiting

end Orderly

/-- However the calls, the clock and the turns of the thread are mixed: no call is handed to the
callback twice, and none before its deadline. What is taken out has the least deadline of all that
is in the queue, and of those with that deadline it was scheduled first. When the thread goes to
sleep, the timer has not been stopped, and all deadlines in the queue are after the time that it has
read from the clock. Calls that have all been made before one of them is taken out are handed over
by their deadlines and in the order in which they were made. After a stop nothing is taken out. -/
theorem expiry_is_orderly {past : List (TimerTurn α)} {thread : TimerThread α}
    (hplay : ({} : TimerThread α).play? past = some thread) :
    (thread.handed.map fun given => given.1.sequence).Nodup ∧
    (∀ given ∈ thread.handed,
      thread.calls[given.1.sequence]? = some (given.1.deadline, given.1.item) ∧
      given.1.deadline ≤ given.2) ∧
    (∀ turn next, thread.take? turn = some next →
      (∀ entry ∈ next.taken, entry ∉ thread.taken →
        entry ∈ thread.timer.queue ∧ ∀ other ∈ thread.timer.queue, entry.key ≤ other.key) ∧
      (∀ time timeout, thread.stage = .looking time → next.stage = .waiting timeout →
        next.timer.stopped = false ∧ ∀ entry ∈ next.timer.queue, time < entry.deadline)) ∧
    (∀ later last, thread.play? later = some last →
      (∀ calls : Nat → Prop, (∀ index, calls index → index < thread.calls.length) →
        (∀ entry ∈ thread.taken, ¬ calls entry.sequence) →
        (last.handed.map Prod.fst).Pairwise fun first second =>
          calls first.sequence → calls second.sequence → first.key < second.key) ∧
      (TimerTurn.stop ∈ past → last.taken = thread.taken)) := by
  have horderly := Orderly.empty.play? hplay
  have hpunctual := Punctual.empty.play? hplay
  refine ⟨horderly.nodup_handed hpunctual,
    fun given hgiven => ⟨?_, hpunctual.handed given hgiven⟩, ?_, ?_⟩
  · exact mem_entries.mp (horderly.mem_entries (.inr (hpunctual.mem_taken hgiven)))
  · intro turn next hnext
    exact ⟨fun entry => horderly.key_le_of_taken (moves hnext),
      fun time timeout => horderly.lt_deadline_of_waiting hpunctual (moves hnext)⟩
  · intro later last hlater
    refine ⟨fun calls hmade huntaken => ?_, fun hstop => ?_⟩
    · have htaken := ((Ranked.of_untaken hmade huntaken).play? horderly hlater).taken
      rw [(hpunctual.play? hlater).taken] at htaken
      exact (List.pairwise_append.mp htaken).1
    · exact (stopped_play? (stopped_of_stop_mem hplay hstop) hlater).2

/-- Two of three items have the same deadline, and the callback schedules one that is due earlier:
it is handed over before those that were there, and these keep their order. In a second run the
timer is stopped while the thread carries an entry, and the item that is scheduled afterwards stays
in the queue. In a third one the thread goes to sleep until the only deadline. -/
theorem expiry_is_orderly_with_ties :
    let past : List (TimerTurn Nat) := [.schedule 5 10, .schedule 3 11, .schedule 3 12, .pass 3]
    let later : List (TimerTurn Nat) := [.lock, .act, .handOver, .schedule 2 13, .lock, .act,
      .handOver, .lock, .act, .handOver, .pass 2, .lock, .act, .handOver]
    let stopped : List (TimerTurn Nat) := past ++ [.lock, .act, .stop]
    (∃ thread last, ({} : TimerThread Nat).play? past = some thread ∧
      thread.play? later = some last ∧
      last.handed = [(⟨3, 1, 11⟩, 3), (⟨2, 3, 13⟩, 3), (⟨3, 2, 12⟩, 3), (⟨5, 0, 10⟩, 5)] ∧
      (last.handed.map fun given => given.1.sequence).Nodup ∧
      (last.handed.map Prod.fst).Pairwise fun first second =>
        first.sequence < 3 → second.sequence < 3 → first.key < second.key) ∧
    (∃ thread last, ({} : TimerThread Nat).play? stopped = some thread ∧
      thread.play? [.schedule 0 14, .handOver, .lock] = some last ∧
      last.timer.queue = [⟨0, 3, 14⟩] ∧ last.stage = .ended ∧ last.taken = thread.taken) ∧
    (∃ thread next, ({} : TimerThread Nat).play? [.schedule 5 10, .lock] = some thread ∧
      thread.take? .act = some next ∧ next.stage = .waiting (some 5) ∧
      ∀ entry ∈ next.timer.queue, 0 < entry.deadline) := by
  intro past later stopped
  refine ⟨⟨_, _, rfl, rfl, rfl, (@expiry_is_orderly Nat (past ++ later) _ rfl).1, ?_⟩,
    ⟨_, _, rfl, rfl, rfl, rfl, ?_⟩, ⟨_, _, rfl, rfl, rfl, ?_⟩⟩
  · have horder := (@expiry_is_orderly Nat past _ rfl).2.2.2 later _ rfl
    exact horder.1 (fun index => index < 3) (fun _ hindex => hindex) (by simp)
  · have hstop := (@expiry_is_orderly Nat stopped _ rfl).2.2.2
      [.schedule 0 14, .handOver, .lock] _ rfl
    exact hstop.2 (List.mem_append_right past (by simp))
  · have hsleep := (@expiry_is_orderly Nat [.schedule 5 10, .lock] _ rfl).2.2.1 .act _ rfl
    exact (hsleep.2 0 (some 5) rfl rfl).2
end TimerThread

end GroundLink
