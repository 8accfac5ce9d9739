import GroundLink.Proofs.Timer.Thread
import Mathlib.Data.List.Perm.Basic
import Mathlib.Data.Prod.Lex

/-! # The queue of a timer

The queue is sorted by deadline and then by the order of scheduling, and every scheduled item is in
it once until the thread takes it out or the timer is stopped. Every turn keeps both, also those
that the callers take while the thread is in the callback.
-/

namespace GroundLink

variable {α : Type}

namespace TimerEntry

/-- Entries go by their deadlines, and entries of one deadline in the order of scheduling. -/
def key (entry : TimerEntry α) : Nat ×ₗ Nat := toLex (entry.deadline, entry.sequence)

theorem before_iff {first second : TimerEntry α} :
    first.before second = true ↔ first.key ≤ second.key := by
  simp [before, key, Prod.Lex.toLex_le_toLex]

theorem sequence_eq_of_key_eq {first second : TimerEntry α} (h : first.key = second.key) :
    first.sequence = second.sequence :=
  congrArg Prod.snd (toLex.injective h)

theorem deadline_le_of_key_le {first second : TimerEntry α} (h : first.key ≤ second.key) :
    first.deadline ≤ second.deadline := by
  rcases Prod.Lex.toLex_le_toLex.mp h with hlt | ⟨heq, -⟩
  · exact hlt.le
  · exact heq.le

end TimerEntry

namespace DeadlineTimer

variable {queue : List (TimerEntry α)} {entry : TimerEntry α}

/-- The queue is in the order in which its entries are to come out. -/
def Sorted (queue : List (TimerEntry α)) : Prop :=
  queue.Pairwise fun first second => first.key < second.key

theorem insert_perm (entry : TimerEntry α) (queue : List (TimerEntry α)) :
    (insert entry queue).Perm (entry :: queue) := by
  induction queue with
  | nil => exact .refl _
  | cons first rest ih =>
      unfold insert
      split
      · exact (ih.cons first).trans (.swap entry first rest)
      · exact .refl _

theorem Sorted.insert (h : Sorted queue) (hnew : ∀ other ∈ queue, other.key ≠ entry.key) :
    Sorted (DeadlineTimer.insert entry queue) := by
  induction queue with
  | nil => exact List.pairwise_singleton _ _
  | cons first rest ih =>
      obtain ⟨hfirst, hrest⟩ := List.pairwise_cons.mp h
      unfold DeadlineTimer.insert
      split
      next hbefore =>
        refine List.pairwise_cons.mpr
          ⟨?_, ih hrest fun other hother => hnew other (List.mem_cons_of_mem _ hother)⟩
        intro other hother
        rcases mem_insert.mp hother with rfl | hother
        · exact lt_of_le_of_ne (TimerEntry.before_iff.mp hbefore) (hnew first List.mem_cons_self)
        · exact hfirst other hother
      next hbefore =>
        have hlt : entry.key < first.key :=
          not_le.mp fun hle => hbefore (TimerEntry.before_iff.mpr hle)
        refine List.pairwise_cons.mpr ⟨?_, h⟩
        intro other hother
        rcases List.mem_cons.mp hother with rfl | hother
        · exact hlt
        · exact hlt.trans (hfirst other hother)

variable {timer next : DeadlineTimer α} {time : Nat}

/-- What is taken out comes before all that is left. -/
theorem Sorted.of_pop? (h : Sorted timer.queue) (hpop : timer.pop? time = some (entry, next)) :
    Sorted next.queue ∧ ∀ other ∈ next.queue, entry.key < other.key := by
  have hqueue := List.pairwise_cons.mp ((pop?_eq_some hpop).1 ▸ h)
  exact ⟨hqueue.2, hqueue.1⟩

/-- When nothing can be taken out of a running timer, everything in it is still to come. -/
theorem lt_deadline_of_pop?_eq_none (hsorted : Sorted timer.queue)
    (hrunning : timer.stopped = false) (hpop : timer.pop? time = none) :
    ∀ entry ∈ timer.queue, time < entry.deadline := by
  unfold pop? at hpop
  rw [if_neg (by simp [hrunning])] at hpop
  split at hpop
  next hqueue => simp [hqueue]
  next first rest hqueue =>
    have hdue : time < first.deadline := by simpa using hpop
    rw [hqueue] at hsorted ⊢
    intro entry hentry
    rcases List.mem_cons.mp hentry with rfl | hentry
    · exact hdue
    · exact hdue.trans_le (TimerEntry.deadline_le_of_key_le
        ((List.pairwise_cons.mp hsorted).1 entry hentry).le)

end DeadlineTimer

namespace TimerThread

variable {thread next : TimerThread α} {turn : TimerTurn α} {turns : List (TimerTurn α)}

/-- The entries of all calls, whatever has become of them. -/
def entries (thread : TimerThread α) : List (TimerEntry α) :=
  thread.calls.mapIdx fun index call => ⟨call.1, index, call.2⟩

theorem mem_entries {entry : TimerEntry α} :
    entry ∈ thread.entries ↔
      thread.calls[entry.sequence]? = some (entry.deadline, entry.item) := by
  rw [entries, List.mem_mapIdx]
  constructor
  · rintro ⟨index, hindex, rfl⟩
    exact List.getElem?_eq_getElem hindex
  · intro h
    obtain ⟨hindex, hcall⟩ := List.getElem?_eq_some_iff.mp h
    exact ⟨entry.sequence, hindex, by rw [hcall]⟩

theorem map_sequence_entries (thread : TimerThread α) :
    thread.entries.map TimerEntry.sequence = List.range thread.calls.length :=
  List.ext_getElem (by simp [entries]) (by simp [entries])

/-- Every call is in the queue, has been taken out or has been dropped by a stop. -/
structure Orderly (thread : TimerThread α) : Prop where
  numbered : thread.timer.nextSequence = thread.calls.length
  accounted : ∃ dropped, (thread.timer.queue ++ thread.taken ++ dropped).Perm thread.entries
  sorted : DeadlineTimer.Sorted thread.timer.queue

namespace Orderly

theorem mem_entries (h : thread.Orderly) {entry : TimerEntry α}
    (hentry : entry ∈ thread.timer.queue ∨ entry ∈ thread.taken) : entry ∈ thread.entries := by
  obtain ⟨dropped, hperm⟩ := h.accounted
  exact hperm.subset (List.mem_append_left dropped (List.mem_append.mpr hentry))

theorem sequence_lt (h : thread.Orderly) {entry : TimerEntry α}
    (hentry : entry ∈ thread.timer.queue) : entry.sequence < thread.calls.length :=
  (List.getElem?_eq_some_iff.mp (TimerThread.mem_entries.mp (h.mem_entries (.inl hentry)))).1

theorem nodup (h : thread.Orderly) :
    ((thread.timer.queue ++ thread.taken).map TimerEntry.sequence).Nodup := by
  obtain ⟨dropped, hperm⟩ := h.accounted
  have hall := (hperm.map TimerEntry.sequence).nodup_iff.mpr
    (thread.map_sequence_entries ▸ List.nodup_range)
  rw [List.map_append] at hall
  exact (List.nodup_append.mp hall).1

theorem empty : Orderly ({} : TimerThread α) :=
  ⟨rfl, ⟨[], .refl _⟩, .nil⟩

theorem schedule (h : thread.Orderly) (deadline : Nat) (item : α) :
    Orderly { thread with
      timer := thread.timer.schedule deadline item
      calls := thread.calls ++ [(deadline, item)] } := by
  refine ⟨by simp [DeadlineTimer.schedule, h.numbered], ?_, ?_⟩
  · obtain ⟨dropped, hperm⟩ := h.accounted
    refine ⟨dropped, ?_⟩
    -- the new entry goes to the front of the others, and its call to the end of the calls
    have hnew := List.Perm.append_right dropped (List.Perm.append_right thread.taken
      (DeadlineTimer.insert_perm ⟨deadline, thread.timer.nextSequence, item⟩ thread.timer.queue))
    refine hnew.trans ((hperm.cons _).trans ?_)
    simpa [entries, List.mapIdx_append, h.numbered] using
      (List.perm_append_singleton (⟨deadline, thread.calls.length, item⟩ : TimerEntry α) _).symm
  · -- no entry in the queue has the number of the new one
    refine h.sorted.insert fun other hother hkey => ?_
    have hlt := h.sequence_lt hother
    rw [TimerEntry.sequence_eq_of_key_eq hkey, h.numbered] at hlt
    exact hlt.false

theorem stop (h : thread.Orderly) : Orderly { thread with timer := thread.timer.stop } := by
  refine ⟨h.numbered, ?_, .nil⟩
  obtain ⟨dropped, hperm⟩ := h.accounted
  refine ⟨thread.timer.queue ++ dropped, ?_⟩
  refine List.Perm.trans ?_ hperm
  simpa [DeadlineTimer.stop] using
    (List.perm_append_comm_assoc thread.taken thread.timer.queue dropped)

theorem takeOut (h : thread.Orderly) {time : Nat} {entry : TimerEntry α} {timer : DeadlineTimer α}
    {stage : ThreadStage α} (hpop : thread.timer.pop? time = some (entry, timer)) :
    Orderly { thread with timer, stage, taken := thread.taken ++ [entry] } := by
  obtain ⟨-, hqueue, -, hnext⟩ := DeadlineTimer.pop?_eq_some_iff.mp hpop
  obtain ⟨dropped, hperm⟩ := h.accounted
  rw [hqueue] at hperm
  refine ⟨?_, ⟨dropped, ?_⟩, (h.sorted.of_pop? hpop).1⟩
  · rw [hnext]
    exact h.numbered
  · refine List.Perm.trans (List.Perm.append_right dropped ?_) hperm
    simpa using (List.perm_append_singleton entry (timer.queue ++ thread.taken))

theorem moves (h : thread.Orderly) (hnext : thread.Moves turn next) : next.Orderly := by
  cases hnext with
  | schedule deadline item => exact h.schedule deadline item
  | stop => exact h.stop
  | takeOut hstage hpop => exact h.takeOut hpop
  | pass | ending | looking | sleep | wake | handOver => exact { h with }

theorem play? (h : thread.Orderly) (hplay : thread.play? turns = some next) : next.Orderly :=
  play?_keeps Orderly moves h hplay

end Orderly

end TimerThread

end GroundLink
