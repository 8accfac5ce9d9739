/-! # Deadlines

A timer keeps items until their deadlines have passed and gives them out by deadline,
items of one deadline in the order in which they were scheduled. Once stopped it gives
out nothing any more, not even what is scheduled afterwards.
-/

namespace GroundLink

/-- An item with its deadline and its place in the order of scheduling. -/
structure TimerEntry (α : Type) where
  deadline : Nat
  sequence : Nat
  item : α
  deriving Repr, DecidableEq

namespace TimerEntry

variable {α : Type}

/-- Whether an entry is due no later than another one. -/
def before (first second : TimerEntry α) : Bool :=
  decide (first.deadline < second.deadline) ||
    (first.deadline == second.deadline && decide (first.sequence ≤ second.sequence))

end TimerEntry

/-- The entries that have not been given out, the next one first. -/
structure DeadlineTimer (α : Type) where
  queue : List (TimerEntry α) := []
  nextSequence : Nat := 0
  stopped : Bool := false
  deriving Repr, DecidableEq

namespace DeadlineTimer

variable {α : Type}

/-- Puts an entry behind all entries that come before it. -/
def insert (entry : TimerEntry α) : List (TimerEntry α) → List (TimerEntry α)
  | [] => [entry]
  | first :: rest =>
      if first.before entry then first :: insert entry rest else entry :: first :: rest

def schedule (timer : DeadlineTimer α) (deadline : Nat) (item : α) : DeadlineTimer α :=
  { timer with
    queue := insert ⟨deadline, timer.nextSequence, item⟩ timer.queue
    nextSequence := timer.nextSequence + 1 }

/-- Drops all entries and gives out none from now on. -/
def stop (timer : DeadlineTimer α) : DeadlineTimer α :=
  { timer with queue := [], stopped := true }

/-- Takes the first entry out, if its deadline has come. -/
def pop? (timer : DeadlineTimer α) (now : Nat) : Option (TimerEntry α × DeadlineTimer α) :=
  if timer.stopped then none
  else
    match timer.queue with
    | [] => none
    | first :: rest =>
        if first.deadline ≤ now then some (first, { timer with queue := rest }) else none

/-- A running timer gives out the first in the queue if it is due, and nothing else changes. -/
theorem pop?_eq_some_iff {timer next : DeadlineTimer α} {now : Nat} {entry : TimerEntry α} :
    timer.pop? now = some (entry, next) ↔
      timer.stopped = false ∧ timer.queue = entry :: next.queue ∧ entry.deadline ≤ now ∧
        next = { timer with queue := next.queue } := by
  obtain ⟨queue, nextSequence, stopped⟩ := timer
  unfold pop?
  constructor
  · intro h
    split at h
    · cases h
    next hrunning =>
      have hstopped : stopped = false := by simpa using hrunning
      split at h
      · cases h
      next first rest hqueue =>
        split at h
        next hdue =>
          cases h
          exact ⟨hstopped, hqueue, hdue, rfl⟩
        next => cases h
  · rintro ⟨rfl, rfl, hdue, hnext⟩
    rw [hnext]
    simp [hdue]

theorem pop?_length {timer next : DeadlineTimer α} {now : Nat} {entry : TimerEntry α}
    (h : timer.pop? now = some (entry, next)) : next.queue.length < timer.queue.length := by
  obtain ⟨-, hqueue, -, -⟩ := pop?_eq_some_iff.mp h
  rw [hqueue, List.length_cons]
  exact Nat.lt_succ_self _

theorem mem_insert {entry other : TimerEntry α} {queue : List (TimerEntry α)} :
    other ∈ insert entry queue ↔ other = entry ∨ other ∈ queue := by
  induction queue with
  | nil => simp [insert]
  | cons first rest ih =>
      unfold insert
      split
      · simp only [List.mem_cons, ih, or_left_comm]
      · exact List.mem_cons

/-- What is taken out was the first in the queue, and it is due. -/
theorem pop?_eq_some {timer next : DeadlineTimer α} {now : Nat} {entry : TimerEntry α}
    (h : timer.pop? now = some (entry, next)) :
    timer.queue = entry :: next.queue ∧ entry.deadline ≤ now := by
  obtain ⟨-, hqueue, hdue, -⟩ := pop?_eq_some_iff.mp h
  exact ⟨hqueue, hdue⟩

theorem pop?_stopped {timer next : DeadlineTimer α} {now : Nat} {entry : TimerEntry α}
    (h : timer.pop? now = some (entry, next)) : timer.stopped = false ∧ next.stopped = false := by
  obtain ⟨hrunning, -, -, hnext⟩ := pop?_eq_some_iff.mp h
  exact ⟨hrunning, (congrArg stopped hnext).trans hrunning⟩

/-- Gives out everything that is due, in order. An item that stops the timer is the last. -/
def run (stops : α → Bool) (timer : DeadlineTimer α) (now : Nat) :
    List α × DeadlineTimer α :=
  match hpop : timer.pop? now with
  | none => ([], timer)
  | some (entry, next) =>
      have := pop?_length hpop
      if stops entry.item then ([entry.item], next.stop)
      else
        let (others, last) := run stops next now
        (entry.item :: others, last)
termination_by timer.queue.length

end DeadlineTimer

end GroundLink
