import GroundLink.Timer

/-! # The thread of a timer

Any number of callers schedule items and stop the timer while its thread gives them out. What the
thread does is cut into the turns between which the callers and the clock may get on. It holds the
lock from the moment it looks at the clock until it has taken an entry out or goes to sleep, and
during the callback it does not hold it, so that the callback may schedule and stop as well.
-/

namespace GroundLink

/-- Where the thread stands. -/
inductive ThreadStage (α : Type) where
  /-- About to take the lock, or still inside the callback. -/
  | awake
  /-- Has the lock and has read this time from the clock. -/
  | looking (time : Nat)
  /-- Asleep for this long, or without a limit. -/
  | waiting (timeout : Option Nat)
  /-- Has taken an entry out and let go of the lock. -/
  | carrying (entry : TimerEntry α)
  | ended
  deriving DecidableEq

namespace ThreadStage

variable {α : Type}

def locked : ThreadStage α → Bool
  | .looking _ => true
  | _ => false

/-- What has been taken out but not handed over. -/
def carried : ThreadStage α → List (TimerEntry α)
  | .carrying entry => [entry]
  | _ => []

end ThreadStage

/-- A timer with its thread, and what has been made of both so far. -/
structure TimerThread (α : Type) where
  timer : DeadlineTimer α := {}
  now : Nat := 0
  stage : ThreadStage α := .awake
  /-- The deadlines and items that have been scheduled, in the order of the calls. -/
  calls : List (Nat × α) := []
  /-- What has been taken out of the queue, oldest first. -/
  taken : List (TimerEntry α) := []
  /-- What the callback has been called with, and when, oldest first. -/
  handed : List (TimerEntry α × Nat) := []
  deriving DecidableEq

/-- One undivided turn of a caller, the clock or the thread. -/
inductive TimerTurn (α : Type) where
  | schedule (deadline : Nat) (item : α)
  | stop
  | pass (milliseconds : Nat)
  /-- The thread takes the lock and reads the clock, or ends. -/
  | lock
  /-- The thread takes an entry out or goes to sleep, and lets go of the lock. -/
  | act
  /-- The time is up, somebody has called the timer, or it happens for no reason. -/
  | wake
  /-- The thread calls the callback. -/
  | handOver

namespace TimerThread

variable {α : Type}

/-- How long the thread sleeps unless it is woken. -/
def timeout? (thread : TimerThread α) (time : Nat) : Option Nat :=
  thread.timer.queue.head?.map fun entry => entry.deadline - time

def act (thread : TimerThread α) (time : Nat) : TimerThread α :=
  match thread.timer.pop? time with
  | some (entry, timer) =>
      { thread with timer, stage := .carrying entry, taken := thread.taken ++ [entry] }
  | none => { thread with stage := .waiting (thread.timeout? time) }

/-- The state after a turn, or `none` where nobody can take it. -/
def take? (thread : TimerThread α) (turn : TimerTurn α) : Option (TimerThread α) :=
  match turn, thread.stage with
  | .schedule deadline item, stage =>
      if stage.locked then none
      else some { thread with
        timer := thread.timer.schedule deadline item, calls := thread.calls ++ [(deadline, item)] }
  | .stop, stage => if stage.locked then none else some { thread with timer := thread.timer.stop }
  | .pass milliseconds, _ => some { thread with now := thread.now + milliseconds }
  | .lock, .awake =>
      some { thread with stage := if thread.timer.stopped then .ended else .looking thread.now }
  | .act, .looking time => some (thread.act time)
  | .wake, .waiting _ => some { thread with stage := .awake }
  | .handOver, .carrying entry =>
      some { thread with stage := .awake, handed := thread.handed ++ [(entry, thread.now)] }
  | _, _ => none

/-- The state after some turns in the order given. -/
def play? (thread : TimerThread α) : List (TimerTurn α) → Option (TimerThread α)
  | [] => some thread
  | turn :: rest => (thread.take? turn).bind fun next => next.play? rest

/-- The turns that can be taken, and the states to which they lead. -/
inductive Moves (thread : TimerThread α) : TimerTurn α → TimerThread α → Prop
  | schedule (deadline : Nat) (item : α) (hfree : thread.stage.locked = false) :
      Moves thread (.schedule deadline item) { thread with
        timer := thread.timer.schedule deadline item, calls := thread.calls ++ [(deadline, item)] }
  | stop (hfree : thread.stage.locked = false) :
      Moves thread .stop { thread with timer := thread.timer.stop }
  | pass (milliseconds : Nat) :
      Moves thread (.pass milliseconds) { thread with now := thread.now + milliseconds }
  | ending (hstage : thread.stage = .awake) (hstopped : thread.timer.stopped = true) :
      Moves thread .lock { thread with stage := .ended }
  | looking (hstage : thread.stage = .awake) (hrunning : thread.timer.stopped = false) :
      Moves thread .lock { thread with stage := .looking thread.now }
  /-- The first entry is due. -/
  | takeOut {time : Nat} {entry : TimerEntry α} {timer : DeadlineTimer α}
      (hstage : thread.stage = .looking time)
      (hpop : thread.timer.pop? time = some (entry, timer)) :
      Moves thread .act
        { thread with timer, stage := .carrying entry, taken := thread.taken ++ [entry] }
  /-- There is no entry, or the first one is not due yet. -/
  | sleep {time : Nat} (hstage : thread.stage = .looking time)
      (hpop : thread.timer.pop? time = none) :
      Moves thread .act { thread with stage := .waiting (thread.timeout? time) }
  | wake {timeout : Option Nat} (hstage : thread.stage = .waiting timeout) :
      Moves thread .wake { thread with stage := .awake }
  | handOver {entry : TimerEntry α} (hstage : thread.stage = .carrying entry) :
      Moves thread .handOver
        { thread with stage := .awake, handed := thread.handed ++ [(entry, thread.now)] }

variable {thread next : TimerThread α} {turn : TimerTurn α}

theorem moves_act {time : Nat} (hstage : thread.stage = .looking time) :
    thread.Moves .act (thread.act time) := by
  unfold act
  split
  next entry timer hpop => exact .takeOut hstage hpop
  next hpop => exact .sleep hstage hpop

/-- Whatever a turn has led to, it is one of these. -/
theorem moves (hnext : thread.take? turn = some next) : thread.Moves turn next := by
  unfold take? at hnext
  split at hnext
  next deadline item =>
    obtain ⟨hfree, hnext⟩ := Option.ite_none_left_eq_some.mp hnext
    cases hnext
    exact .schedule deadline item (by simpa using hfree)
  next =>
    obtain ⟨hfree, hnext⟩ := Option.ite_none_left_eq_some.mp hnext
    cases hnext
    exact .stop (by simpa using hfree)
  next milliseconds =>
    cases hnext
    exact .pass milliseconds
  next hstage =>
    cases hnext
    split
    next hstopped => exact .ending hstage hstopped
    next hrunning => exact .looking hstage (by simpa using hrunning)
  next time hstage =>
    cases hnext
    exact moves_act hstage
  next timeout hstage =>
    cases hnext
    exact .wake hstage
  next entry hstage =>
    cases hnext
    exact .handOver hstage
  next => cases hnext

/-- What every turn keeps is kept by any number of turns. -/
theorem play?_keeps (property : TimerThread α → Prop)
    (hkeeps : ∀ {thread next : TimerThread α} {turn : TimerTurn α},
      property thread → thread.Moves turn next → property next)
    {turns : List (TimerTurn α)} (h : property thread) (hplay : thread.play? turns = some next) :
    property next := by
  induction turns generalizing thread with
  | nil =>
      cases hplay
      exact h
  | cons turn rest ih =>
      obtain ⟨middle, hturn, hrest⟩ := Option.bind_eq_some_iff.mp hplay
      exact ih (hkeeps h (moves hturn)) hrest

end TimerThread

end GroundLink
