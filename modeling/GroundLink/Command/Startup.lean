import GroundLink.Command.Catalogue

/-! # Waiting for the satellite to start

The state is polled until it says that the satellite has started. Between polls the
client rests, each time twice as long as before up to a second; polls and rests
together never exceed the time that was given.
-/

namespace GroundLink.Command

/-- The state that means that the satellite has started. -/
def startedState : String := "1"

/-- What a poll of the state tells. -/
inductive PollOutcome where
  | started
  /-- Another state, or no answer in time. -/
  | notYet
  | failed (error : ClientError)
  deriving Repr, DecidableEq

namespace PollOutcome

def ofAnswer : Except ClientError String → PollOutcome
  | .ok state => if state = startedState then .started else .notYet
  | .error error => if error.isTimeout then .notYet else .failed error

end PollOutcome

/-- The next rest between polls, and the longest one there is. -/
structure Backoff where
  rest : Nat
  longest : Nat
  rest_pos : 0 < rest
  longest_pos : 0 < longest

namespace Backoff

/-- Rests from fifty milliseconds up to a second, on a clock with so many ticks in a
millisecond. -/
def start (ticks : Nat) (h : 0 < ticks) : Backoff where
  rest := 50 * ticks
  longest := 1000 * ticks
  rest_pos := Nat.mul_pos (by decide) h
  longest_pos := Nat.mul_pos (by decide) h

/-- The rest after the next one is twice as long, unless that is too long. -/
def next (backoff : Backoff) : Backoff where
  rest := min (2 * backoff.rest) backoff.longest
  longest := backoff.longest
  rest_pos := Nat.lt_min.mpr ⟨Nat.mul_pos (by decide) backoff.rest_pos, backoff.longest_pos⟩
  longest_pos := backoff.longest_pos

@[simp] theorem rest_next (backoff : Backoff) :
    backoff.next.rest = min (2 * backoff.rest) backoff.longest := rfl

end Backoff

/-- Polls until the satellite has started or the time is up, of which some has elapsed before. A
poll gets the time that remains, but no more than any response; it tells how long it took. -/
def pollUntilStarted {σ : Type} (ask : Nat → σ → Except ClientError String × Nat × σ)
    (idle : Nat → σ → σ) (timeout limit : Nat) (backoff : Backoff) (elapsed : Nat) (state : σ) :
    Except ClientError Unit × σ :=
  let remaining := limit - elapsed
  if remaining = 0 then (.error .notStarted, state)
  else
    match ask (min timeout remaining) state with
    | (answer, spent, state) =>
        match PollOutcome.ofAnswer answer with
        | .started => (.ok (), state)
        | .failed error => (.error error, state)
        | .notYet =>
            let nap := min backoff.rest (limit - (elapsed + spent))
            pollUntilStarted ask idle timeout limit backoff.next (elapsed + spent + nap)
              (idle nap state)
termination_by limit - elapsed
decreasing_by
  have := backoff.rest_pos
  omega

/-- Lets time pass. -/
def Session.sleep (time : Nat) (session : Session) : Session :=
  { session with router := session.router.sleep time }

namespace Client

/-- Asks for the state once, with so much time for the answer. -/
def askState (client : Client) (given : Nat) (session : Session) :
    Except ClientError String × Nat × Session :=
  let (answer, after) := client.run .getState ⟨[], []⟩ none given session
  (answer, after.router.now - session.router.now, after)

/-- Waits until the satellite has started, at most for the given time in milliseconds. -/
def waitToStart (client : Client) (limit : Nat) : Exchange Unit :=
  pollUntilStarted client.askState Session.sleep client.timeout limit (.start 1 Nat.one_pos) 0

end Client

end GroundLink.Command
