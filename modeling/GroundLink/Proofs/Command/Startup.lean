import GroundLink.Command.Startup
import GroundLink.Proofs.Command.Hearing
import Mathlib.Algebra.Order.Floor.Div

/-! # Waiting within a budget

Whoever answers the polls may note them, and whoever lets time pass may note the rests. From these
notes all is read off: what each poll was given and how long each rest was, how many polls there
have been, and that both together stay within the time that was given. The first answer that is
neither another state nor a lack of an answer in time decides how the waiting ends; without one it
ends when the time is up.
-/

namespace GroundLink.Command

/-- What happens in the course of waiting. -/
inductive WaitEvent where
  /-- The state is asked for, with so much time for the answer, which takes some of it. -/
  | asked (given : Nat) (answer : Except ClientError String) (spent : Nat)
  | rested (time : Nat)
  deriving Repr, DecidableEq

namespace WaitEvent

def duration : WaitEvent → Nat
  | asked _ _ spent => spent
  | rested time => time

def answer? : WaitEvent → Option (Except ClientError String)
  | asked _ answer _ => some answer
  | rested _ => none

def isRest : WaitEvent → Bool
  | asked _ _ _ => false
  | rested _ => true

end WaitEvent

section Notes

/-- The time that some events have taken. -/
def elapsed (events : List WaitEvent) : Nat := (events.map WaitEvent.duration).sum

/-- The answers to the polls among some events, oldest first. -/
def answers (events : List WaitEvent) : List (Except ClientError String) :=
  events.filterMap WaitEvent.answer?

/-- How often there has been a rest. -/
def restCount (events : List WaitEvent) : Nat := events.countP WaitEvent.isRest

variable {σ : Type}

/-- Answers polls and notes them. -/
def noteAsked (ask : Nat → σ → Except ClientError String × Nat × σ) (given : Nat)
    (noted : σ × List WaitEvent) : Except ClientError String × Nat × σ × List WaitEvent :=
  let (answer, spent, state) := ask given noted.1
  (answer, spent, state, noted.2 ++ [.asked given answer spent])

/-- Lets time pass and notes it. -/
def noteRested (idle : Nat → σ → σ) (time : Nat) (noted : σ × List WaitEvent) :
    σ × List WaitEvent :=
  (idle time noted.1, noted.2 ++ [.rested time])

end Notes

section Lists

variable (events : List WaitEvent) (given spent time : Nat) (answer : Except ClientError String)

@[simp] theorem elapsed_asked :
    elapsed (events ++ [.asked given answer spent]) = elapsed events + spent := by
  simp [elapsed, WaitEvent.duration]

@[simp] theorem elapsed_rested : elapsed (events ++ [.rested time]) = elapsed events + time := by
  simp [elapsed, WaitEvent.duration]

@[simp] theorem answers_asked :
    answers (events ++ [.asked given answer spent]) = answers events ++ [answer] := by
  simp [answers, WaitEvent.answer?]

@[simp] theorem answers_rested : answers (events ++ [.rested time]) = answers events := by
  simp [answers, WaitEvent.answer?]

@[simp] theorem restCount_asked :
    restCount (events ++ [.asked given answer spent]) = restCount events := by
  simp [restCount, WaitEvent.isRest]

@[simp] theorem restCount_rested :
    restCount (events ++ [.rested time]) = restCount events + 1 := by
  simp [restCount, WaitEvent.isRest]

end Lists

/-- An answer that does not end the waiting: another state, or none in time. -/
def Inconclusive : Except ClientError String → Prop
  | .ok state => state ≠ "1"
  | .error error => error = .notStarted ∨ ∃ id, error = .router (.timeout id)

/-- What is right for an event that follows others, when clocks have so many ticks in a millisecond.
Polls and rests take turns. A poll is made while time remains and gets no more than that, and no
more than any response. The rests start with fifty milliseconds and double up to a second, as far as
time remains. -/
def WaitEvent.Fits (ticks timeout limit : Nat) (earlier : List WaitEvent) : WaitEvent → Prop
  | .asked given _ spent =>
      restCount earlier = (answers earlier).length ∧ elapsed earlier < limit ∧
        given = min timeout (limit - elapsed earlier) ∧ spent ≤ given
  | .rested time =>
      restCount earlier + 1 = (answers earlier).length ∧
        time = min (min (50 * ticks * 2 ^ restCount earlier) (1000 * ticks))
          (limit - elapsed earlier)

theorem isTimeout_iff {error : ClientError} :
    error.isTimeout = true ↔ Inconclusive (.error error) := by
  constructor
  · cases error with
    | router error =>
        cases error with
        | timeout id => exact fun _ => .inr ⟨id, rfl⟩
        | _ => nofun
    | notStarted => exact fun _ => .inl rfl
    | _ => nofun
  · rintro (rfl | ⟨id, rfl⟩) <;> rfl

theorem ofAnswer_eq_notYet_iff {answer : Except ClientError String} :
    PollOutcome.ofAnswer answer = .notYet ↔ Inconclusive answer := by
  cases answer with
  | ok state =>
      have hother : Inconclusive (.ok state) ↔ state ≠ startedState := Iff.rfl
      simp [PollOutcome.ofAnswer, hother]
  | error error => simp [PollOutcome.ofAnswer, ← isTimeout_iff]

theorem ofAnswer_eq_started_iff {answer : Except ClientError String} :
    PollOutcome.ofAnswer answer = .started ↔ answer = .ok "1" := by
  rw [← startedState]
  cases answer with
  | ok state => simp [PollOutcome.ofAnswer]
  | error error =>
      simp only [PollOutcome.ofAnswer]
      split <;> simp

theorem ofAnswer_eq_failed_iff {answer : Except ClientError String} {error : ClientError} :
    PollOutcome.ofAnswer answer = .failed error ↔
      answer = .error error ∧ ¬ Inconclusive (.error error) := by
  cases answer with
  | ok state =>
      simp only [PollOutcome.ofAnswer]
      split <;> simp
  | error other =>
      simp only [PollOutcome.ofAnswer]
      split
      next htimeout =>
        refine iff_of_false nofun ?_
        rintro ⟨⟨⟩, hconclusive⟩
        exact hconclusive (isTimeout_iff.mp htimeout)
      next htimeout =>
        constructor
        · rintro ⟨⟩
          exact ⟨rfl, mt isTimeout_iff.mpr htimeout⟩
        · rintro ⟨⟨⟩, -⟩
          rfl

/-- Events each of which is right where it stands, and which do not go beyond the budget. -/
structure Kept (ticks timeout limit : Nat) (events : List WaitEvent) : Prop where
  within : elapsed events ≤ limit
  few : (answers events).length ≤ limit ⌈/⌉ (50 * ticks)
  fits : ∀ earlier event later, events = earlier ++ event :: later →
    event.Fits ticks timeout limit earlier

theorem Kept.concat {ticks timeout limit : Nat} {events : List WaitEvent} {event : WaitEvent}
    (h : Kept ticks timeout limit events) (hfits : event.Fits ticks timeout limit events)
    (hwithin : elapsed (events ++ [event]) ≤ limit)
    (hfew : (answers (events ++ [event])).length ≤ limit ⌈/⌉ (50 * ticks)) :
    Kept ticks timeout limit (events ++ [event]) where
  within := hwithin
  few := hfew
  fits earlier other later hsplit := by
    rcases List.eq_nil_or_concat later with rfl | ⟨rest, last, rfl⟩
    · obtain ⟨rfl, hlast⟩ := List.append_inj' hsplit rfl
      rwa [← List.head_eq_of_cons_eq hlast]
    · have hrest : events ++ [event] = (earlier ++ other :: rest) ++ [last] := by
        simpa using hsplit
      exact h.fits earlier other rest (List.append_inj' hrest rfl).1

/-- How it stands before each poll. As long as time remains, each round has taken no less than the
first rest. -/
structure Underway (ticks timeout limit : Nat) (events : List WaitEvent) (backoff : Backoff) : Prop
    extends Kept ticks timeout limit events where
  turns : restCount events = (answers events).length
  rest : backoff.rest = min (50 * ticks * 2 ^ restCount events) (1000 * ticks)
  longest : backoff.longest = 1000 * ticks
  inconclusive : ∀ answer ∈ answers events, Inconclusive answer
  paced : elapsed events < limit → (answers events).length * (50 * ticks) ≤ elapsed events

namespace Underway

variable {ticks timeout limit : Nat} {events : List WaitEvent} {backoff : Backoff}

theorem empty (timeout limit : Nat) (hticks : 0 < ticks) :
    Underway ticks timeout limit [] (.start ticks hticks) where
  within := Nat.zero_le _
  few := Nat.zero_le _
  fits earlier event later hsplit := by simp at hsplit
  turns := rfl
  rest := by
    simp only [Backoff.start, restCount, List.countP_nil, pow_zero, mul_one]
    omega
  longest := rfl
  inconclusive answer hanswer := by simp [answers] at hanswer
  paced _ := by simp [answers]

/-- There is still room for a poll. -/
theorem asked (h : Underway ticks timeout limit events backoff) (hticks : 0 < ticks)
    (hlt : elapsed events < limit) {spent : Nat}
    (hspent : spent ≤ min timeout (limit - elapsed events)) (answer : Except ClientError String) :
    Kept ticks timeout limit
      (events ++ [.asked (min timeout (limit - elapsed events)) answer spent]) := by
  apply h.toKept.concat
  · exact ⟨h.turns, hlt, rfl, hspent⟩
  · rw [elapsed_asked]
    omega
  · have hpaced := h.paced hlt
    rw [answers_asked, List.length_append, List.length_singleton, Nat.ceilDiv_eq_add_pred_div,
      Nat.le_div_iff_mul_le (Nat.mul_pos (by decide) hticks), Nat.add_mul]
    omega

/-- A round without a result, with the rest behind it. -/
theorem round (h : Underway ticks timeout limit events backoff) (hticks : 0 < ticks)
    (hlt : elapsed events < limit) {spent : Nat}
    (hspent : spent ≤ min timeout (limit - elapsed events)) {answer : Except ClientError String}
    (hanswer : Inconclusive answer) :
    Underway ticks timeout limit
      (events ++ [.asked (min timeout (limit - elapsed events)) answer spent] ++
        [.rested (min backoff.rest (limit - (elapsed events + spent)))]) backoff.next := by
  have hasked := h.asked hticks hlt hspent answer
  have hrest := h.rest
  have hlongest := h.longest
  have hpow : 0 < 2 ^ restCount events := Nat.two_pow_pos _
  have hkept : Kept ticks timeout limit
      (events ++ [.asked (min timeout (limit - elapsed events)) answer spent] ++
        [.rested (min backoff.rest (limit - (elapsed events + spent)))]) := by
    apply hasked.concat
    · refine ⟨?_, ?_⟩
      · rw [restCount_asked, answers_asked, List.length_append, List.length_singleton, h.turns]
      · rw [restCount_asked, elapsed_asked, hrest]
    · have hwithin := hasked.within
      rw [elapsed_asked] at hwithin
      rw [elapsed_rested, elapsed_asked]
      omega
    · rw [answers_rested]
      exact hasked.few
  refine ⟨hkept, ?_, ?_, hlongest, ?_, ?_⟩
  · rw [restCount_rested, restCount_asked, answers_rested, answers_asked, List.length_append,
      List.length_singleton, h.turns]
  · have hdouble : 50 * ticks * 2 ^ (restCount events + 1) =
        2 * (50 * ticks * 2 ^ restCount events) := by
      rw [Nat.pow_succ, ← Nat.mul_assoc, Nat.mul_comm]
    rw [restCount_rested, restCount_asked, Backoff.rest_next, hlongest, hrest, hdouble]
    omega
  · rw [answers_rested, answers_asked]
    intro other hother
    rcases List.mem_append.mp hother with hearlier | hlast
    · exact h.inconclusive other hearlier
    · rwa [List.mem_singleton.mp hlast]
  · intro hremains
    have hpaced := h.paced hlt
    have hfirst : 50 * ticks ≤ 50 * ticks * 2 ^ restCount events :=
      Nat.le_mul_of_pos_right _ hpow
    rw [elapsed_rested, elapsed_asked] at hremains ⊢
    rw [answers_rested, answers_asked, List.length_append, List.length_singleton, Nat.add_mul]
    omega

end Underway

instance : DecidablePred Inconclusive
  | .ok state => inferInstanceAs (Decidable (state ≠ "1"))
  | .error _ => decidable_of_iff _ isTimeout_iff

/-- The first conclusive answer is this one. -/
def DecidedBy (answer : Except ClientError String) (heard : List (Except ClientError String)) :
    Prop :=
  ∃ earlier later, heard = earlier ++ answer :: later ∧ ∀ other ∈ earlier, Inconclusive other

namespace DecidedBy

variable {answer other : Except ClientError String} {heard : List (Except ClientError String)}

theorem find?_eq (h : DecidedBy answer heard) (hanswer : ¬ Inconclusive answer) :
    heard.find? (fun other => decide (¬ Inconclusive other)) = some answer := by
  obtain ⟨earlier, later, hheard, hearlier⟩ := h
  refine List.find?_eq_some_iff_append.mpr ⟨by simpa using hanswer, earlier, later, hheard, ?_⟩
  simpa using hearlier

theorem unique (h : DecidedBy answer heard) (hanswer : ¬ Inconclusive answer)
    (hother : DecidedBy other heard) (hconclusive : ¬ Inconclusive other) : answer = other :=
  Option.some.inj ((h.find?_eq hanswer).symm.trans (hother.find?_eq hconclusive))

theorem mem (h : DecidedBy answer heard) : answer ∈ heard := by
  obtain ⟨earlier, later, rfl, -⟩ := h
  simp

end DecidedBy

theorem not_inconclusive_started : ¬ Inconclusive (.ok "1") := fun h => h rfl

/-- How the waiting ends after some events. -/
inductive Concludes (limit : Nat) (events : List WaitEvent) : Except ClientError Unit → Prop
  | started (h : DecidedBy (.ok "1") (answers events)) : Concludes limit events (.ok ())
  | failed (error : ClientError) (herror : ¬ Inconclusive (.error error))
      (h : DecidedBy (.error error) (answers events)) : Concludes limit events (.error error)
  | exhausted (h : ∀ answer ∈ answers events, Inconclusive answer)
      (helapsed : elapsed events = limit) : Concludes limit events (.error .notStarted)

namespace Concludes

variable {limit : Nat} {events : List WaitEvent} {result : Except ClientError Unit}

theorem ok_iff (h : Concludes limit events result) :
    result = .ok () ↔ DecidedBy (.ok "1") (answers events) := by
  cases h with
  | started h => exact iff_of_true rfl h
  | failed error herror h =>
      refine iff_of_false nofun fun hstarted => ?_
      cases hstarted.unique not_inconclusive_started h herror
  | exhausted h helapsed =>
      exact iff_of_false nofun fun hstarted => not_inconclusive_started (h _ hstarted.mem)

theorem error_iff (h : Concludes limit events result) (error : ClientError) :
    result = .error error ↔
      (¬ Inconclusive (.error error) ∧ DecidedBy (.error error) (answers events)) ∨
        (error = .notStarted ∧ elapsed events = limit ∧
          ∀ answer ∈ answers events, Inconclusive answer) := by
  cases h with
  | started h =>
      refine iff_of_false nofun ?_
      rintro (⟨herror, hfailed⟩ | ⟨-, -, hall⟩)
      · cases h.unique not_inconclusive_started hfailed herror
      · exact not_inconclusive_started (hall _ h.mem)
  | failed other hother h =>
      constructor
      · rintro ⟨⟩
        exact .inl ⟨hother, h⟩
      · rintro (⟨herror, hfailed⟩ | ⟨-, -, hall⟩)
        · cases h.unique hother hfailed herror
          rfl
        · exact absurd (hall _ h.mem) hother
  | exhausted h helapsed =>
      constructor
      · rintro ⟨⟩
        exact .inr ⟨rfl, helapsed, h⟩
      · rintro (⟨herror, hfailed⟩ | ⟨rfl, -, -⟩)
        · exact absurd (h _ hfailed.mem) herror
        · rfl

end Concludes

section Run

variable {σ : Type} {ask : Nat → σ → Except ClientError String × Nat × σ}
  {ticks timeout limit : Nat}

/-! ## One poll -/

section Poll

variable {idle : Nat → σ → σ} {backoff : Backoff} {before spent : Nat} {state after : σ}
  {answer : Except ClientError String}

theorem pollUntilStarted_of_le (h : limit ≤ before) :
    pollUntilStarted ask idle timeout limit backoff before state =
      (.error .notStarted, state) := by
  rw [pollUntilStarted, if_pos (Nat.sub_eq_zero_of_le h)]

theorem pollUntilStarted_of_started (h : before < limit)
    (hask : ask (min timeout (limit - before)) state = (answer, spent, after))
    (hstarted : PollOutcome.ofAnswer answer = .started) :
    pollUntilStarted ask idle timeout limit backoff before state = (.ok (), after) := by
  rw [pollUntilStarted, if_neg (Nat.sub_ne_zero_of_lt h), hask]
  simp only [hstarted]

theorem pollUntilStarted_of_failed (h : before < limit)
    (hask : ask (min timeout (limit - before)) state = (answer, spent, after))
    {error : ClientError} (hfailed : PollOutcome.ofAnswer answer = .failed error) :
    pollUntilStarted ask idle timeout limit backoff before state = (.error error, after) := by
  rw [pollUntilStarted, if_neg (Nat.sub_ne_zero_of_lt h), hask]
  simp only [hfailed]

theorem pollUntilStarted_of_notYet (h : before < limit)
    (hask : ask (min timeout (limit - before)) state = (answer, spent, after))
    (hnotYet : PollOutcome.ofAnswer answer = .notYet) :
    let nap := min backoff.rest (limit - (before + spent))
    pollUntilStarted ask idle timeout limit backoff before state =
      pollUntilStarted ask idle timeout limit backoff.next (before + spent + nap)
        (idle nap after) := by
  rw [pollUntilStarted, if_neg (Nat.sub_ne_zero_of_lt h), hask]
  simp only [hnotYet]

end Poll

/-! ## All polls -/

theorem noteAsked_eq_iff {given spent : Nat} {noted after : σ × List WaitEvent}
    {answer : Except ClientError String} :
    noteAsked ask given noted = (answer, spent, after) ↔
      ask given noted.1 = (answer, spent, after.1) ∧
        after.2 = noted.2 ++ [.asked given answer spent] := by
  obtain ⟨state, events⟩ := after
  simp only [noteAsked, Prod.mk.injEq]
  grind

theorem spent_le_of_noteAsked (hprompt : ∀ given state, (ask given state).2.1 ≤ given)
    {given spent : Nat} {noted after : σ × List WaitEvent} {answer : Except ClientError String}
    (hasked : noteAsked ask given noted = (answer, spent, after)) : spent ≤ given := by
  simpa only [(noteAsked_eq_iff.mp hasked).1] using hprompt given noted.1

/-- What a poll leaves behind while the waiting is underway. -/
theorem Underway.heard {noted after : σ × List WaitEvent} {backoff : Backoff} {spent : Nat}
    {answer : Except ClientError String} (h : Underway ticks timeout limit noted.2 backoff)
    (hticks : 0 < ticks) (hprompt : ∀ given state, (ask given state).2.1 ≤ given)
    (hlt : elapsed noted.2 < limit)
    (hasked : noteAsked ask (min timeout (limit - elapsed noted.2)) noted =
      (answer, spent, after)) :
    ask (min timeout (limit - elapsed noted.2)) noted.1 = (answer, spent, after.1) ∧
      Kept ticks timeout limit after.2 ∧ answers after.2 = answers noted.2 ++ [answer] := by
  obtain ⟨hask, hafter⟩ := noteAsked_eq_iff.mp hasked
  refine ⟨hask, ?_, by rw [hafter, answers_asked]⟩
  rw [hafter]
  exact h.asked hticks hlt (spent_le_of_noteAsked hprompt hasked) answer

/-- Waiting, from any poll on, keeps to the budget and comes to an end of one of these kinds. The
notes change nothing about it. -/
theorem kept_of_underway (hticks : 0 < ticks)
    (hprompt : ∀ given state, (ask given state).2.1 ≤ given) (idle : Nat → σ → σ)
    (backoff : Backoff) (before : Nat) (noted : σ × List WaitEvent)
    (hbefore : before = elapsed noted.2) (h : Underway ticks timeout limit noted.2 backoff) :
    let ended :=
      pollUntilStarted (noteAsked ask) (noteRested idle) timeout limit backoff before noted
    pollUntilStarted ask idle timeout limit backoff before noted.1 = (ended.1, ended.2.1) ∧
      Kept ticks timeout limit ended.2.2 ∧ Concludes limit ended.2.2 ended.1 := by
  -- round by round: a round that decides nothing leaves the waiting underway
  fun_induction pollUntilStarted (noteAsked ask) (noteRested idle) timeout limit backoff before
    noted with
  | case1 backoff before noted remaining hnone =>
      have hover : limit ≤ before := Nat.sub_eq_zero_iff_le.mp hnone
      have helapsed : before = limit := Nat.le_antisymm (hbefore ▸ h.within) hover
      exact ⟨pollUntilStarted_of_le hover, h.toKept,
        .exhausted h.inconclusive (hbefore.symm.trans helapsed)⟩
  | case2 backoff before noted remaining hsome answer spent after hasked hstarted =>
      subst hbefore
      have hlt : elapsed noted.2 < limit := Nat.lt_of_sub_ne_zero hsome
      obtain ⟨hask, hkept, hanswers⟩ := h.heard hticks hprompt hlt hasked
      rw [ofAnswer_eq_started_iff.mp hstarted] at hanswers
      exact ⟨pollUntilStarted_of_started hlt hask hstarted, hkept,
        .started ⟨answers noted.2, [], hanswers, h.inconclusive⟩⟩
  | case3 backoff before noted remaining hsome answer spent after hasked error hfailed =>
      subst hbefore
      have hlt : elapsed noted.2 < limit := Nat.lt_of_sub_ne_zero hsome
      obtain ⟨hask, hkept, hanswers⟩ := h.heard hticks hprompt hlt hasked
      obtain ⟨hanswer, herror⟩ := ofAnswer_eq_failed_iff.mp hfailed
      rw [hanswer] at hanswers
      exact ⟨pollUntilStarted_of_failed hlt hask hfailed, hkept,
        .failed error herror ⟨answers noted.2, [], hanswers, h.inconclusive⟩⟩
  | case4 backoff before noted remaining hsome answer spent after hasked hnotYet nap ih =>
      subst hbefore
      have hlt : elapsed noted.2 < limit := Nat.lt_of_sub_ne_zero hsome
      obtain ⟨hask, hafter⟩ := noteAsked_eq_iff.mp hasked
      have hspent := spent_le_of_noteAsked hprompt hasked
      have hnext : Underway ticks timeout limit (noteRested idle nap after).2 backoff.next := by
        simp only [noteRested, hafter]
        exact h.round hticks hlt hspent (ofAnswer_eq_notYet_iff.mp hnotYet)
      have hlater :=
        ih (by simp only [noteRested, hafter, elapsed_rested, elapsed_asked]) hnext
      exact ⟨(pollUntilStarted_of_notYet hlt hask hnotYet).trans hlater.1, hlater.2⟩

/-- Events that keep to the budget, and the result that they call for: success if the first
conclusive answer says that the satellite has started, the error if that is one, and a lack of time
only if all of it has gone by without a conclusive answer. -/
structure KeepsBudget (ticks timeout limit : Nat) (events : List WaitEvent)
    (result : Except ClientError Unit) : Prop extends Kept ticks timeout limit events where
  ok_iff : result = .ok () ↔ DecidedBy (.ok "1") (answers events)
  error_iff : ∀ error, result = .error error ↔
    (¬ Inconclusive (.error error) ∧ DecidedBy (.error error) (answers events)) ∨
      (error = .notStarted ∧ elapsed events = limit ∧
        ∀ answer ∈ answers events, Inconclusive answer)

theorem keepsBudget_noted (hticks : 0 < ticks)
    (hprompt : ∀ given state, (ask given state).2.1 ≤ given) (idle : Nat → σ → σ)
    (timeout limit : Nat) (state : σ) :
    let ended := pollUntilStarted (noteAsked ask) (noteRested idle) timeout limit
      (.start ticks hticks) 0 (state, [])
    pollUntilStarted ask idle timeout limit (.start ticks hticks) 0 state = (ended.1, ended.2.1) ∧
      KeepsBudget ticks timeout limit ended.2.2 ended.1 := by
  obtain ⟨hsame, hkept, hconcludes⟩ :=
    kept_of_underway hticks hprompt idle (.start ticks hticks) 0 (state, []) rfl
      (Underway.empty timeout limit hticks)
  exact ⟨hsame, hkept, hconcludes.ok_iff, hconcludes.error_iff⟩

/-- The notes agree with any clock that polls and rests advance. -/
theorem clock_noted (clock : σ → Nat)
    (hask : ∀ given state, clock (ask given state).2.2 = clock state + (ask given state).2.1)
    (idle : Nat → σ → σ) (hidle : ∀ time state, clock (idle time state) = clock state + time)
    (timeout limit : Nat) (backoff : Backoff) (before : Nat) (noted : σ × List WaitEvent) :
    let ended :=
      pollUntilStarted (noteAsked ask) (noteRested idle) timeout limit backoff before noted
    clock ended.2.1 + elapsed noted.2 = clock noted.1 + elapsed ended.2.2 := by
  have hround : ∀ {given spent : Nat} {noted after : σ × List WaitEvent}
      {answer : Except ClientError String}, noteAsked ask given noted = (answer, spent, after) →
        clock after.1 = clock noted.1 + spent ∧ elapsed after.2 = elapsed noted.2 + spent := by
    intro given spent noted after answer hasked
    obtain ⟨hanswer, hafter⟩ := noteAsked_eq_iff.mp hasked
    have hclock := hask given noted.1
    rw [hanswer] at hclock
    exact ⟨hclock, by rw [hafter, elapsed_asked]⟩
  fun_induction pollUntilStarted (noteAsked ask) (noteRested idle) timeout limit backoff before
    noted with
  | case1 => rfl
  | case2 backoff before noted remaining hsome answer spent after hasked hstarted =>
      obtain ⟨hclock, helapsed⟩ := hround hasked
      dsimp only
      omega
  | case3 backoff before noted remaining hsome answer spent after hasked error hfailed =>
      obtain ⟨hclock, helapsed⟩ := hround hasked
      dsimp only
      omega
  | case4 backoff before noted remaining hsome answer spent after hasked hnotYet nap ih =>
      obtain ⟨hclock, helapsed⟩ := hround hasked
      have hrest := hidle nap after.1
      dsimp only [noteRested] at ih ⊢
      rw [elapsed_rested] at ih
      omega

end Run

namespace Client

/-! ## The client as it is -/

/-- A request is over within its time. -/
theorem now_execute (session : Session) (request : CorrelatedRequest) :
    session.router.now ≤ (session.execute request).2.router.now ∧
      (session.execute request).2.router.now ≤ session.router.now + request.timeout := by
  have hsent := session.router.now_issue request
  cases hissue : session.router.issue request with
  | mk result router =>
  rw [hissue] at hsent
  cases result with
  | error error =>
      rw [Session.execute_of_error hissue]
      exact ⟨hsent.ge, hsent.le.trans (Nat.le_add_right _ _)⟩
  | ok handle =>
      have hdeadline := Router.deadline_of_issue (congrArg Prod.fst hissue)
      have hwait := router.now_waitAfter (Session.nextEvents session.script request.id) handle
      rw [Session.execute_of_ok hissue]
      dsimp only at hsent ⊢
      omega

variable (client : Client)

/-- Neither a poll that cannot be sent nor one that is not answered takes more than its time. -/
theorem now_askState (given : Nat) (session : Session) :
    session.router.now ≤ (client.askState given session).2.2.router.now ∧
      (client.askState given session).2.2.router.now ≤ session.router.now + given := by
  unfold askState
  cases hline : client.formatter.format Telecommand.getState.template ⟨[], []⟩ with
  | error error =>
      rw [run_of_format_error hline]
      exact ⟨Nat.le_refl _, Nat.le_add_right _ _⟩
  | ok line =>
      rw [run_of_format hline]
      exact now_execute session.numbered _

/-- A poll takes no more than it is given. -/
theorem askState_prompt (given : Nat) (session : Session) :
    (client.askState given session).2.1 ≤ given :=
  Nat.sub_le_iff_le_add'.mpr (client.now_askState given session).2

/-- The clock of the router shows no other time than the notes. -/
theorem now_noted (limit : Nat) (session : Session) :
    let ended := pollUntilStarted (noteAsked client.askState) (noteRested Session.sleep)
      client.timeout limit (.start 1 Nat.one_pos) 0 (session, [])
    ended.2.1.router.now = session.router.now + elapsed ended.2.2 :=
  clock_noted (fun session : Session => session.router.now)
    (fun given session => (Nat.add_sub_of_le (client.now_askState given session).1).symm)
    Session.sleep (fun time session => session.router.now_sleep time)
    client.timeout limit (.start 1 Nat.one_pos) 0 (session, [])

end Client

/-- Waiting ends in time, after no more polls than there are shortest rests in the time that was
given, and each poll and each rest is as long as its place allows. It succeeds if the first
conclusive answer says that the satellite has started and fails if that is an error; it gives up
only when all the time has gone by without a conclusive answer. So it is whoever answers the polls,
as long as no answer takes more time than it was given, and so it is when the client runs the
command for the state; then the clock of the router shows the time that has gone by. -/
theorem waiting_keeps_to_its_budget :
    (∀ {σ : Type} (ask : Nat → σ → Except ClientError String × Nat × σ) (idle : Nat → σ → σ),
      (∀ given state, (ask given state).2.1 ≤ given) →
      ∀ (ticks : Nat) (hticks : 0 < ticks) (timeout limit : Nat) (state : σ),
        let ended := pollUntilStarted (noteAsked ask) (noteRested idle) timeout limit
          (.start ticks hticks) 0 (state, [])
        pollUntilStarted ask idle timeout limit (.start ticks hticks) 0 state =
            (ended.1, ended.2.1) ∧
          KeepsBudget ticks timeout limit ended.2.2 ended.1) ∧
    ∀ (client : Client) (limit : Nat) (session : Session),
      let poll := fun (given : Nat) (session : Session) =>
        let reply := client.run .getState ⟨[], []⟩ none given session
        (reply.1, reply.2.router.now - session.router.now, reply.2)
      let ended := pollUntilStarted (noteAsked poll) (noteRested Session.sleep) client.timeout limit
        (.start 1 Nat.one_pos) 0 (session, [])
      client.waitToStart limit session = (ended.1, ended.2.1) ∧
        KeepsBudget 1 client.timeout limit ended.2.2 (client.waitToStart limit session).1 ∧
        (client.waitToStart limit session).2.router.now =
          session.router.now + elapsed ended.2.2 := by
  constructor
  · intro σ ask idle hprompt ticks hticks timeout limit state
    exact keepsBudget_noted hticks hprompt idle timeout limit state
  · intro client limit session poll ended
    obtain ⟨hsame, hkeeps⟩ := keepsBudget_noted Nat.one_pos client.askState_prompt
      Session.sleep client.timeout limit session
    have hwait : client.waitToStart limit session = (ended.1, ended.2.1) := hsame
    rw [hwait]
    exact ⟨rfl, hkeeps, client.now_noted limit session⟩

/-- Gives recorded answers, each after its time or when the poll has no more, and then none. -/
def replay (given : Nat) : List (Except ClientError String × Nat) →
    Except ClientError String × Nat × List (Except ClientError String × Nat)
  | [] => (.error (.router (.timeout 0)), given, [])
  | (answer, spent) :: rest => (answer, min spent given, rest)

theorem replay_prompt (given : Nat) (recording : List (Except ClientError String × Nat)) :
    (replay given recording).2.1 ≤ given := by
  cases recording with
  | nil => exact Nat.le_refl _
  | cons first rest => exact Nat.min_le_right _ _

/-- Of recorded answers the second takes all the time that a response has, and the third rest all
the time that remains. A client hears of another state, then nothing until the deadline, and then
that the satellite has started. -/
theorem waiting_keeps_to_its_budget_both_ways :
    let vain := pollUntilStarted (noteAsked replay) (noteRested fun _ => id) 100 300
      (.start 1 Nat.one_pos) 0
      ([(.ok "0", 10), (.error (.router (.timeout 7)), 500), (.ok "2", 5)], [])
    let state (octet : UInt8) (id : CorrelationId) : List LinkEvent :=
      [.deliver (.response ⟨⟨.terminal, .success⟩, id, [octet, 10]⟩)]
    let session : Session := ⟨{}, [state 48, fun _ => [], state 49]⟩
    let client : Client := { securityCode := 1, timeout := 100 }
    (∀ given recording, (replay given recording).2.1 ≤ given) ∧ 0 < 1 ∧
      vain.2.2 = [.asked 100 (.ok "0") 10, .rested 50,
        .asked 100 (.error (.router (.timeout 7))) 100, .rested 100,
        .asked 40 (.ok "2") 5, .rested 35] ∧
      (answers vain.2.2).length ≤ 300 ⌈/⌉ (50 * 1) ∧
      elapsed vain.2.2 = 300 ∧
      vain.1 = .error .notStarted ∧
      ∃ events, KeepsBudget 1 100 300 events (client.waitToStart 300 session).1 ∧
        events = [.asked 100 (.ok "0") 0, .rested 50,
          .asked 100 (.error (.router (.timeout 1))) 100, .rested 100, .asked 50 (.ok "1") 0] ∧
        (client.waitToStart 300 session).1 = .ok () ∧
        (client.waitToStart 300 session).2.router.now = 0 + elapsed events := by
  intro vain state session client
  obtain ⟨-, hbudget⟩ := waiting_keeps_to_its_budget.1 replay (fun _ => id) replay_prompt 1
    Nat.one_pos 100 300 [(.ok "0", 10), (.error (.router (.timeout 7)), 500), (.ok "2", 5)]
  obtain ⟨-, hkeeps, hclock⟩ := waiting_keeps_to_its_budget.2 client 300 session
  have hvain : vain.1 = .error .notStarted := by decide +kernel
  refine ⟨replay_prompt, Nat.one_pos, by decide +kernel, hbudget.few, ?_, hvain, _, hkeeps,
    by decide +kernel, by decide +kernel, hclock⟩
  obtain ⟨hconclusive, -⟩ | ⟨-, helapsed, -⟩ := (hbudget.error_iff _).mp hvain
  · exact absurd (.inl rfl) hconclusive
  · exact helapsed

end GroundLink.Command
