import GroundLink.Router.Table

/-! # Steps of the router

Whatever thread enters the router, it takes one undivided step on the table of requests and
leaves. A run is a list of such steps in any order, with any arguments. Every step either gives
out a handle or ends some of the requests that wait; `ends?` says which ones, and how.
-/

namespace GroundLink

/-- One undivided step of the router and what it is taken with. -/
inductive RouterStep where
  | allocate
  /-- The part of a request to be sent that comes before the send. -/
  | beginIssue (id : CorrelationId) (filter : FrameFilter) (deadline : Nat)
  /-- The part of a request to be sent that follows a failed send. -/
  | abandonIssue (handle : Handle) (reason : String)
  | expect (id : CorrelationId) (filter : FrameFilter) (now timeout : Nat)
  | deliver (now : Nat) (frame : Frame)
  | expire (id : CorrelationId) (ticket : Nat)
  | cancel (handle : Handle)
  | cancelAll
  | close (reason : String)
  | countHeld (now : Nat)
  deriving Repr, DecidableEq

namespace RequestTable

def apply (table : RequestTable) : RouterStep → RequestTable
  | .allocate => table.allocateId.2
  | .beginIssue id filter deadline => (table.beginIssue id filter deadline).2
  | .abandonIssue handle reason => table.abandonIssue handle reason
  | .expect id filter now timeout => (table.expect id filter now timeout).2
  | .deliver now frame => (table.deliver now frame).2
  | .expire id ticket => table.expire id ticket
  | .cancel handle => table.cancel handle
  | .cancelAll => table.cancelAll
  | .close reason => table.close reason
  | .countHeld now => table.prune now

def run (table : RequestTable) (steps : List RouterStep) : RequestTable := steps.foldl apply table

/-- The handle that a step gives out, with the filter it was asked for. -/
def made? (table : RequestTable) : RouterStep → Option Pending
  | .beginIssue id filter deadline =>
      match (table.beginIssue id filter deadline).1 with
      | .ok handle => some ⟨handle, filter⟩
      | .error _ => none
  | .expect id filter now timeout =>
      match (table.expect id filter now timeout).1 with
      | .ok handle => some ⟨handle, filter⟩
      | .error _ => none
  | _ => none

/-- All handles given out during a run, oldest first. -/
def made (table : RequestTable) : List RouterStep → List Pending
  | [] => []
  | step :: rest => (table.made? step).toList ++ (table.apply step).made rest

@[simp] theorem run_nil (table : RequestTable) : table.run [] = table := rfl

@[simp] theorem run_cons (table : RequestTable) (step : RouterStep) (rest : List RouterStep) :
    table.run (step :: rest) = (table.apply step).run rest := rfl

theorem run_append (table : RequestTable) (first second : List RouterStep) :
    table.run (first ++ second) = (table.run first).run second :=
  List.foldl_append

theorem run_concat (table : RequestTable) (steps : List RouterStep) (step : RouterStep) :
    table.run (steps ++ [step]) = (table.run steps).apply step := by
  rw [run_append, run_cons, run_nil]

theorem made_append (table : RequestTable) (first second : List RouterStep) :
    table.made (first ++ second) = table.made first ++ (table.run first).made second := by
  induction first generalizing table with
  | nil => rfl
  | cons step rest ih => simp only [List.cons_append, made, ih, run_cons, List.append_assoc]

theorem made_concat (table : RequestTable) (steps : List RouterStep) (step : RouterStep) :
    table.made (steps ++ [step]) = table.made steps ++ ((table.run steps).made? step).toList := by
  rw [made_append, made, made, List.append_nil]

end RequestTable

namespace RouterStep

/-- How a step that tells of a response, of time or of an end concerns a request. -/
def event? (request : Pending) : RouterStep → Option Outcome
  | .deliver _ (.response response) =>
      if response.id = request.handle.id ∧ request.filter.accepts response.kind then
        some (.fulfilled response)
      else none
  | .expire id ticket =>
      if request.handle.id = id ∧ request.handle.ticket = ticket then some .timedOut else none
  | .cancel handle =>
      if request.handle.id = handle.id ∧ request.handle.ticket = handle.ticket then
        some .cancelled
      else none
  | .cancelAll => some .cancelled
  | .close reason => some (.failed reason)
  | _ => none

/-- The outcome with which a step ends a request that waits, if it does. -/
def ends? (request : Pending) : RouterStep → Option Outcome
  | .abandonIssue handle reason =>
      if request.handle.id = handle.id ∧ request.handle.ticket = handle.ticket then
        some (.failed reason)
      else none
  | step => step.event? request

/-- What a step must be to end a request with an outcome. -/
def Causes (step : RouterStep) (request : Pending) : Outcome → Prop
  | .fulfilled response =>
      ∃ now, step = .deliver now (.response response) ∧ response.id = request.handle.id ∧
        request.filter.accepts response.kind = true
  | .timedOut => step = .expire request.handle.id request.handle.ticket
  | .cancelled =>
      step = .cancelAll ∨ ∃ handle, step = .cancel handle ∧ request.handle.id = handle.id ∧
        request.handle.ticket = handle.ticket
  | .failed reason =>
      step = .close reason ∨ ∃ handle, step = .abandonIssue handle reason ∧
        request.handle.id = handle.id ∧ request.handle.ticket = handle.ticket

theorem causes_of_ends? {request : Pending} {step : RouterStep} {outcome : Outcome}
    (h : step.ends? request = some outcome) : step.Causes request outcome := by
  cases step with
  | deliver now frame =>
      cases frame with
      | response response =>
          obtain ⟨hboth, ⟨⟩⟩ := Option.ite_none_right_eq_some.mp h
          exact ⟨now, rfl, hboth⟩
      | _ => exact nomatch h
  | abandonIssue handle reason =>
      obtain ⟨hboth, ⟨⟩⟩ := Option.ite_none_right_eq_some.mp h
      exact Or.inr ⟨handle, rfl, hboth⟩
  | expire id ticket =>
      obtain ⟨⟨rfl, rfl⟩, ⟨⟩⟩ := Option.ite_none_right_eq_some.mp h
      rfl
  | cancel handle =>
      obtain ⟨hboth, ⟨⟩⟩ := Option.ite_none_right_eq_some.mp h
      exact Or.inr ⟨handle, rfl, hboth⟩
  | cancelAll =>
      cases h
      exact Or.inl rfl
  | close reason =>
      cases h
      exact Or.inl rfl
  | _ => exact nomatch h

/-- Only the delivery of a response that it accepts fulfils a request. -/
theorem ends?_fulfilled {request : Pending} {step : RouterStep} {response : Response}
    (h : step.ends? request = some (.fulfilled response)) :
    ∃ now, step = .deliver now (.response response) ∧ response.id = request.handle.id ∧
      request.filter.accepts response.kind = true :=
  causes_of_ends? h

/-- Only an expiry with its own number and ticket ends a request for want of time. -/
theorem ends?_timedOut {request : Pending} {step : RouterStep}
    (h : step.ends? request = some .timedOut) :
    step = .expire request.handle.id request.handle.ticket :=
  causes_of_ends? h

end RouterStep

end GroundLink
