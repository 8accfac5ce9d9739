import GroundLink.Proofs.Router.Effect

/-! # Gates

Two gates are closed for all numbers at once and never open again: one at teardown, the other one
when the link is gone. No other step touches them, so that after a run the first gate tells whether
there has been a teardown, and the second one holds the first reason for which the link was closed.
-/

namespace GroundLink

/-- The reason that a step gives for the end of the link. -/
def RouterStep.closing? : RouterStep → Option String
  | .close reason => some reason
  | _ => none

theorem RouterStep.eq_close_of_closing? {step : RouterStep} {reason : String}
    (h : step.closing? = some reason) : step = .close reason := by
  cases step with
  | close other => rw [Option.some_inj.mp h]
  | _ => cases h

namespace RequestTable

variable {table : RequestTable}

/-- What decides whether the router is open: whether it is torn down, and why the link is gone. -/
def gates (table : RequestTable) : Bool × Option String := (table.shutDown, table.closed)

def gatesAfter (gates : Bool × Option String) : RouterStep → Bool × Option String
  | .cancelAll => (true, gates.2)
  | .close reason => (gates.1, gates.2.or (some reason))
  | _ => gates

/-- A step moves the gates as it should, and only taking a number moves the counter. -/
theorem apply_eq (table : RequestTable) (step : RouterStep) :
    ∃ pending held nextId slots,
      table.apply step =
        { pending, held, nextId, slots
          shutDown := (gatesAfter table.gates step).1
          closed := (gatesAfter table.gates step).2 } ∧
      (step ≠ .allocate → nextId = table.nextId) := by
  cases step with
  | allocate => exact ⟨_, _, _, _, rfl, fun h => absurd rfl h⟩
  | beginIssue id filter deadline =>
      simp only [apply, beginIssue]
      split
      · exact ⟨_, _, _, _, rfl, fun _ => rfl⟩
      · obtain ⟨_, _, hregister⟩ := (table.dropHeld id).register_eq id filter deadline
        exact ⟨_, _, _, _, hregister, fun _ => rfl⟩
  | expect id filter now timeout =>
      simp only [apply, expect]
      split
      · exact ⟨_, _, _, _, rfl, fun _ => rfl⟩
      · split
        · exact ⟨_, _, _, _, rfl, fun _ => rfl⟩
        · split
          · exact ⟨_, _, _, _, rfl, fun _ => rfl⟩
          · split
            · exact ⟨_, _, _, _, rfl, fun _ => rfl⟩
            · obtain ⟨_, _, hregister⟩ := (table.prune now).register_eq id filter (now + timeout)
              exact ⟨_, _, _, _, hregister, fun _ => rfl⟩
  | deliver now frame =>
      simp only [apply]
      rcases table.deliver_cases now frame with
        ⟨response, request, -, -, -, hdeliver⟩ | ⟨_, _, -, -, -, hdeliver⟩ | ⟨hdeliver, -⟩
      · obtain ⟨_, hcomplete⟩ := (table.remove request.handle.ticket).complete_eq
          request.handle.ticket (.fulfilled response)
        rw [hdeliver]
        exact ⟨_, _, _, _, hcomplete, fun _ => rfl⟩
      · rw [hdeliver]
        exact ⟨_, _, _, _, rfl, fun _ => rfl⟩
      · rw [hdeliver]
        exact ⟨_, _, _, _, rfl, fun _ => rfl⟩
  | abandonIssue handle reason =>
      obtain ⟨_, _, hresolve⟩ := table.resolve_eq handle.ticket (.failed reason) handle.id
      exact ⟨_, _, _, _, hresolve, fun _ => rfl⟩
  | expire id ticket =>
      obtain ⟨_, _, hresolve⟩ := table.resolve_eq ticket .timedOut id
      exact ⟨_, _, _, _, hresolve, fun _ => rfl⟩
  | cancel handle =>
      obtain ⟨_, _, hresolve⟩ := table.resolve_eq handle.ticket .cancelled handle.id
      exact ⟨_, _, _, _, hresolve, fun _ => rfl⟩
  | cancelAll =>
      obtain ⟨_, hall⟩ := { table with shutDown := true, held := [] }.resolveAll_eq .cancelled
      exact ⟨_, _, _, _, hall, fun _ => rfl⟩
  | close reason =>
      simp only [apply, close, gatesAfter, gates]
      split
      next earlier hclosed =>
        rw [hclosed, Option.some_or, ← hclosed]
        exact ⟨_, _, _, _, rfl, fun _ => rfl⟩
      next hclosed =>
        obtain ⟨_, hall⟩ := table.resolveAll_eq (.failed reason)
        rw [hall, hclosed]
        exact ⟨_, _, _, _, rfl, fun _ => rfl⟩
  | countHeld now => exact ⟨_, _, _, _, rfl, fun _ => rfl⟩

theorem gates_apply (table : RequestTable) (step : RouterStep) :
    (table.apply step).gates = gatesAfter table.gates step := by
  obtain ⟨_, _, _, _, happly, -⟩ := table.apply_eq step
  rw [happly]
  rfl

/-- Only taking a number moves the counter. -/
theorem nextId_apply {step : RouterStep} (h : step ≠ .allocate) :
    (table.apply step).nextId = table.nextId := by
  obtain ⟨_, _, _, _, happly, hnext⟩ := table.apply_eq step
  rw [happly, hnext h]

theorem nextId_run {steps : List RouterStep} (h : .allocate ∉ steps) :
    (table.run steps).nextId = table.nextId := by
  induction steps generalizing table with
  | nil => rfl
  | cons step rest ih =>
      rw [run_cons, ih (List.not_mem_of_not_mem_cons h),
        nextId_apply (List.ne_of_not_mem_cons h).symm]

theorem shutDown_apply (table : RequestTable) (step : RouterStep) :
    (table.apply step).shutDown = (table.shutDown || step == .cancelAll) := by
  have hgates := congrArg Prod.fst (table.gates_apply step)
  simp only [gates] at hgates
  rw [hgates]
  cases step <;> simp [gatesAfter]

theorem closed_apply (table : RequestTable) (step : RouterStep) :
    (table.apply step).closed = table.closed.or step.closing? := by
  have hgates := congrArg Prod.snd (table.gates_apply step)
  simp only [gates] at hgates
  rw [hgates]
  cases step <;> simp [gatesAfter, RouterStep.closing?]

/-- A table is torn down from the first teardown on. -/
theorem shutDown_run (table : RequestTable) (steps : List RouterStep) :
    (table.run steps).shutDown = true ↔ table.shutDown = true ∨ .cancelAll ∈ steps := by
  induction steps generalizing table with
  | nil => simp
  | cons step rest ih =>
      rw [run_cons, ih, shutDown_apply, Bool.or_eq_true, beq_iff_eq, List.mem_cons, or_assoc,
        eq_comm (a := step)]

/-- The link stays gone for the reason that was given first. -/
theorem closed_run (table : RequestTable) (steps : List RouterStep) :
    (table.run steps).closed = table.closed.or (steps.findSome? RouterStep.closing?) := by
  induction steps generalizing table with
  | nil => simp
  | cons step rest ih =>
      rw [run_cons, ih, closed_apply, List.findSome?_cons, Option.or_assoc]
      cases step.closing? <;> rfl

/-! ## What closed gates refuse -/

variable {id : CorrelationId} {error : RouterError}

theorem ensureOpen_of_shutDown (h : table.shutDown = true) (id : CorrelationId) :
    table.ensureOpen id = .error (.cancelled id) := by
  rw [ensureOpen, if_pos h]

theorem ensureOpen_of_closed {reason : String} (hopen : table.shutDown = false)
    (h : table.closed = some reason) (id : CorrelationId) :
    table.ensureOpen id = .error (.transportUnavailable reason) := by
  rw [ensureOpen, if_neg (by simp [hopen]), h]

/-- A request to be sent leaves no trace when a gate is closed. -/
theorem beginIssue_of_ensureOpen (h : table.ensureOpen id = .error error) (filter : FrameFilter)
    (deadline : Nat) : table.beginIssue id filter deadline = (.error error, table) := by
  simp only [beginIssue, h]

theorem expect_of_shutDown (h : table.shutDown = true) (id : CorrelationId) (filter : FrameFilter)
    (now timeout : Nat) :
    table.expect id filter now timeout = (.error (.cancelled id), table) := by
  rw [expect, if_pos h]

/-- No handle is given out after teardown. -/
theorem made?_of_shutDown (h : table.shutDown = true) (step : RouterStep) :
    table.made? step = none := by
  cases step with
  | beginIssue id filter deadline =>
      simp only [made?, beginIssue_of_ensureOpen (ensureOpen_of_shutDown h id)]
  | expect id filter now timeout => simp only [made?, expect_of_shutDown h]
  | _ => rfl

end RequestTable

end GroundLink
