import GroundLink.Proofs.Router.Gates
import GroundLink.Proofs.Router.Projection

/-! # What one number sees of the router

To one number the router is a table with its own requests, the responses kept back for it, and the
gates that are closed for all numbers at once. As long as nothing that is kept back has to make
room or becomes too old, a step about another number leaves this table alone, and any other step
does the same to it as to the shared one, with the same answer.
-/

namespace GroundLink

namespace RequestTable

variable {table single : RequestTable} {number : Nat → Nat} {id : CorrelationId}
  {step : RouterStep}

/-! ## Responses kept back -/

theorem prune_of_fresh {now : Nat} (h : ∀ kept ∈ table.held, kept.isFresh now = true) :
    table.prune now = table := by
  rw [prune, List.filter_eq_self.mpr h]

/-- Nothing that is kept back is too old for the step, and nothing has to make room. -/
def Spares (table : RequestTable) : RouterStep → Prop
  | .expect id _ now _ => (table.shutDown || table.isPending id) = false →
      ∀ kept ∈ table.held, kept.isFresh now = true
  | .deliver now frame => (table.deliver now frame).1 = .held →
      (∀ kept ∈ table.held, kept.isFresh now = true) ∧ table.held.length < maxHeld
  | .countHeld now => ∀ kept ∈ table.held, kept.isFresh now = true
  | _ => True

/-- What is kept back after a step that spares it. -/
def keptAfter (table : RequestTable) : RouterStep → List HeldResponse
  | .beginIssue id _ _ =>
      match table.ensureOpen id with
      | .error _ => table.held
      | .ok () => table.held.filter fun kept => kept.response.id != id
  | .expect id filter _ _ =>
      if table.shutDown || table.isPending id then table.held
      else table.held.eraseP fun kept => kept.answers id filter
  | .deliver now frame =>
      match (table.deliver now frame).1, frame with
      | .held, .response response => table.held ++ [⟨now, response⟩]
      | _, _ => table.held
  | .cancelAll => []
  | _ => table.held

theorem Spares.held_apply (h : table.Spares step) :
    (table.apply step).held = table.keptAfter step := by
  cases step with
  | beginIssue id filter deadline =>
      simp only [apply, beginIssue, keptAfter]
      cases table.ensureOpen id with
      | error error => rfl
      | ok _ => exact register_held id filter deadline
  | expect id filter now timeout =>
      simp only [apply, expect_held, keptAfter]
      split
      next => rfl
      next hfree => rw [prune_of_fresh (h (by simpa using hfree))]
  | deliver now frame =>
      simp only [apply, keptAfter]
      rcases table.deliver_cases now frame with
        ⟨response, request, rfl, hfind, haccepts, hdeliver⟩ |
        ⟨response, request, rfl, hfind, hrejects, hdeliver⟩ | ⟨hdeliver, hnone⟩
      · simp only [hdeliver, complete_held]
        rfl
      · obtain ⟨hfresh, hroom⟩ := h (by rw [hdeliver])
        simp only [hdeliver, hold, prune_of_fresh hfresh]
        rw [if_neg (Nat.not_le.mpr hroom)]
      · simp only [hdeliver]
  | abandonIssue handle reason => exact resolve_held _ _ _
  | expire id ticket => exact resolve_held _ _ _
  | cancel handle => exact resolve_held _ _ _
  | cancelAll => exact resolveAll_held _
  | close reason =>
      simp only [apply, close]
      split
      · rfl
      · exact resolveAll_held _
  | countHeld now => exact congrArg RequestTable.held (prune_of_fresh h)
  | allocate => rfl

/-! ## A table seen from one number -/

/-- All that belongs to one number stands in a table by itself, with tickets of its own. -/
structure View (number : Nat → Nat) (id : CorrelationId) (table single : RequestTable) : Prop
    extends Mirrors number id table single where
  held : single.held = table.held.filter fun kept => kept.response.id == id
  gates : single.gates = table.gates

theorem View.ensureOpen (h : View number id table single) (other : CorrelationId) :
    single.ensureOpen other = table.ensureOpen other := by
  have hgates := h.gates
  simp only [RequestTable.gates, Prod.mk.injEq] at hgates
  rw [RequestTable.ensureOpen, RequestTable.ensureOpen, hgates.1, hgates.2]

/-- If a step gives out a handle, it is the next one to be counted. -/
def Fits (number : Nat → Nat) (table single : RequestTable) (step : RouterStep) : Prop :=
  (table.made? step).isSome →
    ∀ ticket, number ticket = single.slots.length ↔ ticket = table.slots.length

theorem Mirrors.register (h : Mirrors number id table single) (filter : FrameFilter)
    (deadline : Nat)
    (hfits : table.isPending id = false →
      ∀ ticket, number ticket = single.slots.length ↔ ticket = table.slots.length) :
    (single.register id filter deadline).1 =
        (table.register id filter deadline).1.map (Handle.renumber number) ∧
      Mirrors number id (table.register id filter deadline).2
        (single.register id filter deadline).2 := by
  have hpending := h.isPending
  cases htaken : table.isPending id with
  | true =>
      rw [htaken] at hpending
      rw [register_of_isPending filter deadline htaken,
        register_of_isPending filter deadline hpending]
      exact ⟨rfl, h⟩
  | false =>
      rw [htaken] at hpending
      rw [register_of_free filter deadline htaken, register_of_free filter deadline hpending]
      have hnumber := (hfits htaken _).mpr rfl
      refine ⟨?_, h.append_own (hfits htaken) ?_ rfl rfl⟩
      · simp only [Except.map, Handle.renumber, hnumber]
      · simp [h.pending, Pending.renumber, Handle.renumber, hnumber]

theorem View.beginIssue (h : View number id table single) (filter : FrameFilter) (deadline : Nat)
    (hfits : Fits number table single (.beginIssue id filter deadline)) :
    (single.beginIssue id filter deadline).1 =
        (table.beginIssue id filter deadline).1.map (Handle.renumber number) ∧
      Mirrors number id (table.beginIssue id filter deadline).2
        (single.beginIssue id filter deadline).2 := by
  have hensure := h.ensureOpen id
  simp only [RequestTable.beginIssue, hensure]
  cases hopen : table.ensureOpen id with
  | error error => exact ⟨rfl, h.toMirrors⟩
  | ok _ =>
      have hdropped : Mirrors number id (table.dropHeld id) (single.dropHeld id) :=
        ⟨h.pending, h.slots, h.injective⟩
      refine hdropped.register filter deadline fun hfree => hfits ?_
      simp only [made?, RequestTable.beginIssue, hopen, register_of_free filter deadline hfree]
      rfl

theorem answers_id {kept : HeldResponse} {filter : FrameFilter}
    (h : kept.answers id filter = true) : kept.response.id = id := by
  simp only [HeldResponse.answers, Bool.and_eq_true, beq_iff_eq] at h
  exact h.1

/-- The oldest response that answers a request of the one number is the same on both sides. -/
theorem View.find?_answers (h : View number id table single) (filter : FrameFilter) :
    (single.held.find? fun kept => kept.answers id filter) =
      table.held.find? fun kept => kept.answers id filter := by
  rw [h.held, List.find?_filter]
  congr 1
  funext kept
  rw [Bool.eq_iff_iff]
  simpa using answers_id

theorem View.fresh (h : View number id table single) {now : Nat}
    (hfresh : ∀ kept ∈ table.held, kept.isFresh now = true) :
    ∀ kept ∈ single.held, kept.isFresh now = true := by
  intro kept hkept
  rw [h.held] at hkept
  exact hfresh kept (List.mem_of_mem_filter hkept)

theorem View.shutDown (h : View number id table single) : single.shutDown = table.shutDown :=
  congrArg Prod.fst h.gates

theorem View.refuses (h : View number id table single) :
    (single.shutDown || single.isPending id) = (table.shutDown || table.isPending id) := by
  rw [h.isPending, h.shutDown]

theorem expect_of_refuses (filter : FrameFilter) (now timeout : Nat)
    (h : (table.shutDown || table.isPending id) = true) :
    table.expect id filter now timeout =
      (.error (if table.shutDown then .cancelled id else .duplicateId id), table) := by
  cases hshutDown : table.shutDown with
  | true => rw [expect, if_pos hshutDown, if_pos rfl]
  | false =>
      rw [hshutDown, Bool.false_or] at h
      rw [expect, if_neg (by simp [hshutDown]), if_pos h, if_neg Bool.false_ne_true]

theorem View.expect (h : View number id table single) (filter : FrameFilter) (now timeout : Nat)
    (hspares : table.Spares (.expect id filter now timeout))
    (hfits : Fits number table single (.expect id filter now timeout)) :
    (single.expect id filter now timeout).1 =
        (table.expect id filter now timeout).1.map (Handle.renumber number) ∧
      Mirrors number id (table.expect id filter now timeout).2
        (single.expect id filter now timeout).2 := by
  have hrefuses := h.refuses
  cases hrefused : table.shutDown || table.isPending id with
  | true =>
      rw [hrefused] at hrefuses
      rw [expect_of_refuses filter now timeout hrefused,
        expect_of_refuses filter now timeout hrefuses, h.shutDown]
      exact ⟨rfl, h.toMirrors⟩
  | false =>
  rw [hrefused] at hrefuses
  have hfresh := hspares hrefused
  obtain ⟨hshutDown, hpending⟩ := Bool.or_eq_false_iff.mp hrefused
  obtain ⟨hsingleShutDown, hsinglePending⟩ := Bool.or_eq_false_iff.mp hrefuses
  have hexpect := expect_of_free filter now timeout hshutDown hpending
  have hsingle := expect_of_free filter now timeout hsingleShutDown hsinglePending
  rw [prune_of_fresh hfresh] at hexpect
  rw [prune_of_fresh (h.fresh hfresh), h.find?_answers] at hsingle
  -- served at once from what is kept back, refused, or entered: in each case both sides agree
  cases hfind : table.held.find? fun kept => kept.answers id filter with
  | some kept =>
      rw [hfind] at hexpect hsingle
      have hnext := hfits (by simp only [made?, hexpect]; rfl)
      rw [hexpect, hsingle]
      refine ⟨?_, h.append_own hnext h.pending rfl rfl⟩
      simp only [Except.map, Handle.renumber, (hnext _).mpr rfl]
  | none =>
      rw [hfind] at hexpect hsingle
      dsimp only at hexpect hsingle
      rw [h.ensureOpen] at hsingle
      cases hopen : table.ensureOpen id with
      | error error =>
          rw [hopen] at hexpect hsingle
          rw [hexpect, hsingle]
          exact ⟨rfl, h.toMirrors⟩
      | ok _ =>
          rw [hopen] at hexpect hsingle
          have hregister := h.register filter (now + timeout) fun hfree => hfits (by
            simp only [made?, hexpect, register_of_free filter (now + timeout) hfree]
            rfl)
          rw [hexpect, hsingle]
          exact hregister

theorem View.deliver (h : View number id table single) (now : Nat) {response : Response}
    (hid : response.id = id) :
    (single.deliver now (.response response)).1 =
      (table.deliver now (.response response)).1.renumber number := by
  simp only [RequestTable.deliver, hid, h.find?]
  cases table.find? id with
  | none => rfl
  | some request =>
      simp only [Option.map_some, Pending.renumber]
      split <;> rfl

/-- A step about the one number answers the same on both sides. -/
theorem View.reply (h : View number id table single) (habout : step.about? = some id)
    (hspares : table.Spares step) (hfits : Fits number table single step) :
    single.reply (step.renumber number) = (table.reply step).renumber number := by
  cases step with
  | beginIssue other filter deadline =>
      cases habout
      exact congrArg Reply.handle (h.beginIssue filter deadline hfits).1
  | expect other filter now timeout =>
      cases habout
      exact congrArg Reply.handle (h.expect filter now timeout hspares hfits).1
  | deliver now frame =>
      cases frame with
      | response response => exact congrArg Reply.fate (h.deliver now (Option.some_inj.mp habout))
      | _ => exact nomatch habout
  | abandonIssue handle reason => rfl
  | expire other ticket => rfl
  | cancel handle => rfl
  | _ => exact nomatch habout

/-- A step that is about no other number gives out the same handle on both sides. -/
theorem View.made? (h : View number id table single) (hreaches : step.reaches id = true)
    (hspares : table.Spares step) (hfits : Fits number table single step) :
    single.made? (step.renumber number) = (table.made? step).map (Pending.renumber number) := by
  cases step with
  | beginIssue other filter deadline =>
      obtain rfl := RouterStep.eq_of_reaches hreaches rfl
      have hreply := (h.beginIssue filter deadline hfits).1
      simp only [RequestTable.made?, RouterStep.renumber, hreply]
      cases (table.beginIssue other filter deadline).1 <;> rfl
  | expect other filter now timeout =>
      obtain rfl := RouterStep.eq_of_reaches hreaches rfl
      have hreply := (h.expect filter now timeout hspares hfits).1
      simp only [RequestTable.made?, RouterStep.renumber, hreply]
      cases (table.expect other filter now timeout).1 <;> rfl
  | _ => rfl

/-! ## Steps on both sides -/

theorem View.spares (h : View number id table single) (hreaches : step.reaches id = true)
    (hspares : table.Spares step) : single.Spares (step.renumber number) := by
  cases step with
  | expect other filter now timeout =>
      obtain rfl := RouterStep.eq_of_reaches hreaches rfl
      intro hrefused
      exact h.fresh (hspares (h.refuses ▸ hrefused))
  | deliver now frame =>
      cases frame with
      | response response =>
          have hid : response.id = id := RouterStep.eq_of_reaches hreaches rfl
          intro hfate
          rw [h.deliver now hid, Fate.renumber_eq_held_iff] at hfate
          obtain ⟨hfresh, hroom⟩ := hspares hfate
          refine ⟨h.fresh hfresh, ?_⟩
          rw [h.held]
          exact Nat.lt_of_le_of_lt (List.length_filter_le _ _) hroom
      | _ => exact fun hfate => nomatch hfate
  | countHeld now => exact h.fresh hspares
  | _ => trivial

theorem filter_eraseP_of_not {α : Type} {first second : α → Bool} (items : List α)
    (h : ∀ item, second item = true → first item = false) :
    (items.eraseP second).filter first = items.filter first := by
  rcases List.exists_or_eq_self_of_eraseP second items with
    heq | ⟨item, before, after, -, hitem, heq, herase⟩
  · rw [heq]
  · rw [herase, heq]
    simp [h item hitem]

/-- Both sides keep the same back for the one number. -/
theorem View.keptAfter (h : View number id table single) (hreaches : step.reaches id = true) :
    single.keptAfter (step.renumber number) =
      (table.keptAfter step).filter fun kept => kept.response.id == id := by
  cases step with
  | beginIssue other filter deadline =>
      simp only [RequestTable.keptAfter, RouterStep.renumber, h.ensureOpen]
      cases table.ensureOpen other with
      | error error => exact h.held
      | ok _ => rw [h.held, List.filter_comm]
  | expect other filter now timeout =>
      obtain rfl := RouterStep.eq_of_reaches hreaches rfl
      simp only [RequestTable.keptAfter, RouterStep.renumber, h.refuses]
      split
      · exact h.held
      · rw [h.held, List.eraseP_filter]
        congr 2
        funext kept
        rw [Bool.eq_iff_iff]
        simpa using answers_id
  | deliver now frame =>
      cases frame with
      | response response =>
          have hid : response.id = id := RouterStep.eq_of_reaches hreaches rfl
          simp only [RequestTable.keptAfter, RouterStep.renumber, h.deliver now hid]
          cases (table.deliver now (.response response)).1 with
          | held => simp [Fate.renumber, h.held, hid]
          | fulfils ticket => exact h.held
          | unsolicited => exact h.held
      | _ => exact h.held
  | cancelAll => rfl
  | _ => exact h.held

theorem keptAfter_of_about? {other : CorrelationId} (habout : step.about? = some other)
    (hother : other ≠ id) :
    ((table.keptAfter step).filter fun kept => kept.response.id == id) =
      table.held.filter fun kept => kept.response.id == id := by
  cases step with
  | beginIssue number filter deadline =>
      cases habout
      simp only [keptAfter]
      split
      · rfl
      · rw [List.filter_filter]
        apply List.filter_congr
        intro kept _
        by_cases heq : kept.response.id = id <;> simp [heq, Ne.symm hother]
  | expect number filter now timeout =>
      cases habout
      simp only [keptAfter]
      split
      · rfl
      · apply filter_eraseP_of_not
        intro kept hanswers
        simpa [answers_id hanswers] using hother
  | deliver now frame =>
      cases frame with
      | response response =>
          cases habout
          simp only [keptAfter]
          split
          next heq =>
            cases heq
            simp [hother]
          next => rfl
      | _ => exact nomatch habout
  | abandonIssue handle reason => rfl
  | expire number ticket => rfl
  | cancel handle => rfl
  | _ => exact nomatch habout

theorem Mirrors.apply_of_made? (h : Mirrors number id table single) (hsound : table.Sound)
    (hsingle : single.Sound) (hmade : table.made? step = none)
    (hmadeSingle : single.made? (step.renumber number) = none) :
    Mirrors number id (table.apply step) (single.apply (step.renumber number)) := by
  refine h.settles hsound hsingle (hsound.settles_apply hmade)
    (hsingle.settles_apply hmadeSingle) fun request hmem hid => ?_
  exact RouterStep.ends?_renumber fun ticket =>
    h.injective _ ticket (h.own_lt hsingle hmem hid)

/-- A step that is about no other number is the same on both sides. -/
theorem View.apply (h : View number id table single) (hsound : table.Sound)
    (hsingle : single.Sound) (hreaches : step.reaches id = true) (hspares : table.Spares step)
    (hfits : Fits number table single step) :
    View number id (table.apply step) (single.apply (step.renumber number)) where
  toMirrors := by
    cases step with
    | beginIssue other filter deadline =>
        obtain rfl := RouterStep.eq_of_reaches hreaches rfl
        exact (h.beginIssue filter deadline hfits).2
    | expect other filter now timeout =>
        obtain rfl := RouterStep.eq_of_reaches hreaches rfl
        exact (h.expect filter now timeout hspares hfits).2
    | _ => exact h.apply_of_made? hsound hsingle rfl rfl
  held := by
    rw [hspares.held_apply, (h.spares hreaches hspares).held_apply, h.keptAfter hreaches]
  gates := by
    rw [gates_apply, gates_apply, h.gates]
    cases step <;> rfl

/-- A step about another number does not show. -/
theorem View.apply_foreign (h : View number id table single) (hsound : table.Sound)
    (hsingle : single.Sound) {other : CorrelationId} (habout : step.about? = some other)
    (hother : other ≠ id) (hspares : table.Spares step) :
    View number id (table.apply step) single where
  toMirrors := by
    have hfilter : ∀ made, table.made? step = some made →
        [made].filter (fun request => request.handle.id == id) = [] := by
      intro made hmade
      have hid := Option.some_inj.mp (habout.symm.trans (about?_of_made? hmade))
      simpa [← hid] using hother
    cases hsound.effect step with
    | opens made hmade hticket hfree hpending hslots hidle hheld =>
        refine h.append_foreign ?_ hslots
        rw [hpending, List.filter_append, hfilter made hmade, List.append_nil]
    | serves made kept hmade hstep hticket hpending hslots hidle hkept hanswers hheld =>
        exact h.append_foreign (by rw [hpending]) hslots
    | settles hmade hsettles hheld =>
        -- the other side does nothing, and none of its requests is meant
        have hidle : single.Settles (fun _ => none) single :=
          hsingle.settles_of_eq rfl rfl rfl rfl fun _ _ => rfl
        refine h.settles hsound hsingle hsettles hidle fun request hmem hid => ?_
        exact (RouterStep.ends?_of_about? habout (hid ▸ Ne.symm hother)).symm
  held := by rw [hspares.held_apply, keptAfter_of_about? habout hother, h.held]
  gates := by
    rw [gates_apply, h.gates]
    cases step <;> first | rfl | exact nomatch habout

end RequestTable

end GroundLink
