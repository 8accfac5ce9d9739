import GroundLink.Proofs.Router.Deadlines
import Mathlib.Algebra.Group.Nat.Defs

/-! # Stale references

Numbers are used again, and references to a request outlive it: in the queue of the timer, in the
hands of callers, in a call whose send has failed. None of them touches the request that has the
number now, because tickets are never used again. So a request can only time out by a reference of
its own, and such a reference is not used before the deadline.
-/

namespace GroundLink

namespace RequestTable

variable {table : RequestTable} {request : Pending}

/-- Ending a request that waits no more does nothing, whoever has its number now. -/
theorem Tracks.resolve_stale (htracks : table.Tracks request) (hgone : request ∉ table.pending)
    (outcome : Outcome) :
    table.resolve request.handle.id request.handle.ticket outcome = table := by
  unfold resolve
  split
  next found hfind =>
    split
    next hticket =>
      have hmem := (find?_mem hfind).1
      exact absurd (htracks.own found hmem hticket ▸ hmem) hgone
    next => rfl
  next => rfl

/-- As long as there are no more handles than words, tickets in words of 64 bits do not repeat. -/
theorem nodup_words_made {steps : List RouterStep}
    (hcount : (({} : RequestTable).made steps).length < 2 ^ 64) :
    ((({} : RequestTable).made steps).map fun request =>
      UInt64.ofNat request.handle.ticket).Nodup := by
  have hwords : ∀ ticket ∈ (({} : RequestTable).made steps).map fun request =>
      request.handle.ticket, (UInt64.ofNat ticket).toNat = ticket := by
    intro ticket hticket
    rw [Sound.empty.tickets_made] at hticket
    obtain ⟨place, hplace, rfl⟩ := List.mem_range'.mp hticket
    rw [UInt64.toNat_ofNat']
    refine Nat.mod_eq_of_lt ?_
    change 0 + 1 * place < 2 ^ 64
    omega
  have hnodup := (nodup_tickets_made steps).map_on (f := UInt64.ofNat)
    fun first hfirst second hsecond heq => by
      rw [← hwords first hfirst, ← hwords second hsecond, heq]
  rwa [List.map_map] at hnodup

end RequestTable

namespace RequestTable

variable {steps : List RouterStep} {step : RouterStep} {request : Pending}

/-- A handle that has just been given out is empty or fulfilled. -/
theorem Sound.outcome?_made {table : RequestTable} (h : table.Sound)
    (hmade : table.made? step = some request) :
    (table.apply step).outcome? request.handle.ticket ≠ some .timedOut := by
  intro htimedOut
  have hslot := getElem?_of_outcome? htimedOut
  cases h.effect step with
  | opens made hmade' hticket hfree hpending hslots hidle hheld =>
      obtain rfl : made = request := Option.some_inj.mp (hmade'.symm.trans hmade)
      rw [hslots, hticket, List.getElem?_concat_length] at hslot
      exact nomatch hslot
  | serves made kept hmade' hstep hticket hpending hslots hidle hkept hanswers hheld =>
      obtain rfl : made = request := Option.some_inj.mp (hmade'.symm.trans hmade)
      rw [hslots, hticket, List.getElem?_concat_length] at hslot
      exact nomatch hslot
  | settles hmade' hsettles hheld => exact nomatch hmade'.symm.trans hmade

/-- A step after which a request has timed out carries its number and ticket. -/
theorem timedOut_concat (hmade : request ∈ ({} : RequestTable).made (steps ++ [step]))
    (hbefore : (({} : RequestTable).run steps).outcome? request.handle.ticket ≠ some .timedOut)
    (hafter : (({} : RequestTable).run (steps ++ [step])).outcome? request.handle.ticket =
      some .timedOut) :
    request ∈ ({} : RequestTable).made steps ∧
      step = .expire request.handle.id request.handle.ticket := by
  have hsound := sound_run steps
  rw [run_concat] at hafter
  rw [made_concat] at hmade
  rcases List.mem_append.mp hmade with hmade | hmade
  · refine ⟨hmade, ?_⟩
    cases hfilled : (({} : RequestTable).run steps).outcome? request.handle.ticket with
    | some outcome =>
        rw [hsound.outcome?_apply hfilled] at hafter
        exact absurd (hfilled.trans hafter) hbefore
    | none =>
        have htracks := Sound.empty.tracks_of_mem_made hmade
        have hmem := (hsound.outcome?_eq_none_iff htracks).mp hfilled
        rw [hsound.outcome?_apply_pending hmem] at hafter
        exact RouterStep.ends?_timedOut hafter
  · exact absurd hafter (hsound.outcome?_made (Option.mem_toList.mp hmade))

end RequestTable

/-- After any steps in any order: tickets do not repeat, not even as words of 64 bits while there
are fewer handles than words; and an expiry, a cancellation or the end of a failed send with the
number and ticket of a request that waits no more leaves the table as it is, whoever has the number
now. However the turns of all callers, the timer and the clock are mixed, a turn after which a
request has timed out is an expiry with its own number and ticket, and its deadline has come. -/
theorem stale_references_change_nothing :
    (∀ steps : List RouterStep,
      let made := ({} : RequestTable).made steps
      let table := ({} : RequestTable).run steps
      (made.map fun request => request.handle.ticket).Nodup ∧
      (made.length < 2 ^ 64 →
        (made.map fun request => UInt64.ofNat request.handle.ticket).Nodup) ∧
      ∀ request ∈ made, request ∉ table.pending →
        table.expire request.handle.id request.handle.ticket = table ∧
        table.cancel request.handle = table ∧
        ∀ reason, table.abandonIssue request.handle reason = table) ∧
    ∀ turns traffic, ({} : Traffic).play? turns = some traffic →
      traffic.table = ({} : RequestTable).run traffic.log ∧
      ∀ turn next, traffic.take? turn = some next →
        ∀ request ∈ ({} : RequestTable).made next.log,
          traffic.table.outcome? request.handle.ticket ≠ some .timedOut →
          next.table.outcome? request.handle.ticket = some .timedOut →
          next.log = traffic.log ++ [.expire request.handle.id request.handle.ticket] ∧
            request.handle.deadline ≤ traffic.now := by
  constructor
  · intro steps
    refine ⟨RequestTable.nodup_tickets_made steps, RequestTable.nodup_words_made, ?_⟩
    intro request hmade hgone
    have htracks := RequestTable.Sound.empty.tracks_of_mem_made hmade
    exact ⟨htracks.resolve_stale hgone _, htracks.resolve_stale hgone _,
      fun reason => htracks.resolve_stale hgone _⟩
  · intro turns traffic hplay
    have hvalid := Traffic.Valid.empty.play? hplay
    have htimed := Traffic.Timed.empty.play? Traffic.Valid.empty hplay
    refine ⟨hvalid.table, ?_⟩
    intro turn next htake request hmade hbefore hafter
    have hnext := hvalid.take? htake
    rw [hvalid.table] at hbefore
    rw [hnext.table] at hafter
    rcases (htimed.take? hvalid htake).logged with hlog | ⟨step, hlog, hdue⟩
    · rw [hlog] at hafter
      exact absurd hafter hbefore
    · rw [hlog] at hmade hafter
      obtain ⟨hearlier, rfl⟩ := RequestTable.timedOut_concat hmade hbefore hafter
      exact ⟨hlog, ((hdue _ _ rfl).deadline_le hearlier rfl).2⟩

/-- The first request of number 7 is answered, and another one waits with this number when the
timer, a cancellation and a failed send bring up the first one. A third request times out at its
deadline. -/
theorem stale_references_change_nothing_reused :
    let answer : Response := ⟨⟨.terminal, .success⟩, 7, []⟩
    let first : Pending := ⟨⟨7, 0, 10⟩, .any⟩
    let steps : List RouterStep :=
      [.beginIssue 7 .any 10, .deliver 5 (.response answer), .beginIssue 7 .any 1000]
    let table := ({} : RequestTable).run steps
    let turns : List Turn := [.issue ⟨9, [1], .any, 10⟩, .pass 12, .fire]
    (({} : RequestTable).made steps).length < 2 ^ 64 ∧
      ((({} : RequestTable).made steps).map fun request =>
        UInt64.ofNat request.handle.ticket).Nodup ∧
      first ∈ ({} : RequestTable).made steps ∧ first ∉ table.pending ∧ table.isPending 7 = true ∧
      table.expire 7 0 = table ∧ table.cancel first.handle = table ∧
      table.abandonIssue first.handle "closed" = table ∧
      ∃ traffic next, ({} : Traffic).play? turns = some traffic ∧
        traffic.take? .callback = some next ∧
        traffic.table.outcome? 0 = none ∧ next.table.outcome? 0 = some .timedOut ∧
        next.log = traffic.log ++ [.expire 9 0] ∧ 10 ≤ traffic.now := by
  have hsteps := stale_references_change_nothing.1 [.beginIssue 7 .any 10,
    .deliver 5 (.response ⟨⟨.terminal, .success⟩, 7, []⟩), .beginIssue 7 .any 1000]
  have hgone := hsteps.2.2 ⟨⟨7, 0, 10⟩, .any⟩ (by decide) (by decide)
  have hturns := stale_references_change_nothing.2
    [.issue ⟨9, [1], .any, 10⟩, .pass 12, .fire] _ rfl
  refine ⟨by decide, hsteps.2.1 (by decide), by decide, by decide, by decide, hgone.1, hgone.2.1,
    hgone.2.2 "closed", _, _, rfl, rfl, rfl, rfl, ?_⟩
  exact hturns.2 .callback _ rfl ⟨⟨9, 0, 10⟩, .any⟩ (by decide) nofun rfl

end GroundLink
