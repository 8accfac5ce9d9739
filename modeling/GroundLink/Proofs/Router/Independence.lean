import GroundLink.Proofs.Router.Provenance
import GroundLink.Proofs.Router.View

/-! # Numbers do not interfere

As long as nothing that is kept back has to make room or becomes too old, a run may be looked at
one number at a time: the steps about other numbers can be left out, and those that remain answer
as before, end the same requests in the same way and keep the same responses back. Only the tickets
are counted anew.
-/

namespace GroundLink

/-- Nothing that is kept back during a run has to make room or becomes too old. -/
def Lossless (steps : List RouterStep) : Prop :=
  ∀ entry ∈ Trace.ledger steps,
    entry.2 ≠ .discarded .displaced ∧ entry.2 ≠ .discarded .expired

namespace Trace

variable {trace : Trace} {step : RouterStep}

theorem Faithful.fresh_of_aged (h : trace.Faithful) {now : Nat}
    (haged : ∀ entry ∈ trace.aged now, entry.2 ≠ .discarded .expired) :
    ∀ kept ∈ trace.table.held, kept.isFresh now = true := by
  intro kept hkept
  rw [← h.held] at hkept
  obtain ⟨entry, hentry, rfl⟩ := List.mem_map.mp hkept
  by_contra hage
  exact haged _ (List.mem_map_of_mem (List.mem_filter.mpr ⟨hentry, by simpa using hage⟩)) rfl

theorem Faithful.lt_of_crowded (h : trace.Faithful) {now : Nat}
    (hfresh : ∀ kept ∈ trace.table.held, kept.isFresh now = true)
    (hcrowded : ∀ entry ∈ trace.crowded now, entry.2 ≠ .discarded .displaced) :
    trace.table.held.length < maxHeld := by
  have hlength : (trace.fresh now).length = trace.table.held.length := by
    rw [← List.length_map Prod.snd, h.map_fresh, RequestTable.prune_of_fresh hfresh]
  by_contra hfull
  rw [← hlength] at hfull
  unfold crowded at hcrowded
  rw [if_pos (Nat.not_lt.mp hfull)] at hcrowded
  cases hheld : trace.fresh now with
  | nil =>
      rw [hheld] at hfull
      exact hfull (by decide)
  | cons oldest rest =>
      rw [hheld] at hcrowded
      exact hcrowded _ (List.mem_map_of_mem (List.mem_singleton_self _)) rfl

/-- A step that the ledger finds nothing lost at spares what is kept back. -/
theorem Faithful.spares (h : trace.Faithful)
    (hlossless : ∀ entry ∈ trace.endings step,
      entry.2 ≠ .discarded .displaced ∧ entry.2 ≠ .discarded .expired) :
    trace.table.Spares step := by
  cases step with
  | expect id filter now timeout =>
      intro hfree
      simp only [endings, hfree] at hlossless
      exact h.fresh_of_aged fun entry hentry =>
        (hlossless entry (List.mem_append_left _ hentry)).2
  | deliver now frame =>
      intro hfate
      simp only [endings, hfate] at hlossless
      have hfresh := h.fresh_of_aged fun entry hentry =>
        (hlossless entry (List.mem_append_left _ hentry)).2
      exact ⟨hfresh, h.lt_of_crowded hfresh fun entry hentry =>
        (hlossless entry (List.mem_append_right _ hentry)).1⟩
  | countHeld now => exact h.fresh_of_aged fun entry hentry => (hlossless entry hentry).2
  | _ => trivial

end Trace

variable {steps : List RouterStep} {step : RouterStep} {number : Nat → Nat} {id : CorrelationId}

theorem Lossless.init (h : Lossless (steps ++ [step])) : Lossless steps := by
  intro entry hentry
  apply h
  rw [Trace.ledger_concat]
  exact List.mem_append_left _ hentry

theorem Lossless.spares (h : Lossless (steps ++ [step])) :
    (({} : RequestTable).run steps).Spares step := by
  have hrecords := records_ofSteps steps
  rw [← hrecords.table]
  apply hrecords.faithful.spares
  intro entry hentry
  apply h
  rw [Trace.ledger_concat]
  exact List.mem_append_right _ hentry

instance (steps : List RouterStep) : Decidable (Lossless steps) :=
  inferInstanceAs (Decidable (∀ entry ∈ Trace.ledger steps,
    entry.2 ≠ .discarded .displaced ∧ entry.2 ≠ .discarded .expired))

/-! ## The run of one number -/

/-- The tickets of a number, oldest first. -/
def ticketsOf (id : CorrelationId) (steps : List RouterStep) : List Nat :=
  ((({} : RequestTable).made steps).filter fun request => request.handle.id == id).map
    fun request => request.handle.ticket

/-- The steps that are about no other number, with other tickets. -/
def alone (id : CorrelationId) (number : Nat → Nat) (steps : List RouterStep) : List RouterStep :=
  (steps.filter (RouterStep.reaches id)).map (RouterStep.renumber number)

/-- The steps of a run, each with its answer. -/
def RequestTable.replies (table : RequestTable) : List RouterStep → List (RouterStep × Reply)
  | [] => []
  | step :: rest => (step, table.reply step) :: (table.apply step).replies rest

/-- The steps about a number, each with its answer. -/
def exchanges (id : CorrelationId) (steps : List RouterStep) : List (RouterStep × Reply) :=
  (({} : RequestTable).replies steps).filter fun exchange => exchange.1.about? == some id

/-- The frames of a number that nobody waited for. -/
def unclaimed (id : CorrelationId) (steps : List RouterStep) : List Frame :=
  (exchanges id steps).filterMap fun
    | (.deliver _ frame, .fate .unsolicited) => some frame
    | _ => none

theorem RequestTable.replies_concat (table : RequestTable) (steps : List RouterStep)
    (step : RouterStep) :
    table.replies (steps ++ [step]) =
      table.replies steps ++ [(step, (table.run steps).reply step)] := by
  induction steps generalizing table with
  | nil => rfl
  | cons first rest ih => simp only [List.cons_append, replies, ih, run_cons]

theorem exchanges_concat (id : CorrelationId) (steps : List RouterStep) (step : RouterStep) :
    exchanges id (steps ++ [step]) = exchanges id steps ++
      if step.about? = some id then [(step, (({} : RequestTable).run steps).reply step)]
      else [] := by
  rw [exchanges, RequestTable.replies_concat, List.filter_append, List.filter_singleton, exchanges]
  simp

/-- Tickets are counted through by their places in a list. -/
def Numbers (number : Nat → Nat) (tickets : List Nat) : Prop :=
  ∀ place < tickets.length, ∀ ticket, number ticket = place ↔ tickets[place]? = some ticket

theorem numbers_idxOf {tickets : List Nat} (hnodup : tickets.Nodup) :
    Numbers tickets.idxOf tickets := by
  intro place hplace ticket
  constructor
  · rintro rfl
    exact List.getElem?_idxOf (List.idxOf_lt_length_iff.mp hplace)
  · intro hticket
    obtain ⟨hlt, rfl⟩ := List.getElem?_eq_some_iff.mp hticket
    exact hnodup.idxOf_getElem place hlt

theorem Numbers.of_append {first second : List Nat} (h : Numbers number (first ++ second)) :
    Numbers number first := by
  intro place hplace ticket
  rw [h place (by rw [List.length_append]; omega) ticket, List.getElem?_append_left hplace]

theorem ticketsOf_concat (id : CorrelationId) (steps : List RouterStep) (step : RouterStep) :
    ticketsOf id (steps ++ [step]) = ticketsOf id steps ++
      ((((({} : RequestTable).run steps).made? step).toList.filter fun request =>
        request.handle.id == id).map fun request => request.handle.ticket) := by
  rw [ticketsOf, RequestTable.made_concat, List.filter_append, List.map_append, ticketsOf]

theorem nodup_ticketsOf (id : CorrelationId) (steps : List RouterStep) :
    (ticketsOf id steps).Nodup :=
  (RequestTable.nodup_tickets_made steps).sublist (List.filter_sublist.map _)

/-- A run about all numbers and the run about one of them go along with each other. -/
structure Accompanies (number : Nat → Nat) (id : CorrelationId) (steps : List RouterStep) : Prop
    where
  view : RequestTable.View number id (({} : RequestTable).run steps)
    (({} : RequestTable).run (alone id number steps))
  made : ({} : RequestTable).made (alone id number steps) =
    ((({} : RequestTable).made steps).filter fun request => request.handle.id == id).map
      (Pending.renumber number)
  exchanges : exchanges id (alone id number steps) =
    (exchanges id steps).map fun exchange =>
      (exchange.1.renumber number, exchange.2.renumber number)

theorem Accompanies.length (h : Accompanies number id steps) :
    (({} : RequestTable).run (alone id number steps)).slots.length =
      (ticketsOf id steps).length := by
  rw [RequestTable.Sound.empty.slots_length_run, h.made, List.length_map, ticketsOf,
    List.length_map]
  exact Nat.zero_add _

theorem ticketsOf_of_made? {request : Pending}
    (hmade : (({} : RequestTable).run steps).made? step = some request)
    (hid : request.handle.id = id) :
    ticketsOf id (steps ++ [step]) =
      ticketsOf id steps ++ [(({} : RequestTable).run steps).slots.length] := by
  rw [ticketsOf_concat, hmade, ← (RequestTable.sound_run steps).ticket_of_made? hmade]
  simp [hid]

theorem Accompanies.fits (h : Accompanies number id steps)
    (hnumber : Numbers number (ticketsOf id (steps ++ [step])))
    (hreaches : step.reaches id = true) :
    RequestTable.Fits number (({} : RequestTable).run steps)
      (({} : RequestTable).run (alone id number steps)) step := by
  intro hsome ticket
  obtain ⟨request, hmade⟩ := Option.isSome_iff_exists.mp hsome
  have hid := RouterStep.eq_of_reaches hreaches (RequestTable.about?_of_made? hmade)
  rw [ticketsOf_of_made? hmade hid] at hnumber
  rw [h.length, hnumber (ticketsOf id steps).length (by simp) ticket,
    List.getElem?_concat_length, Option.some_inj]
  exact eq_comm

/-- A step that is about no other number is taken on both sides. -/
theorem Accompanies.concat_own (h : Accompanies number id steps)
    (hnumber : Numbers number (ticketsOf id (steps ++ [step])))
    (hreaches : step.reaches id = true)
    (hspares : (({} : RequestTable).run steps).Spares step) :
    Accompanies number id (steps ++ [step]) := by
  have hsound := RequestTable.sound_run steps
  have hsingle := RequestTable.sound_run (alone id number steps)
  have hfits := h.fits hnumber hreaches
  have halone : alone id number (steps ++ [step]) =
      alone id number steps ++ [step.renumber number] := by
    simp [alone, hreaches]
  refine ⟨?_, ?_, ?_⟩
  · rw [halone, RequestTable.run_concat, RequestTable.run_concat]
    exact h.view.apply hsound hsingle hreaches hspares hfits
  · rw [halone, RequestTable.made_concat, RequestTable.made_concat, h.made,
      h.view.made? hreaches hspares hfits, List.filter_append, List.map_append]
    congr 1
    cases hmade : (({} : RequestTable).run steps).made? step with
    | none => rfl
    | some request =>
        have hid := RouterStep.eq_of_reaches hreaches (RequestTable.about?_of_made? hmade)
        simp [hid]
  · rw [halone, exchanges_concat, exchanges_concat, h.exchanges, List.map_append,
      RouterStep.about?_renumber]
    congr 1
    split
    next habout =>
      rw [h.view.reply habout hspares hfits]
      rfl
    next => rfl

/-- A step about another number is left out. -/
theorem Accompanies.concat_foreign (h : Accompanies number id steps) {other : CorrelationId}
    (habout : step.about? = some other) (hother : other ≠ id)
    (hspares : (({} : RequestTable).run steps).Spares step) :
    Accompanies number id (steps ++ [step]) := by
  have hsound := RequestTable.sound_run steps
  have hsingle := RequestTable.sound_run (alone id number steps)
  have halone : alone id number (steps ++ [step]) = alone id number steps := by
    simp [alone, RouterStep.reaches, habout, hother]
  refine ⟨?_, ?_, ?_⟩
  · rw [halone, RequestTable.run_concat]
    exact h.view.apply_foreign hsound hsingle habout hother hspares
  · rw [halone, h.made, RequestTable.made_concat, List.filter_append, List.map_append]
    cases hmade : (({} : RequestTable).run steps).made? step with
    | none => simp
    | some request =>
        have hid := Option.some_inj.mp (habout.symm.trans (RequestTable.about?_of_made? hmade))
        simp [← hid, hother]
  · rw [halone, h.exchanges, exchanges_concat, habout, if_neg (by simpa using hother),
      List.append_nil]

theorem accompanies_run (hnumber : Numbers number (ticketsOf id steps))
    (hlossless : Lossless steps) : Accompanies number id steps := by
  -- from the end of the run, since the way in which its tickets are counted has to stay fixed
  induction steps using List.reverseRecOn with
  | nil => exact ⟨⟨⟨rfl, nofun, nofun⟩, rfl, rfl⟩, rfl, rfl⟩
  | append_singleton rest step ih =>
      have hrest : Numbers number (ticketsOf id rest) := by
        rw [ticketsOf_concat] at hnumber
        exact hnumber.of_append
      have hbefore := ih hrest hlossless.init
      cases hreaches : step.reaches id with
      | true => exact hbefore.concat_own hnumber hreaches hlossless.spares
      | false =>
          obtain ⟨other, habout, hother⟩ : ∃ other, step.about? = some other ∧ other ≠ id := by
            simpa [RouterStep.reaches, Option.all_eq_false] using hreaches
          exact hbefore.concat_foreign habout hother hlossless.spares

/-- What is reported for a number does not depend on tickets. -/
theorem Accompanies.unclaimed (h : Accompanies number id steps) :
    unclaimed id (alone id number steps) = unclaimed id steps := by
  rw [GroundLink.unclaimed, h.exchanges, List.filterMap_map, GroundLink.unclaimed]
  congr 1
  funext ⟨step, reply⟩
  cases step with
  | deliver now frame =>
      cases reply with
      | fate decided => cases decided <;> rfl
      | _ => rfl
  | _ => rfl

/-- In a run during which nothing that is kept back has to make room or becomes too old, leave out
all steps about numbers other than one. The steps about this number then answer as they did; its
handles are given out as before and have the same outcomes; the same requests with this number
still wait, the same responses are kept back for it in the same order, and the same frames have
found nobody who waits. Only the tickets differ: they are counted through, one for each handle. -/
theorem requests_do_not_interfere {steps : List RouterStep} (hlossless : Lossless steps)
    (id : CorrelationId) :
    let tickets := ticketsOf id steps
    let number := tickets.idxOf
    let single := alone id number steps
    let table := ({} : RequestTable).run steps
    let tableAlone := ({} : RequestTable).run single
    exchanges id single = (exchanges id steps).map (fun exchange =>
      (exchange.1.renumber number, exchange.2.renumber number)) ∧
    ({} : RequestTable).made single =
      ((({} : RequestTable).made steps).filter fun request => request.handle.id == id).map
        (Pending.renumber number) ∧
    (∀ request ∈ ({} : RequestTable).made steps, request.handle.id = id →
      tableAlone.outcome? (number request.handle.ticket) =
        table.outcome? request.handle.ticket) ∧
    tableAlone.pending =
      (table.pending.filter fun request => request.handle.id == id).map
        (Pending.renumber number) ∧
    tableAlone.held = (table.held.filter fun kept => kept.response.id == id) ∧
    unclaimed id single = unclaimed id steps ∧
    tickets.map number = List.range tickets.length := by
  have hnodup := nodup_ticketsOf id steps
  have h := accompanies_run (numbers_idxOf hnodup) hlossless
  refine ⟨h.exchanges, h.made, ?_, h.view.pending, h.view.held, h.unclaimed, ?_⟩
  · intro request hmade hid
    have hticket : request.handle.ticket ∈ ticketsOf id steps :=
      List.mem_map_of_mem (List.mem_filter.mpr ⟨hmade, by simpa using hid⟩)
    have hlt := List.idxOf_lt_length_iff.mpr hticket
    rw [← h.length] at hlt
    rw [RequestTable.outcome?, RequestTable.outcome?, h.view.slots _ hlt]
  · apply List.ext_getElem (by simp)
    intro place hplace _
    simp [hnodup.idxOf_getElem]

/-- Two requests wait at once, and the one that came second keeps a failure back, succeeds, and is
asked for the failure; by itself it has the first ticket. -/
theorem requests_do_not_interfere_two :
    let answer (id : CorrelationId) (status : Status) : Frame :=
      .response ⟨⟨.terminal, status⟩, id, []⟩
    let steps : List RouterStep := [.beginIssue 9 .any 1000,
      .beginIssue 7 (.success .terminal) 1000, .deliver 1 (answer 9 .success),
      .deliver 2 (answer 7 (.error 3)), .expire 9 0, .deliver 3 (answer 7 .success),
      .deliver 4 (answer 7 .success), .deliver 5 (answer 9 .success),
      .expect 7 (.error .terminal) 6 10, .cancel ⟨7, 2, 16⟩, .cancelAll, .beginIssue 7 .any 2000]
    let number := (ticketsOf 7 steps).idxOf
    let single : List RouterStep := [.beginIssue 7 (.success .terminal) 1000,
      .deliver 2 (answer 7 (.error 3)), .deliver 3 (answer 7 .success),
      .deliver 4 (answer 7 .success), .expect 7 (.error .terminal) 6 10, .cancel ⟨7, 1, 16⟩,
      .cancelAll, .beginIssue 7 .any 2000]
    Lossless steps ∧ ticketsOf 7 steps = [1, 2] ∧ alone 7 number steps = single ∧
      exchanges 7 (alone 7 number steps) = (exchanges 7 steps).map (fun exchange =>
        (exchange.1.renumber number, exchange.2.renumber number)) ∧
      (exchanges 7 single).map Prod.snd = [.handle (.ok ⟨7, 0, 1000⟩), .fate .held,
        .fate (.fulfils 0), .fate .unsolicited, .handle (.ok ⟨7, 1, 16⟩), .nothing,
        .handle (.error (.cancelled 7))] ∧
      unclaimed 7 (alone 7 number steps) = unclaimed 7 steps ∧
      unclaimed 7 steps = [answer 7 .success] := by
  have h := @requests_do_not_interfere [.beginIssue 9 .any 1000,
    .beginIssue 7 (.success .terminal) 1000,
    .deliver 1 (.response ⟨⟨.terminal, .success⟩, 9, []⟩),
    .deliver 2 (.response ⟨⟨.terminal, .error 3⟩, 7, []⟩), .expire 9 0,
    .deliver 3 (.response ⟨⟨.terminal, .success⟩, 7, []⟩),
    .deliver 4 (.response ⟨⟨.terminal, .success⟩, 7, []⟩),
    .deliver 5 (.response ⟨⟨.terminal, .success⟩, 9, []⟩),
    .expect 7 (.error .terminal) 6 10, .cancel ⟨7, 2, 16⟩, .cancelAll, .beginIssue 7 .any 2000]
    (by decide) 7
  exact ⟨by decide, by decide, by decide, h.1, by decide, h.2.2.2.2.2.1, by decide⟩

end GroundLink
