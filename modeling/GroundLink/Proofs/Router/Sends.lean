import GroundLink.Proofs.Router.Operations
import GroundLink.Proofs.Router.Turns
import Mathlib.Tactic.MkIffOfInductiveProp

/-! # What is sent

A request that passes both checks is entered under its number before its payload is given to the
transport, and many other turns may come in between. The calls of `issue` that have passed them are
counted, and a turn that begins a send names its call. So what is sent is told by the list of these
turns alone: none names a call twice, and none names a call that has not been entered. The turns of
one call taken without a break are the operation of the router.
-/

namespace GroundLink

open Link

namespace RequestTable

variable {table : RequestTable} {id : CorrelationId}

/-- A request passes both checks: the router is open, and the number of the request is free. -/
@[mk_iff]
structure Admits (table : RequestTable) (id : CorrelationId) : Prop where
  running : table.shutDown = false
  linked : table.closed = none
  free : ∀ waiting ∈ table.pending, waiting.handle.id ≠ id

instance (table : RequestTable) (id : CorrelationId) : Decidable (table.Admits id) :=
  decidable_of_iff' _ (table.admits_iff id)

theorem Admits.beginIssue_eq (h : table.Admits id) (filter : FrameFilter) (deadline : Nat) :
    table.beginIssue id filter deadline =
      (table.dropHeld id).register id filter deadline := by
  simp [beginIssue, ensureOpen, h.running, h.linked]

/-- The two checks decide whether a request is entered. -/
theorem made?_beginIssue_eq (table : RequestTable) (id : CorrelationId) (filter : FrameFilter)
    (deadline : Nat) :
    table.made? (.beginIssue id filter deadline) =
      if table.Admits id then some ⟨⟨id, table.slots.length, deadline⟩, filter⟩ else none := by
  split
  next hadmits =>
    have hfree : (table.dropHeld id).isPending id = false :=
      isPending_eq_false_iff.mpr hadmits.free
    rw [made?, hadmits.beginIssue_eq, register_of_free filter deadline hfree]
    rfl
  next hrefused =>
    cases hensure : table.ensureOpen id with
    | error error => simp only [made?, beginIssue_of_ensureOpen hensure]
    | ok _ =>
        obtain ⟨hrunning, hlinked⟩ := ensureOpen_eq_ok hensure
        have htaken : table.isPending id = true := by
          by_contra hfree
          rw [Bool.not_eq_true, isPending_eq_false_iff] at hfree
          exact hrefused ⟨hrunning, hlinked, hfree⟩
        have hregister : (table.dropHeld id).register id filter deadline =
            (.error (.duplicateId id), table.dropHeld id) :=
          register_of_isPending filter deadline htaken
        simp only [made?, beginIssue, hensure, hregister]

end RequestTable

/-- A transport that has been given some payloads, one after the other. -/
def Link.Transport.sendAll (transport : Transport) (payloads : List Bytes) : Transport :=
  payloads.foldl (fun transport payload => (transport.send payload).2) transport

/-- The call of `issue` whose send a turn begins. -/
def Turn.begins? : Turn → Option Nat
  | .startSend call => some call
  | _ => none

namespace Traffic

variable {traffic next : Traffic} {turn : Turn} {turns : List Turn} {router : Router}

/-- The request that a turn gets past both checks. -/
def admits? (traffic : Traffic) : Turn → Option CorrelatedRequest
  | .issue request => if traffic.table.Admits request.id then some request else none
  | _ => none

/-- The requests that get past both checks in the course of some turns, oldest first. -/
def admitted (traffic : Traffic) : List Turn → List CorrelatedRequest
  | [] => []
  | turn :: rest =>
      (traffic.admits? turn).toList ++
        match traffic.take? turn with
        | some next => next.admitted rest
        | none => []

theorem admitted_append {first second : List Turn} (hplay : traffic.play? first = some next) :
    traffic.admitted (first ++ second) = traffic.admitted first ++ next.admitted second := by
  induction first generalizing traffic with
  | nil =>
      cases hplay
      rfl
  | cons turn rest ih =>
      obtain ⟨middle, hmiddle, hrest⟩ := Option.bind_eq_some_iff.mp hplay
      simp only [List.cons_append, admitted, hmiddle, ih hrest, List.append_assoc]

theorem admitted_concat (hplay : traffic.play? turns = some next) (turn : Turn) :
    traffic.admitted (turns ++ [turn]) = traffic.admitted turns ++ (next.admits? turn).toList := by
  have hlast : next.admitted [turn] = (next.admits? turn).toList := by
    unfold admitted
    split <;> exact List.append_nil _
  rw [admitted_append hplay, hlast]

/-! ## One turn -/

/-- What a turn does to the calls of `issue` and to what is sent. -/
inductive Sending (traffic : Traffic) (turn : Turn) (next : Traffic) : Prop
  /-- A request is entered. -/
  | enters (call : IssueCall) (hbegins : turn.begins? = none)
      (hadmits : traffic.admits? turn = some call.request) (hstage : call.stage = .entered)
      (hissues : next.issues = traffic.issues ++ [call]) (hsent : next.sent = traffic.sent)
  /-- The payload of an entered request is given to the transport. -/
  | sends (index : Nat) (call : IssueCall) (hbegins : turn.begins? = some index)
      (hadmits : traffic.admits? turn = none) (hcall : traffic.issues[index]? = some call)
      (hstage : call.stage = .entered)
      (hissues : next.issues = traffic.issues.set index { call with stage := .sending })
      (hsent : next.sent = traffic.sent ++ [call.request.payload])
  /-- A call gets on whose send has begun before. -/
  | advances (index : Nat) (call : IssueCall) (stage : IssueStage) (hbegins : turn.begins? = none)
      (hadmits : traffic.admits? turn = none) (hcall : traffic.issues[index]? = some call)
      (hstage : call.stage ≠ .entered) (hlater : stage ≠ .entered)
      (hissues : next.issues = traffic.issues.set index { call with stage })
      (hsent : next.sent = traffic.sent)
  | rests (hbegins : turn.begins? = none) (hadmits : traffic.admits? turn = none)
      (hissues : next.issues = traffic.issues) (hsent : next.sent = traffic.sent)

theorem sending_issue (traffic : Traffic) (request : CorrelatedRequest) :
    traffic.Sending (.issue request) (traffic.issue request) := by
  unfold Traffic.issue
  dsimp only
  rw [RequestTable.made?_beginIssue_eq]
  by_cases hadmits : traffic.table.Admits request.id
  · rw [if_pos hadmits]
    let handle : Handle := ⟨request.id, traffic.table.slots.length, traffic.now + request.timeout⟩
    exact .enters ⟨request, handle, traffic.log.length, .entered⟩ rfl (if_pos hadmits) rfl rfl rfl
  · rw [if_neg hadmits]
    exact .rests rfl (if_neg hadmits) rfl rfl

theorem sending_expect (traffic : Traffic) (id : CorrelationId) (filter : FrameFilter)
    (timeout : Nat) :
    traffic.Sending (.expect id filter timeout) (traffic.expect id filter timeout) := by
  unfold Traffic.expect
  dsimp only
  split
  · exact .rests rfl rfl rfl rfl
  · split <;> exact .rests rfl rfl rfl rfl

/-- Every turn that can be taken does one of these things. -/
theorem sending (hnext : traffic.take? turn = some next) : traffic.Sending turn next := by
  cases moves hnext with
  | issue request => exact traffic.sending_issue request
  | @startSend index call hcall hstage => exact .sends index call rfl rfl hcall hstage rfl rfl
  | @sendOk index call hcall hstage =>
      exact .advances index call (.returned (.ok call.handle)) rfl rfl hcall (by simp [hstage])
        (by simp) rfl rfl
  | @sendError index call error hcall hstage =>
      exact .advances index call (.broken error.message) rfl rfl hcall (by simp [hstage])
        (by simp) rfl rfl
  | @abandon index call reason hcall hstage =>
      exact .advances index call (.returned (.error (.transportUnavailable reason))) rfl rfl hcall
        (by simp [hstage]) (by simp) rfl rfl
  | expect id filter timeout => exact traffic.sending_expect id filter timeout
  | allocate | wait | lookFilled | lookLate | lookEarly | giveUp | deliver | cancel | cancelAll |
      stopTimer | close | countHeld | pass | fire | callback =>
      exact .rests rfl rfl rfl rfl

theorem sent_of_begins?_eq_none (hnext : traffic.take? turn = some next)
    (h : turn.begins? = none) : next.sent = traffic.sent := by
  cases sending hnext with
  | enters call hbegins hadmits hstage hissues hsent => exact hsent
  | sends index call hbegins hadmits hcall hstage hissues hsent =>
      exact nomatch h.symm.trans hbegins
  | advances index call stage hbegins hadmits hcall hstage hlater hissues hsent => exact hsent
  | rests hbegins hadmits hissues hsent => exact hsent

/-- A refused request leaves no call behind that could still send it. -/
theorem issues_of_not_admits {request : CorrelatedRequest}
    (h : ¬ traffic.table.Admits request.id) : (traffic.issue request).issues = traffic.issues := by
  unfold Traffic.issue
  dsimp only
  rw [RequestTable.made?_beginIssue_eq, if_neg h]
  rfl

/-- A call whose request has been entered can always begin its send. -/
theorem take?_startSend {index : Nat} {call : IssueCall}
    (hcall : traffic.issues[index]? = some call) (hstage : call.stage = .entered) :
    ∃ next, traffic.take? (.startSend index) = some next ∧
      next.sent = traffic.sent ++ [call.request.payload] := by
  refine ⟨{ traffic.setIssue index { call with stage := .sending } with
    sent := traffic.sent ++ [call.request.payload] }, ?_, rfl⟩
  simp only [take?, hcall, Option.bind_some, Traffic.startSend, hstage]

/-! ## All turns -/

/-- The calls whose sends some turns begin, oldest first. -/
def begun (turns : List Turn) : List Nat := turns.filterMap Turn.begins?

theorem begun_concat (turns : List Turn) (turn : Turn) :
    begun (turns ++ [turn]) = begun turns ++ turn.begins?.toList := by
  cases hbegins : turn.begins? <;> simp [begun, hbegins]

/-- The send of one of these calls has begun. -/
def HasBegun (calls : List IssueCall) (index : Nat) : Prop :=
  ∃ call, calls[index]? = some call ∧ call.stage ≠ .entered

/-- What has been sent after some turns is what they have begun to send. -/
structure Dispatched (traffic : Traffic) (turns : List Turn) : Prop where
  /-- There is one call for each request that has got past both checks. -/
  requests : traffic.issues.map IssueCall.request = ({} : Traffic).admitted turns
  /-- A call gets on only by the turn that begins its send. -/
  begun : ∀ index, index ∈ begun turns ↔ HasBegun traffic.issues index
  /-- No call is sent twice. -/
  once : (Traffic.begun turns).Nodup
  /-- What is sent for a call is the payload of its own request. -/
  sent : traffic.sent.map some = (Traffic.begun turns).map fun index =>
    (({} : Traffic).admitted turns)[index]?.map CorrelatedRequest.payload

theorem Dispatched.empty : Dispatched {} [] :=
  ⟨rfl, by simp [Traffic.begun, HasBegun], List.nodup_nil, rfl⟩

theorem Dispatched.lt (h : traffic.Dispatched turns) {index : Nat}
    (hmem : index ∈ Traffic.begun turns) : index < (({} : Traffic).admitted turns).length := by
  obtain ⟨call, hcall, -⟩ := (h.begun index).mp hmem
  rw [← h.requests, List.length_map]
  exact (List.getElem?_eq_some_iff.mp hcall).1

theorem Dispatched.getElem? (h : traffic.Dispatched turns) {index : Nat} {call : IssueCall}
    (hcall : traffic.issues[index]? = some call) :
    (({} : Traffic).admitted turns)[index]? = some call.request := by
  rw [← h.requests, List.getElem?_map, hcall]
  rfl

/-- A call that gets on has begun its send, and nothing else is new. -/
theorem hasBegun_set {calls : List IssueCall} {index : Nat} {call : IssueCall}
    (hcall : calls[index]? = some call) {stage : IssueStage} (hlater : stage ≠ .entered)
    (place : Nat) :
    HasBegun (calls.set index { call with stage }) place ↔
      HasBegun calls place ∨ place = index := by
  have hlt := (List.getElem?_eq_some_iff.mp hcall).1
  unfold HasBegun
  by_cases heq : place = index
  · subst heq
    simp [List.getElem?_set_self hlt, hlater]
  · simp [List.getElem?_set_ne (Ne.symm heq), heq]

/-- A new call has not begun its send. -/
theorem hasBegun_concat {calls : List IssueCall} {call : IssueCall}
    (hstage : call.stage = .entered) (place : Nat) :
    HasBegun (calls ++ [call]) place ↔ HasBegun calls place := by
  constructor
  · rintro ⟨other, hother, hbegan⟩
    rw [List.getElem?_append] at hother
    split at hother
    · exact ⟨other, hother, hbegan⟩
    · rw [List.mem_singleton.mp (List.mem_of_getElem? hother)] at hbegan
      exact absurd hstage hbegan
  · rintro ⟨other, hother, hbegan⟩
    rw [← List.getElem?_append_left (List.getElem?_eq_some_iff.mp hother).1] at hother
    exact ⟨other, hother, hbegan⟩

/-- What is sent next is what the next turn begins to send. -/
theorem Dispatched.take? (h : traffic.Dispatched turns)
    (hplay : ({} : Traffic).play? turns = some traffic) (hnext : traffic.take? turn = some next) :
    next.Dispatched (turns ++ [turn]) := by
  have hadmitted := admitted_concat hplay turn
  have hbegun := begun_concat turns turn
  cases sending hnext with
  | enters call hbegins hadmits hstage hissues hsent =>
      rw [hadmits, Option.toList_some] at hadmitted
      rw [hbegins, Option.toList_none, List.append_nil] at hbegun
      refine ⟨?_, fun index => ?_, hbegun ▸ h.once, ?_⟩
      · rw [hissues, hadmitted, List.map_append, h.requests]
        rfl
      · rw [hbegun, hissues, hasBegun_concat hstage, h.begun]
      · rw [hsent, hbegun, h.sent, hadmitted]
        refine List.map_congr_left fun index hmem => ?_
        rw [List.getElem?_append_left (h.lt hmem)]
  | sends index call hbegins hadmits hcall hstage hissues hsent =>
      rw [hadmits, Option.toList_none, List.append_nil] at hadmitted
      rw [hbegins, Option.toList_some] at hbegun
      refine ⟨?_, fun place => ?_, ?_, ?_⟩
      · rw [hissues, hadmitted, IssueCall.map_set hcall IssueCall.request .sending rfl, h.requests]
      · rw [hbegun, hissues, hasBegun_set hcall (by simp), ← h.begun, List.mem_append,
          List.mem_singleton]
      · rw [hbegun]
        refine List.Nodup.append h.once (List.nodup_singleton index) ?_
        rw [List.disjoint_singleton]
        -- the call would have left its first stage
        intro hmem
        obtain ⟨other, hother, hbegan⟩ := (h.begun index).mp hmem
        rw [Option.some_inj.mp (hother.symm.trans hcall)] at hbegan
        exact hbegan hstage
      · rw [hsent, hbegun, hadmitted, List.map_append, List.map_append, h.sent, List.map_singleton,
          List.map_singleton, h.getElem? hcall]
        rfl
  | advances index call stage hbegins hadmits hcall hstage hlater hissues hsent =>
      rw [hadmits, Option.toList_none, List.append_nil] at hadmitted
      rw [hbegins, Option.toList_none, List.append_nil] at hbegun
      refine ⟨?_, fun place => ?_, hbegun ▸ h.once, ?_⟩
      · rw [hissues, hadmitted, IssueCall.map_set hcall IssueCall.request stage rfl, h.requests]
      · rw [hbegun, hissues, hasBegun_set hcall hlater, ← h.begun]
        refine (or_iff_left_of_imp fun heq => ?_).symm
        exact (h.begun place).mpr ⟨call, heq ▸ hcall, hstage⟩
      · rw [hsent, hbegun, hadmitted, h.sent]
  | rests hbegins hadmits hissues hsent =>
      rw [hadmits, Option.toList_none, List.append_nil] at hadmitted
      rw [hbegins, Option.toList_none, List.append_nil] at hbegun
      refine ⟨?_, fun index => ?_, hbegun ▸ h.once, ?_⟩
      · rw [hissues, hadmitted, h.requests]
      · rw [hbegun, hissues, h.begun]
      · rw [hsent, hbegun, hadmitted, h.sent]

theorem dispatched (hplay : ({} : Traffic).play? turns = some traffic) :
    traffic.Dispatched turns :=
  play?_induction hplay .empty fun _ _ _ _ hearlier hdispatched => hdispatched.take? hearlier

/-! ## Registration -/

theorem admits?_eq_some_iff {request : CorrelatedRequest} :
    traffic.admits? turn = some request ↔
      turn = .issue request ∧ traffic.table.Admits request.id := by
  cases turn with
  | issue other =>
      simp only [admits?, Option.ite_none_right_eq_some, Turn.issue.injEq, Option.some_inj]
      constructor
      · rintro ⟨hadmits, rfl⟩
        exact ⟨rfl, hadmits⟩
      · rintro ⟨rfl, hadmits⟩
        exact ⟨hadmits, rfl⟩
  | _ => simp [admits?]

/-- The request with which an admitted one waits from its own turn on. -/
theorem Valid.mem_pending_issue (h : traffic.Valid) {request : CorrelatedRequest}
    (hadmits : traffic.table.Admits request.id) :
    ⟨⟨request.id, traffic.table.slots.length, traffic.now + request.timeout⟩, request.filter⟩ ∈
      (traffic.issue request).table.pending := by
  rw [(h.takes_issue request).table]
  apply h.sound.mem_pending_beginIssue
  rw [RequestTable.made?_beginIssue_eq, if_pos hadmits]

/-- Among some turns is one with which the request of a call has been entered: it got past both
checks, and from then on it waited under its number. -/
def Registers (turns : List Turn) (index : Nat) (request : CorrelatedRequest) : Prop :=
  ∃ before after earlier next, turns = before ++ .issue request :: after ∧
    ({} : Traffic).play? before = some earlier ∧ earlier.take? (.issue request) = some next ∧
    (({} : Traffic).admitted before).length = index ∧ earlier.table.Admits request.id ∧
    ∃ waiting ∈ next.table.pending, waiting.handle.id = request.id ∧
      waiting.filter = request.filter

theorem Registers.concat {index : Nat} {request : CorrelatedRequest}
    (h : Registers turns index request) (turn : Turn) :
    Registers (turns ++ [turn]) index request := by
  obtain ⟨before, after, earlier, next, rfl, hrest⟩ := h
  exact ⟨before, after ++ [turn], earlier, next, by simp, hrest⟩

theorem registers_of_admitted (hplay : ({} : Traffic).play? turns = some traffic) :
    ∀ (index : Nat) (request : CorrelatedRequest),
      (({} : Traffic).admitted turns)[index]? = some request → Registers turns index request := by
  refine play?_induction hplay ?_ ?_
  · intro index request hadmitted
    cases hadmitted
  · intro turns turn earlier later hearlier ih hturn index request hadmitted
    rw [admitted_concat hearlier, List.getElem?_append] at hadmitted
    split at hadmitted
    next hbefore => exact (ih index request hadmitted).concat turn
    next hlast =>
      obtain ⟨rfl, hadmits⟩ := admits?_eq_some_iff.mp
        (Option.mem_toList.mp (List.mem_of_getElem? hadmitted))
      rw [admits?_eq_some_iff.mpr ⟨rfl, hadmits⟩, Option.toList_some] at hadmitted
      have hlt := (List.getElem?_eq_some_iff.mp hadmitted).1
      rw [List.length_singleton] at hlt
      have hwaits := (Valid.empty.play? hearlier).mem_pending_issue hadmits
      exact ⟨turns, [], earlier, _, rfl, hearlier, rfl, by omega, hadmits, _, hwaits, rfl, rfl⟩

/-- A turn that begins a send gives the transport the payload of a request entered before. -/
theorem registers_of_begins? (hplay : ({} : Traffic).play? turns = some traffic)
    (hnext : traffic.take? turn = some next) {index : Nat} (h : turn.begins? = some index) :
    ∃ request, Registers turns index request ∧ next.sent = traffic.sent ++ [request.payload] := by
  cases sending hnext with
  | enters call hbegins hadmits hstage hissues hsent => exact nomatch h.symm.trans hbegins
  | sends place call hbegins hadmits hcall hstage hissues hsent =>
      obtain rfl : place = index := Option.some_inj.mp (hbegins.symm.trans h)
      have hadmitted := (dispatched hplay).getElem? hcall
      exact ⟨call.request, registers_of_admitted hplay place call.request hadmitted, hsent⟩
  | advances place call stage hbegins hadmits hcall hstage hlater hissues hsent =>
      exact nomatch h.symm.trans hbegins
  | rests hbegins hadmits hissues hsent => exact nomatch h.symm.trans hbegins

/-- A request is not admitted while an earlier one of its number has no outcome. -/
theorem Valid.not_admits_of_empty (h : traffic.Valid) {first second : CorrelatedRequest}
    (hid : first.id = second.id) {made : Pending}
    (hmade : traffic.table.made?
      (.beginIssue first.id first.filter (traffic.now + first.timeout)) = some made)
    (hplay : traffic.play? (.issue first :: turns) = some next)
    (hempty : next.table.outcome? made.handle.ticket = none) :
    ¬ next.table.Admits second.id := by
  intro hadmits
  obtain ⟨entered, hentered, hrest⟩ := Option.bind_eq_some_iff.mp hplay
  have hvalid := h.take? hentered
  have hwaits : made ∈ entered.table.pending := by
    rw [(h.takes hentered).table]
    exact h.sound.mem_pending_beginIssue hmade
  obtain ⟨steps, htable, -⟩ := hvalid.run_play? hrest
  have htracks := (hvalid.sound.tracks_of_mem hwaits).run hvalid.sound steps
  rw [← htable] at htracks
  -- with its slot empty the first request still waits under the number
  have hstill := ((hvalid.play? hrest).sound.outcome?_eq_none_iff htracks).mp hempty
  apply hadmits.free made hstill
  rw [RequestTable.made?_beginIssue hmade, hid]

/-! ## A call that no other turn comes between -/

/-- The calls have brought the router to this state. -/
structure Mirrors (traffic : Traffic) (router : Router) : Prop where
  table : traffic.table = router.table
  timer : traffic.timer = router.timer
  now : traffic.now = router.now

/-- The turns in which an entered request is sent. -/
def turnsOfTransmit (index : Nat) : Except TransportError Unit → List Turn
  | .ok () => [.startSend index, .endSend index (.ok ())]
  | .error error => [.startSend index, .endSend index (.error error), .abandon index]

/-- An entered request is sent by two turns, and ended by a third one if that fails. -/
theorem Mirrors.transmit (h : traffic.Mirrors router) {index : Nat} {call : IssueCall}
    (hcall : traffic.issues[index]? = some call) (hstage : call.stage = .entered) :
    ∃ next, traffic.play? (turnsOfTransmit index
        (router.transport.send call.request.payload).1) = some next ∧
      next.Mirrors (router.transmit call.handle call.request.payload).2 ∧
      next.sent = traffic.sent ++ [call.request.payload] := by
  obtain ⟨htable, htimer, hnow⟩ := h
  have hlt := (List.getElem?_eq_some_iff.mp hcall).1
  cases hsend : router.transport.send call.request.payload with
  | mk outcome transport =>
  cases outcome with
  | ok _ =>
      simp only [turnsOfTransmit, play?, take?, hcall, Option.bind_some, Traffic.startSend, hstage,
        setIssue, List.getElem?_set_self hlt, Traffic.endSend, Router.transmit, hsend]
      exact ⟨_, rfl, ⟨htable, htimer, hnow⟩, rfl⟩
  | error error =>
      simp only [turnsOfTransmit, play?, take?, hcall, Option.bind_some, Traffic.startSend, hstage,
        setIssue, List.getElem?_set_self hlt, Traffic.endSend, Router.transmit, hsend,
        List.set_set, Traffic.abandon, enter]
      have htable := congrArg (RequestTable.abandonIssue · call.handle error.message) htable
      exact ⟨_, rfl, ⟨htable, htimer, hnow⟩, rfl⟩

def turnsOfIssue (traffic : Traffic) (request : CorrelatedRequest)
    (outcome : Except TransportError Unit) : List Turn :=
  .issue request ::
    if traffic.table.Admits request.id then turnsOfTransmit traffic.issues.length outcome else []

theorem Mirrors.issue_entered (h : traffic.Mirrors router) {request : CorrelatedRequest}
    (hadmits : traffic.table.Admits request.id) :
    ∃ handle entered, router.register request = (.ok handle, entered) ∧
      (traffic.issue request).Mirrors entered ∧ (traffic.issue request).sent = traffic.sent ∧
      (traffic.issue request).issues =
        traffic.issues ++ [⟨request, handle, traffic.log.length, .entered⟩] := by
  have hmade := traffic.table.made?_beginIssue_eq request.id request.filter
    (traffic.now + request.timeout)
  have hfree : (traffic.table.dropHeld request.id).isPending request.id = false :=
    RequestTable.isPending_eq_false_iff.mpr hadmits.free
  have hbegin := hadmits.beginIssue_eq request.filter (traffic.now + request.timeout)
  rw [RequestTable.register_of_free _ _ hfree] at hbegin
  rw [if_pos hadmits] at hmade
  simp only [Traffic.issue, hmade, Router.register, ← h.table, ← h.now, hbegin]
  refine ⟨_, _, rfl, ⟨?_, ?_, rfl⟩, rfl, rfl⟩
  · exact congrArg Prod.snd hbegin
  · exact congrArg (DeadlineTimer.schedule · _ _) h.timer

theorem Mirrors.issue_refused (h : traffic.Mirrors router) {request : CorrelatedRequest}
    (hrefused : ¬ traffic.table.Admits request.id) :
    ∃ error entered, router.register request = (.error error, entered) ∧
      (traffic.issue request).Mirrors entered ∧ (traffic.issue request).sent = traffic.sent := by
  have hmade := traffic.table.made?_beginIssue_eq request.id request.filter
    (traffic.now + request.timeout)
  rw [if_neg hrefused] at hmade
  cases hbegin : traffic.table.beginIssue request.id request.filter
    (traffic.now + request.timeout) with
  | mk result table =>
  cases result with
  | ok handle => simp [RequestTable.made?, hbegin] at hmade
  | error error =>
      simp only [Traffic.issue, hmade, Router.register, ← h.table, ← h.now, hbegin]
      exact ⟨_, _, rfl, ⟨congrArg Prod.snd hbegin, h.timer, rfl⟩, rfl⟩

/-- The payloads that a call of `issue` gives to the transport. -/
def payloadsOfIssue (traffic : Traffic) (request : CorrelatedRequest) : List Bytes :=
  if traffic.table.Admits request.id then [request.payload] else []

/-- Taken without a break, the turns of a call are all that `issue` does, and what they send is what
the transport of the router is given. -/
theorem Mirrors.issue (h : traffic.Mirrors router) (request : CorrelatedRequest) :
    ∃ next,
      traffic.play? (traffic.turnsOfIssue request (router.transport.send request.payload).1) =
        some next ∧
      next.Mirrors (router.issue request).2 ∧
      next.sent = traffic.sent ++ traffic.payloadsOfIssue request ∧
      (router.issue request).2.transport =
        router.transport.sendAll (traffic.payloadsOfIssue request) := by
  have htransport := router.transport_issue request
  by_cases hadmits : traffic.table.Admits request.id
  · obtain ⟨handle, entered, hregister, hmirrors, hsent, hissues⟩ := h.issue_entered hadmits
    have hcall : (traffic.issue request).issues[traffic.issues.length]? =
        some ⟨request, handle, traffic.log.length, .entered⟩ := by
      rw [hissues, List.getElem?_concat_length]
    obtain ⟨next, hplay, hnext, hlast⟩ := hmirrors.transmit hcall rfl
    have hentered := router.transport_register request
    rw [hregister] at hentered htransport
    rw [turnsOfIssue, payloadsOfIssue, if_pos hadmits, if_pos hadmits]
    refine ⟨next, ?_, ?_, ?_, htransport⟩
    · rw [hentered] at hplay
      exact hplay
    · simp only [Router.issue, hregister]
      split
      next htransmit =>
        rw [htransmit] at hnext
        exact hnext
      next htransmit =>
        rw [htransmit] at hnext
        exact hnext
    · rw [hlast, hsent]
  · obtain ⟨error, entered, hregister, hmirrors, hsent⟩ := h.issue_refused hadmits
    rw [hregister] at htransport
    rw [turnsOfIssue, payloadsOfIssue, if_neg hadmits, if_neg hadmits]
    refine ⟨traffic.issue request, rfl, ?_, ?_, htransport⟩
    · simp only [Router.issue, hregister]
      exact hmirrors
    · rw [hsent, List.append_nil]

end Traffic

/-- However the turns of all callers are mixed, the transport is given one payload for each request
that gets past both checks, after the request has been entered under its number, and no other: a
turn that does not begin a send gives it nothing. At any time the numbers of those who wait are
distinct, and of two requests of one number the later one is refused if the earlier one has been
entered and has no outcome yet. Whoever calls the operation `issue` of a router in such a state
gives its transport these payloads by these turns; the other operations give it nothing. -/
theorem admitted_requests_are_sent_once {turns : List Turn} {traffic : Traffic}
    (hplay : ({} : Traffic).play? turns = some traffic) :
    traffic.Dispatched turns ∧
      (∀ (index : Nat) (call : IssueCall), traffic.issues[index]? = some call →
        call.stage = .entered → ∃ next, traffic.take? (.startSend index) = some next ∧
          next.sent = traffic.sent ++ [call.request.payload]) ∧
      (traffic.table.pending.map fun request => request.handle.id).Nodup ∧
      (∀ before turn after, turns = before ++ turn :: after →
        ∃ earlier next, ({} : Traffic).play? before = some earlier ∧
          earlier.take? turn = some next ∧
          (turn.begins? = none → next.sent = earlier.sent) ∧
          ∀ index, turn.begins? = some index →
            ∃ request, Traffic.Registers before index request ∧
              next.sent = earlier.sent ++ [request.payload]) ∧
      (∀ before first middle second after,
        turns = before ++ .issue first :: (middle ++ .issue second :: after) →
        first.id = second.id →
        ∃ earlier later, ({} : Traffic).play? before = some earlier ∧
          earlier.play? (.issue first :: middle) = some later ∧
          ∀ made, earlier.table.made?
              (.beginIssue first.id first.filter (earlier.now + first.timeout)) = some made →
            later.table.outcome? made.handle.ticket = none →
            ¬ later.table.Admits second.id ∧ (later.issue second).issues = later.issues) ∧
      ∀ router : Router, traffic.Mirrors router →
        (∀ request, ∃ next,
          traffic.play? (traffic.turnsOfIssue request (router.transport.send request.payload).1) =
            some next ∧
          next.Mirrors (router.issue request).2 ∧
          next.sent = traffic.sent ++ traffic.payloadsOfIssue request ∧
          (router.issue request).2.transport =
            router.transport.sendAll (traffic.payloadsOfIssue request)) ∧
        (∀ id filter timeout,
          (router.expect id filter timeout).2.transport = router.transport) ∧
        (∀ handle, (router.wait handle).2.transport = router.transport) ∧
        (∀ handle, (router.cancel handle).transport = router.transport) ∧
        (∀ event, (router.apply event).transport = router.transport) ∧
        ∀ instant, (router.waitUntil instant).transport = router.transport := by
  have hvalid := Traffic.Valid.empty.play? hplay
  refine ⟨Traffic.dispatched hplay, fun index call => Traffic.take?_startSend, hvalid.sound.ids,
    ?_, ?_, ?_⟩
  · rintro before turn after rfl
    obtain ⟨earlier, next, hbefore, hturn, -⟩ := Traffic.play?_middle hplay
    exact ⟨earlier, next, hbefore, hturn, Traffic.sent_of_begins?_eq_none hturn,
      fun index => Traffic.registers_of_begins? hbefore hturn⟩
  · rintro before first middle second after rfl hid
    rw [Traffic.play?_append] at hplay
    obtain ⟨earlier, hbefore, hrest⟩ := Option.bind_eq_some_iff.mp hplay
    rw [← List.cons_append] at hrest
    obtain ⟨later, next, hmiddle, -, -⟩ := Traffic.play?_middle hrest
    refine ⟨earlier, later, hbefore, hmiddle, fun made hmade hempty => ?_⟩
    have hearlier := Traffic.Valid.empty.play? hbefore
    have hrefused := hearlier.not_admits_of_empty hid hmade hmiddle hempty
    exact ⟨hrefused, Traffic.issues_of_not_admits hrefused⟩
  · exact fun router hmirrors => ⟨hmirrors.issue, router.transport_expect, router.transport_wait,
      fun _ => rfl, router.transport_apply, router.transport_waitUntil⟩

/-- The second request of a number is refused, the third is not, since the first has got its
response before its send has ended. The send of the third fails. A router in this state refuses
nothing and sends the next one. -/
theorem admitted_requests_are_sent_once_reused :
    let filter : FrameFilter := .apid .terminal
    let turns : List Turn := [.issue ⟨7, [1], filter, 10⟩, .issue ⟨7, [2], filter, 10⟩,
      .startSend 0, .deliver (.response ⟨⟨.terminal, .success⟩, 7, []⟩),
      .issue ⟨7, [3], filter, 10⟩, .startSend 1, .endSend 0 (.ok ()),
      .endSend 1 (.error .closed), .abandon 1]
    ∃ traffic, ({} : Traffic).play? turns = some traffic ∧ traffic.Dispatched turns ∧
      Traffic.begun turns = [0, 1] ∧ traffic.sent = [[1], [3]] ∧
      traffic.issues.map IssueCall.request = [⟨7, [1], filter, 10⟩, ⟨7, [3], filter, 10⟩] ∧
      (∃ later, ({} : Traffic).play? [.issue ⟨7, [1], filter, 10⟩] = some later ∧
        ¬ later.table.Admits 7) ∧
      let router : Router := { table := traffic.table, timer := traffic.timer }
      (router.issue ⟨9, [4], filter, 10⟩).2.transport = router.transport.sendAll [[4]] := by
  obtain ⟨hdispatched, -, -, -, hrace, hrouter⟩ := @admitted_requests_are_sent_once
    [.issue ⟨7, [1], .apid .terminal, 10⟩, .issue ⟨7, [2], .apid .terminal, 10⟩, .startSend 0,
      .deliver (.response ⟨⟨.terminal, .success⟩, 7, []⟩), .issue ⟨7, [3], .apid .terminal, 10⟩,
      .startSend 1, .endSend 0 (.ok ()), .endSend 1 (.error .closed), .abandon 1] _ rfl
  obtain ⟨earlier, later, hbefore, hmiddle, hrefused⟩ := hrace [] ⟨7, [1], .apid .terminal, 10⟩ []
    ⟨7, [2], .apid .terminal, 10⟩ _ rfl rfl
  cases hbefore
  refine ⟨_, rfl, hdispatched, rfl, rfl, rfl, ⟨later, hmiddle, ?_⟩, ?_⟩
  · cases hmiddle
    exact (hrefused _ rfl rfl).1
  · obtain ⟨next, -, -, -, htransport⟩ :=
      (hrouter { table := _, timer := _ } ⟨rfl, rfl, rfl⟩).1 ⟨9, [4], .apid .terminal, 10⟩
    exact htransport

end GroundLink
