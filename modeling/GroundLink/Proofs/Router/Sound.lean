import GroundLink.Proofs.Router.Steps
import Mathlib.Data.List.Nodup

/-! # Sound tables

In a sound table the requests that wait and the empty slots are the same thing seen twice: every
request that waits has an empty slot, and every empty slot has its request. Most operations do
nothing but end some of these requests and fill their slots; `Settles` says so of an operation
and of the outcome that each request gets.
-/

namespace GroundLink

namespace RequestTable

variable {table next : RequestTable}

/-! ## Slots and the table -/

section Fields

variable (table : RequestTable) (ticket : Nat) (outcome : Outcome)

@[simp] theorem complete_pending : (table.complete ticket outcome).pending = table.pending := by
  unfold complete
  split <;> rfl

@[simp] theorem complete_held : (table.complete ticket outcome).held = table.held := by
  unfold complete
  split <;> rfl

@[simp] theorem complete_shutDown : (table.complete ticket outcome).shutDown = table.shutDown := by
  unfold complete
  split <;> rfl

@[simp] theorem complete_closed : (table.complete ticket outcome).closed = table.closed := by
  unfold complete
  split <;> rfl

@[simp] theorem complete_slots_length :
    (table.complete ticket outcome).slots.length = table.slots.length := by
  unfold complete
  split
  · exact List.length_set
  · rfl

theorem complete_slots (other : Nat) :
    (table.complete ticket outcome).slots[other]? =
      if other = ticket ∧ table.slots[ticket]? = some none then some (some outcome)
      else table.slots[other]? := by
  unfold complete
  split
  next hslot =>
    have hlt : ticket < table.slots.length := (List.getElem?_eq_some_iff.mp hslot).1
    by_cases heq : ticket = other
    · subst other
      rw [List.getElem?_set_self hlt, if_pos ⟨rfl, hslot⟩]
    · rw [List.getElem?_set_ne heq, if_neg fun hboth => heq hboth.1.symm]
  next hslot => rw [if_neg fun hboth => hslot hboth.2]

theorem complete_eq : ∃ slots, table.complete ticket outcome = { table with slots } := by
  unfold complete
  split <;> exact ⟨_, rfl⟩

theorem resolve_eq (id : CorrelationId) :
    ∃ pending slots, table.resolve id ticket outcome = { table with pending, slots } := by
  unfold resolve
  split
  · split
    · obtain ⟨slots, hslots⟩ := (table.remove ticket).complete_eq ticket outcome
      exact ⟨_, slots, hslots⟩
    · exact ⟨_, _, rfl⟩
  · exact ⟨_, _, rfl⟩

theorem resolveAll_eq :
    ∃ slots, table.resolveAll outcome = { table with pending := [], slots } := by
  have hfold : ∀ (requests : List Pending) (start : RequestTable), ∃ slots,
      requests.foldl (fun table request => table.complete request.handle.ticket outcome) start =
        { start with slots } := by
    intro requests
    induction requests with
    | nil => exact fun _ => ⟨_, rfl⟩
    | cons request rest ih =>
        intro start
        obtain ⟨slots, hslots⟩ := start.complete_eq request.handle.ticket outcome
        obtain ⟨last, hlast⟩ := ih { start with slots }
        exact ⟨last, by rw [List.foldl_cons, hslots, hlast]⟩
  exact hfold _ _

theorem register_eq (id : CorrelationId) (filter : FrameFilter) (deadline : Nat) :
    ∃ pending slots, (table.register id filter deadline).2 = { table with pending, slots } := by
  unfold register
  split <;> exact ⟨_, _, rfl⟩

end Fields

/-- Filling the slots of some requests one after the other fills exactly the empty ones. -/
theorem foldl_complete_slots (requests : List Pending) (outcome : Outcome) (ticket : Nat) :
    (requests.foldl (fun table request => table.complete request.handle.ticket outcome)
      table).slots[ticket]? =
      if (∃ request ∈ requests, request.handle.ticket = ticket) ∧
          table.slots[ticket]? = some none then some (some outcome)
      else table.slots[ticket]? := by
  induction requests generalizing table with
  | nil => simp
  | cons request rest ih =>
      rw [List.foldl_cons, ih, complete_slots]
      by_cases heq : ticket = request.handle.ticket
      · subst ticket
        by_cases hslot : table.slots[request.handle.ticket]? = some none <;> simp [hslot]
      · simp [heq, Ne.symm heq]

theorem foldl_complete_fields (requests : List Pending) (outcome : Outcome) :
    let last := requests.foldl
      (fun table request => table.complete request.handle.ticket outcome) table
    last.pending = table.pending ∧ last.held = table.held ∧
      last.slots.length = table.slots.length := by
  induction requests generalizing table with
  | nil => exact ⟨rfl, rfl, rfl⟩
  | cons request rest ih =>
      have hrest := @ih (table.complete request.handle.ticket outcome)
      simpa only [List.foldl_cons, complete_pending, complete_held, complete_slots_length]
        using hrest

theorem nodup_map_concat {α β : Type} {f : α → β} {items : List α} {last : α}
    (h : (items.map f).Nodup) (hnew : ∀ item ∈ items, f item ≠ f last) :
    ((items ++ [last]).map f).Nodup := by
  rw [List.map_append, List.map_singleton, List.nodup_append_comm]
  refine List.nodup_cons.mpr ⟨?_, h⟩
  intro hmem
  obtain ⟨item, hitem, heq⟩ := List.mem_map.mp hmem
  exact hnew item hitem heq

/-- What holds of the table between any two steps. -/
structure Sound (table : RequestTable) : Prop where
  ids : (table.pending.map fun request => request.handle.id).Nodup
  tickets : (table.pending.map fun request => request.handle.ticket).Nodup
  waiting : ∀ request ∈ table.pending, table.slots[request.handle.ticket]? = some none
  entered : ∀ ticket, table.slots[ticket]? = some none →
    ∃ request ∈ table.pending, request.handle.ticket = ticket
  idle : table.shutDown = true ∨ table.closed.isSome → table.pending = []

theorem Sound.empty : Sound {} where
  ids := List.nodup_nil
  tickets := List.nodup_nil
  waiting := by simp
  entered := by simp
  idle _ := rfl

theorem Sound.eq_of_id (h : table.Sound) {first second : Pending}
    (hfirst : first ∈ table.pending) (hsecond : second ∈ table.pending)
    (heq : first.handle.id = second.handle.id) : first = second :=
  List.inj_on_of_nodup_map h.ids hfirst hsecond heq

theorem Sound.eq_of_ticket (h : table.Sound) {first second : Pending}
    (hfirst : first ∈ table.pending) (hsecond : second ∈ table.pending)
    (heq : first.handle.ticket = second.handle.ticket) : first = second :=
  List.inj_on_of_nodup_map h.tickets hfirst hsecond heq

theorem Sound.ticket_lt (h : table.Sound) {request : Pending} (hmem : request ∈ table.pending) :
    request.handle.ticket < table.slots.length :=
  (List.getElem?_eq_some_iff.mp (h.waiting request hmem)).1

theorem find?_mem {id : CorrelationId} {request : Pending}
    (hfind : table.find? id = some request) :
    request ∈ table.pending ∧ request.handle.id = id := by
  refine ⟨List.mem_of_find?_eq_some hfind, ?_⟩
  simpa using List.find?_some hfind

theorem Sound.find?_eq_some_iff (h : table.Sound) {id : CorrelationId} {request : Pending} :
    table.find? id = some request ↔ request ∈ table.pending ∧ request.handle.id = id := by
  refine ⟨find?_mem, ?_⟩
  rintro ⟨hmem, hid⟩
  cases hfind : table.find? id with
  | none => exact absurd hid (by simpa using List.find?_eq_none.mp hfind request hmem)
  | some found =>
      obtain ⟨hfound, hfoundId⟩ := find?_mem hfind
      rw [h.eq_of_id hfound hmem (hfoundId.trans hid.symm)]

theorem find?_eq_none_iff {id : CorrelationId} :
    table.find? id = none ↔ ∀ request ∈ table.pending, request.handle.id ≠ id := by
  simp [find?, List.find?_eq_none]

/-! ## Settling requests -/

/-- The requests with a verdict leave the table and find it in their slots; nothing else changes
for those who wait. -/
structure Settles (table : RequestTable) (verdict : Pending → Option Outcome)
    (next : RequestTable) : Prop where
  pending : next.pending = table.pending.filter fun request => (verdict request).isNone
  length : next.slots.length = table.slots.length
  ended : ∀ request ∈ table.pending, next.slots[request.handle.ticket]? = some (verdict request)
  others : ∀ ticket, (∀ request ∈ table.pending, request.handle.ticket ≠ ticket) →
    next.slots[ticket]? = table.slots[ticket]?
  idle : next.shutDown = table.shutDown ∧ next.closed = table.closed ∨ next.pending = []

variable {verdict : Pending → Option Outcome}

theorem Settles.congr {other : Pending → Option Outcome} (h : table.Settles verdict next)
    (hverdict : ∀ request ∈ table.pending, verdict request = other request) :
    table.Settles other next where
  pending := by
    rw [h.pending]
    apply List.filter_congr
    intro request hmem
    rw [hverdict request hmem]
  length := h.length
  ended request hmem := by rw [← hverdict request hmem, h.ended request hmem]
  others := h.others
  idle := h.idle

/-- A step that leaves requests and slots alone settles nothing. -/
theorem Sound.settles_of_eq (h : table.Sound) (hpending : next.pending = table.pending)
    (hslots : next.slots = table.slots) (hshutDown : next.shutDown = table.shutDown)
    (hclosed : next.closed = table.closed)
    (hverdict : ∀ request ∈ table.pending, verdict request = none) :
    table.Settles verdict next where
  pending := by
    rw [hpending, eq_comm, List.filter_eq_self]
    intro request hmem
    rw [hverdict request hmem]
    rfl
  length := by rw [hslots]
  ended request hmem := by rw [hslots, h.waiting request hmem, hverdict request hmem]
  others _ _ := by rw [hslots]
  idle := Or.inl ⟨hshutDown, hclosed⟩

/-- Taking one request out of the table and filling its slot. -/
theorem Sound.settles_complete (h : table.Sound) {request : Pending}
    (hmem : request ∈ table.pending) (outcome : Outcome) :
    table.Settles
      (fun other => if other.handle.ticket = request.handle.ticket then some outcome else none)
      ((table.remove request.handle.ticket).complete request.handle.ticket outcome) where
  pending := by
    rw [complete_pending]
    apply List.filter_congr
    intro other _
    by_cases heq : other.handle.ticket = request.handle.ticket <;> simp [heq]
  length := complete_slots_length _ _ _
  ended other hother := by
    rw [complete_slots]
    by_cases heq : other.handle.ticket = request.handle.ticket
    · rw [if_pos ⟨heq, h.waiting request hmem⟩, if_pos heq]
    · rw [if_neg fun hboth => heq hboth.1, if_neg heq]
      exact h.waiting other hother
  others ticket hticket := by
    rw [complete_slots, if_neg fun hboth => hticket request hmem hboth.1.symm]
    rfl
  idle := Or.inl ⟨complete_shutDown _ _ _, complete_closed _ _ _⟩

theorem Sound.settles_resolve (h : table.Sound) (id : CorrelationId) (ticket : Nat)
    (outcome : Outcome) :
    table.Settles
      (fun request =>
        if request.handle.id = id ∧ request.handle.ticket = ticket then some outcome else none)
      (table.resolve id ticket outcome) := by
  unfold resolve
  split
  next request hfind =>
    obtain ⟨hmem, hid⟩ := find?_mem hfind
    split
    next hticket =>
      subst ticket
      apply (h.settles_complete hmem outcome).congr
      intro other hother
      by_cases heq : other.handle.ticket = request.handle.ticket
      · rw [h.eq_of_ticket hother hmem heq, if_pos rfl, if_pos ⟨hid, rfl⟩]
      · rw [if_neg heq, if_neg fun hboth => heq hboth.2]
    next hticket =>
      -- the number is in use again, by a request with another ticket
      refine h.settles_of_eq rfl rfl rfl rfl fun other hother => if_neg ?_
      rintro ⟨hotherId, hotherTicket⟩
      have heq := h.eq_of_id hother hmem (hotherId.trans hid.symm)
      exact hticket (heq ▸ hotherTicket)
  next hfind =>
    refine h.settles_of_eq rfl rfl rfl rfl fun other hother => if_neg ?_
    exact fun hboth => find?_eq_none_iff.mp hfind other hother hboth.1

/-- Ending all requests alike; the table may have been told before to refuse new ones. -/
theorem Sound.settles_resolveAll (h : table.Sound) (hpending : next.pending = table.pending)
    (hslots : next.slots = table.slots) (outcome : Outcome) :
    table.Settles (fun _ => some outcome) (next.resolveAll outcome) := by
  unfold resolveAll
  obtain ⟨hlast, -, hlength⟩ := @foldl_complete_fields { next with pending := [] }
    next.pending outcome
  refine ⟨?_, ?_, ?_, ?_, Or.inr hlast⟩
  · rw [hlast]
    simp
  · rw [hlength, ← hslots]
  · intro request hmem
    have hslot : next.slots[request.handle.ticket]? = some none := by
      rw [hslots, h.waiting request hmem]
    rw [foldl_complete_slots, if_pos ⟨⟨request, hpending ▸ hmem, rfl⟩, hslot⟩]
  · intro ticket hticket
    rw [foldl_complete_slots, if_neg, ← hslots]
    rintro ⟨⟨request, hmem, heq⟩, -⟩
    exact hticket request (hpending ▸ hmem) heq

end RequestTable

end GroundLink
