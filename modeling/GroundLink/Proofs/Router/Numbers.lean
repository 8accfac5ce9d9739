import GroundLink.Proofs.Router.Gates
import GroundLink.Proofs.Router.Refusal
import Mathlib.Data.Nat.Find

/-! # Numbers for requests

Numbers are given out from a counter that starts again behind the last one. Those with which
requests wait are passed over. The search for the next number ends behind as many tries as there are
numbers: by then it has met every number once, so that it finds a free one if there is any.
-/

namespace GroundLink

namespace RequestTable

/-! ## The search -/

section Search

variable {taken : CorrelationId → Bool}

/-- Counting up from a number meets every number once. -/
theorem exists_offset (next id : CorrelationId) :
    ∃ offset < 256, next + UInt8.ofNat offset = id := by
  refine ⟨(id - next).toNat, (id - next).toNat_lt, ?_⟩
  rw [UInt8.ofNat_toNat]
  grind

theorem add_one_add_ofNat (next : CorrelationId) (offset : Nat) :
    next + 1 + UInt8.ofNat offset = next + UInt8.ofNat (offset + 1) := by
  rw [UInt8.ofNat_add]
  grind

/-- The search stops at the first free number. -/
theorem searchId_of_free {tries offset : Nat} {next : CorrelationId} (hlt : offset < tries)
    (hfree : taken (next + UInt8.ofNat offset) = false)
    (htaken : ∀ earlier < offset, taken (next + UInt8.ofNat earlier) = true) :
    searchId taken tries next = (next + UInt8.ofNat offset, next + UInt8.ofNat offset + 1) := by
  have hhere : next + UInt8.ofNat 0 = next := by grind
  obtain ⟨tries, rfl⟩ := Nat.exists_eq_add_one_of_ne_zero (Nat.ne_zero_of_lt hlt)
  induction offset generalizing tries next with
  | zero =>
      rw [hhere] at hfree ⊢
      rw [searchId, if_neg (by simp [hfree])]
  | succ offset ih =>
      have hfirst := htaken 0 (Nat.succ_pos offset)
      rw [hhere] at hfirst
      obtain ⟨fewer, rfl⟩ := Nat.exists_eq_add_one_of_ne_zero (by omega : tries ≠ 0)
      rw [searchId, if_pos hfirst, ← add_one_add_ofNat]
      apply ih
      · rwa [add_one_add_ofNat]
      · intro earlier hearlier
        rw [add_one_add_ofNat]
        exact htaken (earlier + 1) (by omega)
      · grind
      · omega

/-- Where every number is taken, the search gives the last one that it has tried. -/
theorem searchId_of_taken (htaken : ∀ id, taken id = true) (tries : Nat) (next : CorrelationId) :
    searchId taken tries next = (next + UInt8.ofNat tries - 1, next + UInt8.ofNat tries) := by
  induction tries generalizing next with
  | zero =>
      have hhere : next + UInt8.ofNat 0 = next := by grind
      rw [searchId, hhere]
  | succ tries ih => rw [searchId, if_pos (htaken next), ih, add_one_add_ofNat]

/-- If any number is free, one of them is met first. -/
theorem exists_first_free (next : CorrelationId) {id : CorrelationId} (hfree : taken id = false) :
    ∃ offset < 256, taken (next + UInt8.ofNat offset) = false ∧
      ∀ earlier < offset, taken (next + UInt8.ofNat earlier) = true := by
  obtain ⟨offset, hlt, rfl⟩ := exists_offset next id
  have hmet : ∃ offset, taken (next + UInt8.ofNat offset) = false := ⟨offset, hfree⟩
  refine ⟨Nat.find hmet, Nat.lt_of_le_of_lt (Nat.find_min' hmet hfree) hlt, Nat.find_spec hmet, ?_⟩
  intro earlier hearlier
  exact Bool.not_eq_false _ ▸ Nat.find_min hmet hearlier

end Search

/-! ## The next number -/

variable {table : RequestTable} {id : CorrelationId}

theorem allocateId_of_free (hfree : table.isPending id = false) :
    ∃ offset < 256,
      table.isPending (table.nextId + UInt8.ofNat offset) = false ∧
      (∀ earlier < offset, table.isPending (table.nextId + UInt8.ofNat earlier) = true) ∧
      table.allocateId = (table.nextId + UInt8.ofNat offset,
        { table with nextId := table.nextId + UInt8.ofNat offset + 1 }) := by
  obtain ⟨offset, hlt, hmet, hearlier⟩ := exists_first_free table.nextId hfree
  refine ⟨offset, hlt, hmet, hearlier, ?_⟩
  rw [allocateId, searchId_of_free hlt hmet hearlier]

/-- The counter comes round to where it was. -/
theorem allocateId_of_taken (htaken : ∀ id, table.isPending id = true) :
    table.allocateId = (table.nextId - 1, table) := by
  have hround : table.nextId + UInt8.ofNat 256 = table.nextId := by grind
  rw [allocateId, searchId_of_taken htaken, hround]

theorem isPending_iff :
    table.isPending id = true ↔ ∃ request ∈ table.pending, request.handle.id = id := by
  rw [← Bool.not_eq_false, isPending_eq_false_iff]
  simp

/-- A router with requests that wait is open. -/
theorem Sound.ensureOpen_of_isPending (h : table.Sound) (hpending : table.isPending id = true)
    (other : CorrelationId) : table.ensureOpen other = .ok () := by
  have hwaits : table.pending ≠ [] := by
    intro hnobody
    rw [isPending_eq_false_iff.mpr (by simp [hnobody])] at hpending
    exact Bool.false_ne_true hpending
  have hgates := mt h.idle hwaits
  rw [not_or, Bool.not_eq_true, Bool.not_eq_true, Option.isSome_eq_false_iff,
    Option.isNone_iff_eq_none] at hgates
  rw [ensureOpen, if_neg (by simp [hgates.1]), hgates.2]

/-- After a request with a number this number is taken, whether it has been before or not. -/
theorem isPending_beginIssue (hgates : table.gates = (false, none)) (filter : FrameFilter)
    (deadline : Nat) (other : CorrelationId) :
    (table.apply (.beginIssue id filter deadline)).isPending other = true ↔
      other = id ∨ table.isPending other = true := by
  obtain ⟨hshutDown, hclosed⟩ := Prod.mk.inj hgates
  have hbegin : table.beginIssue id filter deadline =
      (table.dropHeld id).register id filter deadline := by
    simp [beginIssue, ensureOpen, hshutDown, hclosed]
  have hdrop : ∀ id', (table.dropHeld id).isPending id' = table.isPending id' := fun _ => rfl
  rw [apply, hbegin]
  cases hpending : table.isPending id with
  | true =>
      rw [register_of_isPending filter deadline (by rw [hdrop, hpending]), hdrop]
      constructor
      · exact Or.inr
      · rintro (rfl | hother)
        · exact hpending
        · exact hother
  | false =>
      rw [register_of_free filter deadline (by rw [hdrop, hpending]), isPending_iff, isPending_iff]
      simp [dropHeld, or_comm, eq_comm]

theorem isPending_run_beginIssue (hgates : table.gates = (false, none)) (filter : FrameFilter)
    (deadline : Nat) (ids : List CorrelationId) (other : CorrelationId) :
    (table.run (ids.map fun id => .beginIssue id filter deadline)).isPending other = true ↔
      other ∈ ids ∨ table.isPending other = true := by
  induction ids generalizing table with
  | nil => simp
  | cons id rest ih =>
      have hnext : (table.apply (.beginIssue id filter deadline)).gates = (false, none) := by
        rw [gates_apply, hgates]
        rfl
      rw [List.map_cons, run_cons, ih hnext, isPending_beginIssue hgates, List.mem_cons]
      tauto

end RequestTable

namespace Router

variable {router : Router} {request : CorrelatedRequest}

/-- A request is told that its number is taken only if a request waits with it. -/
theorem isPending_of_issue {id : CorrelationId}
    (h : (router.issue request).1 = .error (.duplicateId id)) :
    router.table.isPending request.id = true := by
  cases hregister : (router.register request).1 with
  | error error =>
      obtain ⟨hbegin, hissue⟩ := issue_refused hregister
      rw [hissue] at h
      cases h
      rcases RequestTable.beginIssue_refused hbegin with ⟨hensure, -⟩ | ⟨-, hpending, -, -⟩
      · exact absurd hensure RequestTable.ensureOpen_ne_duplicateId
      · exact hpending
  | ok handle =>
      -- what has been entered can only fail to be sent
      unfold issue at h
      split at h
      next hrefused =>
        rw [hrefused] at hregister
        exact nomatch hregister
      next entered hentered =>
        split at h
        next => exact nomatch h
        next error failed htransmit =>
          unfold transmit at htransmit
          split at htransmit
          next => exact nomatch htransmit
          next =>
            cases htransmit
            exact nomatch h

/-- A request with a taken number is refused where the router is open, and not sent. -/
theorem issue_of_isPending (hopen : router.table.ensureOpen request.id = .ok ())
    (hpending : router.table.isPending request.id = true) :
    router.issue request =
      (.error (.duplicateId request.id),
        { router with table := router.table.dropHeld request.id }) := by
  have htaken : (router.table.dropHeld request.id).isPending request.id = true := hpending
  simp only [issue, register, RequestTable.beginIssue, hopen,
    RequestTable.register_of_isPending request.filter (router.now + request.timeout) htaken]

end Router

/-- As long as any number is free, the next number is the first one from the counter on with which
no request waits, and the counter stands behind it; a request made with it at once is never told
that its number is taken. When all numbers are taken, the search ends with one of them and the
counter as it was, and a request made with it is refused because its number is taken, and not sent.
Nothing but the counter changes in either case. -/
theorem next_number_is_first_free {steps : List RouterStep} {router : Router}
    (hreached : router.table = ({} : RequestTable).run steps) :
    let number := router.allocateId.1
    let next := router.allocateId.2
    ((∃ id, router.table.isPending id = false) →
      (∃ offset < 256, number = router.table.nextId + UInt8.ofNat offset ∧
        router.table.isPending number = false ∧
        ∀ earlier < offset,
          router.table.isPending (router.table.nextId + UInt8.ofNat earlier) = true) ∧
      next = { router with table := { router.table with nextId := number + 1 } } ∧
      ∀ request : CorrelatedRequest, request.id = number →
        ∀ id, (next.issue request).1 ≠ .error (.duplicateId id)) ∧
    ((∀ id, router.table.isPending id = true) →
      router.table.isPending number = true ∧ next = router ∧
      ∀ request : CorrelatedRequest, request.id = number →
        (next.issue request).1 = .error (.duplicateId number) ∧
        (next.issue request).2.transport = router.transport) := by
  intro number next
  constructor
  · rintro ⟨id, hfree⟩
    obtain ⟨offset, hlt, hmet, hearlier, hallocate⟩ := RequestTable.allocateId_of_free hfree
    have hnumber : number = router.table.nextId + UInt8.ofNat offset := congrArg Prod.fst hallocate
    have hnext : next = { router with table := { router.table with nextId := number + 1 } } := by
      rw [hnumber]
      exact congrArg (fun table => { router with table }) (congrArg Prod.snd hallocate)
    rw [← hnumber] at hmet
    refine ⟨⟨offset, hlt, hnumber, hmet, hearlier⟩, hnext, ?_⟩
    intro request hrequest id hrefused
    have htaken : router.table.isPending request.id = true := by
      have hwaits := Router.isPending_of_issue hrefused
      rwa [hnext] at hwaits
    rw [hrequest, hmet] at htaken
    exact Bool.false_ne_true htaken
  · intro htaken
    have hallocate := RequestTable.allocateId_of_taken htaken
    have hnext : next = router :=
      congrArg (fun table => { router with table }) (congrArg Prod.snd hallocate)
    have hsound : router.table.Sound := by
      rw [hreached]
      exact RequestTable.sound_run steps
    refine ⟨htaken number, hnext, ?_⟩
    intro request hrequest
    rw [hnext, Router.issue_of_isPending (hsound.ensureOpen_of_isPending (htaken 0) request.id)
      (htaken request.id), hrequest]
    exact ⟨rfl, rfl⟩

/-- The counter stands in front of the last numbers, which are taken like the first one; and all
numbers are taken. -/
theorem next_number_is_first_free_round :
    let enter (id : CorrelationId) : RouterStep := .beginIssue id .any 60000
    let few : List RouterStep := List.replicate 254 .allocate ++ [254, 255, 0].map enter
    let all : List RouterStep := ((List.range 256).map UInt8.ofNat).map enter
    let some : Router := { table := ({} : RequestTable).run few }
    let full : Router := { table := ({} : RequestTable).run all }
    (some.table.isPending 1 = false ∧ some.allocateId.1 = 1 ∧
        ∀ request : CorrelatedRequest, request.id = 1 →
          ∀ id, (some.allocateId.2.issue request).1 ≠ .error (.duplicateId id)) ∧
      (∀ id, full.table.isPending id = true) ∧ full.allocateId.2 = full ∧
        ∀ request : CorrelatedRequest, request.id = full.allocateId.1 →
          (full.allocateId.2.issue request).1 = .error (.duplicateId full.allocateId.1) ∧
            (full.allocateId.2.issue request).2.transport = {} := by
  intro enter few all some full
  have hsome : some.table = ({} : RequestTable).run few := by dsimp only [some]
  have hfull : full.table = ({} : RequestTable).run all := by dsimp only [full]
  have hfree : some.table.isPending 1 = false := by decide +kernel
  have hone : some.allocateId.1 = 1 := by decide +kernel
  have htaken : ∀ id, full.table.isPending id = true := by
    intro id
    rw [hfull, RequestTable.isPending_run_beginIssue rfl]
    exact Or.inl (List.mem_map.mpr ⟨id.toNat, List.mem_range.mpr id.toNat_lt, UInt8.ofNat_toNat⟩)
  obtain ⟨-, -, hentered⟩ := (next_number_is_first_free hsome).1 ⟨1, hfree⟩
  obtain ⟨-, hsame, hrefused⟩ := (next_number_is_first_free hfull).2 htaken
  rw [hone] at hentered
  exact ⟨⟨hfree, hone, hentered⟩, htaken, hsame, hrefused⟩

end GroundLink
