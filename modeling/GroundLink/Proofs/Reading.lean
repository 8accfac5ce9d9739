import GroundLink.Reader
import GroundLink.Proofs.Link.Arrival

/-! # Reading a whole stream

The reader takes the stream as it comes, cut anywhere and with pauses anywhere. What it does, notes
apart, is what the packets of the whole stream make it do, one after the other: the reads only
decide when. A snapshot comes of a beacon that can be decoded, nothing of one that cannot, and the
router is given every other frame; it is closed when the reading ends.
-/

namespace GroundLink

open Link Telemetry

namespace Link

/-- The packets of a stream, noise left out. -/
def packets (stream : Bytes) : List Packet :=
  (Assembler.empty.extend stream).drain.1.filterMap Except.toOption

end Link

namespace ReadResult

/-- The octets of the reads up to the end of reading. -/
def stream : List ReadResult → Bytes
  | [] => []
  | .octets chunk :: rest => chunk ++ stream rest
  | .pause :: rest => stream rest
  | .endOfStream :: _ | .failure _ :: _ => []

/-- Why the reading ends, if it does. -/
def ending? : List ReadResult → Option String
  | [] => none
  | .octets _ :: rest | .pause :: rest => ending? rest
  | .endOfStream :: _ => some "end of stream"
  | .failure reason :: _ => some reason

end ReadResult

namespace ReaderAction

def deliver? : ReaderAction → Option Frame
  | .deliver frame => some frame
  | _ => none

def publish? : ReaderAction → Option Snapshot
  | .publish snapshot => some snapshot
  | _ => none

def close? : ReaderAction → Option String
  | .close reason => some reason
  | _ => none

def isNote : ReaderAction → Bool
  | .note _ => true
  | _ => false

/-- What is done besides notes. -/
def effects (actions : List ReaderAction) : List ReaderAction :=
  actions.filter fun action => !action.isNote

@[simp] theorem effects_append (first second : List ReaderAction) :
    effects (first ++ second) = effects first ++ effects second :=
  List.filter_append first second

/-- Notes are no frames, no snapshots and no ends. -/
theorem filterMap_effects {α : Type} {select : ReaderAction → Option α}
    (h : ∀ note, select (.note note) = none) (actions : List ReaderAction) :
    (effects actions).filterMap select = actions.filterMap select := by
  rw [effects, List.filterMap_filter]
  congr 1
  funext action
  cases action with
  | note note => rw [h]; rfl
  | publish snapshot => rfl
  | deliver frame => rfl
  | close reason => rfl

end ReaderAction

open ReaderAction

namespace FrameReader

variable (reader : FrameReader)

/-- What the payload of a beacon makes the reader do: if it can be decoded, its snapshot is
published for whoever listens. -/
def beaconEffects (payload : Bytes) : List ReaderAction :=
  match reader.decoder.decode payload with
  | .ok decoded => if reader.receiverListens then [.publish decoded.snapshot] else []
  | .error _ => []

/-- What one packet makes the reader do. No beacon gets to the router, and all else does. -/
def packetEffects (packet : Packet) : List ReaderAction :=
  match Frame.decode packet.data with
  | .beacon payload => reader.beaconEffects payload
  | frame => [.deliver frame]

/-- What a whole stream makes the reader do. -/
def streamEffects (stream : Bytes) : List ReaderAction :=
  (packets stream).flatMap reader.packetEffects

theorem effects_beaconActions (payload : Bytes) :
    effects (reader.beaconActions payload) = reader.beaconEffects payload := by
  unfold beaconActions beaconEffects
  cases reader.decoder.decode payload with
  | error error => rfl
  | ok decoded =>
      obtain ⟨snapshot, trailing⟩ := decoded
      cases trailing <;> cases reader.receiverListens <;> rfl

/-- Noise is only noted. -/
theorem effects_packetActions (outcome : Except LinkError Packet) :
    effects (reader.packetActions outcome) = outcome.toOption.elim [] reader.packetEffects := by
  cases outcome with
  | error error => cases error <;> rfl
  | ok packet =>
      simp only [packetActions, Except.toOption, Option.elim, packetEffects]
      cases Frame.decode packet.data with
      | beacon payload => exact reader.effects_beaconActions payload
      | response found => rfl
      | unknown raw => rfl

theorem effects_flatMap_packetActions (outcomes : List (Except LinkError Packet)) :
    effects (outcomes.flatMap reader.packetActions) =
      (outcomes.filterMap Except.toOption).flatMap reader.packetEffects := by
  induction outcomes with
  | nil => rfl
  | cons outcome rest ih =>
      rw [List.flatMap_cons, effects_append, ih, effects_packetActions]
      cases outcome with
      | error error => rfl
      | ok packet => rfl

/-- Reading goes on where nothing can be cut off. Then the effects are those of everything that can
be cut off once the rest of the stream has arrived, and the end. -/
theorem effects_actions {assembler : Assembler} (reads : List ReadResult)
    (h : assembler.next.1 = none) :
    effects (reader.actions assembler reads) =
      ((assembler.extend (ReadResult.stream reads)).drain.1.filterMap Except.toOption).flatMap
          reader.packetEffects ++
        (ReadResult.ending? reads).toList.map .close := by
  induction reads generalizing assembler with
  | nil =>
      rw [ReadResult.stream, Assembler.drain_extend_nil h]
      rfl
  | cons read rest ih =>
      cases read with
      | octets chunk =>
          -- the rest is read from what this read leaves, of which nothing can be cut off again
          have hdrained : (assembler.extend chunk).drain.2.next.1 = none := by
            rw [Assembler.next_drain]
          have hstream : assembler.extend (chunk ++ ReadResult.stream rest) =
              (assembler.extend chunk).extend (ReadResult.stream rest) := by
            simp only [Assembler.extend, List.append_assoc]
          rw [actions, step]
          dsimp only
          rw [effects_append, ih hdrained, effects_flatMap_packetActions, ReadResult.stream,
            ReadResult.ending?, hstream, Assembler.drain_extend (assembler.extend chunk),
            List.filterMap_append, List.flatMap_append, List.append_assoc]
      | pause => exact ih h
      | endOfStream =>
          rw [ReadResult.stream, Assembler.drain_extend_nil h, actions, step]
          dsimp only
          split <;> rfl
      | failure reason =>
          rw [ReadResult.stream, Assembler.drain_extend_nil h]
          rfl

/-- Packets make the reader publish snapshots and deliver frames that are no beacons. -/
theorem mem_packetEffects {packet : Packet} {action : ReaderAction}
    (h : action ∈ reader.packetEffects packet) :
    (∃ snapshot, action = .publish snapshot) ∨
      ∃ frame, (∀ payload, frame ≠ .beacon payload) ∧ action = .deliver frame := by
  unfold packetEffects at h
  split at h
  next payload hframe =>
    unfold beaconEffects at h
    split at h
    next decoded hdecoded =>
      split at h
      next => exact .inl ⟨decoded.snapshot, List.mem_singleton.mp h⟩
      next => exact nomatch h
    next => exact nomatch h
  next hframe => exact .inr ⟨_, hframe, List.mem_singleton.mp h⟩

theorem beacon_notMem_streamEffects (stream payload : Bytes) :
    .deliver (.beacon payload) ∉ reader.streamEffects stream := by
  intro hmem
  obtain ⟨packet, -, hpacket⟩ := List.mem_flatMap.mp hmem
  rcases reader.mem_packetEffects hpacket with ⟨snapshot, heq⟩ | ⟨frame, hframe, heq⟩
  · exact nomatch heq
  · exact hframe payload (ReaderAction.deliver.inj heq).symm

theorem close?_streamEffects (stream : Bytes) :
    (reader.streamEffects stream).filterMap close? = [] := by
  rw [List.filterMap_eq_nil_iff]
  intro action haction
  obtain ⟨packet, -, hpacket⟩ := List.mem_flatMap.mp haction
  rcases reader.mem_packetEffects hpacket with ⟨snapshot, rfl⟩ | ⟨frame, -, rfl⟩ <;> rfl

/-- The effects of reading a whole stream. -/
theorem effects_read (reads : List ReadResult) :
    effects (reader.actions .empty reads) =
      reader.streamEffects (ReadResult.stream reads) ++
        (ReadResult.ending? reads).toList.map .close :=
  reader.effects_actions reads rfl

/-- What is neither a note nor a close depends on the stream alone. -/
theorem filterMap_read {α : Type} {select : ReaderAction → Option α}
    (hnote : ∀ note, select (.note note) = none) (hclose : ∀ reason, select (.close reason) = none)
    (reads : List ReadResult) :
    (reader.actions .empty reads).filterMap select =
      (reader.streamEffects (ReadResult.stream reads)).filterMap select := by
  rw [← filterMap_effects hnote, effects_read, List.filterMap_append]
  cases ReadResult.ending? reads with
  | none => exact List.append_nil _
  | some reason => simp [hclose]

end FrameReader

namespace Router

/-- Notes do nothing to the router. -/
theorem foldl_perform_effects (router : Router) (actions : List ReaderAction) :
    (effects actions).foldl perform router = actions.foldl perform router := by
  induction actions generalizing router with
  | nil => rfl
  | cons action rest ih =>
      cases action with
      | note note => exact ih router
      | publish snapshot => exact ih router
      | deliver frame => exact ih (router.deliver frame)
      | close reason => exact ih (router.close reason)

/-- Where nothing is closed, the router is given the delivered frames. -/
theorem foldl_perform_of_close? (router : Router) {actions : List ReaderAction}
    (h : actions.filterMap close? = []) :
    actions.foldl perform router = (actions.filterMap deliver?).foldl deliver router := by
  induction actions generalizing router with
  | nil => rfl
  | cons action rest ih =>
      cases action with
      | note note => exact ih router h
      | publish snapshot => exact ih router h
      | deliver frame => exact ih (router.deliver frame) h
      | close reason => exact nomatch h

end Router

/-- However the stream is cut into reads and wherever there are pauses between them, the reader does
for every packet of the stream what the packet makes it do, in order, and then closes the router, if
the reading ends; besides this it does nothing but note. So there is one close and no more, no
beacon is delivered, and the router undergoes the deliveries of the stream and then that close.
Another way of reading the same stream delivers the same frames and publishes the same snapshots. -/
theorem reading_depends_on_stream (reader : FrameReader) (reads : List ReadResult) :
    effects (reader.actions .empty reads) =
        reader.streamEffects (ReadResult.stream reads) ++
          (ReadResult.ending? reads).toList.map .close ∧
      (reader.actions .empty reads).filterMap close? = (ReadResult.ending? reads).toList ∧
      (∀ payload, .deliver (.beacon payload) ∉ reader.actions .empty reads) ∧
      (∀ router : Router, (reader.actions .empty reads).foldl Router.perform router =
        (ReadResult.ending? reads).toList.foldl Router.close
          (((reader.actions .empty reads).filterMap deliver?).foldl Router.deliver router)) ∧
      ∀ others, ReadResult.stream others = ReadResult.stream reads →
        (reader.actions .empty others).filterMap deliver? =
            (reader.actions .empty reads).filterMap deliver? ∧
          (reader.actions .empty others).filterMap publish? =
            (reader.actions .empty reads).filterMap publish? := by
  refine ⟨reader.effects_read reads, ?_, ?_, ?_, ?_⟩
  · rw [← filterMap_effects fun _ => rfl, reader.effects_read, List.filterMap_append,
      reader.close?_streamEffects, List.nil_append]
    cases ReadResult.ending? reads <;> rfl
  · intro payload hmem
    have heffect : .deliver (.beacon payload) ∈ effects (reader.actions .empty reads) :=
      List.mem_filter.mpr ⟨hmem, rfl⟩
    rw [reader.effects_read, List.mem_append] at heffect
    rcases heffect with hstream | hend
    · exact reader.beacon_notMem_streamEffects _ payload hstream
    · obtain ⟨reason, -, heq⟩ := List.mem_map.mp hend
      exact nomatch heq
  · intro router
    rw [reader.filterMap_read (fun _ => rfl) fun _ => rfl, ← Router.foldl_perform_effects,
      reader.effects_read, List.foldl_append,
      Router.foldl_perform_of_close? router (reader.close?_streamEffects _), List.foldl_map]
    rfl
  · intro others hstream
    constructor
    · rw [reader.filterMap_read (fun _ => rfl) (fun _ => rfl) others, hstream,
        reader.filterMap_read (fun _ => rfl) (fun _ => rfl) reads]
    · rw [reader.filterMap_read (fun _ => rfl) (fun _ => rfl) others, hstream,
        reader.filterMap_read (fun _ => rfl) (fun _ => rfl) reads]

/-- A stray octet, a response, a beacon that can be decoded and one that is too short come in one
read, or in two with a pause inside the response. -/
theorem reading_depends_on_stream_cut :
    let power : CategorySpec :=
      ⟨"power", [⟨"voltage", 8, .decimal, .little⟩], 8, by decide, by decide, by decide, rfl⟩
    let reader : FrameReader := { decoder := ⟨[power], by decide⟩ }
    let response : Frame := .response ⟨⟨.terminal, .success⟩, 7, [1]⟩
    let snapshot : Snapshot := ⟨[⟨"power", [("voltage", ⟨42, 8, .decimal⟩)]⟩]⟩
    let stream : Bytes := 7 :: (⟨response.encode 0⟩ : Packet).bytes ++
      (⟨(Frame.beacon [42]).encode 1⟩ : Packet).bytes ++
      (⟨(Frame.beacon []).encode 2⟩ : Packet).bytes
    let reads : List ReadResult := [.octets stream, .endOfStream]
    let others : List ReadResult :=
      [.octets (stream.take 5), .pause, .octets (stream.drop 5), .failure "gone"]
    effects (reader.actions .empty reads) =
        [.deliver response, .publish snapshot, .close "end of stream"] ∧
      (reader.actions .empty others).filterMap deliver? = [response] ∧
      (reader.actions .empty others).filterMap publish? = [snapshot] := by
  intro power reader response snapshot stream reads others
  have hdrain := @Assembler.drain_extend_of_feed .empty
    [.extend stream, .next, .next, .next, .next] (by decide +kernel)
  have hstream : reader.streamEffects stream = [.deliver response, .publish snapshot] := by
    have hpackets : packets stream = (Assembler.empty.feed
        [.extend stream, .next, .next, .next, .next]).1.filterMap Except.toOption := by
      rw [← hdrain]
      simp only [packets, arrived, List.append_nil]
    rw [FrameReader.streamEffects, hpackets]
    decide +kernel
  have hreads : ReadResult.stream reads = stream := List.append_nil stream
  have hsame : ReadResult.stream others = ReadResult.stream reads := by
    simp only [ReadResult.stream, others, reads, List.append_nil, List.take_append_drop]
  obtain ⟨heffects, -, -, -, hothers⟩ := reading_depends_on_stream reader reads
  rw [hreads, hstream] at heffects
  obtain ⟨hdeliver, hpublish⟩ := hothers others hsame
  refine ⟨heffects, ?_, ?_⟩
  · rw [hdeliver, ← filterMap_effects fun _ => rfl, heffects]
    rfl
  · rw [hpublish, ← filterMap_effects fun _ => rfl, heffects]
    rfl

end GroundLink
