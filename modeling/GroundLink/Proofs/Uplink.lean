import GroundLink.Proofs.Text.Utf8
import GroundLink.Uplink
import Mathlib.Data.List.TakeWhile

/-! # Terminal requests on the link

The octets of a frame tell its parts. Those of a terminal request do so as long as the line holds
no zero character: the line and the data are told apart by the first zero octet, whether it was put
there to separate them or came with the line. What is heard as a request is always the request as it
is written.
-/

namespace GroundLink

theorem Uplink.decode_encode (uplink : Uplink) : Uplink.decode uplink.encode = .ok uplink := by
  have hcode : UInt32.ofNat (Bytes.toNatBE (Bytes.ofNatBE 4 uplink.securityCode.toNat)) =
      uplink.securityCode := by
    rw [Bytes.toNatBE_ofNatBE]
    exact (congrArg UInt32.ofNat (Nat.mod_eq_of_lt uplink.securityCode.toNat_lt)).trans
      UInt32.ofNat_toNat
  obtain ⟨a, b, c, d, hoctets⟩ :
      ∃ a b c d, Bytes.ofNatBE 4 uplink.securityCode.toNat = [a, b, c, d] := ⟨_, _, _, _, rfl⟩
  rw [hoctets] at hcode
  simp only [encode, hoctets, List.cons_append, List.nil_append, decode, hcode]

/-- What is read as a frame is the frame as it is written. -/
theorem Uplink.eq_encode_of_decode {raw : Bytes} {uplink : Uplink} (h : decode raw = .ok uplink) :
    raw = uplink.encode := by
  unfold decode at h
  split at h
  next a b c d command parameters =>
    cases h
    have hsize : Nat.pow 256 4 = UInt32.size := by decide
    have hfits : Bytes.toNatBE [a, b, c, d] < UInt32.size :=
      Nat.lt_of_lt_of_eq (Bytes.toNatLE_lt [d, c, b, a]) hsize
    have hoctets : Bytes.ofNatBE 4 (Bytes.toNatBE [a, b, c, d]) = [a, b, c, d] :=
      congrArg List.reverse (Bytes.ofNatLE_toNatLE [d, c, b, a])
    rw [encode, UInt32.toNat_ofNat_of_lt' hfits, hoctets]
    rfl
  next => cases h

namespace TerminalRequest

variable {line : Bytes}

theorem splitData_of_not_mem (h : separator ∉ line) : splitData line = (line, none) := by
  have hall : line.dropWhile (· != separator) = [] :=
    List.dropWhile_eq_nil_iff.mpr fun octet hoctet => bne_iff_ne.mpr (ne_of_mem_of_not_mem hoctet h)
  rw [splitData, hall]

/-- Nothing behind the first separator matters for where the line ends. -/
theorem splitData_append (h : separator ∉ line) (data : Bytes) :
    splitData (line ++ separator :: data) = (line, some data) := by
  have hline : ∀ octet ∈ line, (octet != separator) = true :=
    fun octet hoctet => bne_iff_ne.mpr (ne_of_mem_of_not_mem hoctet h)
  have hdrop : (line ++ separator :: data).dropWhile (· != separator) = separator :: data := by
    rw [List.dropWhile_append_of_pos hline, List.dropWhile_cons_of_neg (by simp)]
  have htake : (line ++ separator :: data).takeWhile (· != separator) = line := by
    rw [List.takeWhile_append_of_pos hline, List.takeWhile_cons_of_neg (by simp), List.append_nil]
  rw [splitData, hdrop, htake]

/-- What follows the line on the link. -/
def block : Option Bytes → Bytes
  | some data => separator :: data
  | none => []

theorem splitData_eq_iff {body : Bytes} {data : Option Bytes} :
    splitData body = (line, data) ↔ separator ∉ line ∧ body = line ++ block data := by
  constructor
  · intro h
    by_cases hmem : separator ∈ body
    · obtain ⟨before, after, rfl, hbefore⟩ := List.eq_append_cons_of_mem hmem
      cases (splitData_append hbefore after).symm.trans h
      exact ⟨hbefore, rfl⟩
    · cases (splitData_of_not_mem hmem).symm.trans h
      exact ⟨hmem, (List.append_nil _).symm⟩
  · rintro ⟨hline, rfl⟩
    cases data with
    | none => rw [block, List.append_nil, splitData_of_not_mem hline]
    | some data => rw [block, splitData_append hline]

/-- A frame of a terminal request is read by splitting what follows the number. -/
theorem ofUplink_of_splitData {code : UInt32} {id : UInt8} {body : Bytes} {text : String}
    {data : Option Bytes} (h : splitData body = (Utf8.encode text, data)) :
    ofUplink ⟨code, command, id :: body⟩ = .ok ⟨id, text, data⟩ := by
  simp [ofUplink, h]

variable (request : TerminalRequest) (code : UInt32)

theorem toUplink_eq : request.toUplink code =
    ⟨code, command, request.id :: (Utf8.encode request.line ++ block request.data)⟩ := by
  unfold toUplink block
  cases request.data <;> rfl

variable {request}

theorem separator_not_mem_encode {text : String} (h : '\x00' ∉ text.toList) :
    separator ∉ Utf8.encode text :=
  fun hmem => h (Utf8.zero_mem_encode_iff.mp hmem)

/-- A line without a zero character arrives as it is, and so does the block behind it. -/
theorem ofUplink_toUplink (h : '\x00' ∉ request.line.toList) :
    ofUplink (request.toUplink code) = .ok request := by
  rw [toUplink_eq]
  apply ofUplink_of_splitData
  exact splitData_eq_iff.mpr ⟨separator_not_mem_encode h, rfl⟩

/-- What is heard as a request is the frame of this request, and its line holds no zero
character. -/
theorem eq_toUplink_of_ofUplink {uplink : Uplink} (h : ofUplink uplink = .ok request) :
    uplink = request.toUplink uplink.securityCode ∧ '\x00' ∉ request.line.toList := by
  obtain ⟨code, found, parameters⟩ := uplink
  rw [toUplink_eq]
  unfold ofUplink at h
  split at h
  next => cases h
  next hcommand =>
    obtain rfl : found = command := Decidable.not_not.mp hcommand
    cases parameters with
    | nil => cases h
    | cons id body =>
        rcases hsplit : splitData body with ⟨octets, data⟩
        simp only [hsplit] at h
        split at h
        next text htext =>
          cases h
          obtain rfl := Utf8.encode_of_decode htext
          obtain ⟨hfree, rfl⟩ := splitData_eq_iff.mp hsplit
          exact ⟨rfl, fun hzero => hfree (Utf8.zero_mem_encode_iff.mpr hzero)⟩
        next => cases h

/-- A zero character ends the line, and what follows it becomes part of the data. -/
theorem ofUplink_toUplink_of_zero {before after : String}
    (hline : request.line = before ++ "\x00" ++ after) (h : '\x00' ∉ before.toList) :
    ofUplink (request.toUplink code) =
      .ok ⟨request.id, before, some (Utf8.encode after ++ block request.data)⟩ := by
  rw [toUplink_eq, hline]
  apply ofUplink_of_splitData
  have hzero : Utf8.encode "\x00" = [separator] := by decide
  rw [Utf8.encode_append, Utf8.encode_append, hzero, List.append_assoc, List.append_assoc,
    List.singleton_append, splitData_append (separator_not_mem_encode h)]

theorem exists_zero_split {text : String} (h : '\x00' ∈ text.toList) :
    ∃ before after, text = before ++ "\x00" ++ after ∧ '\x00' ∉ before.toList := by
  obtain ⟨before, after, htext, hbefore⟩ := List.eq_append_cons_of_mem h
  refine ⟨String.ofList before, String.ofList after, ?_, by rwa [String.toList_ofList]⟩
  apply String.toList_inj.mp
  simp [htext]

/-- Every request is heard as some request, and as itself exactly if its line holds no zero
character. -/
theorem exists_ofUplink_toUplink (request : TerminalRequest) (code : UInt32) :
    ∃ heard, ofUplink (request.toUplink code) = .ok heard ∧
      (heard = request ↔ '\x00' ∉ request.line.toList) ∧
      ∀ before after, request.line = before ++ "\x00" ++ after → '\x00' ∉ before.toList →
        heard = ⟨request.id, before, some (Utf8.encode after ++ block request.data)⟩ := by
  by_cases hzero : '\x00' ∈ request.line.toList
  · obtain ⟨before, after, hline, hbefore⟩ := exists_zero_split hzero
    have hheard := ofUplink_toUplink_of_zero code hline hbefore
    refine ⟨_, hheard, iff_of_false ?_ (not_not_intro hzero), ?_⟩
    · intro heq
      rw [← congrArg line heq] at hzero
      exact hbefore hzero
    · intro other rest hother hfree
      exact Except.ok.inj (hheard.symm.trans (ofUplink_toUplink_of_zero code hother hfree))
  · refine ⟨request, ofUplink_toUplink code hzero, iff_of_true rfl hzero, ?_⟩
    intro before after hline _
    refine absurd ?_ hzero
    rw [hline]
    simp

theorem block_injective : Function.Injective block := by
  intro first second h
  cases first <;> cases second <;> cases h <;> rfl

theorem encode_toUplink_inj {code : UInt32} {data other : Option Bytes} {id : UInt8} {line : String}
    (h : (toUplink ⟨id, line, data⟩ code).encode = (toUplink ⟨id, line, other⟩ code).encode) :
    data = other := by
  have hdecode := (congrArg Uplink.decode h).trans (Uplink.decode_encode _)
  have huplink := Except.ok.inj ((Uplink.decode_encode _).symm.trans hdecode)
  rw [toUplink_eq, toUplink_eq] at huplink
  have hparameters := List.tail_eq_of_cons_eq (congrArg Uplink.parameters huplink)
  exact block_injective (List.append_cancel_left hparameters)

/-- A frame gives a terminal request back, under its security code, exactly if the line holds no
zero character. The data may hold any octets; no two blocks are written alike, and an empty block is
told from none. Octets that are heard as a request are those of the request. -/
theorem terminal_requests_are_heard_as_written (request : TerminalRequest) (code : UInt32) :
    (∃ uplink, Uplink.decode (request.toUplink code).encode = .ok uplink ∧
        uplink.securityCode = code ∧ uplink.command = 0x30 ∧
        (ofUplink uplink = .ok request ↔ '\x00' ∉ request.line.toList)) ∧
      (∀ data, (toUplink { request with data } code).encode = (request.toUplink code).encode →
        data = request.data) ∧
      ∀ raw uplink heard, Uplink.decode raw = .ok uplink → ofUplink uplink = .ok heard →
        (heard.toUplink uplink.securityCode).encode = raw := by
  refine ⟨⟨request.toUplink code, Uplink.decode_encode _, rfl, rfl, ?_⟩, ?_, ?_⟩
  · exact ⟨fun hheard => (eq_toUplink_of_ofUplink hheard).2, ofUplink_toUplink code⟩
  · exact fun data hsame => encode_toUplink_inj hsame
  · intro raw uplink heard huplink hheard
    rw [Uplink.eq_encode_of_decode huplink, ← (eq_toUplink_of_ofUplink hheard).1]

/-- A command with a zero octet in its data, the same with an empty block, and a short command as it
is heard. -/
theorem terminal_requests_are_heard_as_written_with_data :
    let request : TerminalRequest := ⟨0x11, "writeFile /a", some [0xAA, 0x00, 0xBB]⟩
    let short : TerminalRequest := ⟨0x11, "a", some []⟩
    let uplink : Uplink := ⟨0xDEADBEEF, 0x30, [0x11, 0x61, 0x00]⟩
    (∃ uplink, Uplink.decode (request.toUplink 0xDEADBEEF).encode = .ok uplink ∧
        ofUplink uplink = .ok request) ∧
      (toUplink { request with data := some [] } 0xDEADBEEF).encode ≠
        (toUplink { request with data := none } 0xDEADBEEF).encode ∧
      Uplink.decode uplink.encode = .ok uplink ∧ ofUplink uplink = .ok short ∧
      (short.toUplink uplink.securityCode).encode = uplink.encode := by
  intro request short uplink
  obtain ⟨⟨heard, hdecode, -, -, hheard⟩, -, hwritten⟩ :=
    terminal_requests_are_heard_as_written request 0xDEADBEEF
  obtain ⟨-, hdata, -⟩ :=
    terminal_requests_are_heard_as_written { request with data := none } 0xDEADBEEF
  have hshort : ofUplink uplink = .ok short := ofUplink_of_splitData (by decide)
  refine ⟨⟨heard, hdecode, hheard.mpr (by decide)⟩, fun hsame => ?_, Uplink.decode_encode uplink,
    hshort, hwritten _ uplink short (Uplink.decode_encode uplink) hshort⟩
  cases hdata (some []) hsame

end TerminalRequest

end GroundLink
