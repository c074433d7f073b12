/-
One encoding for each packet, one packet for each encoding.

* `CommandPacket.ofPayload_eq_ok`, `CommandPacket.exists_ofPayload`: what it takes to be the
  packet of a payload, and which payloads have one;
* `CommandPacket.encode_of_decode`: a byte string that holds a packet is the encoding of it, so
  nothing is read twice or passed over;
* `CommandPacket.encode_injective`: packets that agree on the wire agree in the buffer as well,
  the unused end of it included;
* `CommandPacket.eq_iff_fields`: what the comparison of packets looks at;
* `CommandPacket.wire_format`: the format as a whole, in both directions.
-/
import LogicCapture.Proofs.Wire.Packet

namespace LogicCapture

namespace CommandPacket

variable {classId verb : UInt32} {payload bytes : Bytes} {p q : CommandPacket}

/-! ### The packet of a payload -/

/-- The packet of a payload is the one that carries it. -/
lemma ofPayload_eq_ok : ofPayload classId verb payload = .ok p ↔
    p.classId = classId ∧ p.verb = verb ∧ p.payload = payload := by
  constructor
  · intro made
    by_cases fits : payload.length ≤ maxPayload
    · rw [ofPayload, dif_pos fits] at made
      cases made
      exact ⟨rfl, rfl, payload_carrying classId verb fits⟩
    · rw [ofPayload, dif_neg fits] at made
      cases made
  · rintro ⟨rfl, rfl, rfl⟩
    rw [ofPayload, dif_pos p.length_payload_le, carrying_payload]

/-- A payload has a packet just if it fits. -/
lemma exists_ofPayload :
    (∃ p, ofPayload classId verb payload = .ok p) ↔ payload.length ≤ maxPayload := by
  constructor
  · rintro ⟨p, made⟩
    obtain ⟨-, -, rfl⟩ := ofPayload_eq_ok.mp made
    exact p.length_payload_le
  · intro fits
    exact ⟨carrying classId verb payload fits, dif_pos fits⟩

/-! ### From the wire -/

/-- A byte string holds a packet just if it has room for the header and no more than the
longest payload after it. -/
lemma exists_decode : (∃ p, decode bytes = .ok p) ↔
    headerLength ≤ bytes.length ∧ bytes.length ≤ headerLength + maxPayload := by
  by_cases short : bytes.length < headerLength
  · simp only [decode, if_pos short, reduceCtorEq, exists_false, false_iff]
    omega
  · simp only [decode, if_neg short, exists_ofPayload, List.length_drop]
    omega

/-- The four bytes of a word are those of the number that they spell. -/
lemma encode_word {word : Bytes} (h : word.length = 4) :
    LittleEndian.encode 4 (UInt32.ofNat (LittleEndian.decode word)).toNat = word := by
  have hlt : LittleEndian.decode word < 2 ^ 32 := by
    simpa [h, LittleEndian.bound] using LittleEndian.decode_lt word
  rw [UInt32.toNat_ofNat_of_lt' hlt, ← h, LittleEndian.encode_decode]

/-- **A byte string that holds a packet is its encoding.** -/
theorem encode_of_decode (read : decode bytes = .ok p) : p.encode = bytes := by
  have hlength : headerLength ≤ bytes.length := (exists_decode.mp ⟨p, read⟩).1
  have header : bytes.take 4 ++ (bytes.drop 4).take 4 ++ bytes.drop headerLength = bytes := by
    rw [List.append_assoc, headerLength, ← List.drop_drop (i := 4) (j := 4),
      List.take_append_drop, List.take_append_drop]
  rw [decode, if_neg (Nat.not_lt.mpr hlength), ofPayload_eq_ok] at read
  obtain ⟨hclass, hverb, hpayload⟩ := read
  have hclassId : LittleEndian.encode 4 p.classId.toNat = bytes.take 4 := by
    rw [hclass, encode_word (by simp; simp only [headerLength] at hlength; omega)]
  have hverb' : LittleEndian.encode 4 p.verb.toNat = (bytes.drop 4).take 4 := by
    rw [hverb, encode_word (by simp; simp only [headerLength] at hlength; omega)]
  rw [encode, hclassId, hverb', hpayload, header]

/-! ### Equality -/

/-- Packets with the same encoding are the same. -/
theorem encode_injective : Function.Injective encode := by
  intro p q same
  have read : decode p.encode = decode q.encode := congrArg decode same
  rw [decode_encode, decode_encode, Except.ok.injEq] at read
  exact read

/-- Packets are compared by their words, by the whole of their buffers and by the length of the
payload. -/
lemma eq_iff_fields : p = q ↔ p.classId = q.classId ∧ p.verb = q.verb ∧ p.buffer = q.buffer ∧
    p.payloadLength = q.payloadLength := by
  constructor
  · rintro rfl
    exact ⟨rfl, rfl, rfl, rfl⟩
  · obtain ⟨classId, verb, buffer, length, h₁, h₂, h₃⟩ := p
    obtain ⟨classId', verb', buffer', length', h₁', h₂', h₃'⟩ := q
    rintro ⟨rfl, rfl, rfl, rfl⟩
    rfl

/-! ### The format -/

/-- **The wire format.**  A packet can be made of just the payloads of at most 1024 bytes, takes
eight bytes more on the wire and is read back as it was; just the byte strings of 8 to 1032 bytes
hold a packet, and each is the encoding of the packet that it holds.  Two packets are equal, when
words, whole buffers and lengths are compared, just if they have the same encoding. -/
theorem wire_format (classId verb : UInt32) (payload bytes : Bytes) :
    ((∃ p, ofPayload classId verb payload = .ok p) ↔ payload.length ≤ 1024) ∧
    (∀ p, ofPayload classId verb payload = .ok p →
      (p.classId = classId ∧ p.verb = verb ∧ p.payload = payload) ∧
      p.encode.length = p.wireLength ∧ p.wireLength = 8 + payload.length ∧
      decode p.encode = .ok p) ∧
    ((∃ p, decode bytes = .ok p) ↔ 8 ≤ bytes.length ∧ bytes.length ≤ 1032) ∧
    (∀ p, decode bytes = .ok p → p.encode = bytes) ∧
    (∀ p q : CommandPacket,
      ((p == q) = true ↔ p.classId = q.classId ∧ p.verb = q.verb ∧ p.buffer = q.buffer ∧
        p.payloadLength = q.payloadLength) ∧
      ((p == q) = true ↔ p.encode = q.encode)) := by
  refine ⟨exists_ofPayload, ?made, exists_decode, fun p => encode_of_decode, ?compared⟩
  case made =>
    intro p made
    obtain ⟨hclass, hverb, hpayload⟩ := ofPayload_eq_ok.mp made
    refine ⟨⟨hclass, hverb, hpayload⟩, length_encode p, ?_, decode_encode p⟩
    rw [wireLength, headerLength, ← length_payload, hpayload]
  case compared =>
    intro p q
    exact ⟨by rw [beq_iff_eq, eq_iff_fields], by rw [beq_iff_eq, encode_injective.eq_iff]⟩

/-- The format at a command with three bytes of payload, and at the byte string of another. -/
theorem wire_format_threeBytes :
    (∃ p, ofPayload 0x10d 3 [1, 2, 3] = .ok p ∧
      p.encode = [0x0d, 1, 0, 0, 3, 0, 0, 0, 1, 2, 3] ∧ decode p.encode = .ok p) ∧
    (∃ q, decode [0x0d, 1, 0, 0, 4, 0, 0, 0] = .ok q ∧
      q.encode = [0x0d, 1, 0, 0, 4, 0, 0, 0] ∧
      (q == headerOnly 0x10d 4) = true) := by
  obtain ⟨makes, made, reads, read, same⟩ :=
    wire_format 0x10d 3 [1, 2, 3] [0x0d, 1, 0, 0, 4, 0, 0, 0]
  obtain ⟨p, hp⟩ := makes.mpr (by decide)
  obtain ⟨q, hq⟩ := reads.mpr (by decide)
  obtain ⟨⟨hclass, hverb, hpayload⟩, -, -, back⟩ := made p hp
  refine ⟨⟨p, hp, ?_, back⟩, q, hq, read q hq, ?_⟩
  · rw [encode, hclass, hverb, hpayload]
    decide
  · rw [(same q _).2, read q hq]
    decide

end CommandPacket

end LogicCapture
