/-
Layouts of fixed size: what is written is read, and what is read is rewritten as it was.

* `FixedLayout`: values are written in so many bytes, and read from the front of a byte string;
* `SetupHeader.fixedLayout`, `ConfigureResponse.fixedLayout`: setup headers have such a layout, and
  so have the responses to a configure command;
* `SetupHeader.putInto_eq`: a header that is put into a buffer field by field stands there as it is
  written;
* `exact_layouts`: both layouts, what is said of bytes that are too few, and the buffers.
-/
import LogicCapture.Proofs.Wire.Canonical

namespace LogicCapture

/-- **A layout of fixed size**: every value is written in `size` bytes and read back from them,
whatever follows; the first `size` bytes of any byte string are those of a value; and fewer bytes
are refused with an error that names both lengths. -/
structure FixedLayout {α : Type} (size : Nat) (write : α → Bytes)
    (read : Bytes → Except WireError α) (tooShort : Nat → Nat → WireError) : Prop where
  length_write : ∀ a, (write a).length = size
  read_write : ∀ a trailing, read (write a ++ trailing) = .ok a
  write_read : ∀ bytes : Bytes, size ≤ bytes.length →
    ∃ a, read bytes = .ok a ∧ write a = bytes.take size
  refuses : ∀ bytes : Bytes, bytes.length < size →
    read bytes = .error (tooShort size bytes.length)

/-! ### Setup headers -/

/-- The two bytes of a half-word are those of the number that they spell. -/
lemma LittleEndian.encode_halfWord (low high : UInt8) :
    encode 2 (UInt16.ofNat (decode [low, high])).toNat = [low, high] := by
  have hlt : decode [low, high] < 2 ^ 16 := decode_lt [low, high]
  rw [UInt16.toNat_ofNat_of_lt' hlt]
  exact encode_decode [low, high]

namespace SetupHeader

/-- The first eight bytes are those of the header that is read from them. -/
lemma encode_of_parse {bytes : Bytes} (h : size ≤ bytes.length) :
    ∃ s, parse bytes = .ok s ∧ s.encode = bytes.take size := by
  match bytes, h with
  | requestType :: request :: v₀ :: v₁ :: i₀ :: i₁ :: l₀ :: l₁ :: rest, _ =>
      refine ⟨_, rfl, ?_⟩
      simp only [encode, LittleEndian.encode_halfWord]
      rfl

/-- Fewer bytes hold no header. -/
lemma parse_of_short {bytes : Bytes} (h : bytes.length < size) :
    parse bytes = .error (.incompletePacket size bytes.length) := by
  match bytes, h with
  | [], _ | [_], _ | [_, _], _ | [_, _, _], _ | [_, _, _, _], _ | [_, _, _, _, _], _
  | [_, _, _, _, _, _], _ | [_, _, _, _, _, _, _], _ => rfl

/-- **Setup headers** take eight bytes. -/
theorem fixedLayout : FixedLayout 8 encode parse .incompletePacket where
  length_write := length_encode
  read_write := parse_encode
  write_read _ := encode_of_parse
  refuses _ := parse_of_short

/-- **Field by field**, a header is put into a buffer as it is written. -/
theorem putInto_eq {B : Type} [ByteBuffer B] (s : SetupHeader) (buffer : B) :
    s.putInto buffer = ByteBuffer.put buffer s.encode := by
  have hfields : s.encode = [s.requestType] ++ ([s.request] ++
      (LittleEndian.encode 2 s.value.toNat ++ (LittleEndian.encode 2 s.index.toNat ++
        LittleEndian.encode 2 s.length.toNat))) := by
    rw [encode, List.append_assoc]
    rfl
  simp only [hfields, ByteBuffer.put_append]
  rfl

end SetupHeader

/-! ### Responses -/

namespace ConfigureResponse

/-- The first nine bytes are those of the response that they spell. -/
lemma encode_spelled {bytes : Bytes} (h : size ≤ bytes.length) :
    (spelled bytes).encode = bytes.take size := by
  match bytes, h with
  | a₀ :: a₁ :: a₂ :: a₃ :: b₀ :: b₁ :: b₂ :: b₃ :: endpoint :: rest, _ =>
      have hword (x₀ x₁ x₂ x₃ : UInt8) : LittleEndian.encode 4
          (UInt32.ofNat (LittleEndian.decode [x₀, x₁, x₂, x₃])).toNat = [x₀, x₁, x₂, x₃] :=
        CommandPacket.encode_word rfl
      change LittleEndian.encode 4 (UInt32.ofNat (LittleEndian.decode [a₀, a₁, a₂, a₃])).toNat ++
        LittleEndian.encode 4 (UInt32.ofNat (LittleEndian.decode [b₀, b₁, b₂, b₃])).toNat ++
          [endpoint] = _
      rw [hword, hword]
      rfl

/-- A response is read back from the front of a byte string. -/
lemma decode_encode (r : ConfigureResponse) (trailing : Bytes) :
    decode (r.encode ++ trailing) = .ok r := by
  have hword (w : UInt32) : LittleEndian.decode (LittleEndian.encode 4 w.toNat) = w.toNat :=
    LittleEndian.decode_encode_of_lt w.toNat_lt
  obtain ⟨rate, bufferSize, endpoint⟩ := r
  have hrate := hword rate
  have hbuffer := hword bufferSize
  simp only [LittleEndian.encode] at hrate hbuffer
  simp only [encode, LittleEndian.encode, List.cons_append, List.nil_append, decode, hrate, hbuffer,
    UInt32.ofNat_toNat]

/-- Fewer bytes hold no response. -/
lemma decode_of_short {bytes : Bytes} (h : bytes.length < size) :
    decode bytes = .error (.responseTooShort size bytes.length) := by
  match bytes, h with
  | [], _ | [_], _ | [_, _], _ | [_, _, _], _ | [_, _, _, _], _ | [_, _, _, _, _], _
  | [_, _, _, _, _, _], _ | [_, _, _, _, _, _, _], _ | [_, _, _, _, _, _, _, _], _ => rfl

/-- **Responses to a configure command** take nine bytes. -/
theorem fixedLayout : FixedLayout 9 encode decode .responseTooShort where
  length_write := length_encode
  read_write := decode_encode
  write_read bytes h := ⟨spelled bytes, decode_eq_ok_iff.mpr ⟨h, rfl⟩, encode_spelled h⟩
  refuses _ := decode_of_short

end ConfigureResponse

/-! ### Both layouts -/

/-- **The layouts are exact**, in both directions: setup headers take eight bytes and responses to a
configure command nine.  Of bytes that are too few, the message names the length required and
theirs.  A header that is put into a buffer stands behind the contents as it is written, and nothing
else has changed; there just has to be room for it. -/
theorem exact_layouts :
    FixedLayout 8 SetupHeader.encode SetupHeader.parse .incompletePacket ∧
    FixedLayout 9 ConfigureResponse.encode ConfigureResponse.decode .responseTooShort ∧
    (∀ required actual,
      (WireError.incompletePacket required actual).message =
        s!"Incomplete packet: expected at least {required} bytes, got {actual}" ∧
      (WireError.responseTooShort required actual).message =
        s!"Response too short: expected {required} bytes, got {actual}") ∧
    (∀ (B : Type) [ByteBuffer B] (s : SetupHeader) (buffer : B),
      ((∃ buffer', s.putInto buffer = some buffer') ↔ ByteBuffer.HasRoom buffer 8) ∧
      (∀ buffer', s.putInto buffer = some buffer' →
        ByteBuffer.contents buffer' = ByteBuffer.contents buffer ++ s.encode)) ∧
    (∀ (s : SetupHeader) (buffer : Bytes), s.putInto buffer = some (buffer ++ s.encode)) ∧
    (∀ s : SetupHeader, s.putInto ({ free := zeros 8 } : Region) = some ⟨s.encode, []⟩) := by
  refine ⟨SetupHeader.fixedLayout, ConfigureResponse.fixedLayout, fun _ _ => ⟨rfl, rfl⟩, ?_, ?_, ?_⟩
  · intro B _ s buffer
    rw [SetupHeader.putInto_eq, ← Option.isSome_iff_exists, ByteBuffer.put_isSome]
    exact ⟨by rw [SetupHeader.length_encode, SetupHeader.size], fun _ => ByteBuffer.contents_put⟩
  · intro s buffer
    exact SetupHeader.putInto_eq s buffer
  · intro s
    have hlength := s.length_encode
    rw [SetupHeader.putInto_eq]
    simp [ByteBuffer.put, Region.put, hlength, SetupHeader.size, zeros]

example : SetupHeader.encode ⟨0x42, 0x65, 0, 0x0102, 13⟩ = [0x42, 0x65, 0, 0, 2, 1, 13, 0] := by
  decide

end LogicCapture
