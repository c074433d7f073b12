/-
Reading back what has been written: setup headers, command packets, the arguments of a configure
command and the response to it.

* `LittleEndian.decode_encode_of_lt`: words that fit are read back as they were;
* `SetupHeader.parse_encode`, `CommandPacket.decode_encode`: so are headers and packets;
* `CommandPacket.isConfigure`: the commands that negotiate rate and channels;
* `CommandPacket.channelsAsked`: the number of channels that a configure command asks for;
* `ConfigurePayload.channelsAsked_toPacket`: it is the one in the payload;
* `ConfigureResponse.spelled`: the response that nine bytes spell;
* `ConfigureResponse.decode_eq_ok_iff`: only that is read from them.
-/
import LogicCapture.Wire.Configure
import Mathlib.Tactic.Common

namespace LogicCapture

namespace LittleEndian

theorem decode_encode_of_lt {w n : Nat} (h : n < bound w) : decode (encode w n) = n := by
  rw [decode_encode, Nat.mod_eq_of_lt h]

end LittleEndian

/-- A header is read back from the front of a buffer. -/
theorem SetupHeader.parse_encode (s : SetupHeader) (rest : Bytes) :
    parse (s.encode ++ rest) = .ok s := by
  have hword (w : UInt16) : LittleEndian.decode (LittleEndian.encode 2 w.toNat) = w.toNat :=
    LittleEndian.decode_encode_of_lt w.toNat_lt
  obtain ⟨requestType, request, value, index, length⟩ := s
  have hvalue := hword value
  have hindex := hword index
  have hlength := hword length
  simp only [LittleEndian.encode] at hvalue hindex hlength
  simp only [encode, LittleEndian.encode, List.cons_append, List.nil_append, parse, hvalue, hindex,
    hlength, UInt16.ofNat_toNat]

namespace CommandPacket

/-- A packet is read back as it was. -/
theorem decode_encode (p : CommandPacket) : decode p.encode = .ok p := by
  have hword (w : UInt32) : LittleEndian.decode (LittleEndian.encode 4 w.toNat) = w.toNat :=
    LittleEndian.decode_encode_of_lt w.toNat_lt
  have hlength : ¬ p.encode.length < headerLength := by
    rw [length_encode, wireLength]
    omega
  have hclass : p.encode.take 4 = LittleEndian.encode 4 p.classId.toNat := by
    rw [encode, List.append_assoc, List.take_left' (by simp)]
  have hverb : (p.encode.drop 4).take 4 = LittleEndian.encode 4 p.verb.toNat := by
    rw [encode, List.append_assoc, List.drop_left' (by simp), List.take_left' (by simp)]
  have hpayload : p.encode.drop headerLength = p.payload := by
    rw [encode, List.drop_left' (by simp [headerLength])]
  rw [decode, if_neg hlength, hclass, hverb, hpayload, hword, hword, UInt32.ofNat_toNat,
    UInt32.ofNat_toNat, ofPayload, dif_pos p.length_payload_le,
    carrying_payload]

/-- The command negotiates rate and channels. -/
def isConfigure (p : CommandPacket) : Bool :=
  p.classId = Protocol.classLogicAnalyzer ∧ p.verb = Protocol.verbConfigure

@[simp] lemma isConfigure_toPacket (payload : ConfigurePayload) :
    payload.toPacket.isConfigure = true := rfl

/-- The number of channels that a configure command asks for. -/
def channelsAsked (p : CommandPacket) : Option UInt8 :=
  if p.classId = Protocol.classLogicAnalyzer ∧ p.verb = Protocol.verbConfigure then p.payload[4]?
  else none

end CommandPacket

/-- A configure command carries its payload. -/
@[simp] lemma ConfigurePayload.payload_toPacket (p : ConfigurePayload) :
    p.toPacket.payload = p.encode :=
  CommandPacket.payload_carrying _ _ _

/-- A configure command asks for the channels in its payload. -/
lemma ConfigurePayload.channelsAsked_toPacket (p : ConfigurePayload) :
    p.toPacket.channelsAsked = some p.numChannels := by
  rw [CommandPacket.channelsAsked, if_pos ⟨rfl, rfl⟩, payload_toPacket]
  simp [encode]

namespace ConfigureResponse

/-- **The response that the first nine bytes spell**: the rate and the size of the buffer, both as
little-endian words, and the endpoint. -/
def spelled (data : Bytes) : ConfigureResponse where
  achievedRateHz := UInt32.ofNat (LittleEndian.decode (data.take 4))
  bufferSize := UInt32.ofNat (LittleEndian.decode ((data.drop 4).take 4))
  endpoint := data.getD 8 0

/-- Bytes after the ninth do not matter. -/
lemma spelled_take (data : Bytes) : spelled (data.take size) = spelled data := by
  simp [spelled, size, List.take_take, List.drop_take]

/-- **A response is read** just if there are nine bytes, and it is what they spell. -/
lemma decode_eq_ok_iff {bytes : Bytes} {r : ConfigureResponse} :
    decode bytes = .ok r ↔ size ≤ bytes.length ∧ r = spelled bytes := by
  match bytes with
  | a₀ :: a₁ :: a₂ :: a₃ :: b₀ :: b₁ :: b₂ :: b₃ :: e :: rest =>
      simp [decode, spelled, size, eq_comm]
  | [] | [_] | [_, _] | [_, _, _] | [_, _, _, _] | [_, _, _, _, _] | [_, _, _, _, _, _]
  | [_, _, _, _, _, _, _] | [_, _, _, _, _, _, _, _] => simp [decode, size]

end ConfigureResponse

end LogicCapture
