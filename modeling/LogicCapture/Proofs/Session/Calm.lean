/-
Control transfers and commands on a bench on which nothing is going to fail.

* `Bench.Calm`: such a bench; nothing that a session does makes it another one (`Calm.kept`);
* `Session.controlTransfer_of_calm`: control transfers that the device answers succeed;
* `Session.execute_of_calm`, `Session.query_of_calm`: so do commands, without and with a response.
-/
import LogicCapture.Proofs.Session.Scripted

namespace LogicCapture

variable {κ ω H : Type}

namespace Bench

/-! ### Benches on which nothing fails -/

/-- **Nothing is going to fail**: the device is plugged in, no event is scripted, and the failures
that the script has asked for lie behind. -/
structure Calm (b : Bench H) : Prop where
  attached : b.attached = true
  script : b.script = []
  allocations : ∀ count ∈ b.failAllocAt, count < b.allocated
  submissions : ∀ fault ∈ b.failSubmitAt, fault.1 < b.submissions
  claims : b.claimError = none

instance (b : Bench H) : Decidable b.Calm :=
  decidable_of_iff (b.attached = true ∧ b.script = [] ∧
    (∀ count ∈ b.failAllocAt, count < b.allocated) ∧
    (∀ fault ∈ b.failSubmitAt, fault.1 < b.submissions) ∧ b.claimError = none)
    ⟨fun ⟨h₁, h₂, h₃, h₄, h₅⟩ => ⟨h₁, h₂, h₃, h₄, h₅⟩,
      fun ⟨h₁, h₂, h₃, h₄, h₅⟩ => ⟨h₁, h₂, h₃, h₄, h₅⟩⟩

namespace Calm

variable {b b' : Bench H}

/-- Time only makes a bench calmer. -/
lemma mono (h : b.Calm) (hattached : b'.attached = b.attached) (hscript : b'.script = b.script)
    (hallocAt : b'.failAllocAt = b.failAllocAt) (hsubmitAt : b'.failSubmitAt = b.failSubmitAt)
    (hclaim : b'.claimError = b.claimError) (hallocated : b.allocated ≤ b'.allocated)
    (hsubmissions : b.submissions ≤ b'.submissions) : b'.Calm where
  attached := hattached.trans h.attached
  script := hscript.trans h.script
  allocations count hcount :=
    Nat.lt_of_lt_of_le (h.allocations count (hallocAt ▸ hcount)) hallocated
  submissions fault hfault :=
    Nat.lt_of_lt_of_le (h.submissions fault (hsubmitAt ▸ hfault)) hsubmissions
  claims := hclaim.trans h.claims

/-- Allocation succeeds. -/
lemma alloc_eq (h : b.Calm) :
    b.alloc = (.ok b.allocated, { b with allocated := b.allocated + 1 }) := by
  rw [alloc, if_neg]
  intro hfail
  exact absurd (h.allocations b.allocated hfail) (Nat.lt_irrefl _)

/-- No submission is refused. -/
lemma refusal_eq (h : b.Calm) : b.refusal = none := by
  rw [refusal]
  split
  · rename_i number error hfault
    have hpast := h.submissions (number, error) hfault
    rw [if_neg (Nat.ne_of_lt hpast)]
  · rfl

/-- A bulk transfer that is not in flight is put in flight. -/
lemma submit_bulk (h : b.Calm) {id : TransferId} (hidle : ∀ t ∈ b.inFlight, t.id ≠ id)
    (endpoint : UInt8) (buffer : Bytes) (ms : Nat) (handler : H) :
    b.submit id ⟨.bulkIn endpoint, buffer, ms⟩ handler =
      (.ok (), { b with submissions := b.submissions + 1 }.arm
        ⟨id, .bulkIn endpoint, buffer, handler, none, false⟩) := by
  rw [Bench.submit_bulk hidle, h.refusal_eq]

/-- Claiming an interface succeeds. -/
lemma claim_eq (h : b.Calm) (interface : UInt8) : (b.claim interface).1 = .ok () := by
  rw [claim, h.claims]
  dsimp only
  split <;> rfl

lemma alloc (h : b.Calm) : b.alloc.2.Calm := by
  rw [h.alloc_eq]
  exact h.mono rfl rfl rfl rfl rfl (Nat.le_succ _) (Nat.le_refl _)

lemma submit (h : b.Calm) {id : TransferId} {request : TransferRequest} {handler : H}
    {result : Except UsbError Unit} (hsubmit : b.submit id request handler = (result, b')) :
    b'.Calm := by
  obtain ⟨controlLog, replies, ⟨_, _, rfl⟩ | ⟨_, _, reply, rfl⟩⟩ := submit_cases hsubmit
  all_goals exact h.mono rfl rfl rfl rfl rfl (Nat.le_refl _) (Nat.le_succ _)

lemma cancel (h : b.Calm) (id : TransferId) : (b.cancel id).2.Calm := by
  rcases hcancel : b.cancel id with ⟨result, b'⟩
  obtain ⟨inFlight, rfl, -⟩ := cancel_cases hcancel
  exact h.mono rfl rfl rfl rfl rfl (Nat.le_refl _) (Nat.le_refl _)

lemma free (h : b.Calm) (id : TransferId) : (b.free id).Calm :=
  h.mono rfl rfl rfl rfl rfl (Nat.le_refl _) (Nat.le_refl _)

lemma claim (h : b.Calm) (interface : UInt8) : (b.claim interface).2.Calm := by
  rw [claim_frame]
  exact h.mono rfl rfl rfl rfl rfl (Nat.le_refl _) (Nat.le_refl _)

lemma release (h : b.Calm) (interface : UInt8) : (b.release interface).2.Calm := by
  rw [release_frame]
  exact h.mono rfl rfl rfl rfl rfl (Nat.le_refl _) (Nat.le_refl _)

end Calm

end Bench

/-! ### Event passes -/

section
variable [Consumer κ ω]

/-- Event passes leave a bench calm. -/
lemma Session.calm_events {s : Session (Bench (Handler κ)) ω} (h : s.transport.Calm) (ms : Nat) :
    (s.events ms).2.transport.Calm := by
  obtain ⟨-, hrest, -⟩ := s.frame_events ms
  have hdispatch : s.transport.script.head?.getD .dispatch = .dispatch := by rw [h.script]; rfl
  obtain ⟨-, hattached, hcount, -⟩ := events_of_dispatch hdispatch ms
  have hframe := (passed_events s ms).frame
  have hallocated := Nat.le_of_eq (congrArg Bench.allocated hframe).symm
  refine h.mono hattached (hrest.trans ?_) ?_ ?_ ?_ hallocated hcount
  · rw [h.script]
    rfl
  all_goals rw [hframe]

/-- **Control transfers leave a bench calm.** -/
theorem Bench.Calm.kept : Session.Kept
    (fun s : Session (Bench (Handler κ)) ω => s.transport.Calm)
    (fun _ s => s.transport.Calm) where
  unallocated {s error b} h halloc := by
    have hafter : s.transport.alloc.2 = b := congrArg Prod.snd halloc
    exact hafter ▸ h.alloc
  refused {s id b request error b'} h _ halloc _ hsubmit := by
    have hafter : s.transport.alloc.2 = b := congrArg Prod.snd halloc
    exact ((hafter ▸ h.alloc).submit hsubmit).free id
  submitted {s id b request b'} h _ halloc _ hsubmit := by
    have hafter : s.transport.alloc.2 = b := congrArg Prod.snd halloc
    exact (hafter ▸ h.alloc).submit hsubmit
  passed h := Session.calm_events h _
  cancelled h := h.cancel _
  freed h := h.free _

end

/-! ### Control transfers -/

namespace Session

variable [Consumer κ ω] {p : Pool} {s : Session (Bench (Handler κ)) ω}

omit [Consumer κ ω] in
/-- A calm bench that a pool agrees with is ready for a control transfer. -/
lemma ready_of_calm (hcalm : s.transport.Calm) (hheld : p.Held none s) : s.Ready where
  sound := .of_held hheld
  attached := hcalm.attached
  allocates hfail := absurd (hcalm.allocations _ hfail) (Nat.lt_irrefl _)
  submits := hcalm.refusal_eq

/-- **A control transfer that the device answers succeeds.** -/
theorem controlTransfer_of_calm (data : ControlData) {response : Bytes} (hcalm : s.transport.Calm)
    (hheld : p.Held none s) (hreply : s.transport.nextReply = .respond response)
    (hdata : data.length < UInt16.size) (hroom : data.direction = .toHost → data.isEmpty = false)
    (request : UInt8) (value index : UInt16) (ms : Nat) :
    ∃ s', s.controlTransfer request value index data ms =
        some (conclude data (.ok ⟨.completed, data.answered response⟩), s') ∧
      s'.transport.replies = s.transport.replies.tail := by
  have hending : s.transport.nextReply.ending data s.transport.script =
      some ⟨conclude data (.ok ⟨.completed, data.answered response⟩), 1, 0⟩ := by
    rw [hreply, hcalm.script, Bench.Reply.ending_step (by simp),
      ← ControlData.conclude_answered]
    rfl
  obtain ⟨s', hrun, -, -, hreplies⟩ := (ready_of_calm hcalm hheld).controlTransfer_of_ending hdata
    hroom hending request value index ms
  exact ⟨s', hrun, hreplies⟩

/-! ### Commands -/

/-- The bytes of a packet fit into one control transfer. -/
lemma length_encode_lt (packet : CommandPacket) :
    (ControlData.send packet.encode).length < UInt16.size := by
  have hpayload := packet.payload_le
  rw [ControlData.length, ControlData.bytes, CommandPacket.length_encode, CommandPacket.wireLength,
    CommandPacket.headerLength, UInt16.size]
  rw [CommandPacket.maxPayload] at hpayload
  omega

/-- **A command that the device acknowledges succeeds.** -/
theorem execute_of_calm {ack : Bytes} (hcalm : s.transport.Calm) (hheld : p.Held none s)
    (hreply : s.transport.nextReply = .respond ack) (packet : CommandPacket) (ms : Nat) :
    ∃ s', s.execute packet none ms = some (⟨.ok 0, none⟩, s') ∧
      s'.transport.replies = s.transport.replies.tail := by
  obtain ⟨s', hsend, hreplies⟩ := controlTransfer_of_calm (.send packet.encode) hcalm hheld hreply
    (length_encode_lt packet) (fun hno => by cases hno) Protocol.requestNumber
    Protocol.valueExecute Protocol.skipResponse ms
  exact ⟨s', by rw [execute_none, hsend]; rfl, hreplies⟩

/-- **A command that the device acknowledges and answers** brings the answer back, as far as it
fits into the buffer. -/
theorem query_of_calm {ack response : Bytes} {rest : List Bench.Reply} (buffer : Bytes)
    (hcalm : s.transport.Calm) (hheld : p.Held none s)
    (hreplies : s.transport.replies = .respond ack :: .respond response :: rest)
    (hbuffer : buffer ≠ []) (hlength : buffer.length < UInt16.size) (packet : CommandPacket)
    (ms : Nat) : ∃ s', s.execute packet (some buffer) ms =
      some (⟨.ok (min (response.take buffer.length).length buffer.length),
        some (overwrite buffer 0 (response.take buffer.length))⟩, s') ∧
      s'.transport.replies = rest := by
  have hack : s.transport.nextReply = .respond ack := by rw [Bench.nextReply, hreplies]; rfl
  obtain ⟨s₁, hsend, hreplies₁⟩ := controlTransfer_of_calm (.send packet.encode) hcalm hheld hack
    (length_encode_lt packet) (fun hno => by cases hno) Protocol.requestNumber
    Protocol.valueExecute 0 ms
  rw [hreplies, List.tail_cons] at hreplies₁
  have hanswer : s₁.transport.nextReply = .respond response := by
    rw [Bench.nextReply, hreplies₁]
    rfl
  have hroom : (ControlData.receive buffer).isEmpty = false := by
    simpa [ControlData.isEmpty, ControlData.length, ControlData.bytes] using hbuffer
  obtain ⟨s₂, hread, hreplies₂⟩ := controlTransfer_of_calm (.receive buffer)
    (Bench.Calm.kept.controlTransfer hcalm hsend) ((Pool.Held.kept p).controlTransfer hheld hsend)
    hanswer hlength (fun _ => hroom) Protocol.requestNumber Protocol.valueExecute 0 ms
  rw [hreplies₁, List.tail_cons] at hreplies₂
  exact ⟨s₂, execute_read hbuffer hsend rfl hread, hreplies₂⟩

end Session

end LogicCapture
