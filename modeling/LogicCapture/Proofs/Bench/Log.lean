/-
What the device on the bench has seen: a control transfer that succeeds leaves one record in the
log, and a command that succeeds is the last of the commands in it.

* `Bench.controlLog_submit`: the record of a submission;
* `Session.controlLog_of_ok`: the record of a whole control transfer;
* `Session.commands_of_execute`: the command of a whole exchange;
* `Session.commands_of_execute_cases`: whatever it comes to, an exchange leaves this command or
  none.
-/
import LogicCapture.Proofs.Bench.Moves
import LogicCapture.Proofs.Wire.Packet

namespace LogicCapture

variable {κ ω H : Type}

/-- What the device sees of a control transfer. -/
def Session.record (request : UInt8) (value index : UInt16) (data : ControlData) (ms : Nat) :
    Bench.ControlRecord :=
  ⟨vendorSetup request value index data,
    match data with
    | .send bytes => bytes
    | .receive _ => [], ms⟩

namespace Bench

/-- A control transfer that is submitted is recorded as it was sent, or it is refused at once. -/
lemma controlLog_submit_cases {b b' : Bench H} {id : TransferId} {request : UInt8}
    {value index : UInt16} {data : ControlData} {ms : Nat} {handler : H}
    {result : Except UsbError Unit} (h : b.submit id ⟨.control, Session.controlBuffer
      (Session.vendorSetup request value index data) data, ms⟩ handler = (result, b')) :
    (b'.controlLog = b.controlLog ∧ ∃ error, result = .error error) ∨
      b'.controlLog = b.controlLog ++ [Session.record request value index data ms] := by
  have hparse : SetupHeader.parse (Session.controlBuffer
      (Session.vendorSetup request value index data) data) =
        .ok (Session.vendorSetup request value index data) := by
    cases data <;> exact SetupHeader.parse_encode _ _
  have hdirection : (Session.vendorSetup request value index data).direction = data.direction :=
    Direction.ofRequestType_vendorRequestType _
  unfold submit at h
  dsimp only at h
  split at h
  · cases h
    exact Or.inl ⟨rfl, _, rfl⟩
  · split at h
    · cases h
      exact Or.inl ⟨rfl, _, rfl⟩
    · rw [hparse] at h
      dsimp only at h
      rw [hdirection] at h
      cases data with
      | send bytes =>
          have hsent : (Session.controlBuffer (Session.vendorSetup request value index
              (.send bytes)) (.send bytes)).drop SetupHeader.size = bytes := by
            simp [Session.controlBuffer]
          dsimp only [ControlData.direction] at h
          rw [hsent] at h
          split at h <;> cases h <;> exact Or.inr rfl
      | receive buffer => split at h <;> cases h <;> exact Or.inr rfl

/-- A control transfer that is accepted is recorded as it was sent. -/
lemma controlLog_submit {b b' : Bench H} {id : TransferId} {request : UInt8}
    {value index : UInt16} {data : ControlData} {ms : Nat} {handler : H}
    (h : b.submit id ⟨.control, Session.controlBuffer
      (Session.vendorSetup request value index data) data, ms⟩ handler = (.ok (), b')) :
    b'.controlLog = b.controlLog ++ [Session.record request value index data ms] := by
  rcases controlLog_submit_cases h with ⟨-, error, hno⟩ | hlog
  · cases hno
  · exact hlog

/-- Bulk transfers leave the log alone. -/
lemma controlLog_submit_bulk (b : Bench H) (id : TransferId) (endpoint : UInt8) (buffer : Bytes)
    (ms : Nat) (handler : H) :
    (b.submit id ⟨.bulkIn endpoint, buffer, ms⟩ handler).2.controlLog = b.controlLog := by
  unfold submit
  dsimp only
  split
  · rfl
  · split <;> rfl

end Bench

namespace Session

variable [Consumer κ ω] {s s' : Session (Bench (Handler κ)) ω}

/-- Event passes and cancellations leave the log alone. -/
lemma awaited_controlLog (log : List Bench.ControlRecord) :
    Awaited fun _ (s : Session (Bench (Handler κ)) ω) => s.transport.controlLog = log where
  passed h := (congrArg Bench.controlLog (passed_events _ _).frame).trans h
  cancelled {id s} h := by
    rcases hcancel : s.transport.cancel id with ⟨result, b⟩
    obtain ⟨inFlight, rfl, -⟩ := Bench.cancel_cases hcancel
    exact (congrArg (fun r => r.2.controlLog) hcancel).trans h

/-- **A control transfer that succeeds leaves one record.** -/
theorem controlLog_of_ok {request : UInt8} {value index : UInt16} {data : ControlData}
    {ms n : Nat} {result : ControlResult}
    (hrun : s.controlTransfer request value index data ms = some (result, s'))
    (hok : result.result = .ok n) :
    s'.transport.controlLog = s.transport.controlLog ++ [record request value index data ms] := by
  obtain ⟨id, b, b', outcome, s₁, halloc, hsubmit, hwait, -, rfl⟩ := controlTransfer_of_ok hrun hok
  obtain ⟨-, rfl⟩ := Bench.alloc_ok halloc
  have hsent := Bench.controlLog_submit hsubmit
  have hend := (awaited_controlLog _).await hsent hwait
  exact hend

/-- A control transfer leaves one record, or none if it fails early. -/
lemma controlLog_controlTransfer {request : UInt8} {value index : UInt16} {data : ControlData}
    {ms : Nat} {result : ControlResult}
    (hrun : s.controlTransfer request value index data ms = some (result, s')) :
    s'.transport.controlLog = s.transport.controlLog ∨
      s'.transport.controlLog =
        s.transport.controlLog ++ [record request value index data ms] := by
  cases transfers_of_controlTransfer hrun with
  | refused => exact Or.inl rfl
  | unallocated _ halloc =>
      obtain rfl := Bench.alloc_error halloc
      exact Or.inl rfl
  | unsubmitted hbegun hsubmit =>
      obtain ⟨-, rfl⟩ := Bench.alloc_ok hbegun.alloc
      exact (Bench.controlLog_submit_cases hsubmit).imp And.left id
  | waited hbegun hsubmit hwait =>
      obtain ⟨-, rfl⟩ := Bench.alloc_ok hbegun.alloc
      have hend := (awaited_controlLog _).await (Bench.controlLog_submit hsubmit) hwait
      exact Or.inr hend

/-- A packet that is sent is the next of the commands. -/
lemma commands_send {b b' : Bench H} {request : UInt8} {value index : UInt16}
    {packet : CommandPacket} {ms : Nat} (h : b'.controlLog = b.controlLog ++
      [record request value index (.send packet.encode) ms]) :
    b'.commands = b.commands ++ [packet] := by
  have hdirection : (record request value index (.send packet.encode) ms).setup.direction =
      .toDevice := Direction.ofRequestType_vendorRequestType _
  have hdata : (record request value index (.send packet.encode) ms).data = packet.encode := rfl
  simp [Bench.commands, h, hdirection, hdata, CommandPacket.decode_encode, Except.toOption]

/-- Reading something back is no command. -/
lemma commands_receive {b b' : Bench H} {request : UInt8} {value index : UInt16}
    {buffer : Bytes} {ms : Nat} (h : b'.controlLog = b.controlLog ++
      [record request value index (.receive buffer) ms]) : b'.commands = b.commands := by
  have hdirection : (record request value index (.receive buffer) ms).setup.direction =
      .toHost := Direction.ofRequestType_vendorRequestType _
  simp [Bench.commands, h, hdirection]

/-- **A command that succeeds is the last that the device has seen.** -/
theorem commands_of_execute {packet : CommandPacket} {response : Option Bytes} {ms n : Nat}
    {answer : CommandResult} (hrun : s.execute packet response ms = some (answer, s'))
    (hok : answer.result = .ok n) :
    s'.transport.commands = s.transport.commands ++ [packet] := by
  cases executes_of_execute hrun with
  | unsent => cases hok
  | sent hsend hsent => exact commands_send (controlLog_of_ok hsend hsent)
  | read hsend hsent _ hread =>
      have hfirst := commands_send (controlLog_of_ok hsend hsent)
      exact (commands_receive (controlLog_of_ok hread hok)).trans hfirst

/-- **A command is seen once**, or not at all if its first transfer fails early. -/
theorem commands_of_execute_cases {packet : CommandPacket} {response : Option Bytes} {ms : Nat}
    {answer : CommandResult} (hrun : s.execute packet response ms = some (answer, s')) :
    s'.transport.commands = s.transport.commands ∨
      s'.transport.commands = s.transport.commands ++ [packet] := by
  have hfirst {sent : ControlResult} {s₁ : Session (Bench (Handler κ)) ω} {flags : UInt16}
      (hsend : s.controlTransfer Protocol.requestNumber Protocol.valueExecute flags
        (.send packet.encode) ms = some (sent, s₁)) :
      s₁.transport.commands = s.transport.commands ∨
        s₁.transport.commands = s.transport.commands ++ [packet] :=
    (controlLog_controlTransfer hsend).imp (fun hlog => by rw [Bench.commands, hlog]; rfl)
      commands_send
  cases executes_of_execute hrun with
  | unsent hsend => exact hfirst hsend
  | sent hsend => exact hfirst hsend
  | @read _ _ s₁ _ _ _ hsend _ _ hread =>
      have hsecond : s'.transport.commands = s₁.transport.commands := by
        rcases controlLog_controlTransfer hread with hlog | hlog
        · rw [Bench.commands, hlog]
          rfl
        · exact commands_receive hlog
      rw [hsecond]
      exact hfirst hsend

end Session

end LogicCapture
