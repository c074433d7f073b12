/-
Commands as the device sees them, whatever the transport does.

* `ControlChannel`: something that performs control transfers, and a command over it
  (`ControlChannel.execute`);
* `ControlChannel.noting`: a channel that notes what it has been asked for;
* `Session.bridge`: the control transfers of a session, whose commands are those over it
  (`Session.execute_eq_bridge`);
* `Framed`: a submission that is a header and as many bytes as the header announces;
* `Session.Commanded`: the packet goes out in a frame, and the response is read back in another if
  it is wanted and the packet has gone out;
* `Session.execute_commanded`: so it is for every command.
-/
import LogicCapture.Proofs.Session.Calm
import LogicCapture.Proofs.Session.Conduct

namespace LogicCapture

variable {τ κ ω σ σ' : Type}

/-! ### Channels -/

/-- What a control transfer is asked for. -/
structure ControlRequest where
  request : UInt8
  value : UInt16
  index : UInt16
  data : ControlData
  timeoutMs : Nat

/-- Something that performs control transfers. -/
abbrev ControlChannel (σ : Type) := ControlRequest → σ → Option (ControlResult × σ)

namespace ControlChannel

/-- A command over a channel. -/
def execute (channel : ControlChannel σ) (s : σ) (packet : CommandPacket)
    (response : Option Bytes) (timeoutMs : Nat) : Option (CommandResult × σ) := do
  let wanted := response.filter fun buffer => !buffer.isEmpty
  let flags := if wanted.isSome then 0 else Protocol.skipResponse
  let (sent, s) ← channel ⟨Protocol.requestNumber, Protocol.valueExecute, flags,
    .send packet.encode, timeoutMs⟩ s
  match sent.result, wanted with
  | .error error, _ => return (⟨.error error, response⟩, s)
  | .ok _, none => return (⟨.ok 0, response⟩, s)
  | .ok _, some buffer =>
    let (received, s) ← channel ⟨Protocol.requestNumber, Protocol.valueExecute, 0,
      .receive buffer, timeoutMs⟩ s
    return (⟨received.result, some received.bytes⟩, s)

/-- The channel with a list of what it has been asked for, and of what came of it. -/
def noting (channel : ControlChannel σ) :
    ControlChannel (σ × List (ControlRequest × ControlResult)) := fun request s =>
  (channel request s.1).map fun done => (done.1, done.2, s.2 ++ [(request, done.1)])

lemma of_noting {channel : ControlChannel σ} {request : ControlRequest} {s s' : σ}
    {asked asked' : List (ControlRequest × ControlResult)} {result : ControlResult}
    (h : channel.noting request (s, asked) = some (result, s', asked')) :
    channel request s = some (result, s') ∧ asked' = asked ++ [(request, result)] := by
  obtain ⟨⟨result', s''⟩, hdone, hend⟩ := Option.map_eq_some_iff.mp h
  cases hend
  exact ⟨hdone, rfl⟩

/-- A channel that does more than another carries the same commands out. -/
lemma execute_map {channel : ControlChannel σ} {channel' : ControlChannel σ'} {f : σ' → σ}
    (h : ∀ request s, channel request (f s) = (channel' request s).map (Prod.map id f)) (s : σ')
    (packet : CommandPacket) (response : Option Bytes) (ms : Nat) :
    channel.execute (f s) packet response ms =
      (channel'.execute s packet response ms).map (Prod.map id f) := by
  rw [execute, execute, h]
  rcases channel' _ s with - | ⟨sent, s₁⟩
  · rfl
  · dsimp only [Option.map_some, Option.bind_eq_bind, Option.bind_some, Prod.map, id]
    split
    · rfl
    · rfl
    · rw [h]
      rcases channel' _ s₁ with - | ⟨received, s₂⟩ <;> rfl

end ControlChannel

namespace Session

variable [Transport τ (Handler κ)] [Consumer κ ω]

open Transport

/-- **The control transfers of a session**, whose buffers are granted or denied. -/
def bridge (granted : ControlRequest → Bool) : ControlChannel (Session τ ω) := fun r s =>
  s.controlTransferGranted (granted r) r.request r.value r.index r.data r.timeoutMs

/-- Commands are commands over a bridge whose buffers are granted. -/
lemma execute_eq_bridge (s : Session τ ω) (packet : CommandPacket) (response : Option Bytes)
    (ms : Nat) : s.execute packet response ms =
      (bridge fun _ => true).execute s packet response ms := by
  have hgranted : (fun (r : ControlRequest) (s : Session τ ω) =>
      s.controlTransfer r.request r.value r.index r.data r.timeoutMs) = bridge fun _ => true :=
    funext fun r => funext fun s => s.controlTransfer_eq_granted ..
  rw [← hgranted]
  rfl

end Session

/-! ### Frames -/

/-- **A submission in a frame**: a header, and as many bytes as it announces. -/
structure Framed (sought : TransferRequest) (header : SetupHeader) (body : Bytes) : Prop where
  control : sought.kind = .control
  buffer : sought.buffer = header.encode ++ body
  parsed : SetupHeader.parse sought.buffer = .ok header
  announced : header.length.toNat = body.length

/-- What is sent goes out in a frame. -/
lemma framed_send (request : UInt8) (value index : UInt16) {bytes : Bytes}
    (hfits : (ControlData.send bytes).length < UInt16.size) (ms : Nat) :
    Framed ⟨.control, Session.controlBuffer (Session.vendorSetup request value index (.send bytes))
      (.send bytes), ms⟩ ⟨0x42, request, value, index, .ofNat bytes.length⟩ bytes :=
  ⟨rfl, rfl, SetupHeader.parse_encode _ _, UInt16.toNat_ofNat_of_lt' hfits⟩

/-- What is received has its room in a frame. -/
lemma framed_receive (request : UInt8) (value index : UInt16) {buffer : Bytes}
    (hfits : (ControlData.receive buffer).length < UInt16.size) (ms : Nat) :
    Framed ⟨.control, Session.controlBuffer
      (Session.vendorSetup request value index (.receive buffer)) (.receive buffer), ms⟩
      ⟨0xc2, request, value, index, .ofNat buffer.length⟩ (zeros buffer.length) := by
  have hlength : (UInt16.ofNat buffer.length).toNat = buffer.length :=
    UInt16.toNat_ofNat_of_lt' hfits
  have hroom : Session.controlBuffer (Session.vendorSetup request value index (.receive buffer))
      (.receive buffer) = (⟨0xc2, request, value, index, .ofNat buffer.length⟩ :
        SetupHeader).encode ++ zeros buffer.length := congrArg (_ ++ zeros ·) hlength
  exact ⟨rfl, hroom, hroom ▸ SetupHeader.parse_encode _ _, hlength.trans (length_zeros _).symm⟩

namespace Session

variable [Transport τ (Handler κ)] [Consumer κ ω]

open Transport

/-- The response that a command is to bring back. -/
def wanted (response : Option Bytes) : Option Bytes :=
  response.filter fun buffer => !buffer.isEmpty

/-- **A command as the device sees it**, and what comes of it: the packet goes out in a frame, with
the result `sent`, and then the response is read back in another, if it is wanted. -/
structure Commanded (packet : CommandPacket) (response : Option Bytes) (ms : Nat)
    (answer : CommandResult) (sent : ControlResult) (asked : List (ControlRequest × ControlResult))
    (sought : List TransferRequest) : Prop where
  /-- The first submission carries the packet. -/
  first : ∀ request, sought[0]? = some request → ∃ body length,
    Framed request ⟨0x42, 0x65, 0, if (wanted response).isSome then 0 else 1, length⟩ body ∧
    CommandPacket.decode body = .ok packet ∧ request.timeoutMs = ms
  /-- The second submission has room for the response. -/
  second : ∀ request, sought[1]? = some request → ∃ buffer length,
    wanted response = some buffer ∧
    Framed request ⟨0xc2, 0x65, 0, 0, length⟩ (zeros buffer.length) ∧ request.timeoutMs = ms
  third : sought[2]? = none
  /-- A packet that cannot be sent is the end of it. -/
  failed : ∀ error, sent.result = .error error → answer = ⟨.error error, response⟩ ∧
    asked = [(⟨0x65, 0, if (wanted response).isSome then 0 else 1, .send packet.encode, ms⟩, sent)]
  /-- So is one that wants no response. -/
  skipped : ∀ n, sent.result = .ok n → wanted response = none → answer = ⟨.ok 0, response⟩ ∧
    asked = [(⟨0x65, 0, 1, .send packet.encode, ms⟩, sent)]
  /-- Otherwise the response is read back. -/
  answered : ∀ n buffer, sent.result = .ok n → wanted response = some buffer →
    ∃ received, answer = ⟨received.result, some received.bytes⟩ ∧
      asked = [(⟨0x65, 0, 0, .send packet.encode, ms⟩, sent),
        (⟨0x65, 0, 0, .receive buffer, ms⟩, received)]

omit [Consumer κ ω] in
/-- A transfer that succeeds has been submitted, and one that is submitted has not been rejected. -/
lemma Conduct.submissions {s : Session τ ω} {data : ControlData} {sought : TransferRequest}
    {result : ControlResult} {calls : List (Call (Handler κ))}
    (h : s.Conduct data sought result calls) :
    (submissions calls = [] ∧ ∃ error, result.result = .error error) ∨
      (submissions calls = [sought] ∧ data.length < UInt16.size) := by
  have hfits (hvalid : ¬ s.Rejects data) : data.length < UInt16.size :=
    Nat.lt_of_not_le fun hlong => hvalid (.inr (.inl hlong))
  cases h with
  | refused | denied | unallocated => exact .inl ⟨rfl, _, rfl⟩
  | unsubmitted hvalid => exact .inr ⟨rfl, hfits hvalid⟩
  | @awaited id calls _ hvalid hwaiting =>
      have hnone : Transport.submissions calls = [] :=
        Attends.filterMap (attends_of_waiting hwaiting) fun h => by cases h <;> rfl
      refine .inr ⟨?_, hfits hvalid⟩
      change sought :: Transport.submissions (calls ++ [Call.free id]) = _
      rw [submissions_append, hnone]
      rfl

omit [Consumer κ ω] in
/-- What holds of the submission of a transfer, if its data stage fits, holds of all it submits. -/
lemma Conduct.submits {s : Session τ ω} {data : ControlData} {sought : TransferRequest}
    {result : ControlResult} {calls : List (Call (Handler κ))} {P : TransferRequest → Prop}
    (h : s.Conduct data sought result calls) (hP : data.length < UInt16.size → P sought) :
    (∀ request ∈ Transport.submissions calls, P request) ∧
      (Transport.submissions calls).length ≤ 1 := by
  rcases h.submissions with ⟨hnone, -⟩ | ⟨hone, hfits⟩
  · rw [hnone]
    exact ⟨fun _ hmem => absurd hmem List.not_mem_nil, Nat.zero_le 1⟩
  · rw [hone]
    exact ⟨fun _ hmem => List.mem_singleton.mp hmem ▸ hP hfits, Nat.le_refl 1⟩

/-- **What a command asks for and submits**, it submits in frames. -/
lemma commanded_of_noting {granted : ControlRequest → Bool}
    {w w' : Session (Transcribed τ (Handler κ)) ω} {packet : CommandPacket}
    {response : Option Bytes} {ms : Nat} {answer : CommandResult}
    {asked : List (ControlRequest × ControlResult)} (hstart : w.transport.transcript = [])
    (hrun : (bridge granted).noting.execute (w, []) packet response ms =
      some (answer, w', asked)) :
    ∃ sent, Commanded packet response ms answer sent asked
      (Transport.submissions w'.transport.transcript) := by
  rw [ControlChannel.execute] at hrun
  simp only [Option.bind_eq_bind, Option.bind_eq_some_iff] at hrun
  obtain ⟨⟨sent, w₁, noted⟩, hsend, hrest⟩ := hrun
  obtain ⟨hsent, rfl⟩ := ControlChannel.of_noting hsend
  obtain ⟨calls, hcalls, hconduct⟩ := conduct_of_controlTransfer hsent
  rw [hstart, List.nil_append] at hcalls
  obtain ⟨hfirst, halone⟩ := hconduct.submits (P := fun request => ∃ body length,
    Framed request ⟨0x42, 0x65, 0, if (wanted response).isSome then 0 else 1, length⟩ body ∧
    CommandPacket.decode body = .ok packet ∧ request.timeoutMs = ms) fun hfits =>
      ⟨_, _, framed_send _ _ _ hfits ms, packet.decode_encode, rfl⟩
  have hnext {request : TransferRequest} (h : (Transport.submissions calls)[1]? = some request) :
      False := by
    rw [List.getElem?_eq_none halone] at h
    cases h
  refine ⟨sent, ?_⟩
  dsimp only at hrest
  split at hrest
  · rename_i error hresult
    cases hrest
    rw [hcalls]
    exact {
      first := fun request h => hfirst request (List.mem_of_getElem? h)
      second := fun request h => (hnext h).elim
      third := List.getElem?_eq_none (Nat.le_succ_of_le halone)
      failed := fun error' h => by
        cases hresult.symm.trans h
        exact ⟨rfl, rfl⟩
      skipped := fun n h => by cases hresult.symm.trans h
      answered := fun n _ h => by cases hresult.symm.trans h }
  · rename_i hresult hwanted
    cases hrest
    rw [hcalls]
    exact {
      first := fun request h => hfirst request (List.mem_of_getElem? h)
      second := fun request h => (hnext h).elim
      third := List.getElem?_eq_none (Nat.le_succ_of_le halone)
      failed := fun error h => by cases hresult.symm.trans h
      skipped := fun n _ _ => by
        rw [hwanted]
        exact ⟨rfl, rfl⟩
      answered := fun n buffer _ h => by cases h.symm.trans hwanted }
  · rename_i buffer hresult hwanted
    simp only [Option.bind_eq_some_iff] at hrest
    obtain ⟨⟨received, w₂, noted⟩, hread, hend⟩ := hrest
    cases hend
    obtain ⟨hreceived, rfl⟩ := ControlChannel.of_noting hread
    obtain ⟨more, hmore, hconduct'⟩ := conduct_of_controlTransfer hreceived
    -- the packet has gone out, so what is submitted behind it is to read the response
    obtain ⟨-, error, herror⟩ | ⟨hone, -⟩ := hconduct.submissions
    · cases hresult.symm.trans herror
    obtain ⟨hsecond, hlast⟩ := hconduct'.submits (P := fun request => ∃ buffer length,
      wanted response = some buffer ∧
      Framed request ⟨0xc2, 0x65, 0, 0, length⟩ (zeros buffer.length) ∧
      request.timeoutMs = ms) fun hfits => ⟨_, _, hwanted, framed_receive _ _ _ hfits ms, rfl⟩
    rw [hone] at hfirst
    rw [hmore, hcalls, submissions_append, hone, List.singleton_append]
    exact {
      first := fun request h => hfirst request (List.mem_singleton.mpr (Option.some.inj h).symm)
      second := fun request h => hsecond request (List.mem_of_getElem? h)
      third := List.getElem?_eq_none (Nat.succ_le_succ hlast)
      failed := fun error h => by cases hresult.symm.trans h
      skipped := fun n _ h => by cases h.symm.trans hwanted
      answered := fun n buffer' _ h => by
        cases h.symm.trans hwanted
        rw [hwanted]
        exact ⟨received, rfl, rfl⟩ }

/-- **Every command goes out as the device must see it**, whatever the transport does: no packet is
too long, and a response is read back if and only if it is wanted and the packet has gone out. -/
theorem execute_commanded (s : Session τ ω) (packet : CommandPacket) (response : Option Bytes)
    (ms : Nat) :
    s.execute packet response ms = (bridge fun _ => true).execute s packet response ms ∧
    (∀ s₁ : Session τ ω, s₁.Rejects (.send packet.encode) ↔ attached s₁.transport = false) ∧
    (∀ buffer, wanted response = some buffer → buffer.length < UInt16.size →
      ∀ s₁ : Session τ ω, s₁.Rejects (.receive buffer) ↔ attached s₁.transport = false) ∧
    ∀ granted answer s', (bridge granted).execute s packet response ms = some (answer, s') →
      ∃ sent asked, ∃ calls : List (Call (Handler κ)),
        (bridge granted).noting.execute (s.transcribed [], []) packet response ms =
          some (answer, s'.transcribed calls, asked) ∧
        Commanded packet response ms answer sent asked (Transport.submissions calls) := by
  refine ⟨s.execute_eq_bridge packet response ms, fun s₁ => ?_, fun buffer hwanted hfits s₁ => ?_,
    fun granted answer s' hrun => ?_⟩
  · refine or_iff_left ?_
    rintro (hlong | ⟨hin, -⟩)
    · exact absurd (length_encode_lt packet) (Nat.not_lt.mpr hlong)
    · cases hin
  · refine or_iff_left ?_
    have hroom := (Option.filter_eq_some_iff.mp hwanted).2
    rintro (hlong | ⟨-, hempty⟩)
    · exact absurd hfits (Nat.not_lt.mpr hlong)
    · simp [ControlData.isEmpty, ControlData.length, ControlData.bytes] at hempty hroom
      exact hroom hempty
  · have hcovers (request : ControlRequest)
        (st : Session (Transcribed τ (Handler κ)) ω × List (ControlRequest × ControlResult)) :
        bridge granted request st.1.bare =
          ((bridge granted).noting request st).map (Prod.map id fun st => st.1.bare) := by
      rw [ControlChannel.noting, bridge, bridge,
        controlTransferGranted_mapTransport Transcribed.covers, Option.map_map]
      rfl
    have hbare := ControlChannel.execute_map hcovers (s.transcribed [], []) packet response ms
    obtain ⟨⟨answer', w', asked⟩, hdone, hend⟩ := Option.map_eq_some_iff.mp (hbare.symm.trans hrun)
    cases hend
    obtain ⟨sent, hcommanded⟩ := commanded_of_noting rfl hdone
    exact ⟨sent, asked, w'.transport.transcript, hdone, hcommanded⟩

/-- A session whose device answers a command with four bytes, after an interrupted event pass. -/
def answering : Session (Bench (Handler Recorder)) (List Recorder.Call) where
  transport := {
    replies := [.respond [], .respond [7, 8, 9, 10]]
    script := [.fail .interrupted] }
  host := { shared := [] }

theorem execute_answering :
    wanted (some [0, 0, 0]) = some [0, 0, 0] ∧ [0, 0, 0].length < UInt16.size ∧
    ¬ answering.Rejects (.receive [0, 0, 0]) ∧
    ∃ s' sent asked, ∃ calls : List (Call (Handler Recorder)),
      (bridge fun _ => true).execute answering (.headerOnly 0x10d 3) (some [0, 0, 0]) 100 =
        some (⟨.ok 3, some [7, 8, 9]⟩, s') ∧
      (bridge fun _ => true).noting.execute (answering.transcribed [], []) (.headerOnly 0x10d 3)
        (some [0, 0, 0]) 100 = some (⟨.ok 3, some [7, 8, 9]⟩, s'.transcribed calls, asked) ∧
      asked.length = 2 ∧ (Transport.submissions calls).length = 2 ∧
      Commanded (.headerOnly 0x10d 3) (some [0, 0, 0]) 100 ⟨.ok 3, some [7, 8, 9]⟩ sent asked
        (Transport.submissions calls) := by
  obtain ⟨-, -, hreadable, hcommands⟩ :=
    answering.execute_commanded (.headerOnly 0x10d 3) (some [0, 0, 0]) 100
  have hroom : ¬ answering.Rejects (.receive [0, 0, 0]) := fun hreject => by
    cases (hreadable [0, 0, 0] rfl (by decide) answering).mp hreject
  obtain ⟨s', hrun⟩ : ∃ s', (bridge fun _ => true).execute answering (.headerOnly 0x10d 3)
      (some [0, 0, 0]) 100 = some (⟨.ok 3, some [7, 8, 9]⟩, s') := ⟨_, rfl⟩
  obtain ⟨sent, asked, calls, hnoted, hcommanded⟩ := hcommands _ _ _ hrun
  have hlengths : ((bridge fun _ => true).noting.execute (answering.transcribed [], [])
      (.headerOnly 0x10d 3) (some [0, 0, 0]) 100).map (fun (done : CommandResult ×
        Session (Transcribed (Bench (Handler Recorder)) (Handler Recorder)) _ × List _) =>
        (done.2.2.length, (Transport.submissions done.2.1.transport.transcript).length)) =
      some (2, 2) := rfl
  rw [hnoted] at hlengths
  obtain ⟨hasked, hsought⟩ := Prod.mk.inj (Option.some.inj hlengths)
  exact ⟨rfl, by decide, hroom, s', sent, asked, calls, hrun, hnoted, hasked, hsought, hcommanded⟩

end Session

end LogicCapture
