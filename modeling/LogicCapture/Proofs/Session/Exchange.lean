/-
Control transfers, and the commands made of them, as seen by a property of the session.

* `Session.Awaited`: a property kept while a control transfer is waited for;
* `Session.Transfers`: what a control transfer comes to (`Session.transfers_of_controlTransfer`);
* `Session.Executes`: what a command comes to (`Session.executes_of_execute`);
* `Session.execute_none`, `Session.execute_read`: the commands that want no response, and those that
  read one;
* `Session.Kept`: a property that every step of a control transfer keeps;
* `Session.Kept.controlTransfer`, `Session.Kept.execute`: whole transfers and commands keep it,
  however the device answers and however many event passes it takes;
* `Session.Kept.ofHost`: what handler calls keep of the host's state is such a property;
* `Session.armed_execute`: commands arm no slot;
* `Feed.running_react`: no completion sets a stream going that does not run.
-/
import LogicCapture.Analyzer
import LogicCapture.Proofs.Pool.Operations

namespace LogicCapture

namespace Session

variable {τ κ ω : Type} [Transport τ (Handler κ)] [Consumer κ ω]

/-- A property that holds while the transfer `id` is in flight, whatever completes meanwhile. -/
structure Awaited (Q : TransferId → Session τ ω → Prop) : Prop where
  passed : ∀ {id s ms}, Q id s → Q id (s.events ms).2
  cancelled : ∀ {id s}, Q id s → Q id { s with transport := (Transport.cancel s.transport id).2 }

/-- Waiting for a transfer keeps what its event passes and its cancellation keep. -/
lemma Awaited.await {Q : TransferId → Session τ ω → Prop} (h : Awaited Q) {id : TransferId}
    {passes : Nat} {s s' : Session τ ω} {outcome : Except UsbError Completion} (hs : Q id s)
    (hrun : Session.await id passes s = some (outcome, s')) : Q id s' := by
  induction passes generalizing s with
  | zero => simp [Session.await] at hrun
  | succ passes ih =>
      rw [Session.await] at hrun
      split at hrun
      · cases hrun
        exact hs
      · split at hrun
        · cases hrun
          exact hs
        · split at hrun
          · cases hrun
            exact hs
          · have hpass : Q id (s.events waitPassMs).2 := h.passed hs
            split at hrun
            · rename_i hev
              rw [hev] at hpass
              exact ih hpass hrun
            · rename_i hev
              rw [hev] at hpass
              split at hrun
              · exact ih hpass hrun
              · cases hrun
                exact h.cancelled hpass

/-- **A property kept by control transfers**: `P` holds outside of them, and `Q id` in its place
while the transfer `id` is in flight.  Transfers are only submitted while the device is there. -/
structure Kept (P : Session τ ω → Prop) (Q : TransferId → Session τ ω → Prop) : Prop
    extends Awaited Q where
  unallocated : ∀ {s error t}, P s → Transport.alloc s.transport = (.error error, t) →
    P { s with transport := t }
  refused : ∀ {s id t request error t'}, P s → Transport.attached s.transport = true →
    Transport.alloc s.transport = (.ok id, t) →
    request.kind = .control →
    Transport.submit t id request (.control s.host.expect.ticket) = (.error error, t') →
    P ⟨Transport.free t' id, s.host.expect⟩
  submitted : ∀ {s id t request t'}, P s → Transport.attached s.transport = true →
    Transport.alloc s.transport = (.ok id, t) →
    request.kind = .control →
    Transport.submit t id request (.control s.host.expect.ticket) = (.ok (), t') →
    Q id ⟨t', s.host.expect⟩
  freed : ∀ {id s}, Q id s → P { s with transport := Transport.free s.transport id }

/-- A control transfer is begun: the device is there, the data stage fits, and a transfer has been
handed out. -/
structure Begun (s : Session τ ω) (data : ControlData) (id : TransferId) (t : τ) : Prop where
  attached : Transport.attached s.transport = true
  fits : data.length < UInt16.size
  room : data.direction = .toHost → data.isEmpty = false
  alloc : Transport.alloc s.transport = (.ok id, t)

/-- **What a control transfer comes to.** -/
inductive Transfers (s : Session τ ω) (request : UInt8) (value index : UInt16) (data : ControlData)
    (ms : Nat) : ControlResult → Session τ ω → Prop where
  /-- The device is not there, or the data stage does not fit. -/
  | refused : Transfers s request value index data ms ⟨.error .invalidParam, data.bytes⟩ s
  /-- No transfer is handed out. -/
  | unallocated {error t} :
      Transport.attached s.transport = true → Transport.alloc s.transport = (.error error, t) →
      Transfers s request value index data ms ⟨.error error, data.bytes⟩ { s with transport := t }
  /-- The submission is refused. -/
  | unsubmitted {id t error t'} :
      s.Begun data id t →
      Transport.submit t id ⟨.control, controlBuffer (vendorSetup request value index data) data,
        ms⟩ (.control s.host.expect.ticket) = (.error error, t') →
      Transfers s request value index data ms ⟨.error error, data.bytes⟩
        ⟨Transport.free t' id, s.host.expect⟩
  /-- The transfer is submitted and waited for. -/
  | waited {id t t' outcome s₁} :
      s.Begun data id t →
      Transport.submit t id ⟨.control, controlBuffer (vendorSetup request value index data) data,
        ms⟩ (.control s.host.expect.ticket) = (.ok (), t') →
      Session.await id (Transport.patience t' + 1) ⟨t', s.host.expect⟩ = some (outcome, s₁) →
      Transfers s request value index data ms (conclude data outcome)
        { s₁ with transport := Transport.free s₁.transport id }

lemma transfers_of_controlTransfer {s s' : Session τ ω} {request : UInt8} {value index : UInt16}
    {data : ControlData} {ms : Nat} {result : ControlResult}
    (hrun : s.controlTransfer request value index data ms = some (result, s')) :
    s.Transfers request value index data ms result s' := by
  rw [Session.controlTransfer] at hrun
  split at hrun
  · cases hrun
    exact .refused
  · rename_i hfit
    obtain ⟨hattached, hfits, hroom⟩ := by simpa using hfit
    split at hrun
    · rename_i halloc
      cases hrun
      exact .unallocated hattached halloc
    · rename_i halloc
      have hbegun := Begun.mk hattached hfits hroom halloc
      dsimp only at hrun
      split at hrun
      · rename_i hsubmit
        cases hrun
        exact .unsubmitted hbegun hsubmit
      · rename_i hsubmit
        simp only [Option.bind_eq_bind, Option.bind_eq_some_iff] at hrun
        obtain ⟨⟨outcome, s₁⟩, hwait, hend⟩ := hrun
        cases hend
        exact .waited hbegun hsubmit hwait

/-- A control transfer that succeeds has been handed out, submitted and waited for. -/
lemma controlTransfer_of_ok {s s' : Session τ ω} {request : UInt8} {value index : UInt16}
    {data : ControlData} {ms n : Nat} {result : ControlResult}
    (hrun : s.controlTransfer request value index data ms = some (result, s'))
    (hok : result.result = .ok n) : ∃ id t t' outcome s₁,
      Transport.alloc s.transport = (.ok id, t) ∧
      Transport.submit t id ⟨.control, controlBuffer (vendorSetup request value index data) data,
        ms⟩ (.control s.host.expect.ticket) = (.ok (), t') ∧
      Session.await id (Transport.patience t' + 1) ⟨t', s.host.expect⟩ = some (outcome, s₁) ∧
      result = conclude data outcome ∧
      s' = { s₁ with transport := Transport.free s₁.transport id } := by
  cases transfers_of_controlTransfer hrun with
  | refused => cases hok
  | unallocated => cases hok
  | unsubmitted => cases hok
  | waited hbegun hsubmit hwait =>
      exact ⟨_, _, _, _, _, hbegun.alloc, hsubmit, hwait, rfl, rfl⟩

/-- A transfer that is waited for with success has been answered. -/
lemma reply_of_await {id : TransferId} {passes : Nat} {s s' : Session τ ω} {c : Completion}
    (hrun : await id passes s = some (.ok c, s')) (hok : c.status.toResult = .ok ()) :
    s'.host.reply = some c := by
  induction passes generalizing s with
  | zero => cases hrun
  | succ passes ih =>
      rw [await] at hrun
      split at hrun
      · rename_i hreply
        cases hrun
        exact hreply
      · split at hrun
        · cases hrun
        · split at hrun
          · cases hrun
            cases hok
          · split at hrun
            · exact ih hrun
            · split at hrun
              · exact ih hrun
              · cases hrun

/-- A control transfer that succeeds has completed. -/
lemma status_of_conclude {data : ControlData} {outcome : Except UsbError Completion} {n : Nat}
    (h : (conclude data outcome).result = .ok n) :
    ∃ c, outcome = .ok c ∧ c.status.toResult = .ok () := by
  cases outcome with
  | error error => cases h
  | ok c =>
      refine ⟨c, rfl, ?_⟩
      simp only [conclude] at h
      split at h
      · cases h
      · assumption

/-- A failure leaves the caller's bytes as they are. -/
lemma bytes_of_conclude {data : ControlData} {outcome : Except UsbError Completion}
    {error : UsbError} (h : (conclude data outcome).result = .error error) :
    (conclude data outcome).bytes = data.bytes := by
  cases outcome with
  | error _ => rfl
  | ok completion =>
      cases hstatus : completion.status.toResult with
      | error _ => simp only [conclude, hstatus]
      | ok _ => cases data <;> simp [conclude, hstatus] at h

namespace Begun

variable {s : Session τ ω} {data : ControlData} {id : TransferId} {t t' : τ} {request : UInt8}
  {value index : UInt16} {ms : Nat}

omit [Consumer κ ω] in
/-- A control transfer that is begun is refused neither for want of a device nor for its length. -/
lemma not_refused (h : s.Begun data id t) : ¬ ((!Transport.attached s.transport) = true ∨
    UInt16.size ≤ data.length ∨ (data.direction = .toHost ∧ data.isEmpty = true)) := by
  rintro (hno | hno | ⟨hin, hno⟩)
  · simp [h.attached] at hno
  · exact absurd h.fits (Nat.not_lt.mpr hno)
  · simp [h.room hin] at hno

/-- When its submission is refused, it is over. -/
lemma controlTransfer_error (h : s.Begun data id t) {error : UsbError}
    (hsubmit : Transport.submit t id ⟨.control,
      controlBuffer (vendorSetup request value index data) data, ms⟩
      (.control s.host.expect.ticket) = (.error error, t')) :
    s.controlTransfer request value index data ms =
      some (⟨.error error, data.bytes⟩, ⟨Transport.free t' id, s.host.expect⟩) := by
  rw [Session.controlTransfer, if_neg h.not_refused, h.alloc]
  dsimp only
  rw [hsubmit]

/-- When it has been submitted, it comes to what waiting for it comes to. -/
lemma controlTransfer_ok (h : s.Begun data id t)
    (hsubmit : Transport.submit t id ⟨.control,
      controlBuffer (vendorSetup request value index data) data, ms⟩
      (.control s.host.expect.ticket) = (.ok (), t')) :
    s.controlTransfer request value index data ms =
      (Session.await id (Transport.patience t' + 1) ⟨t', s.host.expect⟩).map fun done =>
        (conclude data done.1,
          { done.2 with transport := Transport.free done.2.transport id }) := by
  rw [Session.controlTransfer, if_neg h.not_refused, h.alloc]
  dsimp only
  rw [hsubmit]
  dsimp only
  cases Session.await id (Transport.patience t' + 1) ⟨t', s.host.expect⟩ <;> rfl

end Begun

/-- **What a command comes to**: it is one control transfer, or two. -/
inductive Executes (s : Session τ ω) (packet : CommandPacket) (response : Option Bytes) (ms : Nat) :
    CommandResult → Session τ ω → Prop where
  /-- The packet is not sent. -/
  | unsent {flags sent error s'} :
      s.controlTransfer Protocol.requestNumber Protocol.valueExecute flags (.send packet.encode)
        ms = some (sent, s') →
      sent.result = .error error → Executes s packet response ms ⟨.error error, response⟩ s'
  /-- The packet is sent, and there is nothing to be read back. -/
  | sent {sent n s'} :
      s.controlTransfer Protocol.requestNumber Protocol.valueExecute Protocol.skipResponse
        (.send packet.encode) ms = some (sent, s') →
      sent.result = .ok n → (response.filter fun buffer => !buffer.isEmpty) = none →
      Executes s packet response ms ⟨.ok 0, response⟩ s'
  /-- The packet is sent, and then the response is read back. -/
  | read {sent n s₁ buffer received s'} :
      s.controlTransfer Protocol.requestNumber Protocol.valueExecute 0 (.send packet.encode) ms =
        some (sent, s₁) →
      sent.result = .ok n → (response.filter fun buffer => !buffer.isEmpty) = some buffer →
      s₁.controlTransfer Protocol.requestNumber Protocol.valueExecute 0 (.receive buffer) ms =
        some (received, s') →
      Executes s packet response ms ⟨received.result, some received.bytes⟩ s'

lemma executes_of_execute {s s' : Session τ ω} {packet : CommandPacket} {response : Option Bytes}
    {ms : Nat} {answer : CommandResult}
    (hrun : s.execute packet response ms = some (answer, s')) :
    s.Executes packet response ms answer s' := by
  rw [Session.execute] at hrun
  simp only [Option.bind_eq_bind, Option.bind_eq_some_iff] at hrun
  obtain ⟨⟨sent, s₁⟩, hsend, hrest⟩ := hrun
  dsimp only at hrest
  split at hrest
  · rename_i hresult
    cases hrest
    exact .unsent hsend hresult
  · rename_i hresult hwanted
    cases hrest
    rw [hwanted] at hsend
    exact .sent hsend hresult hwanted
  · rename_i hresult hwanted
    simp only [Option.bind_eq_some_iff] at hrest
    obtain ⟨⟨received, s₂⟩, hread, hend⟩ := hrest
    cases hend
    rw [hwanted] at hsend
    exact .read hsend hresult hwanted hread

/-- **A command that wants no response** is one control transfer. -/
lemma execute_none (s : Session τ ω) (packet : CommandPacket) (ms : Nat) :
    s.execute packet none ms =
      (s.controlTransfer Protocol.requestNumber Protocol.valueExecute Protocol.skipResponse
        (.send packet.encode) ms).map fun done =>
          (⟨done.1.result.map fun _ => 0, none⟩, done.2) := by
  rw [execute]
  simp only [Option.filter_none, Option.isSome_none, Bool.false_eq_true, if_false]
  rcases s.controlTransfer _ _ _ _ _ with - | ⟨sent, s'⟩
  · rfl
  · dsimp only [Option.bind_eq_bind, Option.bind_some, Option.map_some]
    cases sent.result <;> rfl

/-- **A command whose response is wanted** comes to what is read back, once its packet has been
sent. -/
lemma execute_read {s s₁ s' : Session τ ω} {packet : CommandPacket}
    {buffer : Bytes} {ms n : Nat} {sent received : ControlResult} (hbuffer : buffer ≠ [])
    (hsend : s.controlTransfer Protocol.requestNumber Protocol.valueExecute 0
      (.send packet.encode) ms = some (sent, s₁)) (hok : sent.result = .ok n)
    (hread : s₁.controlTransfer Protocol.requestNumber Protocol.valueExecute 0 (.receive buffer)
      ms = some (received, s')) :
    s.execute packet (some buffer) ms = some (⟨received.result, some received.bytes⟩, s') := by
  have hwanted : (some buffer).filter (fun buffer => !buffer.isEmpty) = some buffer := by
    simp [Option.filter, hbuffer]
  rw [execute]
  simp only [hwanted, Option.isSome_some, if_true, hsend, Option.bind_eq_bind, Option.bind_some,
    hok, hread]
  rfl

namespace Kept

variable {P : Session τ ω → Prop} {Q : TransferId → Session τ ω → Prop}

/-- A control transfer keeps the property, whether it is refused, fails or completes. -/
theorem controlTransfer (h : Kept P Q) {s s' : Session τ ω} {request : UInt8}
    {value index : UInt16} {data : ControlData} {ms : Nat} {result : ControlResult} (hs : P s)
    (hrun : s.controlTransfer request value index data ms = some (result, s')) : P s' := by
  cases transfers_of_controlTransfer hrun with
  | refused => exact hs
  | unallocated _ halloc => exact h.unallocated hs halloc
  | unsubmitted hbegun hsubmit => exact h.refused hs hbegun.attached hbegun.alloc rfl hsubmit
  | waited hbegun hsubmit hwait =>
      exact h.freed (h.await (h.submitted hs hbegun.attached hbegun.alloc rfl hsubmit) hwait)

/-- A command keeps the property: it is one control transfer, or two. -/
theorem execute (h : Kept P Q) {s s' : Session τ ω} {packet : CommandPacket}
    {response : Option Bytes} {ms : Nat} {answer : CommandResult} (hs : P s)
    (hrun : s.execute packet response ms = some (answer, s')) : P s' := by
  cases executes_of_execute hrun with
  | unsent hsend => exact h.controlTransfer hs hsend
  | sent hsend => exact h.controlTransfer hs hsend
  | read hsend _ _ hread => exact h.controlTransfer (h.controlTransfer hs hsend) hread

end Kept

/-! ### Properties of the host's state -/

/-- What every handler call keeps of the host's state is kept by a whole pass. -/
lemma run_pass_induction {σ H : Type} {react : Reaction H σ} {R : σ → Prop}
    (hreact : ∀ handler c host, R host → R (react handler c host).2.2) (pass : Pass τ H)
    {host : σ} (h : R host) : R (pass.run react host).2.2 := by
  induction pass generalizing host with
  | done result t => exact h
  | call handler c resume ih => exact ih _ _ (hreact handler c host h)

/-- An event pass keeps what handler calls keep. -/
lemma events_of_react {R : Host ω → Prop}
    (hreact : ∀ (handler : Handler κ) c host, R host → R (handler.react c host).2.2)
    {s : Session τ ω} (ms : Nat) (h : R s.host) : R (s.events ms).2.host :=
  run_pass_induction hreact _ h

/-- An event pass only disarms slots. -/
lemma armed_events (s : Session τ ω) (ms : Nat) :
    (s.events ms).2.host.armed ⊆ s.host.armed :=
  events_of_react (R := fun host => host.armed ⊆ s.host.armed)
    (fun handler c host h => List.Subset.trans (Handler.armed_react_subset handler c host) h) ms
    (List.Subset.refl _)

/-- What handler calls and new control transfers keep of the host's state, commands keep. -/
theorem Kept.ofHost {R : Host ω → Prop} (hexpect : ∀ host, R host → R host.expect)
    (hreact : ∀ (handler : Handler κ) c host, R host → R (handler.react c host).2.2) :
    Kept (τ := τ) (fun s => R s.host) (fun _ s => R s.host) where
  unallocated h _ := h
  refused h _ _ _ _ := hexpect _ h
  submitted h _ _ _ _ := hexpect _ h
  passed h := events_of_react hreact _ h
  cancelled h := h
  freed h := h

/-- Commands only disarm slots. -/
lemma armed_execute {s s' : Session τ ω} {packet : CommandPacket} {response : Option Bytes}
    {ms : Nat} {answer : CommandResult}
    (hrun : s.execute packet response ms = some (answer, s')) :
    s'.host.armed ⊆ s.host.armed :=
  (Kept.ofHost (R := fun host : Host ω => host.armed ⊆ s.host.armed) (fun _ h => h)
    fun handler c host h => List.Subset.trans (Handler.armed_react_subset handler c host) h).execute
    (List.Subset.refl _) hrun

end Session

/-! ### Streams that do not run -/

namespace Feed

variable {S : Type} [SampleSink S]

/-- No completion sets a stream going. -/
lemma running_complete {f : Feed S} {format : StreamFormat} {c : Completion}
    (h : (f.complete format c).2.running = true) : f.running = true := by
  obtain ⟨status, data⟩ := c
  cases status <;> simp only [complete] at h <;> try exact h
  · split at h <;> exact h
  · exact absurd h (by simp)

/-- No handler call sets a stream going. -/
lemma running_react {handler : Handler StreamFormat} {c : Completion} {host : Host (Feed S)}
    (h : (handler.react c host).2.2.shared.running = true) : host.shared.running = true := by
  cases handler with
  | control ticket => rwa [Handler.shared_react_control] at h
  | slot key format =>
      rw [Handler.shared_react_slot] at h
      exact running_complete h

end Feed

end LogicCapture
