/-
What the transport keeps as long as only certain packets are sent, and only certain bulk transfers
submitted.

* `Transport.Vetted`: a property that the submission of control transfers with such packets keeps,
  and that of bulk transfers with such ids and lengths;
* `Transport.Commanded`: a property that certain commands keep, and so the operations that give them
  (`Transport.Commanded.configure`, `Transport.Commanded.start`, `Transport.Commanded.stop`, …);
* `Transport.Vetted.commanded`: commands with such packets keep it;
* `Pool.arm_ne_invalidParam`: a pool with slots is never refused for having none;
* `Analyzer.error_of_acquire`: where the errors of an acquisition come from
  (`Analyzer.error_of_configure`, `Analyzer.error_of_start`).
-/
import LogicCapture.Proofs.Analyzer.Spared

namespace LogicCapture

variable {τ κ ω S : Type}

/-- **A property that is kept as long as only these packets are sent**, and only bulk transfers with
these ids and lengths are submitted. -/
structure Transport.Vetted (ω : Type) [Transport τ (Handler κ)] [Consumer κ ω]
    (packets : CommandPacket → Prop) (bulk : TransferId → Nat → Prop) (R : τ → Prop) : Prop
    extends Transport.Passive ω R where
  send : ∀ {t id request value index packet ms ticket}, R t → packets packet →
    R (Transport.submit t id ⟨.control, Session.controlBuffer
      (Session.vendorSetup request value index (.send packet.encode)) (.send packet.encode), ms⟩
        (.control ticket)).2
  receive : ∀ {t id request value index buffer ms ticket}, R t →
    R (Transport.submit t id ⟨.control, Session.controlBuffer
      (Session.vendorSetup request value index (.receive buffer)) (.receive buffer), ms⟩
        (.control ticket)).2
  slot : ∀ {t id endpoint buffer ms key consumer}, R t → bulk id buffer.length →
    R (Transport.submit t id ⟨.bulkIn endpoint, buffer, ms⟩ (.slot key consumer)).2
  claim : ∀ {t} interface, R t → R (Transport.claim t interface).2
  release : ∀ {t} interface, R t → R (Transport.release t interface).2

/-! ### Control transfers -/

/-- A control transfer keeps what its submission keeps; there is one only if its length fits. -/
lemma Transport.Passive.controlTransfer [Transport τ (Handler κ)] [Consumer κ ω] {R : τ → Prop}
    (h : Passive ω R) {s s' : Session τ ω} {request : UInt8} {value index : UInt16}
    {data : ControlData} {ms : Nat} {result : ControlResult}
    (hsubmit : data.length < UInt16.size → ∀ t id ticket, R t →
      R (Transport.submit t id ⟨.control, Session.controlBuffer
        (Session.vendorSetup request value index data) data, ms⟩ (.control ticket)).2)
    (hs : R s.transport)
    (hrun : s.controlTransfer request value index data ms = some (result, s')) :
    R s'.transport := by
  have halloc {id : TransferId} {t : τ} (hbegun : s.Begun data id t) : R t := by
    have hafter := h.alloc hs
    rwa [hbegun.alloc] at hafter
  cases Session.transfers_of_controlTransfer hrun with
  | refused => exact hs
  | unallocated _ hnone =>
      have hafter := h.alloc hs
      rwa [hnone] at hafter
  | @unsubmitted id t error t' hbegun hrefused =>
      have hafter := hsubmit hbegun.fits t id s.host.expect.ticket (halloc hbegun)
      rw [hrefused] at hafter
      exact h.free id hafter
  | @waited id t t' outcome s₁ hbegun hsent hwait =>
      have hafter := hsubmit hbegun.fits t id s.host.expect.ticket (halloc hbegun)
      rw [hsent] at hafter
      exact h.free id (h.awaited.await (s := ⟨t', s.host.expect⟩) hafter hwait)

/-! ### Pools that have slots -/

namespace Pool

variable [Transport τ (Handler κ)]

/-- A submission fails for want of memory, or for an error of the transport. -/
lemma error_of_submitSlots {length : Nat} {endpoint : UInt8} {consumer : κ} {slots : List Slot}
    {s s' : Session τ ω} {error : UsbError}
    (h : submitSlots length endpoint consumer slots s = (.error error, s')) :
    error = .noMemory ∨ error = .io := by
  induction slots generalizing s with
  | nil => cases h
  | cons slot rest ih =>
      rw [submitSlots] at h
      split at h
      · cases h
        exact Or.inl rfl
      · split at h
        · exact ih h
        · cases h
          exact Or.inr rfl

/-- **A pool with slots** is never refused for having none. -/
lemma arm_ne_invalidParam {p : Pool} (h : p.isEmpty = false) (endpoint : UInt8) (consumer : κ)
    (s : Session τ ω) : (p.arm endpoint consumer s).1 ≠ .error .invalidParam := by
  rw [arm, if_neg (by simp [h])]
  split
  · simp
  · split
    · simp
    · rename_i hsubmit
      rcases error_of_submitSlots hsubmit with rfl | rfl <;> simp

end Pool

/-- A pool with slots is armed as it is. -/
lemma Analyzer.armStreaming_of_full [Transport τ (Handler StreamFormat)] {a : Analyzer τ S}
    (h : a.pool.isEmpty = false) (format : StreamFormat) : a.armStreaming format =
      ((a.pool.arm format.endpoint format a.session).1.mapError .usb,
        { a with session := (a.pool.arm format.endpoint format a.session).2 }) := by
  rw [armStreaming, if_neg (by simp [h])]

/-- A configure leaves the pool alone. -/
lemma Analyzer.pool_configure [Transport τ (Handler StreamFormat)] [SampleSink S]
    {a b : Analyzer τ S} {result : Except CaptureError ConfigureResponse}
    (h : a.configure = some (result, b)) : b.pool = a.pool := by
  cases configures_of_configure h <;> rfl

/-- It leaves the settings alone, too. -/
lemma Analyzer.settings_configure [Transport τ (Handler StreamFormat)] [SampleSink S]
    {a b : Analyzer τ S} {result : Except CaptureError ConfigureResponse}
    (h : a.configure = some (result, b)) : b.settings = a.settings := by
  cases configures_of_configure h <;> rfl

/-- Arming a stream leaves the settings alone. -/
lemma Analyzer.settings_armStreaming [Transport τ (Handler StreamFormat)] (a : Analyzer τ S)
    (format : StreamFormat) : (a.armStreaming format).2.settings = a.settings :=
  armStreaming_induction (I := fun b => b.settings = a.settings) (fun h => h) (fun h => h) rfl

/-! ### Operations -/

/-- **A property that is kept as long as only such commands are given**: with these packets, such
room for an answer and such timeouts. -/
structure Transport.Commanded (S : Type) [Transport τ (Handler StreamFormat)] [SampleSink S]
    (gives : CommandPacket → Option Bytes → Nat → Prop) (R : τ → Prop) : Prop
    extends Transport.Passive (Feed S) R where
  execute : ∀ {s s' : Session τ (Feed S)} {packet response ms answer},
    gives packet response ms → R s.transport →
      s.execute packet response ms = some (answer, s') → R s'.transport
  claim : ∀ {t} interface, R t → R (Transport.claim t interface).2
  release : ∀ {t} interface, R t → R (Transport.release t interface).2

namespace Transport.Commanded

variable [Transport τ (Handler StreamFormat)] [SampleSink S]
  {gives : CommandPacket → Option Bytes → Nat → Prop} {R : τ → Prop} {a b : Analyzer τ S}

lemma configure (h : Commanded S gives R) (hrequest : gives a.request.toPacket
      (some (zeros ConfigureResponse.size)) a.settings.commandTimeoutMs)
    {result : Except CaptureError ConfigureResponse} (ha : R a.session.transport)
    (hrun : a.configure = some (result, b)) : R b.session.transport := by
  cases Analyzer.configures_of_configure hrun with
  | refused _ => exact ha
  | unasked _ => exact ha
  | unanswered hasks _ => exact h.execute hrequest ha hasks.sent
  | unclaimed hasks _ _ => exact h.claim _ (h.execute hrequest ha hasks.sent)
  | agreed hasks _ _ => exact h.claim _ (h.execute hrequest ha hasks.sent)

lemma stop (h : Commanded S gives R) (hstop : gives stopPacket none a.settings.stopTimeoutMs)
    {result : Except CaptureError Unit} (ha : R a.session.transport)
    (hrun : a.stop = some (result, b)) : R b.session.transport := by
  obtain ⟨answer, session, hsent, -, rfl⟩ := Analyzer.stop_eq_some.mp hrun
  have hhalted : R a.halted.transport := h.release _ ha
  have hafter := h.execute hstop hhalted hsent
  exact hafter

lemma cancelled (h : Commanded S gives R) (hstop : gives stopPacket none a.settings.stopTimeoutMs)
    {result : Except CaptureError Unit} (ha : R a.session.transport)
    (hrun : a.cancel = some (result, b)) : R b.session.transport :=
  h.stop (a := { a with session := (a.pool.cancelAll a.session).2 }) hstop
    (h.toPassive.cancelAll a.pool ha) hrun

/-- **Starting keeps it** if arming the stream does. -/
lemma start (h : Commanded S gives R) (hstart : gives startPacket none a.settings.commandTimeoutMs)
    (hstop : gives stopPacket none a.settings.stopTimeoutMs)
    (harm : ∀ {c : Analyzer τ S} (format : StreamFormat), c.pool = a.pool →
      R c.session.transport → R (c.armStreaming format).2.session.transport)
    {result : Except CaptureError Unit} (ha : R a.session.transport)
    (hrun : a.start = some (result, b)) : R b.session.transport := by
  have harmed {format : StreamFormat} {answer : CommandResult} {session : Session τ (Feed S)}
      {armed : Except CaptureError Unit} {c : Analyzer τ S}
      (hlaunch : a.Launches format answer session)
      (hrun : (({ a with session } : Analyzer τ S).openFeed format).armStreaming format =
        (armed, c)) : c.settings = a.settings ∧ R c.session.transport := by
    have hsent : R session.transport := h.execute hstart ha hlaunch.sent
    have hsettings := (({ a with session } : Analyzer τ S).openFeed format).settings_armStreaming
      format
    have hafter := harm (c := ({ a with session } : Analyzer τ S).openFeed format) format rfl hsent
    rw [hrun] at hsettings hafter
    exact ⟨hsettings, hafter⟩
  cases Analyzer.starts_of_start hrun with
  | refused => exact ha
  | failed hlaunch => exact h.execute hstart ha hlaunch.sent
  | armed hlaunch harm => exact (harmed hlaunch harm).2
  | undone hlaunch harm hended =>
      obtain ⟨hsettings, hafter⟩ := harmed hlaunch harm
      exact h.stop (hsettings.symm ▸ hstop) hafter hended

/-- **So does an acquisition.** -/
lemma acquire (h : Commanded S gives R) (hrequest : gives a.request.toPacket
      (some (zeros ConfigureResponse.size)) a.settings.commandTimeoutMs)
    (hstart : gives startPacket none a.settings.commandTimeoutMs)
    (hstop : gives stopPacket none a.settings.stopTimeoutMs)
    (harm : ∀ {c : Analyzer τ S} (format : StreamFormat), c.pool = a.pool →
      R c.session.transport → R (c.armStreaming format).2.session.transport)
    {result : Except CaptureError Unit} (ha : R a.session.transport)
    (hrun : a.acquire = some (result, b)) : R b.session.transport := by
  rcases Analyzer.acquire_eq_some.mp hrun with ⟨error, hconf, -⟩ | ⟨response, c, hconf, hbegin⟩
  · exact h.configure hrequest ha hconf
  · have hsettings := Analyzer.settings_configure hconf
    exact h.start (hsettings.symm ▸ hstart) (hsettings.symm ▸ hstop)
      (fun format hpool => harm format (hpool.trans (Analyzer.pool_configure hconf)))
      (h.configure hrequest ha hconf) hbegin

/-- Reading an identity string keeps it. -/
lemma readCoreString (h : Commanded S gives R) {s s' : Session τ (Feed S)} {verb : UInt32}
    {ms : Nat} {text : Option String}
    (hcore : gives (.headerOnly Protocol.classCore verb) (some (zeros Protocol.maxStringLength)) ms)
    (hs : R s.transport) (hrun : s.readCoreString verb ms = some (text, s')) : R s'.transport := by
  simp only [Session.readCoreString, Option.bind_eq_bind, Option.bind_eq_some_iff,
    Prod.exists] at hrun
  obtain ⟨answer, s₁, hsent, hread⟩ := hrun
  have hafter := h.execute hcore hs hsent
  split at hread <;> cases hread <;> exact hafter

/-- Reading the version keeps it. -/
lemma version (h : Commanded S gives R)
    (hcore : gives (.headerOnly Protocol.classCore Protocol.verbReadVersion)
      (some (zeros Protocol.maxStringLength)) a.settings.commandTimeoutMs)
    {text : Option String} (ha : R a.session.transport) (hrun : a.version = some (text, b)) :
    R b.session.transport := by
  rw [Analyzer.version_eq_map] at hrun
  obtain ⟨told, hread, hend⟩ := Option.map_eq_some_iff.mp hrun
  cases hend
  exact h.readCoreString hcore ha hread

/-- So does reading the serial number. -/
lemma serialNumber (h : Commanded S gives R)
    (hcore : gives (.headerOnly Protocol.classCore Protocol.verbReadSerial)
      (some (zeros Protocol.maxStringLength)) a.settings.commandTimeoutMs)
    {text : Option String} (ha : R a.session.transport) (hrun : a.serialNumber = some (text, b)) :
    R b.session.transport := by
  rw [Analyzer.serialNumber_eq_map] at hrun
  obtain ⟨told, hread, hend⟩ := Option.map_eq_some_iff.mp hrun
  cases hend
  exact h.readCoreString hcore ha hread

end Transport.Commanded

namespace Transport.Vetted

section
variable [Transport τ (Handler κ)] [Consumer κ ω] {packets : CommandPacket → Prop}
  {bulk : TransferId → Nat → Prop} {R : τ → Prop}

/-- **Commands with such packets** keep it. -/
theorem execute (h : Vetted ω packets bulk R) {s s' : Session τ ω} {packet : CommandPacket}
    {response : Option Bytes} {ms : Nat} {answer : CommandResult} (hpacket : packets packet)
    (hs : R s.transport) (hrun : s.execute packet response ms = some (answer, s')) :
    R s'.transport := by
  have hsend {flags : UInt16} {sent : ControlResult} {s₁ : Session τ ω}
      (hsent : s.controlTransfer Protocol.requestNumber Protocol.valueExecute flags
        (.send packet.encode) ms = some (sent, s₁)) : R s₁.transport :=
    h.toPassive.controlTransfer (fun _ _ _ _ ht => h.send ht hpacket) hs hsent
  cases Session.executes_of_execute hrun with
  | unsent hsent => exact hsend hsent
  | sent hsent => exact hsend hsent
  | read hsent _ _ hread =>
      exact h.toPassive.controlTransfer (fun _ _ _ _ ht => h.receive ht) (hsend hsent) hread

/-- **So does arming** a pool whose slots have such ids, and buffers of such a length. -/
lemma arm (h : Vetted ω packets bulk R) {p : Pool} {s : Session τ ω}
    (hslots : ∀ slot ∈ p.slots, bulk slot.transfer p.bufferSize) (endpoint : UInt8) (consumer : κ)
    (hs : R s.transport) : R (p.arm endpoint consumer s).2.transport := by
  refine h.toPassive.arm (fun slot hslot _ ht => h.slot ht ?_) hs
  rw [length_zeros]
  exact hslots slot hslot

end

section
variable [Transport τ (Handler StreamFormat)] [SampleSink S] {packets : CommandPacket → Prop}
  {bulk : TransferId → Nat → Prop} {R : τ → Prop} {a b : Analyzer τ S}

/-- **So do the operations that give commands with such packets.** -/
lemma commanded (h : Vetted (Feed S) packets bulk R) :
    Commanded S (fun packet _ _ => packets packet) R where
  toPassive := h.toPassive
  execute hpacket hs hrun := h.execute hpacket hs hrun
  claim := h.claim
  release := h.release

/-- Arming a stream keeps it if the pool has slots already, and such. -/
lemma armStreaming (h : Vetted (Feed S) packets bulk R) (hfull : a.pool.isEmpty = false)
    (hslots : ∀ slot ∈ a.pool.slots, bulk slot.transfer a.pool.bufferSize) (format : StreamFormat)
    (ha : R a.session.transport) : R (a.armStreaming format).2.session.transport := by
  rw [Analyzer.armStreaming_of_full hfull]
  exact h.arm hslots _ _ ha

/-- **So does an acquisition**, on slots that have been allocated before. -/
lemma acquire (h : Vetted (Feed S) packets bulk R) (hrequest : packets a.request.toPacket)
    (hstart : packets startPacket) (hstop : packets stopPacket) (hfull : a.pool.isEmpty = false)
    (hslots : ∀ slot ∈ a.pool.slots, bulk slot.transfer a.pool.bufferSize)
    {result : Except CaptureError Unit} (ha : R a.session.transport)
    (hrun : a.acquire = some (result, b)) : R b.session.transport :=
  h.commanded.acquire hrequest hstart hstop
    (fun format hpool => h.armStreaming (hpool ▸ hfull) (hpool ▸ hslots) format) ha hrun

end

end Transport.Vetted

/-! ### Errors -/

namespace Analyzer

variable [Transport τ (Handler StreamFormat)] [SampleSink S] {a b : Analyzer τ S}

/-- A response that cannot be read is an error of its command or of the protocol. -/
lemma error_of_readResponse {answer : CommandResult} {error : CaptureError}
    (h : readResponse answer = .error error) :
    (∃ cause, error = .command "configure" cause) ∨ ∃ cause, error = .wire cause := by
  have hreads := reads_readResponse answer
  rw [h] at hreads
  cases hreads with
  | failed _ => exact Or.inl ⟨_, rfl⟩
  | rejected _ => exact Or.inr ⟨_, rfl⟩

/-- **Why a configure fails** for a rate that fits: its error is no fault of the settings, and an
error of the transport is that of the claim, which was its last call. -/
lemma error_of_configure {error : CaptureError} (hrate : a.context.sampleRateHz < UInt32.size)
    (hrun : a.configure = some (.error error, b)) :
    (∀ reason, error ≠ .invalidSettings reason) ∧ ∀ cause, error = .usb cause → ∃ t,
      (Transport.claim t Protocol.streamingInterface : Except UsbError Unit × τ) =
        (.error cause, b.session.transport) := by
  cases configures_of_configure hrun with
  | refused _ => exact ⟨by simp, by simp⟩
  | unasked _ hlarge => exact absurd hrate (Nat.not_lt.mpr hlarge)
  | unanswered _ hread =>
      rcases error_of_readResponse hread with ⟨cause, rfl⟩ | ⟨cause, rfl⟩ <;>
        exact ⟨by simp, by simp⟩
  | @unclaimed answer session response cause _ _ hclaim =>
      refine ⟨by simp, fun cause' hcause => ⟨session.transport, Prod.ext ?_ rfl⟩⟩
      cases hcause
      exact hclaim

omit [SampleSink S] in
/-- A stream on a pool with slots is not refused for having none. -/
lemma armStreaming_ne_invalidParam (hfull : a.pool.isEmpty = false) (format : StreamFormat) :
    (a.armStreaming format).1 ≠ .error (.usb .invalidParam) := by
  have hne := Pool.arm_ne_invalidParam hfull format.endpoint format a.session
  rw [armStreaming_of_full hfull]
  cases hresult : (a.pool.arm format.endpoint format a.session).1 with
  | ok _ => simp [Except.mapError]
  | error cause =>
      rw [hresult] at hne
      simpa [Except.mapError] using hne

/-- **Why a start fails** on a pool that has slots: neither for the settings nor for want of
slots. -/
lemma error_of_start {error : CaptureError} (hfull : a.pool.isEmpty = false)
    (hrun : a.start = some (.error error, b)) :
    (∀ reason, error ≠ .invalidSettings reason) ∧ error ≠ .usb .invalidParam := by
  rw [start_eq_startBy] at hrun
  cases startsBy_of_startBy hrun with
  | refused hrefused => cases hrefused <;> exact ⟨by simp, by simp⟩
  | failed _ _ => exact ⟨by simp, by simp⟩
  | @undone format answer session _ _ _ _ _ _ _ harm _ =>
      rw [← armStreaming_eq_armStreamingBy] at harm
      obtain ⟨cause, rfl⟩ := error_of_armStreaming harm
      have hne := armStreaming_ne_invalidParam
        (a := ({ a with session } : Analyzer τ S).openFeed format) hfull format
      rw [harm] at hne
      exact ⟨by simp, by simpa using hne⟩

/-- **Why an acquisition fails** for a rate that fits, on slots that have been allocated before: not
for the settings, and for an invalid parameter only if the interface cannot be claimed. -/
theorem error_of_acquire {error : CaptureError} (hrate : a.context.sampleRateHz < UInt32.size)
    (hfull : a.pool.isEmpty = false) (hrun : a.acquire = some (.error error, b)) :
    (∀ reason, error ≠ .invalidSettings reason) ∧ (error = .usb .invalidParam → ∃ t,
      (Transport.claim t Protocol.streamingInterface : Except UsbError Unit × τ) =
        (.error .invalidParam, b.session.transport)) := by
  rcases acquire_eq_some.mp hrun with ⟨cause, hconf, heq⟩ | ⟨response, c, hconf, hbegin⟩
  · cases heq
    obtain ⟨hvalid, hclaimed⟩ := error_of_configure hrate hconf
    exact ⟨hvalid, hclaimed .invalidParam⟩
  · obtain ⟨hvalid, hslots⟩ := error_of_start (pool_configure hconf ▸ hfull) hbegin
    exact ⟨hvalid, fun hno => absurd hno hslots⟩

end Analyzer

end LogicCapture
