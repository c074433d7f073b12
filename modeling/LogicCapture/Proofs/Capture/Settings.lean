/-
Captures go by their settings.

* `AcquisitionSettings.Allows`, `AcquisitionSettings.Admits`: commands and bulk transfers that go by
  the settings of an acquisition;
* `Analyzer.Pooled`: a pool that goes by them, and the calls for it (`Analyzer.pooled_of_allocate`);
* `Capture.governed_of_run`: a capture submits nothing but what goes by its settings, and only when
  it has such a pool;
* `Capture.causes_of_run`: if it fails, that is neither for its rate nor for want of slots.
-/
import LogicCapture.Proofs.Capture.Samples

namespace LogicCapture

open Analyzer (Plugged)
open HostStack (Call)

variable {τ S W : Type}

/-! ### What goes by the settings -/

namespace AcquisitionSettings

/-- **The command goes by the settings**: if it is a configure command, it asks for their rate and
for their number of channels. -/
def Allows (settings : AcquisitionSettings) (packet : CommandPacket) : Prop :=
  packet.isConfigure = true →
    packet.payload = LittleEndian.encode 4 settings.sampleRateHz ++ [settings.numChannels]

/-- **The bulk transfer goes by the settings**: it is one of as many as they ask for, and as long as
they say. -/
def Admits (settings : AcquisitionSettings) (id : TransferId) (length : Nat) : Prop :=
  id < settings.transferPoolSize ∧ length = settings.transferBufferSize

/-- Valid settings ask for a rate that fits its word, and for some transfers. -/
lemma bounds_of_validate {settings : AcquisitionSettings} (h : settings.validate = .ok ()) :
    settings.sampleRateHz < UInt32.size ∧ settings.transferPoolSize ≠ 0 := by
  rw [validate] at h
  split at h
  · cases h
  · rename_i hrate
    split at h
    · cases h
    · split at h
      · cases h
      · rename_i hpool
        exact ⟨Nat.not_le.mp fun hlarge => hrate (Or.inr hlarge), hpool⟩

end AcquisitionSettings

namespace Analyzer

/-- A configure command asks for what the settings say, if its analyzer goes by them. -/
lemma allows_request {a : Analyzer τ S} {settings : AcquisitionSettings}
    (hrate : a.context.sampleRateHz = settings.sampleRateHz)
    (hchannels : a.context.numChannels = settings.numChannels)
    (hfits : settings.sampleRateHz < UInt32.size) : settings.Allows a.request.toPacket := by
  have hword : (UInt32.ofNat settings.sampleRateHz).toNat = settings.sampleRateHz :=
    UInt32.toNat_ofNat_of_lt hfits
  intro _
  rw [ConfigurePayload.payload_toPacket, ConfigurePayload.encode, request]
  dsimp only
  rw [hrate, hchannels, hword]

/-! ### The pool -/

/-- **The pool has been allocated by the settings**, and these are all calls since `base`. -/
structure Pooled (a : Plugged S) (settings : AcquisitionSettings) (base : List Call) : Prop where
  size : a.pool.size = settings.transferPoolSize
  bufferSize : a.pool.bufferSize = settings.transferBufferSize
  transfers : a.pool.slots.map (·.transfer) = List.range settings.transferPoolSize
  calls : a.session.transport.stack.calls =
    base ++ (List.range settings.transferPoolSize).map fun id => .alloc (some id)

lemma Pooled.admits {a : Plugged S} {settings : AcquisitionSettings} {base : List Call}
    (h : a.Pooled settings base) :
    ∀ slot ∈ a.pool.slots, settings.Admits slot.transfer a.pool.bufferSize := by
  intro slot hslot
  have hid : slot.transfer ∈ a.pool.slots.map (·.transfer) := List.mem_map_of_mem hslot
  rw [h.transfers, List.mem_range] at hid
  exact ⟨hid, h.bufferSize⟩

lemma Pooled.isEmpty {a : Plugged S} {settings : AcquisitionSettings} {base : List Call}
    (h : a.Pooled settings base) (hsize : settings.transferPoolSize ≠ 0) :
    a.pool.isEmpty = false := by
  have hlength : a.pool.slots.length = settings.transferPoolSize := h.size
  rw [Pool.isEmpty, List.isEmpty_eq_false_iff, ← List.length_pos_iff, hlength]
  exact Nat.pos_of_ne_zero hsize

section
variable {script : List HostStack.Cue} {vendor product : UInt16}
  {link : DeviceLink (Handler StreamFormat)} {settings : AcquisitionSettings} {sink : S}
  {b : Plugged S}

/-- **A pool that has been allocated** on a link that has just been opened goes by the settings. -/
theorem pooled_of_allocate
    (hopen : DeviceLink.connect (script.foldl HostStack.cue {}) vendor product = .ok link)
    (h : (new link settings sink).allocateTransfers = (.ok (), b)) :
    b.Pooled settings link.stack.calls := by
  obtain ⟨-, -, -, hnone, -⟩ := DeviceLink.opened hopen
  obtain ⟨answer, p, s, hallocates, hanswer, rfl⟩ := allocates_of_allocateTransfers h
  cases hallocates with
  | refused _ => cases hanswer
  | failed _ _ => cases hanswer
  | @filled slots l _ hslots =>
      obtain ⟨hids, -, -, hcalls⟩ := Pool.obtain_link hslots
      have hfirst : (new link settings sink : Plugged S).session.transport.stack.allocated = 0 :=
        hnone
      rw [hfirst, ← List.range_eq_range'] at hids hcalls
      have hlength : slots.length = settings.transferPoolSize := by
        simpa [new] using congrArg List.length hids
      exact ⟨hlength, rfl, hids, hcalls⟩

/-- What will be asked for is what the settings say, whether there are transfers or not. -/
lemma context_of_allocate {result : Except CaptureError Unit}
    (h : (new link settings sink).allocateTransfers = (result, b)) :
    b.context = { sampleRateHz := settings.sampleRateHz, numChannels := settings.numChannels } :=
  (congrArg (·.2.context) h).symm

/-- If there are no transfers, that is for want of memory. -/
lemma error_of_allocate {error : CaptureError} (hsize : settings.transferPoolSize ≠ 0)
    (h : (new link settings sink).allocateTransfers = (.error error, b)) :
    error = .usb .noMemory := by
  obtain ⟨answer, p, s, hallocates, hanswer, rfl⟩ := allocates_of_allocateTransfers h
  cases hallocates with
  | refused hcause =>
      cases hcause hsize rfl
      exact Except.error.inj hanswer
  | failed _ _ => exact Except.error.inj hanswer
  | filled _ _ => cases hanswer

end

/-- An event pass fails for an error of the transport. -/
lemma error_of_poll [Transport τ (Handler StreamFormat)] [SampleSink S] {a b : Analyzer τ S}
    {ms : Nat} {error : CaptureError} (h : a.poll ms = (.error error, b)) :
    ∃ cause, error = .usb cause := by
  rw [poll] at h
  dsimp only at h
  split at h
  · cases h
  · split at h
    · cases h
    · cases h
      exact ⟨_, rfl⟩

end Analyzer

/-! ### Captures -/

/-- A claim that fails is in the list of calls with its code. -/
lemma DeviceLink.claimed_of_error {H : Type} {l l' : DeviceLink H} {interface : UInt8}
    {error : UsbError} (h : l.claim interface = (.error error, l')) :
    ∃ code, l'.stack.calls = l.stack.calls ++ [.claim interface code] ∧
      UsbError.ofStackCode code = error := by
  rcases hclaim : l.stack.claim interface with ⟨code, stack⟩
  rw [claim, hclaim] at h
  dsimp only at h
  split at h
  · cases h
    refine ⟨code, ?_, rfl⟩
    rw [stack_noteError]
    exact (HostStack.claim_cases hclaim).1
  · cases h

/-- On a link that has just been opened, nothing has been submitted. -/
lemma DeviceLink.abides_opened {script : List HostStack.Cue} {vendor product : UInt16}
    {link : DeviceLink (Handler StreamFormat)}
    (h : connect (script.foldl HostStack.cue {}) vendor product = .ok link)
    (packets : CommandPacket → Prop) (bulk : TransferId → Nat → Prop) :
    link.Abides (Call.Obeys packets bulk) [] := by
  obtain ⟨howned, -, -, -, hcalls⟩ := opened h
  refine ⟨by simp [howned], _, hcalls, ?_⟩
  simp [Call.Obeys]

namespace Capture

/-- **What has been submitted goes by the settings**, and the calls have begun with these. -/
structure Governed (settings : AcquisitionSettings) (base : List Call) (a : Plugged S) : Prop where
  abides : a.session.transport.Abides (Call.Obeys settings.Allows settings.Admits) []
  begins : base <+: a.session.transport.stack.calls

namespace Governed

variable [SampleSink S] {settings : AcquisitionSettings} {base : List Call} {a b : Plugged S}

/-- What abides by the settings as long as only such things are submitted. -/
lemma vetted (ω : Type) (settings : AcquisitionSettings) [Consumer StreamFormat ω] :
    Transport.Vetted ω settings.Allows settings.Admits
      (DeviceLink.Abides (Call.Obeys settings.Allows settings.Admits) [] :
        DeviceLink (Handler StreamFormat) → Prop) :=
  DeviceLink.vetted_obeys settings.Allows settings.Admits []

/-- An acquisition on a pool that goes by the settings goes by them, too. -/
lemma acquire {result : Except CaptureError Unit} {stack : List Call} (h : Governed settings base a)
    (hrate : a.context.sampleRateHz = settings.sampleRateHz)
    (hchannels : a.context.numChannels = settings.numChannels)
    (hvalid : settings.validate = .ok ()) (hpool : a.Pooled settings stack)
    (hrun : a.acquire = some (result, b)) : Governed settings base b := by
  obtain ⟨hfits, hsize⟩ := AcquisitionSettings.bounds_of_validate hvalid
  refine ⟨?_, (Analyzer.stable_begins base).acquire h.begins hrun⟩
  exact (vetted _ settings).acquire (Analyzer.allows_request hrate hchannels hfits)
    (fun hno => by cases hno) (fun hno => by cases hno) (hpool.isEmpty hsize) hpool.admits h.abides
    hrun

lemma passed (h : Governed settings base a) (passes : Nat) :
    Governed settings base (passed passes a) :=
  passed_induction (fun h => ⟨(vetted _ settings).toPassive.poll passMs h.abides,
    (Analyzer.stable_begins base).poll passMs h.begins⟩) passes h

lemma cancel {result : Except CaptureError Unit} (h : Governed settings base a)
    (hrun : a.cancel = some (result, b)) : Governed settings base b :=
  ⟨(vetted _ settings).commanded.cancelled (fun hno => by cases hno) h.abides hrun,
    (Analyzer.stable_begins base).cancel h.begins hrun⟩

lemma teardown (h : Governed settings base a) : Governed settings base a.teardown :=
  ⟨(vetted _ settings).toPassive.teardown h.abides, (Analyzer.stable_begins base).teardown h.begins⟩

end Governed

/-- Event passes interrupt a stream for an error of the transport. -/
lemma error_of_streamUntil [Transport τ (Handler StreamFormat)] [SampleSink S]
    {clock : Clock} {deadline fuel reading : Nat} {a b : Analyzer τ S} {error : CaptureError}
    (h : streamUntil clock deadline fuel reading a = some (.error (.events error), b)) :
    ∃ cause, error = .usb cause := by
  induction fuel generalizing reading a with
  | zero => cases h
  | succ fuel ih =>
      rw [streamUntil] at h
      split at h
      · cases h
      · split at h
        · cases h
        · split at h
          · rename_i hpoll
            cases h
            exact Analyzer.error_of_poll hpoll
          · exact ih h

section
variable [Writer W] {script : List HostStack.Cue} {vendor product : UInt16}
  {link : DeviceLink (Handler StreamFormat)} {settings : AcquisitionSettings}
  {sink : Option (FileSink W)} {started b : Plugged (Option (FileSink W))}

/-- An acquisition that is set going goes by the settings. -/
lemma Governed.of_acquire {allocated : Plugged (Option (FileSink W))}
    {result : Except CaptureError Unit}
    (hopen : DeviceLink.connect (script.foldl HostStack.cue {}) vendor product = .ok link)
    (hvalid : settings.validate = .ok ())
    (hallocate : Analyzer.allocateTransfers (.new link settings sink) = (.ok (), allocated))
    (hacquire : allocated.acquire = some (result, started)) :
    Governed settings allocated.session.transport.stack.calls started := by
  have habides := (vetted _ settings).toPassive.allocateTransfers (a := .new link settings sink)
    (DeviceLink.abides_opened hopen _ _)
  rw [hallocate] at habides
  have hcontext := Analyzer.context_of_allocate hallocate
  exact acquire ⟨habides, List.prefix_rfl⟩ (congrArg _ hcontext) (congrArg _ hcontext) hvalid
    (Analyzer.pooled_of_allocate hopen hallocate) hacquire

/-- **What a capture submits**: if it has no transfers, nothing, and else what goes by the settings,
once the pool has been allocated. -/
theorem governed_of_run {clock : Clock} {duration : Timespan} {ending : Ending}
    (hopen : DeviceLink.connect (script.foldl HostStack.cue {}) vendor product = .ok link)
    (hvalid : settings.validate = .ok ())
    (hrun : run clock duration (.new link settings sink) = some (ending, b)) :
    ((∃ error, ending = .unallocated error) ∧ ∀ packets bulk,
        b.session.transport.Abides (Call.Obeys packets bulk) []) ∨
      ∃ allocated : Plugged (Option (FileSink W)),
        Analyzer.allocateTransfers (.new link settings sink) = (.ok (), allocated) ∧
        Governed settings allocated.session.transport.stack.calls b := by
  cases ends_of_run hrun with
  | @unallocated error allocated hallocate =>
      refine Or.inl ⟨⟨error, rfl⟩, fun packets bulk => ?_⟩
      have hpassive := (DeviceLink.vetted_obeys (κ := StreamFormat)
        (ω := Feed (Option (FileSink W))) packets bulk []).toPassive
      have habides := hpassive.allocateTransfers (a := .new link settings sink)
        (DeviceLink.abides_opened hopen packets bulk)
      rw [hallocate] at habides
      exact hpassive.teardown habides
  | unstarted hallocate hacquire =>
      exact Or.inr ⟨_, hallocate, (Governed.of_acquire hopen hvalid hallocate hacquire).teardown⟩
  | beyond hacquires _ =>
      obtain ⟨allocated, hallocate, hacquire⟩ := hacquires
      exact Or.inr ⟨_, hallocate, (Governed.of_acquire hopen hvalid hallocate hacquire).teardown⟩
  | @streamed started result passes answer stopped hacquires _ hcancel =>
      obtain ⟨allocated, hallocate, hacquire⟩ := hacquires
      have hstarted := Governed.of_acquire hopen hvalid hallocate hacquire
      have hended := ((hstarted.passed passes).cancel hcancel).teardown
      refine Or.inr ⟨_, hallocate, ?_, ?_⟩
      · rw [transport_finish]
        exact hended.abides
      · rw [transport_finish]
        exact hended.begins

/-- **What a capture fails for**: it may lack memory for its transfers, but neither the settings nor
the pool keep an acquisition from being set going. -/
structure Causes (ending : Ending) (calls : List Call) : Prop where
  unallocated : ∀ error, ending = .unallocated error → error = .usb .noMemory
  valid : ∀ error reason, ending = .unstarted error → error ≠ .invalidSettings reason
  claimed : ending = .unstarted (.usb .invalidParam) → ∃ code,
    .claim Protocol.streamingInterface code ∈ calls ∧ UsbError.ofStackCode code = .invalidParam
  events : ∀ error written, ending = .streamed (.error (.events error)) written →
    ∃ cause, error = .usb cause

theorem causes_of_run {clock : Clock} {duration : Timespan} {ending : Ending}
    (hopen : DeviceLink.connect (script.foldl HostStack.cue {}) vendor product = .ok link)
    (hvalid : settings.validate = .ok ())
    (hrun : run clock duration (.new link settings sink) = some (ending, b)) :
    Causes ending b.session.transport.stack.calls := by
  obtain ⟨hfits, hsize⟩ := AcquisitionSettings.bounds_of_validate hvalid
  have hevents : ∀ error written, ending = .streamed (.error (.events error)) written →
      ∃ cause, error = .usb cause := by
    rintro error written rfl
    obtain ⟨started, last, stopped, hstreamed, -⟩ := streamed_of_run hrun
    exact error_of_streamUntil hstreamed.streams
  cases ends_of_run hrun with
  | unallocated hallocate =>
      refine ⟨?_, by simp, by simp, hevents⟩
      rintro error ⟨⟩
      exact Analyzer.error_of_allocate hsize hallocate
  | beyond _ _ => exact ⟨by simp, by simp, by simp, hevents⟩
  | streamed _ _ _ => exact ⟨by simp, by simp, by simp, hevents⟩
  | @unstarted allocated c cause hallocate hacquire =>
      have hrate : allocated.context.sampleRateHz < UInt32.size :=
        Analyzer.context_of_allocate hallocate ▸ hfits
      have hpool := (Analyzer.pooled_of_allocate hopen hallocate).isEmpty hsize
      obtain ⟨hreason, hclaim⟩ := Analyzer.error_of_acquire hrate hpool hacquire
      refine ⟨by simp, ?_, ?_, hevents⟩
      · rintro error reason ⟨⟩
        exact hreason reason
      · rintro ⟨⟩
        obtain ⟨t, ht⟩ := hclaim rfl
        obtain ⟨code, hcalls, hcode⟩ := DeviceLink.claimed_of_error ht
        have hlater := (Analyzer.stable_begins _).teardown (a := c) List.prefix_rfl
        exact ⟨code, hlater.subset (hcalls ▸ by simp), hcode⟩

end

end Capture

end LogicCapture
