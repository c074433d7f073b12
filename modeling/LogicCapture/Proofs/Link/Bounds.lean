/-
The bounds of buffers: what the stack may use of them, and what of them is handed on.

* `HostStack.Submission.Measured`: the stack may use just the buffer, and the header of a control
  transfer says so too;
* `HostStack.Submission.measured_of_framed`: what pools and control transfers ask for is measured;
* `DeviceLink.Owned.measured_filled`: a transfer stays so, whatever is written into its buffer;
* `slice?`, `HostStack.Submission.Sliced`: what is handed on of a buffer lies within it;
* `HostStack.Submission.Measured.sliced`: it does if the transfer is measured, whatever status and
  length its completion reports;
* `DeviceLink.Gauged`: a link on which nothing else has been submitted; it stays so if nothing else
  is asked for (`DeviceLink.restricted_gauged`);
* `DeviceLink.bounded_of_run`: the links of pools and analyzers keep the bounds in every run.
-/
import LogicCapture.Proofs.Analyzer.Requests
import LogicCapture.Proofs.Link.Returns
import LogicCapture.Proofs.Session.Scripted
import LogicCapture.Proofs.Wire.Layout

namespace LogicCapture

open HostStack (Call Settled Submission)
open Session (controlBuffer controlRequest vendorSetup)

variable {κ ω σ H S : Type}

/-! ### Headers and lengths -/

/-- A header that has been read stands in eight bytes. -/
lemma SetupHeader.size_le_of_parse {bytes : Bytes} {header : SetupHeader}
    (h : parse bytes = .ok header) : size ≤ bytes.length := by
  by_contra hshort
  rw [parse_of_short (Nat.not_le.mp hshort)] at h
  cases h

/-- What is written behind the header leaves it as it is. -/
lemma SetupHeader.parse_overwrite (bytes data : Bytes) :
    parse (overwrite bytes size data) = parse bytes := by
  rcases Nat.lt_or_ge bytes.length size with hshort | hlong
  · rw [parse_of_short hshort, parse_of_short (by rwa [length_overwrite]), length_overwrite]
  · obtain ⟨header, hparse, hencode⟩ := encode_of_parse hlong
    rw [overwrite, ← hencode, List.append_assoc, parse_encode, hparse]

/-- The length of a control transfer is the one that its header announces. -/
lemma DeviceLink.length_submission {buffer : Bytes} {header : SetupHeader}
    (h : SetupHeader.parse buffer = .ok header) (id : TransferId) (ms : Nat) :
    (submission id ⟨.control, buffer, ms⟩).length = SetupHeader.size + header.length.toNat := by
  match buffer, h with
  | requestType :: request :: v₀ :: v₁ :: i₀ :: i₁ :: l₀ :: l₁ :: rest, h =>
      cases h
      have hlt : LittleEndian.decode [l₀, l₁] < 2 ^ 16 := LittleEndian.decode_lt [l₀, l₁]
      have hword := UInt16.toNat_ofNat_of_lt' hlt
      exact congrArg (SetupHeader.size + ·) hword.symm

/-- The buffer of a control transfer is its header and the data stage. -/
lemma Session.length_controlBuffer (request : UInt8) (value index : UInt16) {data : ControlData}
    (hfits : data.length < UInt16.size) :
    (controlBuffer (vendorSetup request value index data) data).length =
      SetupHeader.size + (vendorSetup request value index data).length.toNat := by
  have hword : (vendorSetup request value index data).length.toNat = data.length :=
    UInt16.toNat_ofNat_of_lt hfits
  cases data with
  | send bytes =>
      rw [hword, controlBuffer, List.length_append, SetupHeader.length_encode]
      rfl
  | receive buffer =>
      rw [controlBuffer, List.length_append, SetupHeader.length_encode, length_zeros]

/-! ### Measured transfers -/

/-- **The stack may use just the buffer**, the length of which its length field can express, and the
header of a control transfer announces the rest of the buffer. -/
structure HostStack.Submission.Measured (t : Submission) : Prop where
  length_eq : t.length = t.buffer.length
  expressible : t.length ≤ DeviceLink.maxLength
  announced : t.kind = .control → ∃ header, SetupHeader.parse t.buffer = .ok header ∧
    t.length = SetupHeader.size + header.length.toNat

/-- What pools and control transfers ask for. -/
inductive TransferRequest.Framed : TransferRequest → Prop where
  | samples {endpoint buffer ms} : Framed ⟨.bulkIn endpoint, buffer, ms⟩
  | command {request value index data ms} : data.length < UInt16.size →
      Framed (controlRequest request value index data ms)

namespace HostStack.Submission

/-- **What pools and control transfers ask for is measured**, if its buffer is not too long. -/
lemma measured_of_framed {request : TransferRequest} (h : request.Framed)
    (hfits : request.buffer.length ≤ DeviceLink.maxLength) (id : TransferId) :
    (DeviceLink.submission id request).Measured := by
  cases h with
  | samples => exact ⟨rfl, hfits, fun hno => by cases hno⟩
  | @command request value index data ms hdata =>
      have hparse := Session.parse_controlBuffer (vendorSetup request value index data) data
      have hlength := DeviceLink.length_submission hparse id ms
      have hbuffer := Session.length_controlBuffer request value index hdata
      have hwhole := hlength.trans hbuffer.symm
      exact ⟨hwhole, hwhole ▸ hfits, fun _ => ⟨_, hparse, hlength⟩⟩

/-- The data stage of a measured transfer begins within its buffer. -/
lemma Measured.offset_le {t : Submission} (h : t.Measured) : t.offset ≤ t.buffer.length := by
  rw [offset]
  split
  · exact Nat.zero_le _
  · rename_i hcontrol
    obtain ⟨header, hparse, -⟩ := h.announced hcontrol
    exact SetupHeader.size_le_of_parse hparse

end HostStack.Submission

/-- **Whatever is written into the buffer**, the transfer stays measured. -/
lemma DeviceLink.Owned.measured_filled {o : Owned H} (h : o.submission.Measured)
    (settled : Settled) : (o.filled settled).Measured where
  length_eq := h.length_eq.trans (length_overwrite _ _ _).symm
  expressible := h.expressible
  announced hcontrol := by
    obtain ⟨header, hparse, hlength⟩ := h.announced hcontrol
    have hoffset : o.submission.offset = SetupHeader.size := by
      rw [Submission.offset, show o.submission.kind = .control from hcontrol]
    refine ⟨header, ?_, hlength⟩
    rw [filled, hoffset]
    exact (SetupHeader.parse_overwrite _ _).trans hparse

/-! ### What is handed on -/

/-- The bytes from `first` up to `last`; `none` if they do not lie within the byte string. -/
def slice? (bytes : Bytes) (first last : Nat) : Option Bytes :=
  if first ≤ last ∧ last ≤ bytes.length then some (bytes.extract first last) else none

/-- A slice that lies within a byte string is found there. -/
lemma slice?_eq_some {bytes : Bytes} {first n : Nat} (h : first + n ≤ bytes.length) :
    slice? bytes first (first + n) = some ((bytes.drop first).take n) := by
  rw [slice?, if_pos ⟨Nat.le_add_right _ _, h⟩, List.extract_eq_take_drop,
    Nat.add_sub_cancel_left]

/-- The part of the buffer in which the data stage is. -/
def HostStack.Submission.dataStage (t : Submission) : Bytes := t.buffer.drop t.offset

/-- **What is handed on of the transfer**: whatever status, length and bytes its completion reports,
its handler is called with a slice that lies within the buffer.  It is the front of the data stage,
as much of it as is reported and as there is. -/
def HostStack.Submission.Sliced (H : Type) (t : Submission) : Prop :=
  ∀ (l : DeviceLink H) (handler : H) (settled : Settled) (code : Int) (rest : List Settled),
    l.awaiting settled.id = some ⟨t, handler⟩ →
    let filled := DeviceLink.Owned.filled ⟨t, handler⟩ settled
    filled.dataStage.length = t.room ∧ ∃ passed resume,
      DeviceLink.deliver code (settled :: rest) l =
        .call handler ⟨.ofCode settled.status, passed⟩ resume ∧
      slice? filled.buffer filled.offset
        (filled.offset + min settled.actual.toNat filled.dataStage.length) = some passed ∧
      passed = filled.dataStage.take (min (max settled.actual 0).toNat t.room)

/-- If the link has kept the transfer, its handler is called. -/
lemma DeviceLink.deliver_of_awaiting {l : DeviceLink H} {o : Owned H} {settled : Settled}
    (h : l.awaiting settled.id = some o) (code : Int) (rest : List Settled) :
    ∃ resume, deliver code (settled :: rest) l = .call o.handler (o.completion settled) resume := by
  have hsome : (l.owned.find? fun o => o.submission.id = settled.id) = some o := h
  rw [deliver]
  dsimp only
  rw [hsome]
  exact ⟨_, rfl⟩

/-- **A measured transfer is sliced within its buffer.** -/
theorem HostStack.Submission.Measured.sliced {t : Submission} (h : t.Measured) : t.Sliced H := by
  intro l handler settled code rest hfind filled
  have hfilled : filled.Measured := DeviceLink.Owned.measured_filled (o := ⟨t, handler⟩) h settled
  have hroom : filled.dataStage.length = t.room := by
    rw [dataStage, List.length_drop, ← hfilled.length_eq]
    rfl
  have hwithin : filled.offset + min settled.actual.toNat filled.dataStage.length ≤
      filled.buffer.length := by
    have hoffset := hfilled.offset_le
    rw [dataStage, List.length_drop]
    omega
  have hreceived : DeviceLink.received filled settled.actual =
      filled.dataStage.take (min settled.actual.toNat filled.dataStage.length) :=
    List.take_eq_take_min
  -- below zero both conversions come to zero
  have hclamped : (max settled.actual 0).toNat = settled.actual.toNat := by omega
  obtain ⟨resume, hcall⟩ := DeviceLink.deliver_of_awaiting hfind code rest
  refine ⟨hroom, DeviceLink.received filled settled.actual, resume, hcall, ?_, ?_⟩
  · rw [slice?_eq_some hwithin, hreceived]
    rfl
  · rw [hreceived, hroom, hclamped]

/-! ### Links on which nothing else is submitted -/

/-- **All that has been submitted is measured**, and what the link keeps has been submitted. -/
structure DeviceLink.Gauged (l : DeviceLink H) : Prop where
  measured : ∀ t code, Call.submit t code ∈ l.stack.calls → t.Measured
  submitted : ∀ o ∈ l.owned, ∃ code, Call.submit o.submission code ∈ l.stack.calls

namespace DeviceLink

namespace Gauged

variable {l l' : DeviceLink H}

/-- What the link keeps is measured. -/
lemma kept (h : l.Gauged) {o : Owned H} (ho : o ∈ l.owned) : o.submission.Measured := by
  obtain ⟨code, hcall⟩ := h.submitted o ho
  exact h.measured _ code hcall

/-- More calls leave it so if what they submit is measured. -/
lemma extend (h : l.Gauged) (more : List Call) (hcalls : l'.stack.calls = l.stack.calls ++ more)
    (hmore : ∀ t code, Call.submit t code ∈ more → t.Measured)
    (howned : ∀ o ∈ l'.owned, o ∈ l.owned ∨ ∃ code, Call.submit o.submission code ∈ more) :
    l'.Gauged where
  measured t code hcall := by
    rw [hcalls] at hcall
    exact (List.mem_append.mp hcall).elim (h.measured t code) (hmore t code)
  submitted o ho := by
    rw [hcalls]
    rcases howned o ho with hold | ⟨code, hnew⟩
    · obtain ⟨code, hcall⟩ := h.submitted o hold
      exact ⟨code, List.mem_append_left _ hcall⟩
    · exact ⟨code, List.mem_append_right _ hnew⟩

/-- So does a call that submits nothing. -/
lemma adds (h : l.Gauged) {kind : Call → Prop} (hadds : l.Adds kind l')
    (hkind : ∀ t code, ¬ kind (.submit t code)) (howned : l'.owned = l.owned) : l'.Gauged := by
  obtain hcalls | ⟨call, hcall, hcalls⟩ := hadds
  · exact h.extend [] (by rw [hcalls, List.append_nil]) (by simp)
      fun o ho => Or.inl (howned ▸ ho)
  · refine h.extend _ hcalls (fun t code ht => ?_) fun o ho => Or.inl (howned ▸ ho)
    exact absurd (List.mem_singleton.mp ht ▸ hcall) (hkind t code)

/-- So does the submission of a measured transfer. -/
lemma handed (h : l.Gauged) {t : Submission} (ht : t.Measured) (code : Int)
    (hcalls : l'.stack.calls = l.stack.calls ++ [.submit t code])
    (howned : ∀ o ∈ l'.owned, o ∈ l.owned ∨ o.submission = t) : l'.Gauged := by
  refine h.extend _ hcalls (fun t' code' hlast => ?_) fun o ho => (howned o ho).imp_right ?_
  · cases List.mem_singleton.mp hlast
    exact ht
  · rintro rfl
    exact ⟨code, List.mem_singleton_self _⟩

/-- **A submission** leaves it so if it asks for the like. -/
lemma submit (h : l.Gauged) {request : TransferRequest} (hframed : request.Framed)
    (id : TransferId) (handler : H) : (l.submit id request handler).2.Gauged := by
  -- the link itself refuses a buffer whose length the stack cannot be told
  rcases Nat.lt_or_ge maxLength request.buffer.length with hlong | hfits
  · have hrefused : (l.submit id request handler).2 = l := by
      rw [DeviceLink.submit, if_pos hlong]
      split <;> rfl
    rwa [hrefused]
  · have hmeasured := Submission.measured_of_framed hframed hfits id
    rcases hsubmit : l.submit id request handler with ⟨result, l'⟩
    obtain ⟨-, rfl⟩ | ⟨code, stack, -, hstack, ⟨-, -, rfl⟩ | ⟨-, -, rfl⟩⟩ := submit_cases hsubmit
    · exact h
    · refine h.handed hmeasured code ?_ fun o ho => Or.inl ?_
      · rw [stack_noteError]
        exact (HostStack.submit_cases hstack).1
      · rwa [owned_noteError] at ho
    · refine h.handed hmeasured code (HostStack.submit_cases hstack).1 fun o ho => ?_
      exact (List.mem_append.mp ho).imp_right fun hlast => by rw [List.mem_singleton.mp hlast]

end Gauged

end DeviceLink

/-- **Completions leave it so**: a transfer that is armed again is submitted with the same bounds.
-/
lemma Course.gauged_step {react : Reaction H σ} {c c' : Course H σ} (hstep : Step react c c')
    (h : c.link.Gauged) : c'.link.Gauged := by
  have hforget {l : DeviceLink H} (settled : Settled) (h : l.Gauged) :
      ((l.told settled).forget settled.id).Gauged := by
    refine h.extend _ (DeviceLink.calls_told l settled) (by simp) fun o ho => Or.inl ?_
    rw [DeviceLink.owned_forget_told] at ho
    exact (List.mem_filter.mp ho).1
  -- what is submitted again is the old transfer with the device's bytes in its data stage
  have hfilled {l : DeviceLink H} {settled : Settled} {o : DeviceLink.Owned H} (h : l.Gauged)
      (hfind : l.awaiting settled.id = some o) : (o.filled settled).Measured :=
    DeviceLink.Owned.measured_filled (h.kept (DeviceLink.mem_of_awaiting hfind).1) settled
  cases hstep with
  | @strayed settled rest l s _ =>
      exact h.extend [.complete settled.id settled.status] rfl (by simp)
        fun o ho => Or.inl ho
  | @ended settled rest l s => exact hforget settled h
  | @rearmed settled rest l s o rearm handler s' stack hfind _ _ hsubmit =>
      refine (hforget settled h).handed (hfilled h hfind) 0 (HostStack.submit_cases hsubmit).1
        fun o' ho' => ?_
      exact (List.mem_append.mp ho').imp_right fun hlast => by rw [List.mem_singleton.mp hlast]
  | @refused settled rest l s o rearm handler s' code stack _ _ _ hfind _ _ hsubmit =>
      refine (hforget settled h).handed (hfilled h hfind) code ?_ fun o' ho' =>
        Or.inl ?_
      · rw [DeviceLink.stack_noteError]
        exact (HostStack.submit_cases hsubmit).1
      · rwa [DeviceLink.owned_noteError] at ho'

namespace DeviceLink

/-- **If only such things are asked for**, the link stays gauged. -/
theorem restricted_gauged [Consumer κ ω] : Transport.Restricted ω TransferRequest.Framed
    (Gauged : DeviceLink (Handler κ) → Prop) where
  alloc {l} h := by
    have howned : l.alloc.2.owned = l.owned := by
      rcases halloc : l.alloc with ⟨result, l'⟩
      obtain ⟨answer, stack, -, rfl, -⟩ := alloc_cases halloc
      rfl
    exact h.adds (adds_alloc l) (by simp) howned
  cancel {l} id h := h.adds (adds_cancel l id) (by simp) (owned_cancel l id)
  free {l} id h := h.adds (adds_free l id) (by simp) (owned_free l id)
  events {s} ms h := by
    refine events_induction ms ?_ Course.gauged_step fun code h => ?_
    · rcases hpoll : s.transport.stack.poll ms with ⟨code, settled, stack⟩
      rw [polled, hpoll]
      exact h.extend _ (HostStack.poll_cases hpoll).1 (by simp) fun o ho => Or.inl ho
    · exact h.extend [] (by simp) (by simp) fun o ho => Or.inl (owned_closed _ code ▸ ho)
  command h hframed := h.submit hframed _ _
  slot h hframed := h.submit hframed _ _
  claim {l} interface h := by
    obtain ⟨-, -, -, -, howned, -⟩ := claim_cases l interface
    exact h.adds (adds_claim l interface) (by simp) howned
  release {l} interface h := by
    obtain ⟨-, -, -, -, howned, -⟩ := release_cases l interface
    exact h.adds (adds_release l interface) (by simp) howned

/-- A link that has just been opened is gauged. -/
lemma gauged_opened {script : List HostStack.Cue} {vendor product : UInt16} {l : DeviceLink H}
    (h : connect (script.foldl HostStack.cue {}) vendor product = .ok l) : l.Gauged := by
  obtain ⟨howned, -, -, -, hcalls⟩ := opened h
  exact ⟨by simp [hcalls, openCalls], by simp [howned]⟩

/-- New script entries are no calls. -/
lemma gauged_cue {l : DeviceLink (Handler κ)} (cue : HostStack.Cue) (h : l.Gauged) :
    (Scripted.cue l cue).Gauged :=
  h.extend [] (by rw [List.append_nil]; exact (HostStack.cue_cases l.stack cue).1) (by simp)
    fun o ho => Or.inl ho

end DeviceLink

/-! ### Runs -/

/-- What an analyzer asks for is of this kind. -/
lemma AcquisitionSettings.Due.framed {settings : AcquisitionSettings} {request : TransferRequest}
    (h : settings.Due request) : request.Framed := by
  cases h with
  | stop => exact .command (by decide)
  | command _ hfits => exact .command hfits
  | answer hfits => exact .command hfits
  | samples => exact .samples

/-- So is what a pool and the control transfers beside it ask for. -/
lemma Pool.Step.Asks.framed {C : Type} {bufferSize : Nat} {step : Pool.Step κ C}
    {request : TransferRequest} (h : step.Asks bufferSize request) : request.Framed := by
  cases h with
  | slot => exact .samples
  | command hfits => exact .command hfits

namespace DeviceLink

/-- **Every transfer that is submitted is measured, and sliced within its buffer**; and nothing else
is in the keeping of the link. -/
def Bounded (l : DeviceLink H) : Prop :=
  (∀ t code, Call.submit t code ∈ l.stack.calls → t.Measured ∧ t.Sliced H) ∧
    ∀ o ∈ l.owned, ∃ code, Call.submit o.submission code ∈ l.stack.calls

lemma Gauged.bounded {l : DeviceLink H} (h : l.Gauged) : l.Bounded :=
  ⟨fun t code hcall => ⟨h.measured t code hcall, (h.measured t code hcall).sliced⟩, h.submitted⟩

/-- **The bounds are kept over every link.**  In the life of every pool, with control transfers of
all lengths, event passes and every consumer, and in every run of an analyzer until it has been
disposed of, the stack is told of each transfer to use just its buffer; and whatever the completion
of such a transfer reports, what is handed on lies within the buffer and is the front of the data
stage. -/
theorem bounded_of_run (script : List HostStack.Cue) (vendor product : UInt16) :
    (∀ {κ ω : Type} [Consumer κ ω] {link : DeviceLink (Handler κ)} (bufferSize : Nat) (shared : ω)
        (steps : List (Pool.Step κ HostStack.Cue)),
      connect (script.foldl HostStack.cue {}) vendor product = .ok link →
        ∃ (p : Pool) (s : Session (DeviceLink (Handler κ)) ω),
          Pool.run steps (.empty bufferSize) (.start link shared) = some (p, s) ∧
            s.transport.Bounded) ∧
      ∀ {S : Type} [SampleSink S] {link : DeviceLink (Handler StreamFormat)}
        (settings : AcquisitionSettings) (sink : S) (steps : List (Analyzer.Step HostStack.Cue)),
      connect (script.foldl HostStack.cue {}) vendor product = .ok link →
        ∃ a, Analyzer.run steps (.new link settings sink) = some a ∧
          a.session.transport.Bounded ∧ a.dispose.session.transport.Bounded := by
  constructor
  · intro κ ω _ link bufferSize shared steps hopen
    have halert : Pool.Alert (.empty bufferSize) (.start link shared) :=
      ⟨Pool.Linked.start bufferSize shared hopen, Alert.opened hopen⟩
    obtain ⟨⟨p, s⟩, hrun⟩ := Option.isSome_iff_exists.mp (Pool.run_isSome halert steps)
    have hstart : (Session.start link shared).transport.Gauged := gauged_opened hopen
    have hend : s.transport.Gauged := restricted_gauged.poolRun gauged_cue
      (fun _ _ _ hasks => hasks.framed) hstart hrun
    exact ⟨p, s, hrun, hend.bounded⟩
  · intro S _ link settings sink steps hopen
    have hrestricted : Transport.Restricted (Feed S) settings.Due
        (Gauged : DeviceLink (Handler StreamFormat) → Prop) :=
      restricted_gauged.mono fun _ hdue => hdue.framed
    obtain ⟨a, hrun⟩ := Option.isSome_iff_exists.mp
      (Analyzer.run_isSome (Analyzer.alert_new settings sink hopen) steps)
    have hend : a.session.transport.Gauged :=
      hrestricted.run gauged_cue ⟨rfl, rfl⟩ (gauged_opened hopen) hrun
    have hdisposed : a.dispose.session.transport.Gauged :=
      hrestricted.toPassive.freeTransfers (hrestricted.toPassive.teardown hend)
    exact ⟨a, hrun, hend.bounded, hdisposed.bounded⟩

/-- One slot, of whose buffer less than nothing and then more than there is are reported, and a
control transfer of which more is reported than it has asked for. -/
def misreported : List (Pool.Step Recorder HostStack.Cue) :=
  [.allocate 1, .arm 0x81 ⟨0, .constant (.always .resubmit)⟩,
    .cue (.bulk { status := 0, actual := some (-1), data := [1] }), .pass 10,
    .cue (.bulk { status := 0, actual := some 2147483647, data := [2] }), .pass 10,
    .cue (.control (some { status := 0, actual := some 999, data := [7, 8, 9, 10] })),
    .transfer 0x65 0 1 (.receive (zeros 3)) 100]

theorem bounded_misreported :
    (∃ (p : Pool) (s : Session (DeviceLink (Handler Recorder)) (List Recorder.Call)),
      Pool.run misreported (.empty 2) (.start (onePluggedLink _) []) = some (p, s) ∧
        s.transport.Bounded ∧ s.host.shared.map (·.completion.data) = [[], [2, 0]] ∧
        s.transport.stack.calls.filterMap (fun
          | .submit t _ => some t.length
          | _ => none) = [2, 2, 2, 11]) ∧
      ∃ a, Analyzer.run [.call .version, .call .stop]
          (.new (onePluggedLink _) {} ({} : SinkTrace)) = some a ∧
        a.session.transport.Bounded ∧ a.dispose.session.transport.Bounded := by
  refine ⟨?_, (bounded_of_run onePlugged 1 2).2 ({} : AcquisitionSettings) ({} : SinkTrace)
    [.call .version, .call .stop] (connect_onePlugged _)⟩
  obtain ⟨p, s, hrun, hbounded⟩ := (bounded_of_run onePlugged 1 2).1 2 ([] : List Recorder.Call)
    misreported (connect_onePlugged _)
  have hend : (Pool.run (τ := DeviceLink (Handler Recorder)) misreported (.empty 2)
      (.start (onePluggedLink _) ([] : List Recorder.Call))).map (fun r =>
        (r.2.host.shared.map (·.completion.data), r.2.transport.stack.calls.filterMap fun
          | .submit t _ => some t.length
          | _ => none)) = some ([[], [2, 0]], [2, 2, 2, 11]) := by decide +kernel
  rw [hrun] at hend
  obtain ⟨hdata, hlengths⟩ := Prod.mk.inj (Option.some.inj hend)
  exact ⟨p, s, hrun, hbounded, hdata, hlengths⟩

end DeviceLink

end LogicCapture
