/-
The timeouts with which transfers are submitted.

* `Timespan.saturated`: a length of time as 32 bits express it;
* `DeviceLink.timeoutMs_submission`: what a link tells the stack of a timeout;
* `AcquisitionSettings.timeouts_of_validate`: what the rules for settings make of the two timeouts;
* `HostStack.Submission.Timed`: a submission with the timeout that its contents are due;
* `DeviceLink.restricted_timed`: if an analyzer asks for no more than it does, all submissions are;
* `Analyzer.timed_of_run`: so they are in every run.
-/
import LogicCapture.Proofs.Analyzer.Requests
import LogicCapture.Proofs.Link.Returns
import LogicCapture.Proofs.Link.Submissions

namespace LogicCapture

open HostStack (Call Submission)

/-! ### Lengths of time in 32 bits -/

namespace Timespan

/-- The whole milliseconds. -/
def millis (t : Timespan) : Nat := t.nanoseconds / 1000000

/-- The whole milliseconds in 32 bits; the longest that they express stands for all beyond it. -/
def saturated (t : Timespan) : UInt32 :=
  if t.millis < UInt32.size then .ofNat t.millis else .ofNat (UInt32.size - 1)

lemma millis_ofMillis (ms : Nat) : (ofMillis ms).millis = ms := Nat.mul_div_cancel ms (by decide)

/-- Of a number of milliseconds 32 bits express as much as they reach. -/
lemma toNat_saturated (ms : Nat) : (ofMillis ms).saturated.toNat = min ms (UInt32.size - 1) := by
  rw [saturated, millis_ofMillis]
  split
  · rename_i hfits
    have hword : (UInt32.ofNat ms).toNat = ms := UInt32.toNat_ofNat_of_lt hfits
    omega
  · rename_i hlong
    have hword : (UInt32.ofNat (UInt32.size - 1)).toNat = UInt32.size - 1 := rfl
    omega

end Timespan

/-- **What the stack is told of a timeout** is as much of it as 32 bits express. -/
lemma DeviceLink.timeoutMs_submission (id : TransferId) (request : TransferRequest) :
    (submission id request).timeoutMs = (Timespan.ofMillis request.timeoutMs).saturated.toNat :=
  (Timespan.toNat_saturated request.timeoutMs).symm

/-- **The timeouts of settings that keep the rules**: both are those that have been set, as far as
32 bits reach, none is zero, and the stop command's is not the shorter one. -/
lemma AcquisitionSettings.timeouts_of_validate {settings : AcquisitionSettings}
    (h : settings.validate = .ok ()) :
    settings.commandTimeout.saturated.toNat = min settings.commandTimeoutMs (UInt32.size - 1) ∧
      settings.stopTimeout.saturated.toNat = min settings.stopTimeoutMs (UInt32.size - 1) ∧
      0 < settings.commandTimeout.saturated ∧
      settings.commandTimeout.saturated ≤ settings.stopTimeout.saturated := by
  have hcommand := Timespan.toNat_saturated settings.commandTimeoutMs
  have hstop := Timespan.toNat_saturated settings.stopTimeoutMs
  have hrules : settings.commandTimeoutMs ≠ 0 ∧
      settings.commandTimeoutMs ≤ settings.stopTimeoutMs := by
    rw [validate] at h
    split_ifs at h with hrate hchannels hpool hsize hzero hshort
    exact ⟨hzero, Nat.not_lt.mp hshort⟩
  refine ⟨hcommand, hstop, ?_, ?_⟩
  · rw [UInt32.lt_iff_toNat_lt, commandTimeout, hcommand]
    exact Nat.lt_min.mpr ⟨Nat.pos_of_ne_zero hrules.1, by decide⟩
  · rw [UInt32.le_iff_toNat_le, commandTimeout, stopTimeout, hcommand, hstop]
    omega

/-! ### The timeout that is due -/

/-- **The submission has the timeout that it is due**: samples may take as long as they like, the
stop command has its own limit, and other commands and the answers to them have theirs. -/
inductive HostStack.Submission.Timed (settings : AcquisitionSettings) (t : Submission) : Prop where
  | samples {endpoint} : t.kind = .bulkIn endpoint → t.timeoutMs = 0 → Timed settings t
  | stop : t.Sends stopPacket → t.timeoutMs = settings.stopTimeout.saturated.toNat →
      Timed settings t
  | command {packet} : t.Sends packet → packet ≠ stopPacket →
      t.timeoutMs = settings.commandTimeout.saturated.toNat → Timed settings t
  | answer : t.kind = .control → t.direction = .toHost →
      t.timeoutMs = settings.commandTimeout.saturated.toNat → Timed settings t

/-- What the call submits, if it submits anything, has the timeout that it is due. -/
def HostStack.Call.Timed (settings : AcquisitionSettings) : Call → Prop
  | submit t _ => t.Timed settings
  | _ => True

/-- **Everything that the stack has been asked for** has the timeout that it is due. -/
def DeviceLink.Punctual {H : Type} (settings : AcquisitionSettings) (l : DeviceLink H) : Prop :=
  ∀ t code, Call.submit t code ∈ l.stack.calls → t.Timed settings

variable {κ ω S : Type} {settings : AcquisitionSettings}

/-- What an analyzer asks for is submitted with the timeout that it is due. -/
lemma HostStack.Submission.timed_of_due {request : TransferRequest} (id : TransferId)
    (h : settings.Due request) : (DeviceLink.submission id request).Timed settings := by
  have htimeout := DeviceLink.timeoutMs_submission id request
  cases h with
  | stop => exact .stop (sends_command _ _ _ _ _ _) htimeout
  | command hpacket _ => exact .command (sends_command _ _ _ _ _ _) hpacket htimeout
  | answer _ => exact .answer rfl (direction_command _ _ _ _ _ _) htimeout
  | samples => exact .samples rfl (Nat.zero_min _)

/-- **If an analyzer asks for no more than it does**, all submissions have the timeout that they are
due, those of transfers that are armed again included. -/
theorem DeviceLink.restricted_timed [Consumer κ ω] (settings : AcquisitionSettings) :
    Transport.Restricted ω settings.Due
      (Abides (Call.Timed settings) [] : DeviceLink (Handler κ) → Prop) where
  toPassive := passive_abides [] fun call hcall => by
    cases call <;> trivial
  command h hdue := Abides.submit h (fun _ => Submission.timed_of_due _ hdue)
    fun hno => by cases hno
  slot h hdue := by
    cases hdue with
    | samples =>
        -- armed again, a transfer has another buffer, but the kind and the timeout that it had
        exact Abides.submit h (fun _ => Submission.timed_of_due _ .samples)
          fun _ _ _ => .samples rfl (Nat.zero_min _)
  claim _ h := h.claim fun _ => trivial
  release _ h := h.release fun _ => trivial

/-! ### Runs -/

namespace Analyzer

variable [SampleSink S] {script : List HostStack.Cue} {vendor product : UInt16}
  {link : DeviceLink (Handler StreamFormat)}

/-- **Every run is punctual.**  With settings that keep the rules, every run over a link comes to an
end, and at its end and once the analyzer has been disposed of, everything that the stack has been
asked for has the timeout that it is due.  That of a command is never zero, which would stand for no
limit at all, and that of the stop command is never below that of the others. -/
theorem timed_of_run
    (hopen : DeviceLink.connect (script.foldl HostStack.cue {}) vendor product = .ok link)
    (hvalid : settings.validate = .ok ()) (sink : S) (steps : List (Step HostStack.Cue)) :
    (settings.commandTimeout.saturated.toNat = min settings.commandTimeoutMs (UInt32.size - 1) ∧
      settings.stopTimeout.saturated.toNat = min settings.stopTimeoutMs (UInt32.size - 1) ∧
      0 < settings.commandTimeout.saturated ∧
      settings.commandTimeout.saturated ≤ settings.stopTimeout.saturated) ∧
    ∃ a, run steps (.new link settings sink) = some a ∧
      a.session.transport.Punctual settings ∧ a.dispose.session.transport.Punctual settings := by
  refine ⟨AcquisitionSettings.timeouts_of_validate hvalid, ?_⟩
  have hstart : link.Abides (Call.Timed settings) [] := by
    obtain ⟨howned, -, -, -, hcalls⟩ := DeviceLink.opened hopen
    exact ⟨by simp [howned], _, hcalls, by simp [Call.Timed]⟩
  have hrestricted := DeviceLink.restricted_timed (κ := StreamFormat) (ω := Feed S) settings
  obtain ⟨a, hrun⟩ := Option.isSome_iff_exists.mp (run_isSome (alert_new settings sink hopen) steps)
  have hend : a.session.transport.Abides (Call.Timed settings) [] :=
    hrestricted.run (fun cue h => h.congr (HostStack.cue_cases _ cue).1 rfl) ⟨rfl, rfl⟩ hstart hrun
  have hdisposed : a.dispose.session.transport.Abides (Call.Timed settings) [] :=
    hrestricted.toPassive.freeTransfers (hrestricted.toPassive.teardown hend)
  exact ⟨a, hrun, fun t code => hend.all (.submit t code),
    fun t code => hdisposed.all (.submit t code)⟩

/-- Settings with the shortest timeout for commands, and one for the stop command that 32 bits
cannot express. -/
def patientStop : AcquisitionSettings where
  transferPoolSize := 1
  transferBufferSize := 512
  commandTimeoutMs := 1
  stopTimeoutMs := 4294967296

/-- A stream is opened, its transfer is armed a second time, and the stream is stopped. -/
def stoppedStream : List (Step HostStack.Cue) :=
  [.cue (.control (some { status := 0 })),
    .cue (.control (some { status := 0, data := [64, 66, 15, 0, 0, 0, 0, 0, 0x82] })),
    .cue (.bulk { status := 0, data := [1] }), .call .acquire, .call (.poll 10), .call .stop]

theorem timed_stoppedStream : ∃ a,
    run stoppedStream (.new (DeviceLink.onePluggedLink _) patientStop ({} : SinkTrace)) = some a ∧
      a.session.transport.Punctual patientStop ∧
      a.session.transport.stack.calls.filterMap (fun
        | .submit t _ => some t.timeoutMs
        | _ => none) = [1, 1, 1, 0, 0, 4294967295] := by
  have hvalid : patientStop.validate = .ok () := by decide
  obtain ⟨-, a, hrun, hpunctual, -⟩ := timed_of_run (DeviceLink.connect_onePlugged _) hvalid
    ({} : SinkTrace) stoppedStream
  have htimeouts : (run stoppedStream
      (.new (DeviceLink.onePluggedLink _) patientStop ({} : SinkTrace))).map (fun a =>
        a.session.transport.stack.calls.filterMap fun
          | .submit t _ => some t.timeoutMs
          | _ => none) = some [1, 1, 1, 0, 0, 4294967295] := by decide +kernel
  rw [hrun] at htimeouts
  exact ⟨a, hrun, hpunctual, Option.some.inj htimeouts⟩

end Analyzer

end LogicCapture
