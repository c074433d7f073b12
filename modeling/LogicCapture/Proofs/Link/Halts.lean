/-
The calls by which a device is halted.

* `HostStack.Call.isHalting`: an interface is given back, or a command is submitted;
* `DeviceLink.Unhalted`: none of the calls since then is one of these;
* `DeviceLink.spared_unhalted`: event passes and the transfers of a pool leave it so;
* `Analyzer.stable_begins`, `Analyzer.begins_of_stop`: calls are only added to the list, and a stop
  adds first that the streaming interface is given back.
-/
import LogicCapture.Proofs.Link.Loss
import LogicCapture.Proofs.Link.Submissions

namespace LogicCapture

variable {κ ω H S : Type}

/-- The call has a part in halting a device: it gives an interface back, or submits a command. -/
def HostStack.Call.isHalting : HostStack.Call → Bool
  | release _ _ => true
  | call => call.isCommand

open HostStack (Call)

namespace DeviceLink

/-- **Nothing has halted the device** since the calls were these. -/
structure Unhalted (base : List Call) (l : DeviceLink (Handler κ)) : Prop where
  bulk : ∀ o ∈ l.owned, o.handler.key.isSome = true → o.submission.kind.isBulk = true
  since : ∃ more, l.stack.calls = base ++ more ∧ ∀ call ∈ more, call.isHalting = false

/-- It is a law that the calls keep. -/
lemma unhalted_iff_abides {base : List Call} {l : DeviceLink (Handler κ)} :
    l.Unhalted base ↔ l.Abides (fun call => call.isHalting = false) base := by
  constructor
  · rintro ⟨hbulk, hsince⟩
    refine ⟨fun o ho hkey buffer code => ?_, hsince⟩
    simp [Call.isHalting, Call.isCommand, hbulk o ho hkey]
  · rintro ⟨hrenewable, hsince⟩
    refine ⟨fun o ho hkey => ?_, hsince⟩
    simpa [Call.isHalting, Call.isCommand] using hrenewable o ho hkey o.submission.buffer 0

/-- An alert link is one on which nothing has happened yet. -/
lemma Unhalted.refl {l : DeviceLink (Handler κ)} (h : l.Alert) : l.Unhalted l.stack.calls :=
  ⟨h.bulk, [], by simp, by simp⟩

/-- **Nothing that a pool does halts the device**, and no event pass does. -/
theorem spared_unhalted [Consumer κ ω] (base : List Call) :
    Transport.Spared ω (Unhalted base : DeviceLink (Handler κ) → Prop) := by
  have hpassive (call : Call) (h : call.isPassive = true) : call.isHalting = false := by
    cases call <;> first | rfl | cases h
  have hsame : (Unhalted base : DeviceLink (Handler κ) → Prop) =
      Abides (fun call => call.isHalting = false) base :=
    funext fun l => propext unhalted_iff_abides
  rw [hsame]
  refine ⟨passive_abides base hpassive, fun {l id endpoint buffer ms handler} h => ?_⟩
  exact Abides.submit h (fun _ => rfl) fun _ _ _ => rfl

end DeviceLink

/-! ### Later calls come later -/

namespace Analyzer

variable [SampleSink S]

/-- Calls are only added to the list. -/
lemma stable_begins (base : List Call) :
    Stable fun a : Plugged S => base <+: a.session.transport.stack.calls :=
  (DeviceLink.evolves_grows.upheld (W := fun l : DeviceLink (Handler StreamFormat) =>
      base <+: l.stack.calls) fun ⟨more, hmore, _⟩ hbase => hbase.trans ⟨more, hmore.symm⟩).stable
    (C := HostStack.Cue) fun {_ s} cue hbase =>
      (HostStack.cue_cases s.transport.stack cue).1.symm ▸ hbase

/-- **A stop gives the streaming interface back** before it does anything else. -/
lemma begins_of_stop {a b : Plugged S} {result : Except CaptureError Unit}
    (h : a.stop = some (result, b)) : ∃ code, a.session.transport.stack.calls ++
      [.release Protocol.streamingInterface code] <+: b.session.transport.stack.calls := by
  obtain ⟨answer, session, hsent, -, rfl⟩ := stop_eq_some.mp h
  obtain ⟨code, stack, hrelease, hstack, -⟩ :=
    DeviceLink.release_cases a.session.transport Protocol.streamingInterface
  have hcalls : a.halted.transport.stack.calls =
      a.session.transport.stack.calls ++ [.release Protocol.streamingInterface code] := by
    rw [← (HostStack.release_cases hrelease).1, ← hstack]
    rfl
  have hlater : a.halted.transport.stack.calls <+: session.transport.stack.calls :=
    (stable_begins _).exchange (a := { a with session := a.halted }) List.prefix_rfl hsent
  exact ⟨code, hcalls ▸ hlater⟩

/-- So does a cancellation, once it has asked for the completion of what is armed. -/
lemma begins_of_cancel {a b : Plugged S} {result : Except CaptureError Unit}
    (h : a.cancel = some (result, b)) : ∃ before code, a.session.transport.stack.calls ++ before ++
      [.release Protocol.streamingInterface code] <+: b.session.transport.stack.calls := by
  have hcancelled := (stable_begins a.session.transport.stack.calls).cancelAll (a := a)
    List.prefix_rfl
  obtain ⟨before, hbefore⟩ := hcancelled
  obtain ⟨code, hcode⟩ :=
    begins_of_stop (a := { a with session := (a.pool.cancelAll a.session).2 }) h
  exact ⟨before, code, hbefore ▸ hcode⟩

end Analyzer

end LogicCapture
