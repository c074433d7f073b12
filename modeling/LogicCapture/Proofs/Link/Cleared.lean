/-
A control transfer that succeeds leaves nothing in the keeping of its link.

* `DeviceLink.Alone`: of the transfers on a link there is at most the one that is waited for, and
  when it has been reported it is gone;
* `Course.alone_step`: completions keep it so;
* `Session.cleared_of_controlTransfer`, `Session.cleared_of_execute`: control transfers and commands
  that succeed leave a link as empty as they find it.
-/
import LogicCapture.Proofs.Link.Replies

namespace LogicCapture

variable {κ ω : Type}

namespace DeviceLink

/-- **At most the transfer that is waited for** is in the keeping of the link; it is there until it
has been reported. -/
structure Alone (l : DeviceLink (Handler κ)) (host : Host ω) : Prop where
  waiting : host.reply = none → ∃ o, l.owned = [o] ∧ o.handler = .control host.ticket
  reported : host.reply ≠ none → l.owned = []

lemma Alone.congr {l l' : DeviceLink (Handler κ)} {host : Host ω} (h : l.Alone host)
    (howned : l'.owned = l.owned) : l'.Alone host := by
  obtain ⟨hwaiting, hreported⟩ := h
  exact ⟨howned ▸ hwaiting, howned ▸ hreported⟩

lemma Alone.controls {l : DeviceLink (Handler κ)} {host : Host ω} (h : l.Alone host) :
    l.Controls host.ticket := by
  intro o ho
  cases hreply : host.reply with
  | none =>
      obtain ⟨o', howned, hhandler⟩ := h.waiting hreply
      rw [howned] at ho
      exact ⟨_, Nat.le_refl _, List.mem_singleton.mp ho ▸ hhandler⟩
  | some completion =>
      rw [h.reported (by simp [hreply])] at ho
      cases ho

end DeviceLink

namespace Course

variable [Consumer κ ω] {c c' : Course (Handler κ) (Host ω)}

/-- **The completion that comes** is that of the transfer that is waited for. -/
theorem alone_step (hstep : Step Handler.react c c') (hexact : c.link.Exact c.queue)
    (h : c.link.Alone c.state) : c'.link.Alone c'.state := by
  obtain ⟨settled, o, n, -, hfind, hn, hlink, hstate⟩ := control_step hstep hexact h.controls
  obtain ⟨ho, hid⟩ := DeviceLink.mem_of_awaiting hfind
  cases hreply : c.state.reply with
  | some completion =>
      rw [h.reported (by simp [hreply])] at ho
      cases ho
  | none =>
      obtain ⟨o', howned, hhandler⟩ := h.waiting hreply
      obtain rfl : o = o' := by
        rw [howned] at ho
        exact List.mem_singleton.mp ho
      obtain rfl : n = c.state.ticket := Handler.control.inj (hn.symm.trans hhandler)
      have hgone : c'.link.owned = [] := by
        rw [hlink, DeviceLink.owned_forget_told, howned]
        simp [hid]
      have hnote : c'.state.reply ≠ none := by
        rw [hstate, Host.note, if_pos ⟨rfl, hreply⟩]
        simp
      exact ⟨fun hno => absurd hno hnote, fun _ => hgone⟩

end Course

namespace Session

/-! ### Control transfers -/

variable [Consumer κ ω] {s s' : Session (DeviceLink (Handler κ)) ω}

/-- **The link is in order and empty.** -/
structure Cleared (s : Session (DeviceLink (Handler κ)) ω) : Prop where
  exact : s.transport.Exact []
  owned : s.transport.owned = []

/-- While a call on an empty link waits, its transfer is alone. -/
lemma awaited_alone : Awaited fun _ (s : Session (DeviceLink (Handler κ)) ω) =>
    s.transport.Exact [] ∧ s.transport.Alone s.host where
  passed {id s ms} h := by
    obtain ⟨l', host', hsteps, hrun⟩ := DeviceLink.run_events Handler.react s.transport ms s.host
    have hend := hsteps.induction (R := fun c => c.link.Exact c.queue ∧ c.link.Alone c.state)
      (fun hstep hc => ⟨Course.exact_step hstep hc.1, Course.alone_step hstep hc.1 hc.2⟩)
      ⟨h.1.polled ms s.host, h.2.congr rfl⟩
    refine ⟨h.1.passed Handler.react ms s.host, ?_⟩
    have hevents : s.events ms = _ := congrArg (fun r : _ × _ × _ =>
      (r.1, (⟨r.2.1, r.2.2⟩ : Session (DeviceLink (Handler κ)) ω))) hrun
    rw [hevents]
    exact hend.2.congr (DeviceLink.owned_closed _ _)
  cancelled {id s} h := by
    rcases hcancel : s.transport.cancel id with ⟨result, l⟩
    have howned := s.transport.owned_cancel id
    have hexact := h.1.cancel hcancel
    have hrun : Transport.cancel s.transport id = (result, l) := hcancel
    rw [hcancel] at howned
    rw [hrun]
    exact ⟨hexact, h.2.congr howned⟩

/-- **A control transfer that succeeds** leaves an empty link empty. -/
theorem cleared_of_controlTransfer {request : UInt8} {value index : UInt16} {data : ControlData}
    {ms n : Nat} {result : ControlResult} (h : s.Cleared)
    (hrun : s.controlTransfer request value index data ms = some (result, s'))
    (hok : result.result = .ok n) : s'.Cleared := by
  obtain ⟨id, l, l', outcome, s₁, halloc, hsubmit, hwait, rfl, rfl⟩ :=
    controlTransfer_of_ok hrun hok
  obtain ⟨c, rfl, hstatus⟩ := status_of_conclude hok
  obtain ⟨rfl, stack, rfl, -, -, hnext⟩ := DeviceLink.alloc_ok halloc
  have hexact := (h.exact.alloc halloc).submit (by rw [hnext]; exact Nat.lt_succ_self _) hsubmit
  have halone : l'.Alone s.host.expect := by
    obtain ⟨⟨_, hno⟩, -⟩ | ⟨code, stack', -, -, ⟨-, hno, -⟩ | ⟨-, -, rfl⟩⟩ :=
      DeviceLink.submit_cases hsubmit
    · cases hno
    · cases hno
    · exact ⟨fun _ => ⟨_, by rw [h.owned, List.nil_append], rfl⟩, fun hno => absurd rfl hno⟩
  obtain ⟨hexact₁, halone₁⟩ := awaited_alone.await ⟨hexact, halone⟩ hwait
  have hreply := reply_of_await hwait hstatus
  exact ⟨hexact₁.free _, (DeviceLink.owned_free _ _).trans (halone₁.reported (by simp [hreply]))⟩

/-- **So does a command that succeeds.** -/
theorem cleared_of_execute {packet : CommandPacket} {response : Option Bytes} {ms n : Nat}
    {answer : CommandResult} (h : s.Cleared)
    (hrun : s.execute packet response ms = some (answer, s')) (hok : answer.result = .ok n) :
    s'.Cleared := by
  cases executes_of_execute hrun with
  | unsent => cases hok
  | sent hsend hsent => exact cleared_of_controlTransfer h hsend hsent
  | read hsend hsent _ hread =>
      exact cleared_of_controlTransfer (cleared_of_controlTransfer h hsend hsent) hread hok

end Session

end LogicCapture
