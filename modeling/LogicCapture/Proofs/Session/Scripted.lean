/-
Control transfers on a bench, as its script has them.

* `Bench.Reply.ending`: how a control transfer ends, after how many passes and with how many
  cancellations, as told by the device's answer and the events to come;
* `Session.Waits`: the latest control transfer is in flight, and what an event makes of that;
* `Session.Waits.await_of_ending`, `Session.Waits.await_of_endless`: waiting for it follows the
  script;
* `Session.Ready`: what the script asks of the next control transfer;
* `Session.result_of_controlTransfer`: a control transfer that succeeds brings what the device
  answers;
* `Session.controlTransfer_scripted`: the whole transfer follows the script.
-/
import LogicCapture.Proofs.Bench.Events
import LogicCapture.Proofs.Pool.Held
import LogicCapture.Proofs.Wire.Packet
import LogicCapture.Usb.Recorder

namespace LogicCapture

variable {κ ω H : Type}

/-! ### What the script says -/

namespace ControlData

/-- The data stage of a transfer that the device answers with `response`. -/
def answered (response : Bytes) : ControlData → Bytes
  | send bytes => bytes
  | receive buffer => response.take buffer.length

end ControlData

namespace Bench

/-- How a control transfer ends, after how many event passes and with how many cancellations. -/
structure Ending where
  result : ControlResult
  passes : Nat
  cancels : Nat

/-- One more pass goes by first. -/
def Ending.later (e : Ending) : Ending := { e with passes := e.passes + 1 }

namespace Reply

/-- What the caller gets out of a control transfer that the device answers in this way, if that
completes it: all bytes have been sent, or as many have been received as there are and fit. -/
def result (data : ControlData) : Reply → Option ControlResult
  | .respond response =>
    match data with
    | .send bytes => some ⟨.ok bytes.length, bytes⟩
    | .receive buffer =>
      some ⟨.ok (min response.length buffer.length),
        response.take buffer.length ++ buffer.drop response.length⟩
  | .status outcome => some ⟨outcome.toResult.map fun _ => 0, data.bytes⟩
  | .reject _ => none
  | .hang => none

/-- A control transfer that is answered in this way is still waited for after such an event. -/
def outlasts (reply : Reply) : Event → Bool
  | .dispatch => reply = hang
  | .fail error => error = .interrupted
  | .detach => false

/-- **How a control transfer ends** that is answered in this way, by the first event of the script
that it does not outlast; without such an event it never ends.  When the script is over, every pass
completes what can complete. -/
def ending (data : ControlData) (script : List Event) (reply : Reply) : Option Ending :=
  match reply with
  | reject error => some ⟨⟨.error error, data.bytes⟩, 0, 0⟩
  | reply =>
    let outlasted := (script.takeWhile reply.outlasts).length
    match script[outlasted]?.getD .dispatch with
    | .dispatch => (reply.result data).map (⟨·, outlasted + 1, 0⟩)
    | .fail error => some ⟨⟨.error error, data.bytes⟩, outlasted + 1, 1⟩
    | .detach => some ⟨⟨.error .noDevice, data.bytes⟩, outlasted + 1, 0⟩

variable {data : ControlData} {reply : Reply} {event : Event} {script : List Event}

/-- A transfer that has been accepted ends with the next event, unless it outlasts that. -/
lemma ending_step (hreply : ∀ error, reply ≠ reject error) (script : List Event) :
    reply.ending data script =
      let event := script.head?.getD .dispatch
      if reply.outlasts event then (reply.ending data script.tail).map Ending.later
      else match event with
        | .dispatch => (reply.result data).map (⟨·, 1, 0⟩)
        | .fail error => some ⟨⟨.error error, data.bytes⟩, 1, 1⟩
        | .detach => some ⟨⟨.error .noDevice, data.bytes⟩, 1, 0⟩ := by
  rw [ending.eq_2 _ _ _ fun error heq => hreply error heq,
    ending.eq_2 _ _ _ fun error heq => hreply error heq]
  cases script with
  | nil => cases reply <;> simp [outlasts, result]
  | cons event rest =>
      by_cases h : reply.outlasts event = true
      · simp only [List.head?_cons, Option.getD_some, h, if_true, List.takeWhile_cons_of_pos h,
          List.length_cons, List.getElem?_cons_succ, List.tail_cons]
        cases rest[(rest.takeWhile reply.outlasts).length]?.getD .dispatch with
        | dispatch => simp only [Option.map_map]; rfl
        | fail error => rfl
        | detach => rfl
      · simp only [List.head?_cons, Option.getD_some, h, List.takeWhile_cons_of_neg h]
        rfl

/-- **A control transfer never ends** exactly if the device keeps it pending and no event fails
but for interruptions. -/
theorem ending_eq_none_iff : reply.ending data script = none ↔
    reply = hang ∧ ∀ event ∈ script, event = .dispatch ∨ event = .fail .interrupted := by
  by_cases hreply : ∃ error, reply = reject error
  · obtain ⟨error, rfl⟩ := hreply
    simp [ending]
  · have hreply' : ∀ error, reply ≠ reject error := fun error heq => hreply ⟨error, heq⟩
    have hresult : reply.result data = none ↔ reply = hang := by
      cases reply with
      | respond response => cases data <;> simp [result]
      | status outcome => simp [result]
      | reject error => exact absurd rfl (hreply' error)
      | hang => simp [result]
    induction script with
    | nil => simp [ending.eq_2 _ _ _ fun error heq => hreply' error heq, hresult]
    | cons event script ih =>
        rw [ending_step hreply']
        cases event with
        | dispatch =>
            obtain rfl | hhang := eq_or_ne reply hang
            · simp [outlasts, ih]
            · simp [outlasts, hhang, hresult]
        | fail error => by_cases herror : error = .interrupted <;> simp [outlasts, herror, ih]
        | detach => simp [outlasts]

/-- A transfer that ends does so at the latest with the first pass after the script. -/
lemma passes_le {e : Ending} (h : reply.ending data script = some e) :
    e.passes ≤ script.length + 1 := by
  have houtlasted : (script.takeWhile reply.outlasts).length ≤ script.length :=
    (List.takeWhile_sublist _).length_le
  cases reply with
  | reject error =>
      cases h
      exact Nat.zero_le _
  | respond _ | status _ | hang =>
      rw [ending.eq_2 _ _ _ (by simp)] at h
      split at h
      · obtain ⟨result, -, rfl⟩ := Option.map_eq_some_iff.mp h
        exact Nat.succ_le_succ houtlasted
      · cases h
        exact Nat.succ_le_succ houtlasted
      · cases h
        exact Nat.succ_le_succ houtlasted

/-- A control transfer that ends well ends with what the device answers. -/
lemma result_of_ending {e : Ending} {n : Nat} (h : reply.ending data script = some e)
    (hok : e.result.result = .ok n) : reply.result data = some e.result := by
  by_cases hreply : ∃ error, reply = reject error
  · obtain ⟨error, rfl⟩ := hreply
    cases h
    cases hok
  · rw [ending.eq_2 _ _ _ fun error heq => hreply ⟨error, heq⟩] at h
    split at h
    · obtain ⟨result, hresult, rfl⟩ := Option.map_eq_some_iff.mp h
      exact hresult
    · cases h
      cases hok
    · cases h
      cases hok

/-- **Every error has its reason in the script**: the device rejects the transfer or ends it with
the status that stands for the error, an event fails with it, or the device is unplugged. -/
lemma error_of_ending {e : Ending} {error : UsbError} (h : reply.ending data script = some e)
    (herror : e.result.result = .error error) :
    reply = reject error ∨ (∃ outcome, reply = status outcome ∧ outcome.toResult = .error error) ∨
      .fail error ∈ script ∨ .detach ∈ script ∧ error = .noDevice := by
  by_cases hreply : ∃ error, reply = reject error
  · obtain ⟨rejected, rfl⟩ := hreply
    cases h
    cases herror
    exact Or.inl rfl
  · rw [ending.eq_2 _ _ _ fun error heq => hreply ⟨error, heq⟩] at h
    -- an event that is not a dispatch is one of the script's
    have hmem {n : Nat} {event : Event} (hevent : script[n]?.getD .dispatch = event)
        (hne : event ≠ .dispatch) : event ∈ script := by
      cases hget : script[n]? with
      | none => exact absurd (by rw [← hevent, hget]; rfl) hne
      | some found =>
          rw [hget, Option.getD_some] at hevent
          exact hevent ▸ List.mem_of_getElem? hget
    split at h
    · obtain ⟨result, hresult, rfl⟩ := Option.map_eq_some_iff.mp h
      cases reply with
      | respond response => cases data <;> cases hresult <;> cases herror
      | status outcome =>
          refine Or.inr (Or.inl ⟨outcome, rfl, ?_⟩)
          cases hresult
          cases houtcome : outcome.toResult with
          | ok done => simp [houtcome, Except.map] at herror
          | error failed => simpa [houtcome, Except.map] using herror
      | reject rejected => cases hresult
      | hang => cases hresult
    · rename_i hevent
      cases h
      cases herror
      exact Or.inr (Or.inr (Or.inl (hmem hevent (by simp))))
    · rename_i hevent
      cases h
      cases herror
      exact Or.inr (Or.inr (Or.inr ⟨hmem hevent (by simp), rfl⟩))

end Reply

end Bench

/-! ### Answers -/

namespace ControlData

/-- The device's answer completes a control transfer. -/
lemma answer_controlBuffer {data : ControlData} {request : UInt8} {value index : UInt16}
    {t : Bench.InFlight H} {response : Bytes} (hdata : data.length < UInt16.size)
    (hbuffer : t.buffer = Session.controlBuffer (Session.vendorSetup request value index data) data)
    (hreply : t.reply = some (.respond response)) :
    ∃ t', Bench.answer t = some (t', ⟨.completed, data.answered response⟩) := by
  have hhead : t.buffer.headD 0 = data.direction.vendorRequestType := by
    rw [hbuffer]
    cases data <;> rfl
  rw [Bench.answer, hreply]
  dsimp only
  rw [hhead, Direction.ofRequestType_vendorRequestType]
  cases data with
  | send bytes =>
      have hstage : t.buffer.drop SetupHeader.size = bytes := by
        rw [hbuffer, Session.controlBuffer, List.drop_left' (SetupHeader.length_encode _)]
      exact ⟨t, by simp only [direction, hstage, answered]⟩
  | receive buffer =>
      have hroom : t.buffer.length - SetupHeader.size = buffer.length := by
        have hlength : (UInt16.ofNat buffer.length).toNat = buffer.length :=
          UInt16.toNat_ofNat_of_lt hdata
        simp only [hbuffer, Session.controlBuffer, Session.vendorSetup, length, bytes, hlength,
          List.length_append, SetupHeader.length_encode, zeros, List.length_replicate]
        omega
      exact ⟨_, by simp only [direction, hroom, answered]; rfl⟩

/-- The caller gets the bytes of a response, as far as they fit. -/
lemma conclude_answered (data : ControlData) (response : Bytes) :
    some (Session.conclude data (.ok ⟨.completed, data.answered response⟩)) =
      Bench.Reply.result data (.respond response) := by
  cases data with
  | send bytes => rfl
  | receive buffer =>
      have htake : (response.take buffer.length).take buffer.length = response.take buffer.length :=
        List.take_of_length_le (List.length_take_le _ _)
      simp only [Session.conclude, TransferStatus.toResult, answered, Bench.Reply.result, overwrite,
        List.drop_zero, List.take_zero, List.nil_append, htake, List.length_take]
      congr 3
      · omega
      · rcases Nat.le_total response.length buffer.length with h | h
        · rw [Nat.min_eq_right h]
        · rw [Nat.min_eq_left h, List.drop_of_length_le h, List.drop_length]

/-- A transfer that ends without data leaves the caller's bytes alone. -/
lemma conclude_status (data : ControlData) (outcome : TransferStatus) :
    some (Session.conclude data (.ok ⟨outcome, []⟩)) =
      Bench.Reply.result data (.status outcome) := by
  cases outcome <;> cases data <;> simp [Session.conclude, TransferStatus.toResult,
    Bench.Reply.result, overwrite, bytes, Except.map]

/-- **What the caller gets out of a completion** is what the device's answer says. -/
lemma conclude_answer {data : ControlData} {request : UInt8} {value index : UInt16}
    {t : Bench.InFlight H} {reply : Bench.Reply} (hdata : data.length < UInt16.size)
    (hbuffer : t.buffer = Session.controlBuffer (Session.vendorSetup request value index data) data)
    (hreply : t.reply = some reply) :
    (Bench.answer t).map (fun e => Session.conclude data (.ok e.2)) = reply.result data := by
  cases reply with
  | respond response =>
      obtain ⟨t', hanswer⟩ := answer_controlBuffer hdata hbuffer hreply
      rw [hanswer]
      exact conclude_answered data response
  | status outcome =>
      rw [Bench.answer, hreply]
      exact conclude_status data outcome
  | reject error => rw [Bench.answer, hreply]; rfl
  | hang => rw [Bench.answer, hreply]; rfl

end ControlData

/-- **The device answers the control transfer in this way**: it has been accepted and not been
cancelled, and its completion is what the answer says. -/
structure Bench.InFlight.Answered (data : ControlData) (reply : Bench.Reply)
    (t : Bench.InFlight H) : Prop where
  accepted : ∀ error, reply ≠ .reject error
  kind : t.kind = .control
  unmarked : t.cancelled = false
  answer : (Bench.answer t).map (fun e => Session.conclude data (.ok e.2)) = reply.result data

/-- What becomes of such a transfer in a pass does not depend on the chunks. -/
lemma Bench.InFlight.Answered.settle_eq {data : ControlData} {reply : Bench.Reply}
    {t : Bench.InFlight H} (h : t.Answered data reply) (queue : List Bytes) :
    (Bench.settle t queue).1 = Bench.answer t := by
  simp [Bench.settle, h.unmarked, h.kind]

namespace Session

/-! ### Waiting -/

/-- **The latest control transfer is waited for**: it is the transfer `t`, in flight, with nothing
reported and nobody else to report, on a device that is there. -/
structure Waits (t : Bench.InFlight (Handler κ)) (s : Session (Bench (Handler κ)) ω) : Prop where
  attached : s.transport.attached = true
  handler : t.handler = .control s.host.ticket
  mem : t ∈ s.transport.inFlight
  only : ∀ t' ∈ s.transport.inFlight, t'.handler = t.handler → t' = t
  unreported : s.host.reply = none

/-- While a transfer of the latest control transfer is in flight, its handler has not been lost. -/
lemma isAbandoned_eq_false {t : Bench.InFlight (Handler κ)} {s : Session (Bench (Handler κ)) ω}
    (hmem : t ∈ s.transport.inFlight) (hhandler : t.handler = .control s.host.ticket) :
    s.isAbandoned = false := by
  have hhandlers : Transport.handlers s.transport = s.transport.inFlight.map (·.handler) := rfl
  rw [isAbandoned, hhandlers, List.all_map]
  refine List.all_eq_false.mpr ⟨t, hmem, ?_⟩
  simp [hhandler]

/-- Once the device has gone away, waiting for a transfer that has not been reported is over. -/
lemma await_of_gone [Consumer κ ω] {s : Session (Bench (Handler κ)) ω}
    (hunreported : s.host.reply = none) (hheld : s.isAbandoned = false)
    (hgone : s.transport.attached = false) (id : TransferId) (passes : Nat) :
    s.await id (passes + 1) = some (.ok ⟨.noDevice, []⟩, s) := by
  have hattached : Transport.attached s.transport = false := hgone
  rw [await, hunreported, hheld, hattached]
  rfl

namespace Waits

variable {t t' : Bench.InFlight (Handler κ)} {s s' : Session (Bench (Handler κ)) ω}
  {data : ControlData} {reply : Bench.Reply} {event : Bench.Event} {rest : List Bench.Event}

variable [Consumer κ ω]

/-- After a pass that succeeds, it is looked at again. -/
lemma await_of_ok (h : Waits t s) (hpass : s.events waitPassMs = (.ok (), s')) (id : TransferId)
    (passes : Nat) : s.await id (passes + 1) = s'.await id passes := by
  have hattached : Transport.attached s.transport = true := h.attached
  rw [await, h.unreported, isAbandoned_eq_false h.mem h.handler, hattached, hpass]
  rfl

/-- A pass that fails is tried again if it has been interrupted; else the transfer is cancelled. -/
lemma await_of_error {error : UsbError} (h : Waits t s)
    (hpass : s.events waitPassMs = (.error error, s')) (id : TransferId) (passes : Nat) :
    s.await id (passes + 1) = if error.isTransient then s'.await id passes
      else some (.error error, { s' with transport := (Transport.cancel s'.transport id).2 }) := by
  have hattached : Transport.attached s.transport = true := h.attached
  rw [await, h.unreported, isAbandoned_eq_false h.mem h.handler, hattached, hpass]
  rfl

/-- **A pass in which it is answered** reports it. -/
lemma reply_of_dispatch {result : ControlResult} (h : Waits t s) (ht : t.Answered data reply)
    (hdispatch : s.transport.script.head?.getD .dispatch = .dispatch)
    (hresult : reply.result data = some result) (ms : Nat) :
    ∃ c, (s.events ms).2.host.reply = some c ∧ conclude data (.ok c) = result := by
  obtain ⟨-, -, -, ready, pending, hset, hsteps⟩ := events_of_dispatch hdispatch ms
  obtain ⟨⟨t', c⟩, hanswer, hconclude⟩ := Option.map_eq_some_iff.mp (ht.answer.trans hresult)
  have hready : (t', c) ∈ ready := Bench.mem_ready_of_settle hset h.mem
    fun queue => (ht.settle_eq queue).trans hanswer
  have hhandler : t'.handler = .control s.host.ticket :=
    (Bench.InFlight.shape_inj (Bench.shape_of_answer hanswer)).2.2.1.trans h.handler
  have hdue : Line.Due s.host.ticket c ⟨ready, pending, s.host⟩ := by
    refine ⟨rfl, ?_, fun _ => ⟨(t', c), hready, hhandler⟩, by simp [h.unreported]⟩
    -- no other transfer in flight reports to this caller
    intro e he hcontrol
    obtain ⟨t₀, ht₀, queue, hsettled⟩ := (Bench.settling_of_settleAll hset).ready_settled e he
    have hsame : e.1.handler = t₀.handler :=
      (Bench.InFlight.shape_inj (Bench.shape_of_settled hsettled)).2.2.1
    obtain rfl := h.only t₀ ht₀ (hsame.symm.trans (hcontrol.trans h.handler.symm))
    rw [ht.settle_eq, hanswer] at hsettled
    cases hsettled
    rfl
  exact ⟨c, (hsteps.induction (fun hstep h => h.step hstep) hdue).reply_eq rfl, hconclude⟩

/-- **A pass in which it is not answered** leaves it in flight, whatever completes beside it. -/
lemma waits_of_dispatch (h : Waits t s) (ht : t.Answered data reply)
    (hdispatch : s.transport.script.head?.getD .dispatch = .dispatch)
    (hresult : reply.result data = none) (ms : Nat) : Waits t (s.events ms).2 := by
  obtain ⟨-, hattached, -, ready, pending, hset, hsteps⟩ := events_of_dispatch hdispatch ms
  have hsettling := Bench.settling_of_settleAll hset
  have hanswer : Bench.answer t = none := Option.map_eq_none_iff.mp (ht.answer.trans hresult)
  have hline : Line.Pending t ⟨ready, pending, s.host⟩ := by
    refine ⟨h.handler, Bench.mem_pending_of_settle hset h.mem
      fun queue => (ht.settle_eq queue).trans hanswer,
      fun t' ht' => h.only t' (hsettling.sublist.subset ht'), ?_, h.unreported⟩
    intro e he hsame
    obtain ⟨t₀, ht₀, queue, hsettled⟩ := hsettling.ready_settled e he
    have hsame' : e.1.handler = t₀.handler :=
      (Bench.InFlight.shape_inj (Bench.shape_of_settled hsettled)).2.2.1
    obtain rfl := h.only t₀ ht₀ (hsame'.symm.trans hsame)
    rw [ht.settle_eq, hanswer] at hsettled
    cases hsettled
  have hend := hsteps.induction (fun hstep h => h.step hstep) hline
  exact ⟨hattached.trans h.attached, hend.handler, hend.mem, hend.only, hend.unreported⟩

/-- **An event that it outlasts** is waited for, and nothing else comes of it. -/
lemma await_of_outlasts (h : Waits t s) (ht : t.Answered data reply)
    (houtlasts : reply.outlasts (s.transport.script.head?.getD .dispatch) = true)
    (id : TransferId) (passes : Nat) :
    s.await id (passes + 1) = (s.events waitPassMs).2.await id passes ∧
      Waits t (s.events waitPassMs).2 := by
  cases hevent : s.transport.script.head?.getD .dispatch with
  | dispatch =>
      obtain rfl : reply = .hang := by simpa [hevent, Bench.Reply.outlasts] using houtlasts
      have hok := (events_of_dispatch hevent waitPassMs).1
      exact ⟨h.await_of_ok (Prod.ext hok rfl) id passes,
        h.waits_of_dispatch ht hevent rfl waitPassMs⟩
  | fail error =>
      obtain rfl : error = .interrupted := by
        simpa [hevent, Bench.Reply.outlasts] using houtlasts
      have hpass := events_of_fail (Bench.script_of_next hevent (by simp)) waitPassMs
      rw [hpass]
      exact ⟨h.await_of_error hpass id passes, h.attached, h.handler, h.mem, h.only, h.unreported⟩
  | detach =>
      rw [hevent] at houtlasts
      cases houtlasts

/-- **With any other event** the wait ends, as that event has it. -/
lemma await_of_ends {e : Bench.Ending} (h : Waits t s) (ht : t.Answered data reply)
    (hends : ¬ reply.outlasts (s.transport.script.head?.getD .dispatch) = true)
    (hending : reply.ending data s.transport.script = some e) (id : TransferId) (passes : Nat) :
    e.passes = 1 ∧ ∃ outcome s', s.await id (passes + 2) = some (outcome, s') ∧
      conclude data outcome = e.result ∧
      s'.transport.eventsHandled = s.transport.eventsHandled + 1 ∧
      s'.transport.cancelRequests = s.transport.cancelRequests + e.cancels := by
  obtain ⟨hhandled, -, hcancels⟩ := s.frame_events waitPassMs
  rw [Bench.Reply.ending_step ht.accepted] at hending
  dsimp only at hending
  rw [if_neg hends] at hending
  cases hevent : s.transport.script.head?.getD .dispatch with
  | dispatch =>
      rw [hevent] at hending
      obtain ⟨result, hresult, rfl⟩ := Option.map_eq_some_iff.mp hending
      obtain ⟨c, hreply, hconclude⟩ := h.reply_of_dispatch ht hevent hresult waitPassMs
      have hok := (events_of_dispatch hevent waitPassMs).1
      refine ⟨rfl, .ok c, _, ?_, hconclude, hhandled, hcancels⟩
      rw [h.await_of_ok (Prod.ext hok rfl), await, hreply]
  | fail error =>
      rw [hevent] at hending hends
      cases hending
      have hlasting : ¬ error.isTransient = true := by
        simpa [Bench.Reply.outlasts, UsbError.isTransient] using hends
      have hpass := events_of_fail (Bench.script_of_next hevent (by simp)) waitPassMs
      rw [h.await_of_error hpass, if_neg hlasting]
      obtain ⟨inFlight, hcancelled, -⟩ := Bench.cancel_frame { s.transport with
        eventsHandled := s.transport.eventsHandled + 1, script := s.transport.script.tail } id
      have hmarked : ∀ b : Bench (Handler κ), Transport.cancel b id = b.cancel id := fun _ => rfl
      refine ⟨rfl, .error error, _, rfl, rfl, ?_, ?_⟩ <;> rw [hmarked, hcancelled]
  | detach =>
      rw [hevent] at hending
      cases hending
      have hpass := events_of_detach (Bench.script_of_next hevent (by simp)) waitPassMs
      rw [hpass] at hhandled hcancels
      refine ⟨rfl, .ok ⟨.noDevice, []⟩, _, ?_, rfl, hhandled, hcancels⟩
      rw [h.await_of_ok hpass]
      refine await_of_gone ?_ ?_ rfl id passes
      · exact h.unreported
      · exact isAbandoned_eq_false h.mem h.handler

/-- While it is waited for, the device's answers to later control transfers stay. -/
lemma awaited_replies {replies : List Bench.Reply} :
    Awaited fun _ (s : Session (Bench (Handler κ)) ω) => s.transport.replies = replies where
  passed {id s ms} h := (congrArg Bench.replies (passed_events s ms).frame).trans h
  cancelled {id s} h := by
    obtain ⟨inFlight, hcancelled, -⟩ := Bench.cancel_frame s.transport id
    exact (congrArg Bench.replies hcancelled).trans h

/-- **Waiting ends as the script says**, if there are enough passes for it. -/
theorem await_of_ending {e : Bench.Ending} {passes : Nat} (h : Waits t s)
    (ht : t.Answered data reply) (hending : reply.ending data s.transport.script = some e)
    (hpasses : e.passes < passes) (id : TransferId) :
    ∃ outcome s', s.await id passes = some (outcome, s') ∧ conclude data outcome = e.result ∧
      s'.transport.eventsHandled = s.transport.eventsHandled + e.passes ∧
      s'.transport.cancelRequests = s.transport.cancelRequests + e.cancels := by
  induction passes generalizing s e with
  | zero => cases hpasses
  | succ passes ih =>
      by_cases hevent : reply.outlasts (s.transport.script.head?.getD .dispatch) = true
      · obtain ⟨hhandled, hrest, hcancels⟩ := s.frame_events waitPassMs
        obtain ⟨hwait, hwaits⟩ := h.await_of_outlasts ht hevent id passes
        rw [Bench.Reply.ending_step ht.accepted] at hending
        dsimp only at hending
        rw [if_pos hevent, ← hrest] at hending
        obtain ⟨e', he', rfl⟩ := Option.map_eq_some_iff.mp hending
        obtain ⟨outcome, s', hrun, hconclude, hhandled', hcancels'⟩ :=
          ih hwaits he' (Nat.lt_of_succ_lt_succ hpasses)
        refine ⟨outcome, s', hwait.trans hrun, hconclude, ?_, ?_⟩
        · rw [hhandled', hhandled, Nat.add_assoc, Nat.add_comm 1]
          rfl
        · rw [hcancels', hcancels]
          rfl
      · cases passes with
        | zero =>
            obtain ⟨hone, -⟩ := h.await_of_ends ht hevent hending id 0
            exact absurd hpasses (by rw [hone]; exact Nat.lt_irrefl 1)
        | succ passes =>
            obtain ⟨hone, outcome, s', hrun, hconclude, hhandled, hcancels⟩ :=
              h.await_of_ends ht hevent hending id passes
            exact ⟨outcome, s', hrun, hconclude, by rw [hhandled, hone], hcancels⟩

/-- **Without an event that ends it** the wait goes on through any number of passes. -/
theorem await_of_endless (h : Waits t s) (ht : t.Answered data reply)
    (hendless : reply.ending data s.transport.script = none) (id : TransferId) (passes : Nat) :
    s.await id passes = none := by
  induction passes generalizing s with
  | zero => rfl
  | succ passes ih =>
      have hevent : reply.outlasts (s.transport.script.head?.getD .dispatch) = true := by
        obtain ⟨rfl, hevents⟩ := Bench.Reply.ending_eq_none_iff.mp hendless
        cases hscript : s.transport.script with
        | nil => rfl
        | cons event rest =>
            rcases hevents event (hscript ▸ List.mem_cons_self) with rfl | rfl <;> rfl
      obtain ⟨hwait, hwaits⟩ := h.await_of_outlasts ht hevent id passes
      rw [Bench.Reply.ending_step ht.accepted] at hendless
      dsimp only at hendless
      rw [if_pos hevent, Option.map_eq_none_iff, ← (s.frame_events waitPassMs).2.1] at hendless
      exact hwait.trans (ih hwaits hendless)

end Waits

/-! ### Whole transfers -/

/-- **Nothing in flight can be taken for the next control transfer**: the transfers in flight have
been handed out, and those for control belong to control transfers already begun. -/
structure Sound (s : Session (Bench (Handler κ)) ω) : Prop where
  ids : ∀ t ∈ s.transport.inFlight, t.id < s.transport.allocated
  tickets : ∀ t ∈ s.transport.inFlight, ∀ ticket, t.handler = .control ticket →
    ticket ≤ s.host.ticket

/-- A session that a pool agrees with is sound: all that is in flight are its slots' transfers. -/
lemma Sound.of_held {p : Pool} {s : Session (Bench (Handler κ)) ω} (h : p.Held none s) :
    s.Sound where
  ids _ ht := h.id_lt ht
  tickets t ht ticket hcontrol := by
    obtain ⟨slot, hc⟩ := h.custody.carried ht
    obtain ⟨consumer, hslot⟩ := hc.handler
    cases hslot.symm.trans hcontrol

/-- What the script asks of the next control transfer: the device is there, a transfer is handed
out, and its submission is not refused. -/
structure Ready (s : Session (Bench (Handler κ)) ω) : Prop where
  sound : s.Sound
  attached : s.transport.attached = true
  allocates : s.transport.failAllocAt ≠ some s.transport.allocated
  submits : s.transport.refusal = none

lemma parse_controlBuffer (setup : SetupHeader) (data : ControlData) :
    SetupHeader.parse (controlBuffer setup data) = .ok setup := by
  cases data <;> exact SetupHeader.parse_encode _ _

variable {s : Session (Bench (Handler κ)) ω} {data : ControlData} {request : UInt8}
  {value index : UInt16} {ms : Nat}

/-- The transfer of the next control transfer, as the bench has it in flight. -/
def nextControl (s : Session (Bench (Handler κ)) ω) (setup : SetupHeader) (data : ControlData) :
    Bench.InFlight (Handler κ) :=
  ⟨s.transport.allocated, .control, controlBuffer setup data, .control s.host.expect.ticket,
    some s.transport.nextReply, false⟩

/-- The bench once the device has seen the next control transfer and written it to its log. -/
def asked (s : Session (Bench (Handler κ)) ω) (controlLog : List Bench.ControlRecord) :
    Bench (Handler κ) :=
  { s.transport with
    allocated := s.transport.allocated + 1, submissions := s.transport.submissions + 1
    replies := s.transport.replies.tail, controlLog }

namespace Ready

/-- A transfer is handed out. -/
lemma alloc_eq (h : s.Ready) : s.transport.alloc =
    (.ok s.transport.allocated, { s.transport with allocated := s.transport.allocated + 1 }) := by
  rw [Bench.alloc, if_neg h.allocates]

/-- **The device answers the submission at once**: it rejects it, or the transfer is in flight. -/
lemma submit_eq (h : s.Ready) (setup : SetupHeader) (data : ControlData) (ms : Nat) :
    ∃ controlLog, s.transport.alloc.2.submit s.transport.allocated
        ⟨.control, controlBuffer setup data, ms⟩ (.control s.host.expect.ticket) =
      match s.transport.nextReply with
      | .reject error => (.error error, s.asked controlLog)
      | _ => (.ok (), (s.asked controlLog).arm (s.nextControl setup data)) := by
  have hrefusal : ({ s.transport with allocated := s.transport.allocated + 1 } :
      Bench (Handler κ)).refusal = none := h.submits
  have hfree : ¬ (s.transport.inFlight.any fun t => t.id = s.transport.allocated) = true := by
    simpa using fun t ht => Nat.ne_of_lt (h.sound.ids t ht)
  rw [h.alloc_eq]
  dsimp only
  rw [Bench.submit, hrefusal]
  dsimp only
  rw [if_neg hfree, parse_controlBuffer]
  have hnext : ({ s.transport with
    allocated := s.transport.allocated + 1
    submissions := s.transport.submissions + 1 } : Bench (Handler κ)).nextReply =
    s.transport.nextReply := rfl
  dsimp only
  rw [hnext, nextControl]
  cases s.transport.nextReply <;> exact ⟨_, rfl⟩

/-- A transfer that the device has not rejected is waited for, and answered as scripted. -/
lemma waits (h : s.Ready) (hdata : data.length < UInt16.size)
    (hreply : ∀ error, s.transport.nextReply ≠ .reject error) (request : UInt8)
    (value index : UInt16) (ms : Nat) :
    let t := s.nextControl (vendorSetup request value index data) data
    ∃ controlLog, s.transport.alloc.2.submit s.transport.allocated
        ⟨.control, controlBuffer (vendorSetup request value index data) data, ms⟩
        (.control s.host.expect.ticket) = (.ok (), (s.asked controlLog).arm t) ∧
      t.Answered data s.transport.nextReply ∧
      Waits t ⟨(s.asked controlLog).arm t, s.host.expect⟩ := by
  intro t
  obtain ⟨controlLog, hsubmit⟩ := h.submit_eq (vendorSetup request value index data) data ms
  refine ⟨controlLog, ?_, ⟨hreply, rfl, rfl, ControlData.conclude_answer hdata rfl rfl⟩,
    h.attached, rfl, List.mem_append_right _ (List.mem_singleton_self t), ?_, rfl⟩
  · rw [hsubmit]
    cases hnext : s.transport.nextReply with
    | reject error => exact absurd hnext (hreply error)
    | respond _ | status _ | hang => rfl
  · intro t' ht' hsame
    rcases List.mem_append.mp ht' with ht' | ht'
    · -- what was in flight before is of an earlier control transfer, if of any
      exact absurd (h.sound.tickets t' ht' _ hsame) (Nat.not_succ_le_self _)
    · exact List.mem_singleton.mp ht'

variable [Consumer κ ω]

/-- **A control transfer that ends** does so as the script says. -/
theorem controlTransfer_of_ending {e : Bench.Ending} (h : s.Ready)
    (hdata : data.length < UInt16.size) (hroom : data.direction = .toHost → data.isEmpty = false)
    (hending : s.transport.nextReply.ending data s.transport.script = some e)
    (request : UInt8) (value index : UInt16) (ms : Nat) :
    ∃ s', s.controlTransfer request value index data ms = some (e.result, s') ∧
      s'.transport.eventsHandled = s.transport.eventsHandled + e.passes ∧
      s'.transport.cancelRequests = s.transport.cancelRequests + e.cancels ∧
      s'.transport.replies = s.transport.replies.tail := by
  have hbegun : s.Begun data s.transport.allocated _ := ⟨h.attached, hdata, hroom, h.alloc_eq⟩
  by_cases hreply : ∃ error, s.transport.nextReply = .reject error
  · obtain ⟨error, hreply⟩ := hreply
    obtain ⟨controlLog, hsubmit⟩ := h.submit_eq (vendorSetup request value index data) data ms
    rw [hreply] at hsubmit hending
    rw [h.alloc_eq] at hsubmit
    cases hending
    exact ⟨_, hbegun.controlTransfer_error hsubmit, rfl, rfl, rfl⟩
  · obtain ⟨controlLog, hsubmit, ht, hwaits⟩ :=
      h.waits hdata (fun error heq => hreply ⟨error, heq⟩) request value index ms
    rw [h.alloc_eq] at hsubmit
    obtain ⟨outcome, s', hwait, hconclude, hhandled, hcancels⟩ :=
      hwaits.await_of_ending ht hending (Nat.lt_succ_of_le (Bench.Reply.passes_le hending))
        s.transport.allocated
    have hreplies : s'.transport.replies = s.transport.replies.tail :=
      Waits.awaited_replies.await rfl hwait
    refine ⟨{ s' with transport := s'.transport.free s.transport.allocated }, ?_, hhandled,
      hcancels, hreplies⟩
    rw [hbegun.controlTransfer_ok hsubmit, ← hconclude]
    exact congrArg (Option.map _) hwait

/-- **A control transfer that never ends** has been submitted, and any number of event passes leaves
it unanswered. -/
theorem controlTransfer_of_endless (h : s.Ready)
    (hdata : data.length < UInt16.size) (hroom : data.direction = .toHost → data.isEmpty = false)
    (hendless : s.transport.nextReply.ending data s.transport.script = none)
    (request : UInt8) (value index : UInt16) (ms : Nat) :
    s.controlTransfer request value index data ms = none ∧
      ∃ b, s.transport.alloc.2.submit s.transport.allocated
          ⟨.control, controlBuffer (vendorSetup request value index data) data, ms⟩
          (.control s.host.expect.ticket) = (.ok (), b) ∧
        ∀ passes, Session.await s.transport.allocated passes ⟨b, s.host.expect⟩ = none := by
  have hbegun : s.Begun data s.transport.allocated _ := ⟨h.attached, hdata, hroom, h.alloc_eq⟩
  obtain ⟨hhang, -⟩ := Bench.Reply.ending_eq_none_iff.mp hendless
  obtain ⟨controlLog, hsubmit, ht, hwaits⟩ :=
    h.waits hdata (fun error heq => by simp [hhang] at heq) request value index ms
  have hnever := hwaits.await_of_endless ht hendless s.transport.allocated
  refine ⟨?_, _, hsubmit, hnever⟩
  rw [h.alloc_eq] at hsubmit
  rw [hbegun.controlTransfer_ok hsubmit]
  exact congrArg (Option.map _) (hnever _)

end Ready

/-- **A control transfer that succeeds** brings what the device's next answer says. -/
lemma result_of_controlTransfer [Consumer κ ω] {s' : Session (Bench (Handler κ)) ω} {n : Nat}
    {result : ControlResult} (hsound : s.Sound)
    (hrun : s.controlTransfer request value index data ms = some (result, s'))
    (hok : result.result = .ok n) : s.transport.nextReply.result data = some result := by
  cases transfers_of_controlTransfer hrun with
  | refused => cases hok
  | unallocated => cases hok
  | unsubmitted => cases hok
  | @waited id b b' outcome s₁ hbegun hsubmit hwait =>
      have halloc : s.transport.alloc = (.ok id, b) := hbegun.alloc
      have hready : s.Ready := by
        refine ⟨hsound, hbegun.attached, fun hfail => ?_, ?_⟩
        · rw [Bench.alloc, if_pos hfail] at halloc
          cases halloc
        · have haccepted : b.refusal = none := Bench.refusal_of_submit hsubmit
          obtain ⟨-, rfl⟩ := Bench.alloc_ok halloc
          exact haccepted
      cases hending : s.transport.nextReply.ending data s.transport.script with
      | none =>
          rw [(hready.controlTransfer_of_endless hbegun.fits hbegun.room hending request value index
            ms).1] at hrun
          cases hrun
      | some e =>
          obtain ⟨_, hrun', -⟩ := hready.controlTransfer_of_ending hbegun.fits hbegun.room hending
            request value index ms
          obtain ⟨heq, -⟩ := Prod.mk.inj (Option.some.inj (hrun'.symm.trans hrun))
          rw [← heq] at hok ⊢
          exact Bench.Reply.result_of_ending hending hok

/-- **A control transfer comes to what the script dictates**, whatever else is in flight: it ends
with that result after that many event passes and with that many cancellations, or it never ends,
through any number of passes; and it never ends exactly if the device keeps it pending and every
event completes what can complete or is interrupted.  That its completion handler was lost is not
among the results, unless the script itself has that error. -/
theorem controlTransfer_scripted [Consumer κ ω] (h : s.Ready) (data : ControlData)
    (hdata : data.length < UInt16.size)
    (hroom : data.direction = .toHost → data.isEmpty = false) (request : UInt8)
    (value index : UInt16) (ms : Nat) :
    (∀ e ∈ s.transport.nextReply.ending data s.transport.script, ∃ s',
      s.controlTransfer request value index data ms = some (e.result, s') ∧
      s'.transport.eventsHandled = s.transport.eventsHandled + e.passes ∧
      s'.transport.cancelRequests = s.transport.cancelRequests + e.cancels) ∧
    (s.transport.nextReply.ending data s.transport.script = none →
      s.controlTransfer request value index data ms = none ∧
      ∃ b, s.transport.alloc.2.submit s.transport.allocated
          ⟨.control, controlBuffer (vendorSetup request value index data) data, ms⟩
          (.control s.host.expect.ticket) = (.ok (), b) ∧
        ∀ passes, Session.await s.transport.allocated passes ⟨b, s.host.expect⟩ = none) ∧
    (s.transport.nextReply.ending data s.transport.script = none ↔
      s.transport.nextReply = .hang ∧
        ∀ event ∈ s.transport.script, event = .dispatch ∨ event = .fail .interrupted) ∧
    ∀ result s', s.controlTransfer request value index data ms = some (result, s') →
      result.result = .error droppedTransfer →
      s.transport.nextReply = .reject droppedTransfer ∨
        .fail droppedTransfer ∈ s.transport.script := by
  refine ⟨fun e he => ?_, fun hendless =>
    h.controlTransfer_of_endless hdata hroom hendless request value index ms,
    Bench.Reply.ending_eq_none_iff, fun result s' hrun herror => ?_⟩
  · obtain ⟨s', hrun, hpasses, hcancels, -⟩ :=
      h.controlTransfer_of_ending hdata hroom he request value index ms
    exact ⟨s', hrun, hpasses, hcancels⟩
  · cases hending : s.transport.nextReply.ending data s.transport.script with
    | none =>
        rw [(h.controlTransfer_of_endless hdata hroom hending request value index ms).1] at hrun
        cases hrun
    | some e =>
        obtain ⟨s₁, hrun₁, -⟩ :=
          h.controlTransfer_of_ending hdata hroom hending request value index ms
        obtain ⟨rfl, rfl⟩ := Prod.mk.inj (Option.some.inj (hrun₁.symm.trans hrun))
        rcases Bench.Reply.error_of_ending hending herror with
          hreject | ⟨outcome, -, houtcome⟩ | hfail | ⟨-, hgone⟩
        · exact Or.inl hreject
        · cases outcome <;> cases houtcome
        · exact Or.inr hfail
        · cases hgone

/-- A session with a bulk transfer in flight for which there is data.  The first event pass will be
interrupted, and the device will answer the next control transfer with six bytes. -/
def besideStream : Session (Bench (Handler Recorder)) (List Recorder.Call) where
  transport := {
    allocated := 1
    inFlight :=
      [⟨0, .bulkIn 0x81, zeros 8, .slot 0 ⟨0, .constant (.always .resubmit)⟩, none, false⟩]
    replies := [.respond [1, 2, 3, 4, 5, 6]]
    script := [.fail .interrupted, .dispatch, .fail .pipe]
    chunks := [[7, 7]] }
  host := { armed := [0], shared := [] }

theorem controlTransfer_besideStream :
    besideStream.Ready ∧ (ControlData.receive (zeros 4)).length < UInt16.size ∧
      ∃ s', besideStream.controlTransfer 0x65 0 0 (.receive (zeros 4)) 100 =
          some (⟨.ok 4, [1, 2, 3, 4]⟩, s') ∧
        s'.transport.eventsHandled = 2 ∧ s'.transport.cancelRequests = 0 := by
  have hready : besideStream.Ready := by
    refine ⟨⟨?_, ?_⟩, rfl, by decide, rfl⟩ <;> simp [besideStream]
  obtain ⟨hends, -⟩ := controlTransfer_scripted hready (.receive (zeros 4)) (by decide)
    (fun _ => rfl) 0x65 0 0 100
  exact ⟨hready, by decide, hends ⟨⟨.ok 4, [1, 2, 3, 4]⟩, 2, 0⟩ rfl⟩

end Session

end LogicCapture
