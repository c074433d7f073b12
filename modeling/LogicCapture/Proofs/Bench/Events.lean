/-
Event passes of the bench, as its script has them, and control transfers in them.

* `Session.events_of_dispatch`, `Session.events_of_fail`, `Session.events_of_detach`: an event pass
  does what the script says;
* `Line.Due`: the completion of a control transfer is on its way to the host; every step keeps it
  so, and at the end of the line it has arrived;
* `Line.Pending`: a control transfer stays in flight, whatever completes around it.
-/
import LogicCapture.Proofs.Bench.Drain

namespace LogicCapture

variable {κ ω : Type}

/-! ### Event passes -/

/-- An event other than the one that stands in for a script that is over heads the script. -/
lemma Bench.script_of_next {script : List Event} {event : Event}
    (h : script.head?.getD .dispatch = event) (hevent : event ≠ .dispatch) :
    script = event :: script.tail := by
  cases script with
  | nil => exact absurd h.symm hevent
  | cons first rest => rw [← h]; rfl

namespace Session

variable [Consumer κ ω] {s : Session (Bench (Handler κ)) ω}

/-- Every event pass is counted and uses up one event of the script; the cancellations that have
been requested and the answers of the device stay. -/
lemma frame_events (s : Session (Bench (Handler κ)) ω) (ms : Nat) :
    (s.events ms).2.transport.eventsHandled = s.transport.eventsHandled + 1 ∧
      (s.events ms).2.transport.script = s.transport.script.tail ∧
      (s.events ms).2.transport.cancelRequests = s.transport.cancelRequests := by
  rcases hrun : s.events ms with ⟨result, s'⟩
  cases eventPass_of_events hrun with
  | failed _ => exact ⟨rfl, rfl, rfl⟩
  | detached _ => exact ⟨rfl, rfl, rfl⟩
  | dispatched _ _ hframe _ _ =>
      rw [hframe]
      exact ⟨rfl, rfl, rfl⟩

/-- **A pass that is to complete something** settles the transfers and calls the handlers of those
that have ended. -/
lemma events_of_dispatch (h : s.transport.script.head?.getD .dispatch = .dispatch) (ms : Nat) :
    (s.events ms).1 = .ok () ∧ (s.events ms).2.transport.attached = s.transport.attached ∧
      s.transport.submissions ≤ (s.events ms).2.transport.submissions ∧
      ∃ ready pending, Bench.settleAll s.transport.inFlight s.transport.chunks =
          (ready, pending, (s.events ms).2.transport.chunks) ∧
        Line.Steps ⟨ready, pending, s.host⟩ (s.events ms).2.line := by
  rcases hrun : s.events ms with ⟨result, s'⟩
  cases eventPass_of_events hrun with
  | failed hfail => simp [hfail] at h
  | detached hdetach => simp [hdetach] at h
  | dispatched _ hsettle hframe hcount hsteps =>
      refine ⟨rfl, ?_, hcount, _, _, ?_, hsteps⟩
      · rw [hframe]
      · rw [hframe]
        exact hsettle

/-- A pass that is to fail completes nothing. -/
lemma events_of_fail {error : UsbError} {rest : List Bench.Event}
    (h : s.transport.script = .fail error :: rest) (ms : Nat) :
    s.events ms = (.error error, ⟨{ s.transport with
      eventsHandled := s.transport.eventsHandled + 1, script := rest }, s.host⟩) := by
  have hevents : Transport.events s.transport ms = s.transport.events := rfl
  rw [events, hevents, Bench.events, h]
  rfl

/-- A pass in which the device is unplugged completes nothing. -/
lemma events_of_detach {rest : List Bench.Event} (h : s.transport.script = .detach :: rest)
    (ms : Nat) : s.events ms = (.ok (), ⟨{ s.transport with
      eventsHandled := s.transport.eventsHandled + 1, script := rest, attached := false },
      s.host⟩) := by
  have hevents : Transport.events s.transport ms = s.transport.events := rfl
  rw [events, hevents, Bench.events, h]
  rfl

end Session

/-! ### The completion of a control transfer -/

namespace Handler

variable [Consumer κ ω] {handler : Handler κ} {c : Completion} {host : Host ω}

/-- The handler of anything but the latest control transfer reports nothing, and it stays such a
handler. -/
lemma reply_react (h : handler ≠ .control host.ticket) (c : Completion) :
    (handler.react c host).2.2.ticket = host.ticket ∧
      (handler.react c host).2.2.reply = host.reply ∧
      (handler.react c host).2.1 ≠ .control host.ticket := by
  cases handler with
  | control number =>
      have hother : number ≠ host.ticket := fun heq => h (heq ▸ rfl)
      have hnote : host.note number c = host := by
        rw [Host.note, if_neg fun hboth => hother hboth.1]
      simp only [react, hnote]
      exact ⟨trivial, trivial, h⟩
  | slot key consumer =>
      obtain ⟨rearm, consumer', shared, -, hreact⟩ := react_slot key consumer c host
      rw [hreact]
      exact ⟨rfl, rfl, by simp⟩

/-- No control transfer is armed again. -/
lemma ne_control_of_honoured (h : (handler.react c host).1.honoured c.status = true)
    (ticket : Nat) : handler ≠ .control ticket := by
  rintro rfl
  cases h

end Handler

namespace Line

variable {ticket : Nat} {c c' : Completion} {l l' : Line κ ω}
  {t t' : Bench.InFlight (Handler κ)} {rest : List (Bench.InFlight (Handler κ) × Completion)}
  {inFlight inFlight' : List (Bench.InFlight (Handler κ))} {host host' : Host ω}

/-- **The completion `c` of the latest control transfer is due**: it waits for its handler, or has
been reported. -/
structure Due (ticket : Nat) (c : Completion) (l : Line κ ω) : Prop where
  latest : l.host.ticket = ticket
  only : ∀ e ∈ l.ready, e.1.handler = .control ticket → e.2 = c
  waiting : l.host.reply = none → ∃ e ∈ l.ready, e.1.handler = .control ticket
  reported : ∀ c' ∈ l.host.reply, c' = c

namespace Due

/-- The completion of another transfer does not matter. -/
lemma skip (h : Due ticket c ⟨(t, c') :: rest, inFlight, host⟩)
    (hother : t.handler ≠ .control ticket) (hticket : host'.ticket = host.ticket)
    (hreply : host'.reply = host.reply) : Due ticket c ⟨rest, inFlight', host'⟩ where
  latest := hticket.trans h.latest
  only e he := h.only e (List.mem_cons_of_mem _ he)
  waiting hnone := by
    obtain ⟨e, he, hcontrol⟩ := h.waiting (hreply ▸ hnone)
    rcases List.mem_cons.mp he with rfl | he
    · exact absurd hcontrol hother
    · exact ⟨e, he, hcontrol⟩
  reported c' hc' := h.reported c' (hreply ▸ hc')

/-- Its own completion is reported, unless it has been already. -/
lemma report (h : Due ticket c ⟨(t, c') :: rest, inFlight, host⟩)
    (hown : t.handler = .control ticket) :
    Due ticket c ⟨rest, inFlight', host.note ticket c'⟩ := by
  have hlatest : host.ticket = ticket := h.latest
  have hsame : c' = c := h.only (t, c') List.mem_cons_self hown
  have honly : ∀ e ∈ rest, e.1.handler = .control ticket → e.2 = c := fun e he =>
    h.only e (List.mem_cons_of_mem _ he)
  cases hreply : host.reply with
  | none =>
      have hnote : host.note ticket c' = { host with reply := some c' } := by
        rw [Host.note, if_pos ⟨hlatest.symm, hreply⟩]
      rw [hnote]
      exact ⟨hlatest, honly, fun hno => absurd hno (Option.some_ne_none c'),
        fun c₀ hc₀ => (Option.mem_some.mp hc₀) ▸ hsame⟩
  | some c₀ =>
      have hnote : host.note ticket c' = host := by
        rw [Host.note, if_neg fun hboth => by simp [hreply] at hboth]
      rw [hnote]
      exact ⟨hlatest, honly, fun hno => by simp [hreply] at hno, h.reported⟩

variable [Consumer κ ω]

/-- **Every step leaves the completion due.** -/
theorem step (hstep : Step l l') (h : Due ticket c l) : Due ticket c l' := by
  obtain rfl : l.host.ticket = ticket := h.latest
  cases hstep with
  | @ended t c' rest inFlight host hhon =>
      by_cases hown : t.handler = .control host.ticket
      · simp only [call, hown, Handler.react]
        exact h.report hown
      · obtain ⟨hticket, hreply, -⟩ := Handler.reply_react hown c'
        exact h.skip hown hticket hreply
  | @rearmed t c' rest inFlight host hhon =>
      have hother := Handler.ne_control_of_honoured hhon host.ticket
      obtain ⟨hticket, hreply, -⟩ := Handler.reply_react hother c'
      exact h.skip hother hticket hreply
  | @refused t c' rest inFlight host hhon =>
      have hother := Handler.ne_control_of_honoured hhon host.ticket
      obtain ⟨hticket, hreply, hnext⟩ := Handler.reply_react hother c'
      rw [← hticket] at hnext
      obtain ⟨hticket', hreply', -⟩ := Handler.reply_react hnext .refused
      exact h.skip hother (hticket'.trans hticket) (hreply'.trans hreply)

omit [Consumer κ ω] in
/-- At the end of the line, it has been reported. -/
lemma reply_eq (h : Due ticket c l) (hend : l.ready = []) : l.host.reply = some c := by
  cases hreply : l.host.reply with
  | none =>
      obtain ⟨e, he, -⟩ := h.waiting hreply
      rw [hend] at he
      cases he
  | some c' => rw [h.reported c' hreply]

end Due

/-- **The control transfer `t` stays in flight**: it is the latest one, nothing that waits for its
handler or is in flight beside it reports to the same caller, and nothing has been reported. -/
structure Pending (t : Bench.InFlight (Handler κ)) (l : Line κ ω) : Prop where
  handler : t.handler = .control l.host.ticket
  mem : t ∈ l.inFlight
  only : ∀ t' ∈ l.inFlight, t'.handler = t.handler → t' = t
  others : ∀ e ∈ l.ready, e.1.handler ≠ t.handler
  unreported : l.host.reply = none

namespace Pending

variable [Consumer κ ω]

/-- **Every step leaves the transfer in flight.** -/
theorem step (hstep : Step l l') (h : Pending t l) : Pending t l' := by
  have hother {t₀ c'} (hmem : (t₀, c') ∈ l.ready) : t₀.handler ≠ .control l.host.ticket :=
    h.handler ▸ h.others _ hmem
  cases hstep with
  | @ended t₀ c' rest inFlight host hhon =>
      obtain ⟨hticket, hreply, -⟩ := Handler.reply_react (hother List.mem_cons_self) c'
      exact ⟨h.handler.trans (by rw [hticket]), h.mem, h.only,
        fun e he => h.others e (List.mem_cons_of_mem _ he), hreply.trans h.unreported⟩
  | @rearmed t₀ c' rest inFlight host hhon =>
      obtain ⟨hticket, hreply, hnext⟩ := Handler.reply_react (hother List.mem_cons_self) c'
      refine ⟨h.handler.trans (by rw [hticket]), List.mem_append_left _ h.mem,
        fun t' ht' hsame => ?_,
        fun e he => h.others e (List.mem_cons_of_mem _ he), hreply.trans h.unreported⟩
      rcases List.mem_append.mp ht' with ht' | ht'
      · exact h.only t' ht' hsame
      · rw [List.mem_singleton.mp ht'] at hsame
        exact absurd (hsame.trans h.handler) hnext
  | @refused t₀ c' rest inFlight host hhon =>
      obtain ⟨hticket, hreply, hnext⟩ := Handler.reply_react (hother List.mem_cons_self) c'
      rw [← hticket] at hnext
      obtain ⟨hticket', hreply', -⟩ := Handler.reply_react hnext .refused
      exact ⟨h.handler.trans (by rw [hticket', hticket]), h.mem, h.only,
        fun e he => h.others e (List.mem_cons_of_mem _ he),
        (hreply'.trans hreply).trans h.unreported⟩

end Pending

end Line

end LogicCapture
