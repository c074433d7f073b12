/-
Transports that keep a transcript: every call on them, with what it was asked and what it answered.

* `Transport.Call`: a call; an event pass has the handler calls that were made in it;
* `Transcribed`: a transport with its transcript;
* `Transcribed.covers`: apart from the transcript, it does what the transport does;
* `Transport.reported`: the completions that event passes have reported to a control transfer;
* `Session.events_transcript`: an event pass is one more call, and the first completion reported to
  the latest control transfer is the reply to it;
* `Session.Kept.ofTranscript`: what all handler calls keep and are, transcripts show.
-/
import LogicCapture.Proofs.Session.Journal

namespace LogicCapture

variable {τ κ ω H σ S : Type}

/-! ### Calls -/

/-- A call on a transport that may change something, with its answer. -/
inductive Transport.Call (H : Type) where
  | alloc (answer : Except UsbError TransferId)
  | submit (id : TransferId) (request : TransferRequest) (handler : H)
      (answer : Except UsbError Unit)
  | cancel (id : TransferId) (answer : Except UsbError Unit)
  | free (id : TransferId)
  /-- An event pass, with its handler calls in order. -/
  | events (timeoutMs : Nat) (handled : List (HandlerCall H)) (answer : Except UsbError Unit)
  | claim (interface : UInt8) (answer : Except UsbError Unit)
  | release (interface : UInt8) (answer : Except UsbError Unit)

namespace Transport.Call

/-- The transfer that the call has handed out. -/
def handedOut? : Call H → Option TransferId
  | alloc (.ok id) => some id
  | _ => none

/-- The transfer that the call has taken back. -/
def takenBack? : Call H → Option TransferId
  | free id => some id
  | _ => none

/-- The transfer that the call is about. -/
def subject? : Call H → Option TransferId
  | submit id _ _ _ | cancel id _ | free id => some id
  | _ => none

/-- What the call asks to be submitted. -/
def submission? : Call H → Option TransferRequest
  | submit _ request _ _ => some request
  | _ => none

def isAlloc : Call H → Bool
  | alloc _ => true
  | _ => false

def isCancel : Call H → Bool
  | cancel _ _ => true
  | _ => false

def isRelease : Call H → Bool
  | release _ _ => true
  | _ => false

/-- The handler calls of an event pass. -/
def handled : Call H → List (HandlerCall H)
  | events _ handled _ => handled
  | _ => []

/-- An event pass after which one goes on waiting: it has succeeded, or has been interrupted. -/
inductive Idle : Call H → Prop where
  | ok {ms handled} : Idle (events ms handled (.ok ()))
  | interrupted {ms handled error} : error.isTransient = true →
      Idle (events ms handled (.error error))

end Transport.Call

namespace Transport

/-- What is submitted by calls, in order. -/
def submissions (calls : List (Call H)) : List TransferRequest := calls.filterMap Call.submission?

@[simp] lemma submissions_append (calls more : List (Call H)) :
    submissions (calls ++ more) = submissions calls ++ submissions more := List.filterMap_append

/-- The completion that a handler call reports to a control transfer. -/
def report (ticket : Nat) (c : HandlerCall (Handler κ)) : Option Completion :=
  match c.handler with
  | .control number => if number = ticket then some c.completion else none
  | .slot _ _ => none

/-- **The completions reported to a control transfer**, in order. -/
def reported (ticket : Nat) (calls : List (Call (Handler κ))) : List Completion :=
  (calls.flatMap Call.handled).filterMap (report ticket)

lemma reported_concat (ticket : Nat) (calls : List (Call (Handler κ))) (ms : Nat)
    (handled : List (HandlerCall (Handler κ))) (answer : Except UsbError Unit) :
    reported ticket (calls ++ [.events ms handled answer]) =
      reported ticket calls ++ handled.filterMap (report ticket) := by
  simp [reported, Call.handled]

end Transport

/-! ### Transcripts -/

/-- A transport with a transcript of the calls on it. -/
structure Transcribed (τ H : Type) where
  transport : τ
  transcript : List (Transport.Call H) := []

namespace Transcribed

/-- The transcript after a call. -/
def record (w : Transcribed τ H) (call : Transport.Call H) (t : τ) : Transcribed τ H :=
  ⟨t, w.transcript ++ [call]⟩

/-- The transcript after a call that answers something. -/
def after {α : Type} (w : Transcribed τ H) (call : α → Transport.Call H) (done : α × τ) :
    α × Transcribed τ H :=
  (done.1, w.record (call done.1) done.2)

end Transcribed

/-- A pass in a transcript. -/
def Pass.transcribe (ms : Nat) (transcript : List (Transport.Call H)) :
    Pass τ H → List (HandlerCall H) → Pass (Transcribed τ H) H
  | done result t, handled => .done result ⟨t, transcript ++ [.events ms handled result]⟩
  | call handler completion resume, handled =>
    .call handler completion fun rearm next =>
      (resume rearm next).transcribe ms transcript (handled ++ [⟨handler, completion, rearm⟩])

instance [Transport τ H] : Transport (Transcribed τ H) H where
  attached w := Transport.attached w.transport
  alloc w := w.after .alloc (Transport.alloc w.transport)
  submit w id request handler :=
    w.after (.submit id request handler) (Transport.submit w.transport id request handler)
  cancel w id := w.after (.cancel id) (Transport.cancel w.transport id)
  free w id := w.record (.free id) (Transport.free w.transport id)
  events w ms := (Transport.events w.transport ms).transcribe ms w.transcript []
  claim w interface := w.after (.claim interface) (Transport.claim w.transport interface)
  release w interface := w.after (.release interface) (Transport.release w.transport interface)
  handlers w := Transport.handlers w.transport
  patience w := Transport.patience w.transport

/-- **A pass in a transcript** does what it does with handlers that note their calls. -/
lemma Pass.run_transcribe (react : Reaction H σ) (ms : Nat) (transcript : List (Transport.Call H))
    (pass : Pass τ H) (handled : List (HandlerCall H)) (s : σ) :
    (pass.transcribe ms transcript handled).run react s =
      ((pass.run (noting react) (s, handled)).1,
        ⟨(pass.run (noting react) (s, handled)).2.1,
          transcript ++ [.events ms (pass.run (noting react) (s, handled)).2.2.2
            (pass.run (noting react) (s, handled)).1]⟩,
        (pass.run (noting react) (s, handled)).2.2.1) := by
  induction pass generalizing handled s with
  | done result t => rfl
  | call handler c resume ih => exact ih _ _ _ _

namespace Transcribed

/-- **Apart from the transcript**, a transport with one does what the transport does. -/
theorem covers [Transport τ H] :
    Transport.Covers (Transcribed.transport : Transcribed τ H → τ) where
  attached _ := rfl
  alloc _ := rfl
  submit _ _ _ _ := rfl
  cancel _ _ := rfl
  free _ _ := rfl
  claim _ _ := rfl
  release _ _ := rfl
  events react w ms s := by
    have htranscribe : Transport.events w ms =
      (Transport.events w.transport ms).transcribe ms w.transcript [] := rfl
    rw [htranscribe, Pass.run_transcribe, Pass.run_noting react _ []]
    rfl
  handlers _ := rfl
  patience _ := rfl

variable [Transport τ H] {w t : Transcribed τ H}

lemma transcript_alloc {answer : Except UsbError TransferId}
    (h : Transport.alloc w = (answer, t)) : t.transcript = w.transcript ++ [.alloc answer] := by
  obtain ⟨rfl, rfl⟩ := Prod.mk.inj h
  rfl

lemma transcript_submit {id : TransferId} {request : TransferRequest} {handler : H}
    {answer : Except UsbError Unit} (h : Transport.submit w id request handler = (answer, t)) :
    t.transcript = w.transcript ++ [.submit id request handler answer] := by
  obtain ⟨rfl, rfl⟩ := Prod.mk.inj h
  rfl

lemma transcript_cancel (w : Transcribed τ H) (id : TransferId) : ∃ answer,
    (Transport.cancel w id).2.transcript = w.transcript ++ [.cancel id answer] := ⟨_, rfl⟩

lemma transcript_free (id : TransferId) :
    (Transport.free w id).transcript = w.transcript ++ [.free id] := rfl

end Transcribed

/-! ### Event passes -/

/-- **The first completion reported to the latest control transfer** is the reply to it, if there
was none before; its number stays. -/
lemma Handler.reply_noting [Consumer κ ω] (pass : Pass τ (Handler κ)) (host : Host ω)
    (handled : List (HandlerCall (Handler κ))) :
    let after := (pass.run (noting Handler.react) (host, handled)).2.2
    after.1.ticket = host.ticket ∧ ∃ since, after.2 = handled ++ since ∧
      after.1.reply = (host.reply.toList ++
        since.filterMap (Transport.report host.ticket)).head? := by
  induction pass generalizing host handled with
  | done result t =>
      refine ⟨rfl, [], (List.append_nil _).symm, ?_⟩
      change host.reply = _
      cases host.reply <;> rfl
  | call handler c resume ih =>
      obtain ⟨hticket, since, hsince, hreply⟩ := ih (handler.react c host).1
        (handler.react c host).2.1 (handler.react c host).2.2
        (handled ++ [⟨handler, c, (handler.react c host).1⟩])
      have hone : (handler.react c host).2.2.ticket = host.ticket ∧
          (handler.react c host).2.2.reply = (host.reply.toList ++
            (Transport.report host.ticket
              ⟨handler, c, (handler.react c host).1⟩).toList).head? := by
        cases handler with
        | control number =>
            by_cases hown : number = host.ticket
            · cases hnone : host.reply <;> simp [react, Host.note, Transport.report, hown, hnone]
            · cases hnone : host.reply <;> simp [react, Host.note, Transport.report, hown, hnone]
        | slot key consumer =>
            obtain ⟨_, _, shared, -, hreact⟩ := react_slot key consumer c host
            rw [hreact]
            refine ⟨rfl, ?_⟩
            cases host.reply <;> simp [Transport.report]
      refine ⟨hticket.trans hone.1, _, hsince.trans (List.append_assoc _ _ _), ?_⟩
      refine hreply.trans ?_
      rw [hone.1, hone.2, List.singleton_append, List.filterMap_cons]
      cases host.reply <;>
        cases Transport.report host.ticket ⟨handler, c, (handler.react c host).1⟩ <;> simp

namespace Session

/-- The session with a transcript. -/
def transcribed (s : Session τ ω) (calls : List (Transport.Call (Handler κ))) :
    Session (Transcribed τ (Handler κ)) ω :=
  ⟨⟨s.transport, calls⟩, s.host⟩

/-- The session without its transcript. -/
abbrev bare (s : Session (Transcribed τ (Handler κ)) ω) : Session τ ω :=
  s.mapTransport Transcribed.transport

/-- What comes of a run without transcript comes of the run with one. -/
lemma eq_transcribed {α : Type} {done : Option (α × Session (Transcribed τ (Handler κ)) ω)} {a : α}
    {s : Session τ ω} (h : done.map (Prod.map id bare) = some (a, s)) :
    ∃ calls, done = some (a, s.transcribed calls) := by
  obtain ⟨⟨b, w⟩, rfl, hdone⟩ := Option.map_eq_some_iff.mp h
  obtain ⟨rfl, rfl⟩ := Prod.mk.inj hdone
  exact ⟨w.transport.transcript, rfl⟩

variable [Transport τ (Handler κ)] [Consumer κ ω]

/-- **An event pass in a transcript** is one whose handlers note their calls. -/
lemma events_transcribed (s : Session (Transcribed τ (Handler κ)) ω) (ms : Nat) :
    let run := (Transport.events s.transport.transport ms).run (noting Handler.react) (s.host, [])
    s.events ms = (run.1,
      ⟨⟨run.2.1, s.transport.transcript ++ [.events ms run.2.2.2 run.1]⟩, run.2.2.1⟩) := by
  have htranscribe : Transport.events s.transport ms =
    (Transport.events s.transport.transport ms).transcribe ms s.transport.transcript [] := rfl
  rw [events, htranscribe, Pass.run_transcribe]

/-- **An event pass is one more call**; a completion that it reports to the latest control transfer
is the reply to it, if it is the first. -/
theorem events_transcript (s : Session (Transcribed τ (Handler κ)) ω) (ms : Nat) :
    ∃ handled, (s.events ms).2.transport.transcript =
        s.transport.transcript ++ [.events ms handled (s.events ms).1] ∧
      (s.events ms).2.host.ticket = s.host.ticket ∧
      (s.events ms).2.host.reply = (s.host.reply.toList ++
        handled.filterMap (Transport.report s.host.ticket)).head? := by
  obtain ⟨hticket, since, hsince, hreply⟩ :=
    Handler.reply_noting (Transport.events s.transport.transport ms) s.host []
  rw [List.nil_append] at hsince
  rw [events_transcribed]
  exact ⟨_, rfl, hticket, hsince ▸ hreply⟩

omit [Transport τ (Handler κ)] in
/-- What handler calls keep of the host, and what they are then, a pass shows of its calls. -/
lemma noting_induction {R : Host ω → Prop} {C : HandlerCall (Handler κ) → Prop}
    (hreact : ∀ (handler : Handler κ) c host, R host →
      R (handler.react c host).2.2 ∧ C ⟨handler, c, (handler.react c host).1⟩)
    (pass : Pass τ (Handler κ)) {host : Host ω} {handled : List (HandlerCall (Handler κ))}
    (hhost : R host) (hhandled : ∀ call ∈ handled, C call) :
    R (pass.run (noting Handler.react) (host, handled)).2.2.1 ∧
      ∀ call ∈ (pass.run (noting Handler.react) (host, handled)).2.2.2, C call := by
  induction pass generalizing host handled with
  | done result t => exact ⟨hhost, hhandled⟩
  | call handler c resume ih =>
      obtain ⟨hafter, hcall⟩ := hreact handler c host hhost
      exact ih _ _ hafter fun call hmem => (List.mem_append.mp hmem).elim (hhandled call)
        fun hlast => List.mem_singleton.mp hlast ▸ hcall

/-- The host is as it should be, and so are all handler calls of the transcript. -/
def Shows (R : Host ω → Prop) (C : HandlerCall (Handler κ) → Prop)
    (s : Session (Transcribed τ (Handler κ)) ω) : Prop :=
  R s.host ∧ ∀ call ∈ s.transport.transcript, ∀ h ∈ call.handled, C h

omit [Transport τ (Handler κ)] [Consumer κ ω] in
lemma Shows.record {R : Host ω → Prop} {C : HandlerCall (Handler κ) → Prop}
    {s s' : Session (Transcribed τ (Handler κ)) ω} {call : Transport.Call (Handler κ)}
    (h : s.Shows R C) (hhost : R s'.host)
    (hcall : s'.transport.transcript = s.transport.transcript ++ [call])
    (hhandled : ∀ h ∈ call.handled, C h) : s'.Shows R C := by
  refine ⟨hhost, fun call' hmem => ?_⟩
  rw [hcall] at hmem
  exact (List.mem_append.mp hmem).elim (h.2 call') fun hlast =>
    List.mem_singleton.mp hlast ▸ hhandled

/-- **What handler calls keep and are**, control transfers keep, and transcripts show. -/
theorem Kept.ofTranscript {R : Host ω → Prop} {C : HandlerCall (Handler κ) → Prop}
    (hexpect : ∀ host, R host → R host.expect)
    (hreact : ∀ (handler : Handler κ) c host, R host →
      R (handler.react c host).2.2 ∧ C ⟨handler, c, (handler.react c host).1⟩) :
    Kept (τ := Transcribed τ (Handler κ)) (Shows R C) fun _ => Shows R C where
  unallocated h halloc := h.record h.1 (Transcribed.transcript_alloc halloc) nofun
  refused {s id t request error t'} h _ halloc _ hsubmit := by
    have hout : Shows R C { s with transport := t } :=
      h.record h.1 (Transcribed.transcript_alloc halloc) nofun
    have hrefused : Shows R C ⟨t', s.host.expect⟩ :=
      hout.record (hexpect _ h.1) (Transcribed.transcript_submit hsubmit) nofun
    exact hrefused.record hrefused.1 (Transcribed.transcript_free id) nofun
  submitted {s id t request t'} h _ halloc _ hsubmit := by
    have hout : Shows R C { s with transport := t } :=
      h.record h.1 (Transcribed.transcript_alloc halloc) nofun
    exact hout.record (hexpect _ h.1) (Transcribed.transcript_submit hsubmit) nofun
  passed {id s ms} h := by
    have hnone : ∀ call ∈ ([] : List (HandlerCall (Handler κ))), C call := nofun
    obtain ⟨hhost, hcalls⟩ := noting_induction hreact
      (Transport.events s.transport.transport ms) h.1 hnone
    rw [events_transcribed]
    exact h.record hhost rfl hcalls
  cancelled {id s} h := by
    obtain ⟨answer, hcancel⟩ := s.transport.transcript_cancel id
    exact h.record h.1 hcancel nofun
  freed {id s} h := h.record h.1 (Transcribed.transcript_free id) nofun

end Session

end LogicCapture
