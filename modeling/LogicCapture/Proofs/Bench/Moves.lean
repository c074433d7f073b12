/-
What the bench can do: submissions, cancellations, and event passes one handler call at a time.

* `Bench.alloc_cases`, `Bench.submit_cases`, `Bench.cancel_cases`: an allocation hands out one
  transfer or none, a submission puts one in flight or none, a cancellation marks one or none
  (`alloc_ok`, `alloc_error`, `submit_ok`, `submit_error`: either case alone);
* `Bench.InFlight.shape`: a transfer but for the contents of its buffer; settling changes
  nothing else (`Bench.settling_of_settleAll`, `Bench.settleAll_perm`);
* `Line`: the completions that wait for their handlers, the transfers in flight and the host;
* `Line.Step`: what one completion can bring about: the transfer ends, or it is armed again, or
  its resubmission is refused and its handler is told so;
* `Session.EventPass`, `Session.eventPass_of_events`: what an event pass comes to, by the script;
* `Session.Passed`, `Session.passed_events`: a pass leaves all but a few fields of the bench
  alone, and it either completes nothing or settles the transfers and steps through the line.
-/
import LogicCapture.Proofs.Session.Exchange
import LogicCapture.Proofs.Session.Settling
import LogicCapture.Usb.Bench
import Mathlib.Logic.Relation

namespace LogicCapture

variable {κ ω H : Type}

namespace Bench

/-! ### Allocation, submission, cancellation -/

/-- An allocation hands out the next transfer, or changes nothing. -/
lemma alloc_cases {b b' : Bench H} {result : Except UsbError TransferId}
    (h : b.alloc = (result, b')) : (∃ error, result = .error error ∧ b' = b) ∨
      (result = .ok b.allocated ∧ b' = { b with allocated := b.allocated + 1 }) := by
  rw [alloc] at h
  split at h
  · cases h
    exact Or.inl ⟨_, rfl, rfl⟩
  · cases h
    exact Or.inr ⟨rfl, rfl⟩

lemma alloc_error {b b' : Bench H} {error : UsbError} (h : b.alloc = (.error error, b')) :
    b' = b := by
  obtain ⟨_, -, hb⟩ | ⟨hno, -⟩ := alloc_cases h
  · exact hb
  · cases hno

lemma alloc_ok {b b' : Bench H} {id : TransferId} (h : b.alloc = (.ok id, b')) :
    id = b.allocated ∧ b' = { b with allocated := b.allocated + 1 } := by
  obtain ⟨_, hno, -⟩ | ⟨hid, hb⟩ := alloc_cases h
  · cases hno
  · exact ⟨Except.ok.inj hid, hb⟩

/-- **A submission** puts the transfer in flight behind the others, or nothing. -/
theorem submit_cases {b b' : Bench H} {id : TransferId} {request : TransferRequest} {handler : H}
    {result : Except UsbError Unit} (h : b.submit id request handler = (result, b')) :
    ∃ controlLog replies,
      let after := { b with submissions := b.submissions + 1, controlLog, replies }
      (∃ error, result = .error error ∧ b' = after) ∨
        (result = .ok () ∧ (∀ t ∈ b.inFlight, t.id ≠ id) ∧ ∃ reply,
          b' = after.arm ⟨id, request.kind, request.buffer, handler, reply, false⟩) := by
  unfold submit at h
  dsimp only at h
  split at h
  · cases h
    exact ⟨_, _, Or.inl ⟨_, rfl, rfl⟩⟩
  · split at h
    · cases h
      exact ⟨_, _, Or.inl ⟨_, rfl, rfl⟩⟩
    · rename_i hidle
      have hfresh : ∀ t ∈ b.inFlight, t.id ≠ id := by simpa using hidle
      split at h
      · rename_i endpoint hkind
        cases h
        exact ⟨_, _, Or.inr ⟨rfl, hfresh, none, by rw [hkind]⟩⟩
      · rename_i hkind
        split at h
        · cases h
          exact ⟨_, _, Or.inl ⟨_, rfl, rfl⟩⟩
        · split at h
          · cases h
            exact ⟨_, _, Or.inl ⟨_, rfl, rfl⟩⟩
          · cases h
            exact ⟨_, _, Or.inr ⟨rfl, hfresh, _, by rw [hkind]⟩⟩

lemma submit_error {b b' : Bench H} {id : TransferId} {request : TransferRequest} {handler : H}
    {error : UsbError} (h : b.submit id request handler = (.error error, b')) :
    ∃ controlLog replies,
      b' = { b with submissions := b.submissions + 1, controlLog, replies } := by
  obtain ⟨controlLog, replies, ⟨_, -, hb⟩ | ⟨hno, -⟩⟩ := submit_cases h
  · exact ⟨controlLog, replies, hb⟩
  · cases hno

lemma submit_ok {b b' : Bench H} {id : TransferId} {request : TransferRequest} {handler : H}
    (h : b.submit id request handler = (.ok (), b')) :
    (∀ t ∈ b.inFlight, t.id ≠ id) ∧ ∃ controlLog replies reply,
      b' = { b with submissions := b.submissions + 1, controlLog, replies }.arm
        ⟨id, request.kind, request.buffer, handler, reply, false⟩ := by
  obtain ⟨controlLog, replies, ⟨_, hno, -⟩ | ⟨-, hidle, reply, hb⟩⟩ := submit_cases h
  · cases hno
  · exact ⟨hidle, controlLog, replies, reply, hb⟩

/-- A submission that succeeds is not to be refused. -/
lemma refusal_of_submit {b b' : Bench H} {id : TransferId} {request : TransferRequest}
    {handler : H} (h : b.submit id request handler = (.ok (), b')) : b.refusal = none := by
  rw [submit] at h
  split at h
  · cases h
  · assumption

/-- A bulk transfer that is not in flight is put in flight, unless the script refuses it. -/
lemma submit_bulk {b : Bench H} {id : TransferId} (hidle : ∀ t ∈ b.inFlight, t.id ≠ id)
    (endpoint : UInt8) (buffer : Bytes) (ms : Nat) (handler : H) :
    b.submit id ⟨.bulkIn endpoint, buffer, ms⟩ handler =
      match b.refusal with
      | some error => (.error error, { b with submissions := b.submissions + 1 })
      | none => (.ok (), { b with submissions := b.submissions + 1 }.arm
          ⟨id, .bulkIn endpoint, buffer, handler, none, false⟩) := by
  have hfree : ¬ (b.inFlight.any fun t => t.id = id) = true := by simpa using hidle
  rw [submit]
  dsimp only
  cases b.refusal with
  | some error => rfl
  | none => exact if_neg hfree

/-- What is in flight after a submission was in flight before, or is the transfer submitted. -/
lemma mem_of_mem_submit {b : Bench H} {id : TransferId} {request : TransferRequest} {handler : H}
    {t : InFlight H} (ht : t ∈ (b.submit id request handler).2.inFlight) :
    t ∈ b.inFlight ∨ t.id = id ∧ t.kind = request.kind ∧ t.handler = handler := by
  rcases hsubmit : b.submit id request handler with ⟨result, b'⟩
  rw [hsubmit] at ht
  obtain ⟨controlLog, replies, ⟨error, -, rfl⟩ | ⟨-, -, reply, rfl⟩⟩ := submit_cases hsubmit
  · exact Or.inl ht
  · refine (List.mem_append.mp ht).imp (fun hold => hold) fun hnew => ?_
    rw [List.mem_singleton.mp hnew]
    exact ⟨rfl, rfl, rfl⟩

/-- A transfer in flight but for the mark of a requested cancellation. -/
def InFlight.unmarked (t : InFlight H) : InFlight H := { t with cancelled := false }

/-- **Marking** marks one transfer, with this id, and leaves the others as they are. -/
lemma exists_of_markCancelled {id : TransferId} {ts ts' : List (InFlight H)}
    (h : markCancelled id ts = some ts') : ∃ before t after, t.id = id ∧
      ts = before ++ t :: after ∧ ts' = before ++ { t with cancelled := true } :: after := by
  induction ts generalizing ts' with
  | nil => cases h
  | cons t rest ih =>
      rw [markCancelled] at h
      split at h
      · rename_i hmarked
        cases h
        exact ⟨[], t, rest, hmarked.1, rfl, rfl⟩
      · obtain ⟨rest', hrest, rfl⟩ := Option.map_eq_some_iff.mp h
        obtain ⟨before, t₀, after, hid, rfl, rfl⟩ := ih hrest
        exact ⟨t :: before, t₀, after, hid, rfl, rfl⟩

lemma unmarked_of_markCancelled {id : TransferId} {ts ts' : List (InFlight H)}
    (h : markCancelled id ts = some ts') :
    ts'.map InFlight.unmarked = ts.map InFlight.unmarked := by
  obtain ⟨before, t, after, -, rfl, rfl⟩ := exists_of_markCancelled h
  simp [InFlight.unmarked]

/-- Marking transfers leaves their handlers with them. -/
lemma exists_handler_of_unmarked {ts ts' : List (InFlight H)} {t' : InFlight H}
    (h : ts'.map InFlight.unmarked = ts.map InFlight.unmarked) (ht' : t' ∈ ts') :
    ∃ t ∈ ts, t.handler = t'.handler := by
  obtain ⟨t, ht, hsame⟩ := List.mem_map.mp (h ▸ List.mem_map_of_mem (f := InFlight.unmarked) ht')
  exact ⟨t, ht, (InFlight.mk.inj hsame).2.2.2.1⟩

/-- **A cancellation** marks transfers in flight and is counted. -/
theorem cancel_cases {b b' : Bench H} {id : TransferId} {result : Except UsbError Unit}
    (h : b.cancel id = (result, b')) :
    ∃ inFlight, b' = { b with inFlight, cancelRequests := b.cancelRequests + 1 } ∧
      inFlight.map InFlight.unmarked = b.inFlight.map InFlight.unmarked := by
  unfold cancel at h
  dsimp only at h
  split at h
  · rename_i inFlight hmark
    cases h
    exact ⟨inFlight, rfl, unmarked_of_markCancelled hmark⟩
  · cases h
    exact ⟨b.inFlight, rfl, rfl⟩

lemma cancel_frame (b : Bench H) (id : TransferId) : ∃ inFlight,
    (b.cancel id).2 = { b with inFlight, cancelRequests := b.cancelRequests + 1 } ∧
      inFlight.map InFlight.unmarked = b.inFlight.map InFlight.unmarked :=
  cancel_cases rfl

/-- A transfer in flight after a cancellation was in flight before, or is the one marked. -/
lemma mem_of_mem_cancel {b : Bench H} {id : TransferId} {t' : InFlight H}
    (ht' : t' ∈ (b.cancel id).2.inFlight) : t' ∈ b.inFlight ∨ t'.cancelled = true ∧
      ∃ t ∈ b.inFlight, t.id = id ∧ t.kind = t'.kind ∧ t.handler = t'.handler := by
  unfold cancel at ht'
  dsimp only at ht'
  split at ht'
  · rename_i inFlight hmark
    obtain ⟨before, t, after, hid, hbefore, hafter⟩ := exists_of_markCancelled hmark
    have hmem : t' ∈ before ++ { t with cancelled := true } :: after := hafter ▸ ht'
    rw [hbefore]
    rcases List.mem_append.mp hmem with hold | hnew
    · exact Or.inl (List.mem_append_left _ hold)
    · rcases List.mem_cons.mp hnew with rfl | hold
      · exact Or.inr ⟨rfl, t, List.mem_append_right _ List.mem_cons_self, hid, rfl, rfl⟩
      · exact Or.inl (List.mem_append_right _ (List.mem_cons_of_mem _ hold))
  · exact Or.inl ht'

/-- Claiming an interface only changes the list of interfaces held. -/
lemma claim_frame (b : Bench H) (interface : UInt8) :
    (b.claim interface).2 = { b with claimed := (b.claim interface).2.claimed } := by
  unfold claim
  split
  · rfl
  · split <;> rfl

/-- Giving an interface back is recorded, and only changes the list of interfaces held. -/
lemma release_frame (b : Bench H) (interface : UInt8) :
    (b.release interface).2 = { b with
      claimed := (b.release interface).2.claimed
      releaseAttempts := (b.release interface).2.releaseAttempts } := by
  unfold release
  dsimp only
  split
  · rfl
  · split <;> rfl

/-- New script entries leave alone the transfers in flight, and those handed out and taken back. -/
lemma cue_frame (b : Bench H) (cue : Cue) :
    (b.cue cue).inFlight = b.inFlight ∧ (b.cue cue).allocated = b.allocated ∧
      (b.cue cue).freed = b.freed := by
  cases cue <;> exact ⟨rfl, rfl, rfl⟩

/-! ### Settling -/

/-- A transfer in flight but for the contents of its buffer. -/
def InFlight.shape (t : InFlight H) : InFlight H := { t with buffer := zeros t.buffer.length }

lemma InFlight.shape_inj {t t' : InFlight H} (h : t'.shape = t.shape) :
    t'.id = t.id ∧ t'.kind = t.kind ∧ t'.handler = t.handler ∧ t'.reply = t.reply ∧
      t'.cancelled = t.cancelled ∧ t'.buffer.length = t.buffer.length := by
  simp only [shape, InFlight.mk.injEq] at h
  obtain ⟨hid, hkind, hbuffer, hhandler, hreply, hcancelled⟩ := h
  have hlen := congrArg List.length hbuffer
  simp only [zeros, List.length_replicate] at hlen
  exact ⟨hid, hkind, hhandler, hreply, hcancelled, hlen⟩

lemma shape_of_answer {t t' : InFlight H} {c : Completion} (h : answer t = some (t', c)) :
    t'.shape = t.shape := by
  simp only [answer] at h
  split at h
  · split at h
    · cases h
      simp [InFlight.shape]
    · cases h
      rfl
  · cases h
    rfl
  · cases h

lemma shape_of_settle {t t' : InFlight H} {chunks chunks' : List Bytes} {c : Completion}
    (h : settle t chunks = (some (t', c), chunks')) : t'.shape = t.shape := by
  unfold settle at h
  split at h
  · cases h
    rfl
  · split at h
    · exact shape_of_answer (Prod.mk.inj h).1
    · split at h
      · cases h
      · cases h
        simp [InFlight.shape]

/-- The transfers in flight settle in turn. -/
lemma settling_of_settleAll {ts pending : List (InFlight H)} {chunks chunks' : List Bytes}
    {ready : List (InFlight H × Completion)}
    (h : settleAll ts chunks = (ready, pending, chunks')) :
    Settling settle ts chunks ready pending chunks' := by
  have hall : Settling settle ts chunks _ _ _ := Settling.of_recursion settleAll (fun _ => rfl)
    (fun rest hsettle => by rw [settleAll, hsettle])
    (fun rest hsettle => by rw [settleAll, hsettle])
    ts chunks
  rwa [h] at hall

/-- **Settling moves transfers about** and fills their buffers, and that is all. -/
theorem settleAll_perm {ts pending : List (InFlight H)} {chunks chunks' : List Bytes}
    {ready : List (InFlight H × Completion)}
    (h : settleAll ts chunks = (ready, pending, chunks')) :
    ((ready.map (·.1) ++ pending).map InFlight.shape).Perm (ts.map InFlight.shape) := by
  rw [List.map_append, List.map_map]
  exact (settling_of_settleAll h).perm shape_of_settle

/-- Settling leaves the handlers with their transfers. -/
lemma exists_handler_of_settleAll {ts pending : List (InFlight H)} {chunks chunks' : List Bytes}
    {ready : List (InFlight H × Completion)} {t' : InFlight H}
    (h : settleAll ts chunks = (ready, pending, chunks')) (ht' : t' ∈ ready.map (·.1) ++ pending) :
    ∃ t ∈ ts, t.handler = t'.handler := by
  obtain ⟨t, ht, hsame⟩ := List.mem_map.mp
    ((settleAll_perm h).subset (List.mem_map_of_mem (f := InFlight.shape) ht'))
  exact ⟨t, ht, (InFlight.shape_inj hsame).2.2.1⟩

end Bench

/-! ### Completions, one at a time -/

/-- The work of an event pass: completions that wait for their handlers, the transfers in
flight, and the host. -/
structure Line (κ ω : Type) where
  ready : List (Bench.InFlight (Handler κ) × Completion)
  inFlight : List (Bench.InFlight (Handler κ))
  host : Host ω

namespace Line

/-- The transfers that wait for their handlers or are in flight. -/
def entries (l : Line κ ω) : List (Bench.InFlight (Handler κ)) := l.ready.map (·.1) ++ l.inFlight

variable [Consumer κ ω]

/-- The handler at the head of the line, called with a completion. -/
abbrev call (t : Bench.InFlight (Handler κ)) (c : Completion) (host : Host ω) :
    Rearm × Handler κ × Host ω := t.handler.react c host

/-- **What one completion can bring about.** -/
inductive Step : Line κ ω → Line κ ω → Prop where
  /-- The transfer is left idle. -/
  | ended {t c rest inFlight host} :
      (call t c host).1.honoured c.status = false →
      Step ⟨(t, c) :: rest, inFlight, host⟩ ⟨rest, inFlight, (call t c host).2.2⟩
  /-- The transfer is armed again. -/
  | rearmed {t c rest inFlight host} :
      (call t c host).1.honoured c.status = true →
      Step ⟨(t, c) :: rest, inFlight, host⟩ ⟨rest, inFlight ++
        [{ t with handler := (call t c host).2.1, reply := none, cancelled := false }],
        (call t c host).2.2⟩
  /-- The transfer should be armed again, but its resubmission is refused. -/
  | refused {t c rest inFlight host} :
      (call t c host).1.honoured c.status = true →
      Step ⟨(t, c) :: rest, inFlight, host⟩ ⟨rest, inFlight,
        ((call t c host).2.1.react .refused (call t c host).2.2).2.2⟩

/-- Several completions, one after the other. -/
abbrev Steps : Line κ ω → Line κ ω → Prop := Relation.ReflTransGen Step

/-- What every step keeps, several keep. -/
lemma Steps.induction {R : Line κ ω → Prop} (hstep : ∀ {l l'}, Step l l' → R l → R l')
    {l l' : Line κ ω} (h : Steps l l') (hl : R l) : R l' := by
  induction h with
  | refl => exact hl
  | tail _ hlast ih => exact hstep hlast ih

end Line

section
variable [Consumer κ ω]

/-- The handler calls of a pass are steps of the line; of the bench they change the transfers in
flight, and the count of submissions grows. -/
lemma Bench.run_deliver (ready : List (InFlight (Handler κ) × Completion))
    (b : Bench (Handler κ)) (host : Host ω) :
    ∃ b' host', (deliver ready b).run Handler.react host = (.ok (), b', host') ∧
      b' = { b with inFlight := b'.inFlight, submissions := b'.submissions } ∧
      b.submissions ≤ b'.submissions ∧
      Line.Steps ⟨ready, b.inFlight, host⟩ ⟨[], b'.inFlight, host'⟩ := by
  induction ready generalizing b host with
  | nil => exact ⟨b, host, rfl, rfl, Nat.le_refl _, .refl⟩
  | cons head rest ih =>
      obtain ⟨t, c⟩ := head
      rw [deliver, Pass.run]
      rcases hcall : Line.call t c host with ⟨rearm, handler, host₁⟩
      have hcall' : t.handler.react c host = (rearm, handler, host₁) := hcall
      rw [hcall']
      dsimp only
      by_cases hhon : rearm.honoured c.status = true
      · have hhead : (Line.call t c host).1.honoured c.status = true := by rw [hcall]; exact hhon
        rw [if_pos hhon]
        split
        · rw [Pass.run]
          rcases hagain : handler.react .refused host₁ with ⟨rearm₂, handler₂, host₂⟩
          dsimp only
          obtain ⟨b', host', hrun, hframe, hcount, hsteps⟩ :=
            ih { b with submissions := b.submissions + 1 } host₂
          refine ⟨b', host', hrun, hframe, Nat.le_of_succ_le hcount, .head (.refused hhead) ?_⟩
          rw [hcall, hagain]
          exact hsteps
        · obtain ⟨b', host', hrun, hframe, hcount, hsteps⟩ :=
            ih ({ b with submissions := b.submissions + 1 }.arm
              { t with handler, reply := none, cancelled := false }) host₁
          refine ⟨b', host', hrun, hframe, Nat.le_of_succ_le hcount, .head (.rearmed hhead) ?_⟩
          rw [hcall]
          exact hsteps
      · have hhead : (Line.call t c host).1.honoured c.status = false := by
          rw [hcall]
          simpa using hhon
        rw [if_neg hhon]
        obtain ⟨b', host', hrun, hframe, hcount, hsteps⟩ := ih b host₁
        refine ⟨b', host', hrun, hframe, hcount, .head (.ended hhead) ?_⟩
        rw [hcall]
        exact hsteps

end

/-! ### Passes -/

namespace Session

/-- The line of a session between passes, on which nothing waits. -/
def line (s : Session (Bench (Handler κ)) ω) : Line κ ω := ⟨[], s.transport.inFlight, s.host⟩

variable [Consumer κ ω]

/-- **What an event pass comes to**, by the next event of the script. -/
inductive EventPass (s : Session (Bench (Handler κ)) ω) :
    Except UsbError Unit → Session (Bench (Handler κ)) ω → Prop where
  /-- It is to fail, and completes nothing. -/
  | failed {error} : s.transport.script.head? = some (.fail error) →
      EventPass s (.error error) ⟨{ s.transport with
        eventsHandled := s.transport.eventsHandled + 1, script := s.transport.script.tail }, s.host⟩
  /-- The device is unplugged, and nothing completes. -/
  | detached : s.transport.script.head? = some .detach →
      EventPass s (.ok ()) ⟨{ s.transport with
        eventsHandled := s.transport.eventsHandled + 1, script := s.transport.script.tail
        attached := false }, s.host⟩
  /-- The transfers settle, and the handlers of those that have ended are called. -/
  | dispatched {ready pending chunks b host} :
      s.transport.script.head?.getD .dispatch = .dispatch →
      Bench.settleAll s.transport.inFlight s.transport.chunks = (ready, pending, chunks) →
      b = { s.transport with
        eventsHandled := s.transport.eventsHandled + 1, script := s.transport.script.tail, chunks
        inFlight := b.inFlight, submissions := b.submissions } →
      s.transport.submissions ≤ b.submissions →
      Line.Steps ⟨ready, pending, s.host⟩ ⟨[], b.inFlight, host⟩ → EventPass s (.ok ()) ⟨b, host⟩

lemma eventPass_of_events {s s' : Session (Bench (Handler κ)) ω} {ms : Nat}
    {result : Except UsbError Unit} (h : s.events ms = (result, s')) : EventPass s result s' := by
  obtain ⟨b, host⟩ := s
  have hevents : Transport.events b ms = b.events := rfl
  rw [events, hevents, Bench.events] at h
  dsimp only at h
  rcases hscript : b.script.head? with - | (- | error | -)
  all_goals rw [hscript] at h
  case none | some.dispatch =>
    rcases hsettle : Bench.settleAll b.inFlight b.chunks with ⟨ready, pending, chunks⟩
    obtain ⟨b', host', hrun, hframe, hcount, hsteps⟩ := Bench.run_deliver ready
      { b with
        eventsHandled := b.eventsHandled + 1, script := b.script.tail
        inFlight := pending, chunks } host
    simp only [Option.getD, hsettle, hrun] at h
    cases h
    exact .dispatched (by rw [hscript]; rfl) hsettle hframe hcount hsteps
  case some.fail =>
    cases h
    exact .failed hscript
  case some.detach =>
    cases h
    exact .detached hscript

/-- **What an event pass can bring about.** -/
structure Passed (s s' : Session (Bench (Handler κ)) ω) : Prop where
  frame : s'.transport = { s.transport with
    inFlight := s'.transport.inFlight, chunks := s'.transport.chunks
    submissions := s'.transport.submissions, eventsHandled := s'.transport.eventsHandled
    script := s'.transport.script, attached := s'.transport.attached }
  moves : (s'.host = s.host ∧ s'.transport.inFlight = s.transport.inFlight ∧
      s'.transport.chunks = s.transport.chunks) ∨
    ∃ ready pending, Bench.settleAll s.transport.inFlight s.transport.chunks =
        (ready, pending, s'.transport.chunks) ∧
      Line.Steps ⟨ready, pending, s.host⟩ s'.line

/-- Every event pass of the bench is of this kind. -/
theorem passed_events (s : Session (Bench (Handler κ)) ω) (ms : Nat) :
    Passed s (s.events ms).2 := by
  rcases hrun : s.events ms with ⟨result, s'⟩
  cases eventPass_of_events hrun with
  | failed _ => exact ⟨rfl, Or.inl ⟨rfl, rfl, rfl⟩⟩
  | detached _ => exact ⟨rfl, Or.inl ⟨rfl, rfl, rfl⟩⟩
  | dispatched _ hsettle hframe _ hsteps =>
      refine ⟨?_, Or.inr ⟨_, _, ?_, hsteps⟩⟩
      · rw [hframe]
      · rw [hframe]
        exact hsettle

/-- What settling and every step of the line keep, a pass keeps. -/
lemma Passed.line_induction {R : Line κ ω → Prop}
    (hsettle : ∀ {ts chunks ready pending chunks' host},
      Bench.settleAll ts chunks = (ready, pending, chunks') →
      R ⟨[], ts, host⟩ → R ⟨ready, pending, host⟩)
    (hstep : ∀ {l l'}, Line.Step l l' → R l → R l')
    {s s' : Session (Bench (Handler κ)) ω} (h : Passed s s') (hs : R s.line) : R s'.line := by
  rcases h.moves with ⟨hhost, hflight, -⟩ | ⟨ready, pending, hset, hsteps⟩
  · rw [line, hhost, hflight]
    exact hs
  · exact hsteps.induction hstep (hsettle hset hs)

end Session

end LogicCapture
