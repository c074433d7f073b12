/-
What a control transfer over a link comes to, when others have been given up and complete later.

* `ControlCall`: a control transfer as it is asked for;
* `Sight`: what a call sees of an occurrence, namely the completion of its own transfer, of others
  only that the device is gone, and the results of event passes;
* `outcome`, `ControlCall.report`: what a call comes to, told from what it sees alone;
* `Course.answered_step`: a completion of another transfer changes nothing for the call that waits,
  or shows it that the device is gone;
* `Session.await_outcome`, `Session.report_of_controlTransfer`: waiting, and the whole call, come to
  what the occurrences meanwhile tell;
* `Session.kept_conversant`: control transfers leave the link in order for the next one.
-/
import LogicCapture.Proofs.Link.Attested

namespace LogicCapture

open HostStack (Settled Submission)

variable {κ ω H τ τ' : Type}

/-! ### Calls -/

/-- A control transfer as it is asked for. -/
structure ControlCall where
  request : UInt8
  value : UInt16
  index : UInt16
  data : ControlData
  timeoutMs : Nat

/-- The transfer that the call submits. -/
def ControlCall.transfer (c : ControlCall) : TransferRequest :=
  ⟨.control, Session.controlBuffer (Session.vendorSetup c.request c.value c.index c.data) c.data,
    c.timeoutMs⟩

/-! ### What a call sees -/

/-- What a call sees of an occurrence. -/
inductive Sight where
  /-- Its transfer has completed. -/
  | answered (completion : Completion)
  /-- Another transfer has completed, and shows that the device is gone. -/
  | lost
  | passed (result : Except UsbError Unit)

/-- What the completion of a transfer says. -/
def HostStack.Submission.completion (t : Submission) (settled : Settled) : Completion :=
  (⟨t, ()⟩ : DeviceLink.Owned Unit).completion settled

/-- What the call that has submitted `t` sees of an occurrence. -/
def Occurrence.sight (t : Submission) : Occurrence → Option Sight
  | .ended t' settled =>
    if t' = t then some (.answered (t.completion settled))
    else if TransferStatus.ofCode settled.status = .noDevice then some .lost
    else none
  | .passed result => some (.passed result)
  | _ => none

/-- What a call knows while it waits. -/
structure Outlook where
  reply : Option Completion := none
  attached : Bool := true

namespace Outlook

/-- Only the first completion counts. -/
def see (o : Outlook) : Sight → Outlook
  | .answered completion =>
    ⟨o.reply.or (some completion), o.attached && completion.status ≠ .noDevice⟩
  | .lost => { o with attached := false }
  | .passed _ => o

/-- What the call comes to, if it need not wait any more. -/
def decided (o : Outlook) : Option (Except UsbError Completion) :=
  match o.reply with
  | some completion => some (.ok completion)
  | none => if o.attached then none else some (.ok ⟨.noDevice, []⟩)

/-- What it comes to after an event pass. -/
def verdict (o : Outlook) : Except UsbError Unit → Option (Except UsbError Completion)
  | .ok () => o.decided
  | .error error => if error.isTransient then o.decided else some (.error error)

end Outlook

/-- **What a call that waits comes to**, told from what it sees. -/
def outcome (o : Outlook) : List Sight → Option (Except UsbError Completion)
  | [] => none
  | .passed result :: rest => (o.verdict result).or (outcome o rest)
  | sight :: rest => outcome (o.see sight) rest

/-- **What a call comes to**, told from what occurs during it: of the completions, only that of its
own transfer counts. -/
def ControlCall.report (c : ControlCall) : List Occurrence → Option ControlResult
  | [] => some ⟨.error .invalidParam, c.data.bytes⟩
  | .declined error :: _ => some ⟨.error error, c.data.bytes⟩
  | .taken t :: rest => (outcome {} (rest.filterMap (Occurrence.sight t))).map
      (Session.conclude c.data)
  | _ => none

/-! ### Completions of control transfers -/

namespace DeviceLink

/-- All handlers are those of control transfers, the latest of which has this number. -/
def Controls (l : DeviceLink (Handler κ)) (ticket : Nat) : Prop :=
  ∀ o ∈ l.owned, ∃ n ≤ ticket, o.handler = .control n

/-- **The latest control transfer is `t`**, and the link keeps its handler until it completes. -/
structure Waits (t : Submission) (l : DeviceLink (Handler κ)) (host : Host ω) : Prop where
  controls : l.Controls host.ticket
  own : ∀ o ∈ l.owned, o.handler = .control host.ticket ↔ o.submission = t
  pending : host.reply = none → ∃ o ∈ l.owned, o.submission = t

end DeviceLink

/-- What the call that waits can know. -/
def Outlook.of (l : DeviceLink H) (host : Host ω) : Outlook := ⟨host.reply, l.attached⟩

/-- What it knows after some occurrences. -/
def Outlook.after (o : Outlook) (t : Submission) (occurrences : List Occurrence) : Outlook :=
  (occurrences.filterMap (Occurrence.sight t)).foldl Outlook.see o

lemma Outlook.after_append (o : Outlook) (t : Submission) (before more : List Occurrence) :
    o.after t (before ++ more) = (o.after t before).after t more := by
  rw [after, after, after, List.filterMap_append, List.foldl_append]

namespace Course

variable [Consumer κ ω] {c c' : Course (Handler κ) (Host ω)}

/-- **A completion of a control transfer is only noted.** -/
lemma control_step (hstep : Step Handler.react c c') (hexact : c.link.Exact c.queue)
    (hcontrols : c.link.Controls c.state.ticket) : ∃ settled o n,
      c.queue = settled :: c'.queue ∧ c.link.awaiting settled.id = some o ∧
      o.handler = .control n ∧ c'.link = (c.link.told settled).forget settled.id ∧
      c'.state = c.state.note n (o.completion settled) := by
  cases hstep with
  | strayed hnone =>
      have howns := hexact.waiting _ List.mem_cons_self
      rw [DeviceLink.awaiting_eq_none.mp hnone] at howns
      cases howns
  | @ended settled rest l s o rearm handler s' hfind hreact _ =>
      obtain ⟨n, -, hn⟩ := hcontrols o (DeviceLink.mem_of_awaiting hfind).1
      rw [hn, Handler.react] at hreact
      obtain ⟨-, hrest⟩ := Prod.mk.inj hreact
      exact ⟨settled, o, n, rfl, hfind, hn, rfl, (Prod.mk.inj hrest).2.symm⟩
  | rearmed hfind hreact hhon _ =>
      obtain ⟨n, -, hn⟩ := hcontrols _ (DeviceLink.mem_of_awaiting hfind).1
      rw [hn, Handler.react] at hreact
      rw [← (Prod.mk.inj hreact).1] at hhon
      cases hhon
  | refused hfind hreact hhon _ _ _ =>
      obtain ⟨n, -, hn⟩ := hcontrols _ (DeviceLink.mem_of_awaiting hfind).1
      rw [hn, Handler.react] at hreact
      rw [← (Prod.mk.inj hreact).1] at hhon
      cases hhon

/-- A completion takes its transfer out of the link and leaves the others. -/
lemma controls_step (hstep : Step Handler.react c c') (hexact : c.link.Exact c.queue)
    (hcontrols : c.link.Controls c.state.ticket) : c'.link.Controls c'.state.ticket := by
  obtain ⟨settled, o, n, -, -, -, hlink, hstate⟩ := control_step hstep hexact hcontrols
  intro o' ho'
  rw [hlink, DeviceLink.owned_forget_told] at ho'
  obtain ⟨m, hm, hhandler⟩ := hcontrols o' (List.mem_filter.mp ho').1
  refine ⟨m, ?_, hhandler⟩
  rw [hstate, Host.note]
  split <;> exact hm

/-- **A completion of another transfer changes nothing for the call that waits**, or it shows that
the device is gone; that of its own transfer is its reply. -/
theorem answered_step {t : Submission} (hstep : Step Handler.react c c')
    (hexact : c.link.Exact c.queue) (h : c.link.Waits t c.state) :
    c'.link.Waits t c'.state ∧ ∃ settled o, c.queue = settled :: c'.queue ∧
      c.link.awaiting settled.id = some o ∧ c'.link.owned = (c.link.forget settled.id).owned ∧
      Outlook.of c'.link c'.state =
        (Outlook.of c.link c.state).after t [.ended o.submission settled] := by
  have hcontrols := controls_step hstep hexact h.controls
  obtain ⟨settled, o, n, hqueue, hfind, hn, hlink, hstate⟩ :=
    control_step hstep hexact h.controls
  obtain ⟨ho, hid⟩ := DeviceLink.mem_of_awaiting hfind
  have howned : c'.link.owned = (c.link.forget settled.id).owned := by
    rw [hlink, DeviceLink.owned_forget_told, DeviceLink.forget]
  have hmem {o' : DeviceLink.Owned (Handler κ)} (ho' : o' ∈ c'.link.owned) : o' ∈ c.link.owned := by
    rw [howned, DeviceLink.forget] at ho'
    exact (List.mem_filter.mp ho').1
  have hattached : c'.link.attached =
      (c.link.attached && TransferStatus.ofCode settled.status ≠ .noDevice) := by
    rw [hlink]
    exact DeviceLink.attached_noteStatus _ _
  have hticket : c'.state.ticket = c.state.ticket := by
    rw [hstate, Host.note]
    split <;> rfl
  have hsame : n = c.state.ticket ↔ o.submission = t := by
    rw [← h.own o ho, hn, Handler.control.injEq]
  have hreply : c'.state.reply = if o.submission = t then
      c.state.reply.or (some (o.completion settled)) else c.state.reply := by
    rw [hstate, Host.note]
    cases hnone : c.state.reply with
    | none => by_cases hown : o.submission = t <;> simp [hown, hsame, hnone]
    | some reply => simp [hnone]
  refine ⟨⟨hcontrols, fun o' ho' => hticket.symm ▸ h.own o' (hmem ho'), fun hnone => ?_⟩,
    settled, o, hqueue, hfind, howned, ?_⟩
  · rw [hreply] at hnone
    by_cases hown : o.submission = t
    · rw [if_pos hown] at hnone
      cases hbefore : c.state.reply <;> simp [hbefore] at hnone
    · rw [if_neg hown] at hnone
      obtain ⟨o', ho', rfl⟩ := h.pending hnone
      refine ⟨o', ?_, rfl⟩
      rw [howned, DeviceLink.forget]
      refine List.mem_filter.mpr ⟨ho', ?_⟩
      simp only [ne_eq, decide_eq_true_eq]
      intro heq
      exact hown (congrArg DeviceLink.Owned.submission
        (List.inj_on_of_nodup_map hexact.ids ho ho' (hid.trans heq.symm)))
  · rw [Outlook.of, hreply, hattached]
    by_cases hown : o.submission = t
    · have hcompletion : t.completion settled = o.completion settled := by
        rw [← hown]
        rfl
      simp [Outlook.after, Occurrence.sight, Outlook.see, Outlook.of, hown, hcompletion,
        DeviceLink.Owned.completion]
    · by_cases hgone : TransferStatus.ofCode settled.status = .noDevice <;>
        simp [Outlook.after, Occurrence.sight, Outlook.see, Outlook.of, hown, hgone]

end Course

namespace DeviceLink

variable {l : DeviceLink (Handler κ)}

/-- Only an error that says so shows at the end of a pass that the device is gone. -/
lemma attached_closed_of_verdict {code : Int} (h : verdict code ≠ .error .noDevice) :
    (l.closed code).attached = l.attached := by
  rw [verdict] at h
  rw [closed]
  split
  · rename_i hcode
    rw [if_pos hcode] at h
    have hne : UsbError.ofStackCode code ≠ .noDevice := fun heq => h (congrArg Except.error heq)
    simp [hne]
  · rfl

/-- A pass leaves only handlers of control transfers. -/
lemma controls_events [Consumer κ ω] {host : Host ω} (hexact : l.Exact [])
    (hcontrols : l.Controls host.ticket) (ms : Nat) :
    let run := (l.events ms).run Handler.react host
    run.2.1.Controls run.2.2.ticket := by
  obtain ⟨l', host', hsteps, hrun⟩ := run_events Handler.react l ms host
  have hend := hsteps.induction
    (R := fun c : Course (Handler κ) (Host ω) =>
      c.link.Exact c.queue ∧ c.link.Controls c.state.ticket)
    (fun hstep hc => ⟨Course.exact_step hstep hc.1, Course.controls_step hstep hc.1 hc.2⟩)
    ⟨hexact.polled ms host, hcontrols⟩
  rw [hrun]
  exact fun o ho => hend.2 o (owned_closed _ _ ▸ ho)

variable [Consumer κ ω]

/-- **What a pass shows the call that waits** is what its own transfer has come to, and whether the
device is gone. -/
lemma answered_events {t : Submission} {host : Host ω} (hexact : l.Exact []) (h : l.Waits t host)
    (ms : Nat) :
    let run := (l.events ms).run Handler.react host
    run.2.1.Waits t run.2.2 ∧ (run.1 ≠ .error .noDevice →
      Outlook.of run.2.1 run.2.2 =
        (Outlook.of l host).after t (l.endings (l.stack.poll ms).2.1)) := by
  obtain ⟨l', host', hrun, hwaits, hknown⟩ := endings_induction Handler.react hexact ms host
    (R := fun done link state => link.Waits t state ∧
      Outlook.of link state = (Outlook.of l host).after t done)
    ⟨⟨h.controls, h.own, h.pending⟩, rfl⟩
    (by
      rintro c c' done settled o hstep hexact hqueue hfind ⟨hwaits, hknown⟩
      obtain ⟨hwaits', settled', o', hqueue', hfind', -, hknown'⟩ :=
        Course.answered_step hstep hexact hwaits
      obtain ⟨rfl, -⟩ := List.cons.inj (hqueue.symm.trans hqueue')
      obtain rfl := Option.some.inj (hfind.symm.trans hfind')
      exact ⟨hwaits', by rw [hknown', hknown, Outlook.after_append]⟩)
  simp only [hrun]
  refine ⟨⟨fun o ho => hwaits.controls o (owned_closed l' _ ▸ ho),
    fun o ho => hwaits.own o (owned_closed l' _ ▸ ho), ?_⟩, fun hpass => ?_⟩
  · rw [owned_closed]
    exact hwaits.pending
  · rw [Outlook.of, attached_closed_of_verdict hpass]
    exact hknown

end DeviceLink

/-! ### Waiting -/

/-- The ends of transfers that a call sees bring it no verdict before the pass is over. -/
lemma outcome_endings (o : Outlook) (t : Submission) {endings : List Occurrence}
    (h : ∀ occurrence ∈ endings, ∃ t' settled, occurrence = .ended t' settled)
    (rest : List Occurrence) : outcome o ((endings ++ rest).filterMap (Occurrence.sight t)) =
      outcome (o.after t endings) (rest.filterMap (Occurrence.sight t)) := by
  induction endings generalizing o with
  | nil => rfl
  | cons occurrence more ih =>
      obtain ⟨t', settled, rfl⟩ := h occurrence List.mem_cons_self
      have hmore := fun o => ih o fun occurrence hmem => h occurrence (List.mem_cons_of_mem _ hmem)
      rw [List.cons_append, List.filterMap_cons, ← List.singleton_append (l := more),
        Outlook.after_append]
      by_cases hown : t' = t
      · simp only [Occurrence.sight, hown, if_true, outcome]
        rw [hmore]
        simp [Outlook.after, Occurrence.sight]
      · by_cases hgone : TransferStatus.ofCode settled.status = .noDevice
        · simp only [Occurrence.sight, hown, hgone, if_true, if_false, outcome]
          rw [hmore]
          simp [Outlook.after, Occurrence.sight, hown, hgone]
        · simp only [Occurrence.sight, hown, hgone, if_false]
          rw [hmore]
          simp [Outlook.after, Occurrence.sight, hown, hgone]

namespace Session

variable [Consumer κ ω] {s s' : Session (Attested (Handler κ)) ω} {t : Submission}

omit [Consumer κ ω] in
/-- A transfer that is waited for has its handler. -/
lemma not_abandoned (h : s.transport.link.Waits t s.host) (hnone : s.host.reply = none) :
    s.isAbandoned = false := by
  obtain ⟨o, ho, hown⟩ := h.pending hnone
  have hmem : o.handler ∈ (Transport.handlers s.transport : List (Handler κ)) :=
    List.mem_map_of_mem (f := DeviceLink.Owned.handler) ho
  rw [isAbandoned, List.all_eq_false]
  refine ⟨o.handler, hmem, ?_⟩
  rw [(h.own o ho).mpr hown]
  simp

/-- Waiting is over once the call is decided. -/
lemma await_decided {id : TransferId} {passes : Nat} {out out' : Except UsbError Completion}
    (h : s.transport.link.Waits t s.host)
    (hdecided : (Outlook.of s.transport.link s.host).decided = some out)
    (hrun : await id passes s = some (out', s')) : out' = out ∧ s' = s := by
  cases passes with
  | zero => simp [await] at hrun
  | succ passes =>
      rw [await] at hrun
      cases hreply : s.host.reply with
      | some completion =>
          rw [hreply] at hrun
          cases hrun
          simp only [Outlook.of, Outlook.decided, hreply, Option.some.injEq] at hdecided
          exact ⟨hdecided, rfl⟩
      | none =>
          have hgone : s.transport.link.attached = false := by
            simp only [Outlook.of, Outlook.decided, hreply] at hdecided
            by_contra hthere
            simp [Bool.not_eq_false _ ▸ hthere] at hdecided
          have hgone' : Transport.attached s.transport = false := hgone
          rw [hreply, not_abandoned h hreply, hgone'] at hrun
          cases hrun
          simp only [Outlook.of, Outlook.decided, hreply, hgone, Bool.false_eq_true, if_false,
            Option.some.injEq] at hdecided
          exact ⟨hdecided, rfl⟩

/-- **A pass while a call waits** adds what the call sees of it. -/
lemma waits_events (hexact : s.transport.link.Exact []) (h : s.transport.link.Waits t s.host)
    {ms : Nat} {result : Except UsbError Unit} (hpass : s.events ms = (result, s')) :
    s'.transport.link.Exact [] ∧ s'.transport.link.Waits t s'.host ∧
      ∃ endings : List Occurrence,
        (∀ occurrence ∈ endings, ∃ t' settled, occurrence = .ended t' settled) ∧
        s'.transport.occurrences = s.transport.occurrences ++ (endings ++ [.passed result]) ∧
        (result ≠ .error .noDevice → Outlook.of s'.transport.link s'.host =
          (Outlook.of s.transport.link s.host).after t endings) := by
  obtain ⟨hwaits, hknown⟩ := DeviceLink.answered_events hexact h ms
  have hexact' := hexact.passed Handler.react ms s.host
  rw [Attested.events_eq] at hpass
  obtain ⟨rfl, rfl⟩ := Prod.mk.inj hpass
  exact ⟨hexact', hwaits, _, DeviceLink.mem_endings, rfl, hknown⟩

/-- **What waiting comes to** is what the occurrences meanwhile tell. -/
theorem await_outcome {id : TransferId} {passes : Nat} {out : Except UsbError Completion}
    (hexact : s.transport.link.Exact []) (h : s.transport.link.Waits t s.host)
    (hopen : Outlook.of s.transport.link s.host = {}) (hrun : await id passes s = some (out, s')) :
    ∃ more, s'.transport.occurrences = s.transport.occurrences ++ more ∧
      outcome {} (more.filterMap (Occurrence.sight t)) = some out ∧
      more.filterMap Occurrence.takenId? = [] := by
  induction passes generalizing s with
  | zero => simp [await] at hrun
  | succ passes ih =>
      obtain ⟨hreply, hattached⟩ := Outlook.mk.inj hopen
      have hattached' : Transport.attached s.transport = true := hattached
      rw [await, hreply, not_abandoned h hreply, hattached'] at hrun
      rcases hpass : s.events waitPassMs with ⟨result, s₁⟩
      obtain ⟨hexact₁, hwaits₁, endings, hends, hadded, hknown⟩ := waits_events hexact h hpass
      rw [hopen] at hknown
      have hseen (more : List Occurrence) :
          outcome {} ((endings ++ [Occurrence.passed result] ++ more).filterMap
            (Occurrence.sight t)) =
            (((Outlook.after {} t endings).verdict result).or
              (outcome (Outlook.after {} t endings) (more.filterMap (Occurrence.sight t)))) := by
        rw [List.append_assoc, outcome_endings _ _ hends]
        rfl
      have htaken := Occurrence.takenIds_pass hends result
      -- the pass has not failed for good, so the call goes on with what it knows after it
      have hcontinue (hverdict : (Outlook.of s₁.transport.link s₁.host).verdict result =
            (Outlook.of s₁.transport.link s₁.host).decided) (hlost : result ≠ .error .noDevice)
          (hrest : await id passes s₁ = some (out, s')) :
          ∃ more, s'.transport.occurrences = s.transport.occurrences ++ more ∧
            outcome {} (more.filterMap (Occurrence.sight t)) = some out ∧
            more.filterMap Occurrence.takenId? = [] := by
        rw [hknown hlost] at hverdict
        cases hdecided : (Outlook.after {} t endings).decided with
        | some out' =>
            rw [← hknown hlost] at hdecided
            obtain ⟨rfl, rfl⟩ := await_decided hwaits₁ hdecided hrest
            refine ⟨endings ++ [.passed result], hadded, ?_, htaken⟩
            have hend := hseen []
            rw [List.append_nil, hverdict, ← hknown hlost, hdecided] at hend
            exact hend
        | none =>
            have hstill : Outlook.of s₁.transport.link s₁.host = {} := by
              rw [hknown hlost]
              revert hdecided
              generalize Outlook.after {} t endings = o
              obtain ⟨reply, attached⟩ := o
              cases reply <;> cases attached <;> simp [Outlook.decided]
            obtain ⟨more, hmore, hout, hnone⟩ := ih hexact₁ hwaits₁ hstill hrest
            refine ⟨endings ++ [.passed result] ++ more, ?_, ?_, ?_⟩
            · rw [hmore, hadded, List.append_assoc]
            · rw [hseen, hverdict, hdecided, ← hknown hlost, hstill]
              exact hout
            · rw [List.filterMap_append, htaken, hnone]
              rfl
      rw [hpass] at hrun
      cases result with
      | ok _ => exact hcontinue rfl (by simp) hrun
      | error error =>
          dsimp only at hrun
          by_cases htransient : error.isTransient = true
          · have hlost : (.error error : Except UsbError Unit) ≠ .error .noDevice := by
              rintro heq
              rw [Except.error.inj heq] at htransient
              cases htransient
            exact hcontinue (if_pos htransient) hlost (by simpa [htransient] using hrun)
          · simp only [htransient] at hrun
            cases hrun
            refine ⟨endings ++ [.passed (.error error)], ?_, ?_, htaken⟩
            · exact (List.append_nil _).trans hadded
            · have hend := hseen []
              rw [List.append_nil] at hend
              rw [hend, Outlook.verdict, if_neg htransient]
              rfl

/-- The session without the list of occurrences. -/
abbrev onLink (s : Session (Attested (Handler κ)) ω) : Session (DeviceLink (Handler κ)) ω :=
  s.mapTransport Attested.link

/-- **Between calls** the link is in order, all transfers on it are those of calls, and the list is
right. -/
structure Conversant (s : Session (Attested (Handler κ)) ω) : Prop where
  alert : (Pool.empty 0).Alert s.onLink
  controls : s.transport.link.Controls s.host.ticket
  faithful : s.transport.Faithful

omit [Consumer κ ω] in
/-- A transfer that has just been taken over is waited for. -/
lemma waits_of_submit {l l' : DeviceLink (Handler κ)} {host : Host ω} {request : TransferRequest}
    {id : TransferId} (hcontrols : l.Controls host.ticket)
    (hfresh : ∀ o ∈ l.owned, o.submission.id < id)
    (hsubmit : l.submit id request (.control host.expect.ticket) = (.ok (), l')) :
    l'.Waits (DeviceLink.submission id request) host.expect ∧ l'.attached = l.attached := by
  obtain ⟨⟨_, hno⟩, -⟩ | ⟨code, stack, -, -, ⟨-, hno, -⟩ | ⟨-, -, rfl⟩⟩ :=
    DeviceLink.submit_cases hsubmit
  · cases hno
  · cases hno
  · refine ⟨⟨fun o ho => ?_, fun o ho => ?_,
      fun _ => ⟨_, List.mem_append_right _ (List.mem_singleton_self _), rfl⟩⟩, rfl⟩
    · rcases List.mem_append.mp ho with ho | ho
      · obtain ⟨n, hn, hhandler⟩ := hcontrols o ho
        exact ⟨n, Nat.le_succ_of_le hn, hhandler⟩
      · exact ⟨_, Nat.le_refl _, by rw [List.mem_singleton.mp ho]⟩
    · rcases List.mem_append.mp ho with ho | ho
      · obtain ⟨n, hn, hhandler⟩ := hcontrols o ho
        refine iff_of_false (fun heq => ?_) fun heq => ?_
        · rw [hhandler, Handler.control.injEq] at heq
          rw [heq] at hn
          exact absurd hn (Nat.not_succ_le_self _)
        · have hless := hfresh o ho
          rw [heq] at hless
          exact Nat.lt_irrefl _ hless
      · rw [List.mem_singleton.mp ho]
        exact iff_of_true rfl rfl

/-- **A call comes to what its own occurrences tell.** -/
theorem report_of_controlTransfer {c : ControlCall} {result : ControlResult} (h : s.Conversant)
    (hrun : s.controlTransfer c.request c.value c.index c.data c.timeoutMs = some (result, s')) :
    ∃ more, s'.transport.occurrences = s.transport.occurrences ++ more ∧
      c.report more = some result ∧
      ∀ t, .taken t ∈ more → t = DeviceLink.submission t.id c.transfer := by
  have hexact : s.transport.link.Exact [] := h.alert.linked.exact
  cases transfers_of_controlTransfer hrun with
  | refused => exact ⟨[], (List.append_nil _).symm, rfl, by simp⟩
  | @unallocated error a _ halloc =>
      obtain ⟨l, -, rfl⟩ := Attested.alloc_eq halloc
      exact ⟨[.declined error], rfl, rfl, by simp⟩
  | @unsubmitted id a error a' hbegun hsubmit =>
      obtain ⟨l, -, rfl⟩ := Attested.alloc_eq hbegun.alloc
      obtain ⟨l', -, rfl⟩ := Attested.submit_eq hsubmit
      refine ⟨[.declined error], ?_, rfl, by simp⟩
      exact (List.append_nil _).trans (congrArg (· ++ _) (List.append_nil _))
  | @waited id a a' out s₁ hbegun hsubmit hwait =>
      obtain ⟨l, halloc, rfl⟩ := Attested.alloc_eq hbegun.alloc
      obtain ⟨l', hsubmit', rfl⟩ := Attested.submit_eq hsubmit
      have hexact₁ := hexact.alloc halloc
      obtain ⟨hid, stack, rfl, -, -, hnext⟩ := DeviceLink.alloc_ok halloc
      obtain ⟨hwaits, hattached⟩ := waits_of_submit (l := { s.transport.link with stack })
        h.controls (fun o ho => hid ▸ hexact.handed o ho) hsubmit'
      have hexact₂ := hexact₁.submit (by rw [hid, hnext]; exact Nat.lt_succ_self _) hsubmit'
      have hopen : Outlook.of l' s.host.expect = {} := by
        rw [Outlook.of, hattached]
        exact congrArg (Outlook.mk none) hbegun.attached
      obtain ⟨more, hmore, hout, hnone⟩ := await_outcome hexact₂ hwaits hopen hwait
      refine ⟨.taken (DeviceLink.submission id c.transfer) :: more, ?_, ?_, ?_⟩
      · refine (List.append_nil _).trans (hmore.trans ?_)
        simp only [Attested.note, Occurrence.declines, Attested.submitted, List.append_nil,
          List.append_assoc]
        rfl
      · exact congrArg (Option.map (conclude c.data)) hout
      · intro t ht
        rcases List.mem_cons.mp ht with heq | ht
        · rw [Occurrence.taken.inj heq]
          rfl
        · have hmem : t.id ∈ more.filterMap Occurrence.takenId? :=
            List.mem_filterMap.mpr ⟨_, ht, rfl⟩
          rw [hnone] at hmem
          cases hmem

/-- An event pass leaves the link in order. -/
lemma Conversant.events {s : Session (Attested (Handler κ)) ω} (h : s.Conversant) (ms : Nat) :
    (s.events ms).2.Conversant := by
  have hexact : s.transport.link.Exact [] := h.alert.linked.exact
  refine ⟨(Pool.upheld_alert.cover Attested.covers).pass ms h.alert, ?_,
    h.faithful.passed hexact ms⟩
  rw [Attested.events_eq]
  exact DeviceLink.controls_events hexact h.controls ms

/-- **Control transfers leave the link in order** for the next one. -/
theorem kept_conversant : Kept (Conversant (κ := κ) (ω := ω)) (fun _ => Conversant) := by
  have hkept := (Pool.upheld_alert (κ := κ) (ω := ω)).cover Attested.covers |>.kept (.empty 0)
  refine { passed := ?passed, cancelled := ?cancelled, unallocated := ?unallocated,
           refused := ?refused, submitted := ?submitted, freed := ?freed }
  case passed =>
    intro id s ms h
    exact h.events ms
  case cancelled =>
    intro id s h
    refine ⟨hkept.cancelled h.alert, ?_, h.faithful.cancel id⟩
    exact fun o ho => h.controls o (DeviceLink.owned_cancel s.transport.link id ▸ ho)
  case unallocated =>
    intro s error a h halloc
    refine ⟨hkept.unallocated h.alert halloc, ?_, h.faithful.alloc halloc⟩
    obtain ⟨l, hrun, rfl⟩ := Attested.alloc_eq halloc
    obtain ⟨stack, rfl, -⟩ := DeviceLink.alloc_error hrun
    exact h.controls
  case refused =>
    intro s id a request error a' h hattached halloc hkind hsubmit
    obtain ⟨hid, hnew⟩ := h.faithful.fresh halloc
    refine ⟨hkept.refused h.alert hattached halloc hkind hsubmit, ?_,
      ((h.faithful.alloc halloc).submit hid hnew hsubmit).free id⟩
    obtain ⟨l, hrun, rfl⟩ := Attested.alloc_eq halloc
    obtain ⟨l', hrun', rfl⟩ := Attested.submit_eq hsubmit
    obtain ⟨-, stack, rfl, -⟩ := DeviceLink.alloc_ok hrun
    intro o ho
    have hrefused := DeviceLink.owned_of_refused hrun'
    have howned : (l'.free id).owned = s.transport.link.owned :=
      (DeviceLink.owned_free l' id).trans hrefused
    obtain ⟨n, hn, hhandler⟩ := h.controls o (howned ▸ ho)
    exact ⟨n, Nat.le_succ_of_le hn, hhandler⟩
  case submitted =>
    intro s id a request a' h hattached halloc hkind hsubmit
    obtain ⟨hid, hnew⟩ := h.faithful.fresh halloc
    refine ⟨hkept.submitted h.alert hattached halloc hkind hsubmit, ?_,
      (h.faithful.alloc halloc).submit hid hnew hsubmit⟩
    have hexact : s.transport.link.Exact [] := h.alert.linked.exact
    obtain ⟨l, hrun, rfl⟩ := Attested.alloc_eq halloc
    obtain ⟨l', hrun', rfl⟩ := Attested.submit_eq hsubmit
    obtain ⟨rfl, stack, rfl, -⟩ := DeviceLink.alloc_ok hrun
    exact (waits_of_submit (l := { s.transport.link with stack }) h.controls hexact.handed
      hrun').1.controls
  case freed =>
    intro id s h
    refine ⟨hkept.freed h.alert, ?_, h.faithful.free id⟩
    exact fun o ho => h.controls o (DeviceLink.owned_free s.transport.link id ▸ ho)

end Session

/-- A call that need not wait any more has its reply, or the device is gone. -/
lemma Outlook.reply_of_decided {o : Outlook} {completion : Completion}
    (h : o.decided = some (.ok completion)) :
    o.reply = some completion ∨ completion = ⟨.noDevice, []⟩ := by
  rw [decided] at h
  cases hreply : o.reply with
  | some reply =>
      rw [hreply] at h
      exact Or.inl (congrArg some (Except.ok.inj (Option.some.inj h)))
  | none =>
      rw [hreply] at h
      right
      cases hattached : o.attached <;> simp [hattached] at h
      exact h.symm

/-- A call is answered by the end of its own transfer. -/
lemma Occurrence.ended_of_answered {t : Submission} {occurrence : Occurrence}
    {completion : Completion} (h : occurrence.sight t = some (.answered completion)) :
    ∃ settled, occurrence = .ended t settled ∧ completion = t.completion settled := by
  cases occurrence with
  | ended t' settled =>
      by_cases hown : t' = t
      · simp only [sight, hown, if_true, Option.some.injEq, Sight.answered.injEq] at h
        exact ⟨settled, by rw [hown], h.symm⟩
      · by_cases hgone : TransferStatus.ofCode settled.status = .noDevice <;>
          simp [sight, hown, hgone] at h
  | declined _ => cases h
  | taken _ => cases h
  | passed _ => cases h

/-- A completion that decides a call has been seen, or the device is gone. -/
lemma mem_of_outcome {o : Outlook} {sights : List Sight} {completion : Completion}
    (h : outcome o sights = some (.ok completion)) : o.reply = some completion ∨
      .answered completion ∈ sights ∨ completion = ⟨.noDevice, []⟩ := by
  induction sights generalizing o with
  | nil => cases h
  | cons sight rest ih =>
      have hrest {o' : Outlook} (h' : outcome o' rest = some (.ok completion)) :
          o'.reply = some completion ∨ .answered completion ∈ sight :: rest ∨
            completion = ⟨.noDevice, []⟩ :=
        (ih h').imp_right fun h => h.imp_left (List.mem_cons_of_mem _)
      cases sight with
      | answered first =>
          rcases hrest h with hreply | hseen
          · rw [Outlook.see] at hreply
            cases hbefore : o.reply with
            | some reply => exact Or.inl (by simpa [hbefore] using hreply)
            | none =>
                have hfirst : first = completion := by simpa [hbefore] using hreply
                exact Or.inr (Or.inl (hfirst ▸ List.mem_cons_self))
          · exact Or.inr hseen
      | lost =>
          have hlater : outcome (o.see .lost) rest = some (.ok completion) := h
          have hseen := hrest hlater
          exact hseen
      | passed result =>
          rw [outcome] at h
          have hdecided (hd : o.decided = some (.ok completion)) :
              o.reply = some completion ∨ .answered completion ∈ Sight.passed result :: rest ∨
                completion = ⟨.noDevice, []⟩ :=
            (Outlook.reply_of_decided hd).imp_right Or.inr
          cases hverdict : o.verdict result with
          | none =>
              rw [hverdict] at h
              exact hrest h
          | some out =>
              rw [hverdict, Option.some_or] at h
              rw [h] at hverdict
              cases result with
              | ok _ => exact hdecided hverdict
              | error error =>
                  rw [Outlook.verdict] at hverdict
                  split at hverdict
                  · exact hdecided hverdict
                  · cases hverdict

/-- A report is that of a call which has submitted nothing, or tells what has become of its
transfer. -/
lemma ControlCall.report_cases {c : ControlCall} {occurrences : List Occurrence}
    {result : ControlResult} (h : c.report occurrences = some result) :
    (∃ error, result = ⟨.error error, c.data.bytes⟩) ∨
      ∃ t rest out, occurrences = .taken t :: rest ∧
        outcome {} (rest.filterMap (Occurrence.sight t)) = some out ∧
        result = Session.conclude c.data out := by
  cases occurrences with
  | nil => exact Or.inl ⟨_, (Option.some.inj h).symm⟩
  | cons first rest =>
      cases first with
      | declined error => exact Or.inl ⟨error, (Option.some.inj h).symm⟩
      | taken t =>
          obtain ⟨out, hout, rfl⟩ := Option.map_eq_some_iff.mp h
          exact Or.inr ⟨t, rest, out, rfl, hout, rfl⟩
      | ended _ _ => cases h
      | passed _ => cases h

end LogicCapture
