/-
The contract of completion handlers, as a link keeps it.

* `Served`: what a transfer and its handlers may go through: submitted and accepted, a transfer
  waits; its handler runs once when it completes, and once more if the resubmission that it asked
  for is refused; after that it is idle, and nothing runs until the next submission;
* `Course.serves_step`: every completion keeps to the contract;
* `Client.served_of_run`: so does every run of every client, for every transfer.
-/
import LogicCapture.Proofs.Link.Client

namespace LogicCapture

open HostStack (Settled)

variable {H K σ : Type}

/-! ### What concerns a transfer -/

/-- Submissions and completions of a transfer. -/
def HostStack.Call.concerns (id : TransferId) : HostStack.Call → Bool
  | .submit t _ => t.id = id
  | .complete done _ => done = id
  | _ => false

/-- The transfer that an event is about. -/
def Client.Event.transfer : Client.Event K → TransferId
  | .submitted id _ _ | .ran id _ _ _ _ => id

namespace HostStack

/-- The submissions and completions of a transfer, in order. -/
def about (id : TransferId) (calls : List Call) : List Call := calls.filter (Call.concerns id)

@[simp] lemma about_nil (id : TransferId) : about id [] = [] := rfl

@[simp] lemma about_append (id : TransferId) (calls more : List Call) :
    about id (calls ++ more) = about id calls ++ about id more :=
  List.filter_append _ _

@[simp] lemma about_submit (id : TransferId) (t : Submission) (code : Int) (calls : List Call) :
    about id (.submit t code :: calls) =
      if t.id = id then .submit t code :: about id calls else about id calls := by
  simp [about, Call.concerns, List.filter_cons]

@[simp] lemma about_complete (id done : TransferId) (status : Int) (calls : List Call) :
    about id (.complete done status :: calls) =
      if done = id then .complete done status :: about id calls else about id calls := by
  simp [about, Call.concerns, List.filter_cons]

end HostStack

open HostStack (about)

namespace Client

/-- What a transfer's client and its handlers have to do with each other, in order. -/
def dealings (id : TransferId) (events : List (Event K)) : List (Event K) :=
  events.filter fun event => event.transfer = id

@[simp] lemma dealings_nil (id : TransferId) : dealings id ([] : List (Event K)) = [] := rfl

@[simp] lemma dealings_append (id : TransferId) (events more : List (Event K)) :
    dealings id (events ++ more) = dealings id events ++ dealings id more :=
  List.filter_append _ _

@[simp] lemma dealings_cons (id : TransferId) (event : Event K) (events : List (Event K)) :
    dealings id (event :: events) =
      if event.transfer = id then event :: dealings id events else dealings id events := by
  simp [dealings, List.filter_cons]

end Client

open Client (dealings)

/-! ### The contract -/

/-- **What a transfer and its handlers may go through**, as the stack's calls and the client's
events that concern it show; the handler that waits for a completion, if one does, stands first. -/
inductive Served (id : TransferId) :
    Option K → List HostStack.Call → List (Client.Event K) → Prop where
  | unused : Served id none [] []
  /-- The link refuses a submission by itself. -/
  | rejected {waiting calls events k error} :
      Served id waiting calls events →
      Served id waiting calls (events ++ [.submitted id k (.error error)])
  /-- The stack refuses a submission. -/
  | refused {calls events k t code} :
      Served id none calls events → code < 0 →
      Served id none (calls ++ [.submit t code])
        (events ++ [.submitted id k (.error (.ofCode code))])
  /-- A submission is accepted. -/
  | accepted {calls events k t code} :
      Served id none calls events → 0 ≤ code →
      Served id (some k) (calls ++ [.submit t code]) (events ++ [.submitted id k (.ok ())])
  /-- The handler runs, and the transfer is left idle. -/
  | ended {calls events k status c rearm k'} :
      Served id (some k) calls events → c.status = .ofCode status →
      rearm.honoured c.status = false →
      Served id none (calls ++ [.complete id status]) (events ++ [.ran id k c rearm k'])
  /-- The handler runs, and the transfer is submitted again as it wishes. -/
  | rearmed {calls events k status c rearm k' t} :
      Served id (some k) calls events → c.status = .ofCode status →
      rearm.honoured c.status = true →
      Served id (some k') (calls ++ [.complete id status, .submit t 0])
        (events ++ [.ran id k c rearm k'])
  /-- The handler runs, and once more as the stack refuses to take the transfer again. -/
  | dropped {calls events k status c rearm k' t code rearm' k''} :
      Served id (some k) calls events → c.status = .ofCode status →
      rearm.honoured c.status = true → code ≠ 0 →
      Served id none (calls ++ [.complete id status, .submit t code])
        (events ++ [.ran id k c rearm k', .ran id k' .refused rearm' k''])

namespace DeviceLink

variable {l : DeviceLink H} {id : TransferId}

lemma awaiting_congr {l' : DeviceLink H} (h : l'.owned = l.owned) (id : TransferId) :
    l'.awaiting id = l.awaiting id := by
  rw [awaiting, awaiting, h]

@[simp] lemma awaiting_noteError (l : DeviceLink H) (error : UsbError) (id : TransferId) :
    (l.noteError error).awaiting id = l.awaiting id :=
  awaiting_congr (owned_noteError l error) id

@[simp] lemma awaiting_told (l : DeviceLink H) (settled : Settled) (id : TransferId) :
    (l.told settled).awaiting id = l.awaiting id :=
  awaiting_congr (owned_told _ _) id

lemma awaiting_forget_self (l : DeviceLink H) (id : TransferId) :
    (l.forget id).awaiting id = none := by
  simp [awaiting, forget, List.find?_eq_none]

lemma awaiting_forget_of_ne {done : TransferId} (h : id ≠ done) :
    (l.forget done).awaiting id = l.awaiting id := by
  rw [awaiting, awaiting, forget, List.find?_filter]
  congr 1
  funext t
  by_cases hid : t.submission.id = id <;> simp [hid, h]

/-- A link that keeps one more transfer. -/
lemma awaiting_concat (l : DeviceLink H) (stack : HostStack) (o : Owned H) (id : TransferId) :
    ({ l with stack, owned := l.owned ++ [o] } : DeviceLink H).awaiting id =
      (l.awaiting id).or (if o.submission.id = id then some o else none) := by
  rw [awaiting, List.find?_append, awaiting]
  by_cases hid : o.submission.id = id <;> simp [hid]

end DeviceLink

/-- **The link keeps to the contract**: every transfer is served, and its handler has its name. -/
structure DeviceLink.Serves (l : DeviceLink (TransferId × K)) (events : List (Client.Event K)) :
    Prop where
  named : ∀ o ∈ l.owned, o.handler.1 = o.submission.id
  served : ∀ id, Served id ((l.awaiting id).map (·.handler.2)) (about id l.stack.calls)
    (dealings id events)

namespace Course

/-- **Every completion keeps to the contract.** -/
theorem serves_step {react : Reaction K σ}
    {c c' : Course (TransferId × K) (σ × List (Client.Event K))}
    (hstep : Step (Client.tell react) c c') (hexact : c.link.Exact c.queue)
    (h : c.link.Serves c.state.2) : c'.link.Serves c'.state.2 := by
  have hkept (l : DeviceLink (TransferId × K)) (settled : Settled) {o : DeviceLink.Owned _}
      (ho : o ∈ ((l.told settled).forget settled.id).owned) : o ∈ l.owned := by
    rw [DeviceLink.owned_forget_told] at ho
    exact (List.mem_filter.mp ho).1
  -- in each case the transfer that completes moves on, and the others stay where they are
  cases hstep with
  | strayed hnone =>
      have howns := hexact.waiting _ List.mem_cons_self
      rw [DeviceLink.awaiting_eq_none.mp hnone] at howns
      cases howns
  | @ended settled rest l s t rearm handler s' hfind hreact hhon =>
      obtain ⟨ht, hid⟩ := DeviceLink.mem_of_awaiting hfind
      have hname := (h.named t ht).trans hid
      have hcalls : ((l.told settled).forget settled.id).stack.calls = _ :=
        DeviceLink.calls_told l settled
      cases hreact
      refine ⟨fun o ho => h.named o (hkept l settled ho), fun id => ?_⟩
      have hserved := h.served id
      rw [hcalls]
      by_cases hsame : id = settled.id
      · subst hsame
        rw [hfind] at hserved
        rw [DeviceLink.awaiting_forget_self]
        simpa [Client.Event.transfer, hname] using
          hserved.ended (c := t.completion settled) rfl hhon
      · rw [DeviceLink.awaiting_forget_of_ne hsame, DeviceLink.awaiting_told]
        simpa [Client.Event.transfer, hname, Ne.symm hsame] using hserved
  | @rearmed settled rest l s t rearm handler s' stack hfind hreact hhon hsubmit =>
      obtain ⟨ht, hid⟩ := DeviceLink.mem_of_awaiting hfind
      have hname := (h.named t ht).trans hid
      have hfilled : (t.filled settled).id = settled.id := hid
      obtain ⟨hcalls, -, -⟩ := HostStack.submit_cases hsubmit
      rw [DeviceLink.calls_told] at hcalls
      cases hreact
      refine ⟨fun o ho => ?_, fun id => ?_⟩
      · rcases List.mem_append.mp ho with ho | ho
        · exact h.named o (hkept l settled ho)
        · cases List.mem_singleton.mp ho
          exact hname.trans hfilled.symm
      have hserved := h.served id
      rw [hcalls, DeviceLink.awaiting_concat]
      by_cases hsame : id = settled.id
      · subst hsame
        rw [hfind] at hserved
        rw [DeviceLink.awaiting_forget_self]
        simpa [Client.Event.transfer, hname, hfilled] using
          hserved.rearmed (c := t.completion settled) (t := t.filled settled) rfl hhon
      · rw [DeviceLink.awaiting_forget_of_ne hsame, DeviceLink.awaiting_told]
        simpa [Client.Event.transfer, hname, hfilled, Ne.symm hsame] using hserved
  | @refused settled rest l s t rearm handler s' code stack rearm' handler' s'' hfind hreact hhon
      hsubmit hcode hagain =>
      obtain ⟨ht, hid⟩ := DeviceLink.mem_of_awaiting hfind
      have hname := (h.named t ht).trans hid
      have hfilled : (t.filled settled).id = settled.id := hid
      obtain ⟨hcalls, -, -⟩ := HostStack.submit_cases hsubmit
      rw [DeviceLink.calls_told] at hcalls
      cases hreact
      cases hagain
      refine ⟨fun o ho => ?_, fun id => ?_⟩
      · rw [DeviceLink.owned_noteError] at ho
        exact h.named o (hkept l settled ho)
      have hserved := h.served id
      rw [DeviceLink.stack_noteError, hcalls, DeviceLink.awaiting_noteError]
      have hawaiting : ({ (l.told settled).forget settled.id with stack } :
          DeviceLink (TransferId × K)).awaiting id =
            ((l.told settled).forget settled.id).awaiting id :=
        DeviceLink.awaiting_congr rfl id
      rw [hawaiting]
      by_cases hsame : id = settled.id
      · subst hsame
        rw [hfind] at hserved
        rw [DeviceLink.awaiting_forget_self]
        simpa [Client.Event.transfer, hname, hfilled, Client.tell] using
          hserved.dropped (c := t.completion settled) (t := t.filled settled) rfl hhon hcode
      · rw [DeviceLink.awaiting_forget_of_ne hsame, DeviceLink.awaiting_told]
        simpa [Client.Event.transfer, hname, hfilled, Client.tell, Ne.symm hsame] using hserved

end Course

namespace DeviceLink.Serves

variable {l l' : DeviceLink (TransferId × K)} {events : List (Client.Event K)}

/-- Calls that concern no transfer keep to the contract. -/
lemma grow {more : List HostStack.Call} (h : l.Serves events) (howned : l'.owned = l.owned)
    (hcalls : l'.stack.calls = l.stack.calls ++ more) (hmore : ∀ id, about id more = []) :
    l'.Serves events where
  named := howned ▸ h.named
  served id := by
    rw [awaiting_congr howned, hcalls, HostStack.about_append, hmore, List.append_nil]
    exact h.served id

/-- A submission is refused, or its handler begins to wait. -/
lemma submit {id : TransferId} {request : TransferRequest} {handler : K}
    {result : Except UsbError Unit} (h : l.Serves events)
    (hsubmit : l.submit id request (id, handler) = (result, l')) :
    l'.Serves (events ++ [.submitted id handler result]) := by
  obtain ⟨⟨error, rfl⟩, rfl⟩ | ⟨code, stack, hfree, hstack, hrest⟩ := submit_cases hsubmit
  · refine ⟨h.named, fun id' => ?_⟩
    have hserved := h.served id'
    by_cases hsame : id = id'
    · subst hsame
      have hmore : Served id _ _ (_ ++ [.submitted id handler (.error error)]) := hserved.rejected
      simpa [Client.Event.transfer] using hmore
    · simpa [Client.Event.transfer, hsame] using hserved
  · obtain ⟨hcalls, -, -⟩ := HostStack.submit_cases hstack
    have hidle : l.awaiting id = none := awaiting_eq_none.mpr hfree
    obtain ⟨hcode, rfl, rfl⟩ | ⟨hcode, rfl, rfl⟩ := hrest
    · refine ⟨fun o ho => h.named o (by simpa using ho), fun id' => ?_⟩
      have hserved := h.served id'
      have hsame' : ({ l with stack } : DeviceLink (TransferId × K)).awaiting id' =
        l.awaiting id' := awaiting_congr rfl id'
      rw [stack_noteError, hcalls, awaiting_noteError, hsame']
      by_cases hsame : id = id'
      · subst hsame
        rw [hidle] at hserved ⊢
        simpa [Client.Event.transfer, submission] using
          hserved.refused (k := handler) (t := submission id request) hcode
      · simpa [Client.Event.transfer, submission, hsame] using hserved
    · refine ⟨fun o ho => ?_, fun id' => ?_⟩
      · rcases List.mem_append.mp ho with ho | ho
        · exact h.named o ho
        · cases List.mem_singleton.mp ho
          rfl
      have hserved := h.served id'
      rw [hcalls, awaiting_concat]
      by_cases hsame : id = id'
      · subst hsame
        rw [hidle] at hserved ⊢
        simpa [Client.Event.transfer, submission] using
          hserved.accepted (k := handler) (t := submission id request) hcode
      · simpa [Client.Event.transfer, submission, hsame] using hserved

/-- **An event pass keeps to the contract.** -/
lemma passed (h : l.Serves events) (hexact : l.Exact []) (react : Reaction K σ) (ms : Nat)
    (s : σ) : ((l.events ms).run (Client.tell react) (s, events)).2.1.Serves
      ((l.events ms).run (Client.tell react) (s, events)).2.2.2 := by
  obtain ⟨l', s', hsteps, hrun⟩ := run_events (Client.tell react) l ms (s, events)
  rcases hpoll : l.stack.poll ms with ⟨code, settled, stack⟩
  obtain ⟨hcalls, -, -, -⟩ := HostStack.poll_cases hpoll
  let R (c : Course (TransferId × K) (σ × List (Client.Event K))) : Prop :=
    c.link.Exact c.queue ∧ c.link.Serves c.state.2
  have hstart : R (l.polled ms (s, events)) := by
    refine ⟨hexact.polled ms _, ?_⟩
    rw [polled, hpoll]
    exact h.grow rfl hcalls fun id => rfl
  have hend : R ⟨[], l', s'⟩ := hsteps.induction (R := R)
    (fun hstep hc => ⟨Course.exact_step hstep hc.1, Course.serves_step hstep hc.1 hc.2⟩) hstart
  rw [hrun]
  exact hend.2.grow (owned_closed _ _) ((congrArg HostStack.calls (stack_closed _ _)).trans
    (List.append_nil _).symm) fun id => rfl

end DeviceLink.Serves

namespace Client

/-- What concerns a transfer, the handler that waits for it, and what the contract makes of both. -/
def Contracted (c : Client K σ) : Prop :=
  ∀ id, Served id ((c.link.awaiting id).map (·.handler.2)) (about id c.calls) (dealings id c.events)

/-- Every step keeps to the contract. -/
lemma serves_step {c : Client K σ} (react : Reaction K σ) (action : Step K)
    (hexact : c.link.Exact []) (h : c.link.Serves c.events) :
    (c.step react action).link.Serves (c.step react action).events := by
  cases action with
  | alloc =>
      rw [step]
      rcases halloc : c.link.alloc with ⟨result, link⟩
      cases result with
      | error error =>
          obtain ⟨stack, rfl, hcalls, -, -⟩ := DeviceLink.alloc_error halloc
          exact h.grow rfl hcalls fun id => rfl
      | ok id =>
          obtain ⟨-, stack, rfl, hcalls, -, -⟩ := DeviceLink.alloc_ok halloc
          exact h.grow rfl hcalls fun id => rfl
  | submit id request handler =>
      rw [step]
      split
      · rcases hsubmit : c.link.submit id request (id, handler) with ⟨result, link⟩
        exact h.submit hsubmit
      · exact h
  | cancel id =>
      rw [step]
      split
      · rcases hcancel : c.link.cancel id with ⟨result, link⟩
        obtain rfl | ⟨code, stack, -, hstack, rfl⟩ := DeviceLink.cancel_cases hcancel
        · exact h
        · exact h.grow rfl (HostStack.cancel_cases hstack).1 fun id => rfl
      · exact h
  | free id =>
      rw [step]
      split
      · rcases c.link.free_cases id with ⟨-, hfree⟩ | ⟨-, hfree⟩
        · rwa [hfree]
        · rw [hfree]
          have hcalls : (c.link.stack.free id).calls = c.link.stack.calls ++ [.free id] := rfl
          exact h.grow rfl hcalls fun id => rfl
      · exact h
  | pass ms => exact h.passed hexact react ms c.state
  | claim interface =>
      obtain ⟨code, stack, hclaim, hstack, howned, -⟩ := DeviceLink.claim_cases c.link interface
      exact h.grow howned ((congrArg HostStack.calls hstack).trans
        (HostStack.claim_cases hclaim).1) fun id => rfl
  | release interface =>
      obtain ⟨code, stack, hrelease, hstack, howned, -⟩ :=
        DeviceLink.release_cases c.link interface
      exact h.grow howned ((congrArg HostStack.calls hstack).trans
        (HostStack.release_cases hrelease).1) fun id => rfl
  | cue cue =>
      exact h.grow rfl ((HostStack.cue_cases c.link.stack cue).1.trans
        (List.append_nil _).symm) fun id => rfl

/-- **Every run keeps to the contract**, for every transfer. -/
theorem served_of_run {script : List HostStack.Cue} {vendor product : UInt16}
    {link : DeviceLink (TransferId × K)}
    (hopen : DeviceLink.connect (script.foldl HostStack.cue {}) vendor product = .ok link)
    (react : Reaction K σ) (s : σ) (steps : List (Step K)) :
    (run react steps ⟨link, s, [], []⟩).Contracted := by
  obtain ⟨howned, -, -, -, hcalls⟩ := DeviceLink.opened hopen
  have hstart : link.Serves ([] : List (Event K)) := by
    refine ⟨by simp [howned], fun id => ?_⟩
    rw [DeviceLink.awaiting, howned, hcalls]
    exact .unused
  have hend := run_induction (c := ⟨link, s, [], []⟩)
    (R := fun c : Client K σ => c.Sound ∧ c.link.Serves c.events)
    (fun action h => ⟨h.1.step react action, serves_step react action h.1.exact h.2⟩) steps
    ⟨Sound.start hopen s, hstart⟩
  exact hend.2.served

end Client

end LogicCapture
