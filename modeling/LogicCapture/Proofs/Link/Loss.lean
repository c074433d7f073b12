/-
What a link makes of the loss of its device.

* `HostStack.Call.showsLoss`: the calls whose codes say that the device is gone; `isNoted`: those
  of them that the link takes note of, namely all but cancellations and interfaces given back;
* `DeviceLink.Alert`: the device counts as attached exactly as long as no loss has been noted, and
  no command is submitted after one;
* `Course.alert_step`, `Pool.upheld_alert`: completions and calls keep it so;
* `DeviceLink.Chronicle`: the moments of a journal end with the calls of the stack, one by one;
* `Analyzer.heeds_iff`: the losses that a run heeds.
-/
import LogicCapture.Proofs.Link.Custody
import LogicCapture.Proofs.Session.Journal

namespace LogicCapture

variable {κ ω H σ : Type}

/-! ### Codes -/

lemma UsbError.ofCode_eq_noDevice {code : Int} : UsbError.ofCode code = .noDevice ↔ code = -4 := by
  constructor
  · intro h
    unfold ofCode at h
    split at h <;> first | rfl | cases h
  · rintro rfl
    rfl

lemma UsbError.ofStackCode_eq_noDevice {code : Int} :
    UsbError.ofStackCode code = .noDevice ↔ code = -4 := by
  constructor
  · intro h
    unfold ofStackCode StackError.ofCode at h
    split at h <;> first | rfl | cases h
  · rintro rfl
    rfl

lemma TransferStatus.ofCode_eq_noDevice {code : Int} :
    TransferStatus.ofCode code = .noDevice ↔ code = 5 := by
  constructor
  · intro h
    unfold ofCode at h
    split at h <;> first | rfl | cases h
  · rintro rfl
    rfl

namespace HostStack.Call

/-! ### Calls that show a loss -/

/-- The call says that the device is gone. -/
def showsLoss : Call → Bool
  | submit _ code | cancel _ code | events _ code | claim _ code | release _ code => code = -4
  | complete _ status => status = 5
  | _ => false

/-- The call cancels a transfer or gives an interface back. -/
def isParting : Call → Bool
  | cancel _ _ | release _ _ => true
  | _ => false

/-- A link takes note of the loss that the call shows. -/
def isNoted (call : Call) : Bool := call.showsLoss && !call.isParting

/-- The call submits a control transfer. -/
def isCommand : Call → Bool
  | submit t _ => !t.kind.isBulk
  | _ => false

end HostStack.Call

open HostStack (Call)

namespace DeviceLink

/-- **The link heeds every loss**: once a call has said that the device is gone, it does not count
as attached any more, and no control transfer is submitted. -/
def Heeds (l : DeviceLink H) : Prop :=
  ∀ before call after, l.stack.calls = before ++ call :: after → call.showsLoss = true →
    l.attached = false ∧ ∀ later ∈ after, later.isCommand = false

/-- **The link is alert**: it has noted the losses that it takes note of, no command comes after
one, and what it keeps for slots are bulk transfers. -/
structure Alert (l : DeviceLink (Handler κ)) : Prop where
  attached : l.attached = !l.stack.calls.any Call.isNoted
  quiet : Historic (fun before call => call.isCommand = true → before.any Call.isNoted = false)
    l.stack.calls
  bulk : ∀ o ∈ l.owned, o.handler.key.isSome = true → o.submission.kind.isBulk = true

namespace Alert

variable {l l' : DeviceLink (Handler κ)} {call : Call}

/-- One more call leaves the link alert, if its loss is noted and commands are only submitted while
the device is there. -/
lemma extend (h : l.Alert) (call : Call) (hcalls : l'.stack.calls = l.stack.calls ++ [call])
    (hattached : l'.attached = (l.attached && !call.isNoted))
    (hcommand : call.isCommand = true → l.attached = true)
    (howned : ∀ o ∈ l'.owned, o ∈ l.owned ∨
      (o.handler.key.isSome = true → o.submission.kind.isBulk = true)) : l'.Alert where
  attached := by
    rw [hattached, h.attached, hcalls, List.any_append]
    simp
  quiet := by
    rw [hcalls]
    refine h.quiet.concat fun hcall => ?_
    have hthere := hcommand hcall
    rw [h.attached] at hthere
    simpa using hthere
  bulk o ho := (howned o ho).elim (h.bulk o) id

/-- Alertness is about the calls, the transfers that the link keeps and the device. -/
lemma congr (h : l.Alert) (hcalls : l'.stack.calls = l.stack.calls)
    (hattached : l'.attached = l.attached) (howned : l'.owned = l.owned) : l'.Alert := by
  obtain ⟨hold, hquiet, hbulk⟩ := h
  exact ⟨by rw [hattached, hcalls, hold], by rwa [hcalls], by rwa [howned]⟩

/-- After a noted loss, an alert link has heeded it. -/
lemma heeds_of_noted (h : l.Alert) {before after : List Call}
    (hcalls : l.stack.calls = before ++ call :: after) (hcall : call.isNoted = true) :
    l.attached = false ∧ ∀ later ∈ after, later.isCommand = false := by
  constructor
  · rw [h.attached, hcalls]
    simp [hcall]
  · intro later hlater
    obtain ⟨between, rest, rfl⟩ := List.append_of_mem hlater
    by_contra hcommand
    have hquiet := h.quiet (before ++ call :: between) later rest (by rw [hcalls]; simp)
      (by simpa using hcommand)
    simp [hcall] at hquiet

end Alert

/-! ### Completions and calls -/

/-- Only bulk transfers are armed again, if those of slots are. -/
lemma isBulk_of_honoured [Consumer κ ω] {l : DeviceLink (Handler κ)} {id : TransferId}
    {t : Owned (Handler κ)} {c : Completion} {s s' : Host ω} {rearm : Rearm} {handler : Handler κ}
    (hbulk : ∀ o ∈ l.owned, o.handler.key.isSome = true → o.submission.kind.isBulk = true)
    (hfind : l.awaiting id = some t) (hreact : t.handler.react c s = (rearm, handler, s'))
    (hhon : rearm.honoured c.status = true) : t.submission.kind.isBulk = true := by
  have hhon' : (t.handler.react c s).1.honoured c.status = true := by rwa [hreact]
  obtain ⟨key, hkey⟩ := Handler.key_of_honoured hhon'
  exact hbulk t (mem_of_awaiting hfind).1 (by simp [hkey])

lemma attached_closed (l : DeviceLink H) (code : Int) :
    (l.closed code).attached = (l.attached && code ≠ -4) := by
  rw [closed]
  split
  · simp [UsbError.ofStackCode_eq_noDevice]
  · rename_i hcode
    have hne : code ≠ -4 := by omega
    simp [hne]

end DeviceLink

namespace Course

variable [Consumer κ ω] {c c' : Course (Handler κ) (Host ω)}

/-- **Completions leave the link alert**, whatever the code with which the pass will end: commands
are never submitted again. -/
theorem alert_step (code : Int) (hstep : Step Handler.react c c') (hexact : c.link.Exact c.queue)
    (h : (c.link.closed code).Alert) : (c'.link.closed code).Alert := by
  have htold (l : DeviceLink (Handler κ)) (settled : HostStack.Settled)
      (h : (l.closed code).Alert) : (((l.told settled).forget settled.id).closed code).Alert := by
    refine h.extend (.complete settled.id settled.status) ?_ ?_ (by simp [Call.isCommand]) ?_
    · rw [DeviceLink.stack_closed, DeviceLink.stack_closed]
      exact DeviceLink.calls_told l settled
    · rw [DeviceLink.attached_closed, DeviceLink.attached_closed, DeviceLink.forget,
        DeviceLink.told, DeviceLink.attached_noteStatus]
      simp [DeviceLink.heard, Call.isNoted, Call.showsLoss, Call.isParting,
        TransferStatus.ofCode_eq_noDevice, Bool.and_right_comm]
    · intro o ho
      rw [DeviceLink.owned_closed, DeviceLink.owned_forget_told] at ho
      rw [DeviceLink.owned_closed]
      exact Or.inl (List.mem_filter.mp ho).1
  have hbulk {l : DeviceLink (Handler κ)} (h : (l.closed code).Alert) :
      ∀ o ∈ l.owned, o.handler.key.isSome = true → o.submission.kind.isBulk = true :=
    fun o ho => h.bulk o (DeviceLink.owned_closed l code ▸ ho)
  cases hstep with
  | strayed hnone =>
      have howns := hexact.waiting _ List.mem_cons_self
      rw [DeviceLink.awaiting_eq_none.mp hnone] at howns
      cases howns
  | @ended settled rest l s t rearm handler s' hfind hreact hhon => exact htold l settled h
  | @rearmed settled rest l s t rearm handler s' stack hfind hreact hhon hsubmit =>
      have hkind := DeviceLink.isBulk_of_honoured (hbulk h) hfind hreact hhon
      refine (htold l settled h).extend (.submit (t.filled settled) 0) ?_ ?_ ?_ ?_
      · rw [DeviceLink.stack_closed, DeviceLink.stack_closed]
        exact (HostStack.submit_cases hsubmit).1
      · simp [DeviceLink.attached_closed, Call.isNoted, Call.showsLoss]
      · simp [Call.isCommand, DeviceLink.Owned.filled, hkind]
      · intro o ho
        rw [DeviceLink.owned_closed] at ho ⊢
        rcases List.mem_append.mp ho with ho | ho
        · exact Or.inl ho
        · rw [List.mem_singleton.mp ho]
          exact Or.inr fun _ => hkind
  | @refused settled rest l s t rearm handler s' refusal stack rearm' handler' s'' hfind hreact hhon
      hsubmit hcode hagain =>
      have hkind := DeviceLink.isBulk_of_honoured (hbulk h) hfind hreact hhon
      refine (htold l settled h).extend (.submit (t.filled settled) refusal) ?_ ?_ ?_ ?_
      · rw [DeviceLink.stack_closed, DeviceLink.stack_closed, DeviceLink.stack_noteError]
        exact (HostStack.submit_cases hsubmit).1
      · simp [DeviceLink.attached_closed, Call.isNoted, Call.showsLoss, Call.isParting,
          UsbError.ofCode_eq_noDevice, Bool.and_right_comm]
      · simp [Call.isCommand, DeviceLink.Owned.filled, hkind]
      · intro o ho
        rw [DeviceLink.owned_closed, DeviceLink.owned_noteError] at ho
        rw [DeviceLink.owned_closed]
        exact Or.inl ho

end Course

namespace DeviceLink.Alert

variable {l l' : DeviceLink (Handler κ)} {code : Int}

/-- A pass leaves the link alert. -/
lemma pass [Consumer κ ω] (h : l.Alert) (hexact : l.Exact []) (ms : Nat) (host : Host ω) :
    ((l.events ms).run Handler.react host).2.1.Alert := by
  obtain ⟨l', host', hsteps, hrun⟩ := run_events Handler.react l ms host
  rcases hpoll : l.stack.poll ms with ⟨code, settled, stack⟩
  obtain ⟨hcalls, -⟩ := HostStack.poll_cases hpoll
  have hstart : ((l.polled ms host).link.closed code).Alert := by
    rw [polled, hpoll]
    refine h.extend (.events ms code) ?_ ?_ (by simp [Call.isCommand]) ?_
    · rwa [stack_closed]
    · simp [attached_closed, Call.isNoted, Call.showsLoss, Call.isParting]
    · intro o ho
      rw [owned_closed] at ho
      exact Or.inl ho
  have hend : l'.Exact [] ∧ (l'.closed code).Alert :=
    hsteps.induction (R := fun c => c.link.Exact c.queue ∧ (c.link.closed code).Alert)
      (fun hstep hc => ⟨Course.exact_step hstep hc.1, Course.alert_step code hstep hc.1 hc.2⟩)
      ⟨hexact.polled ms host, hstart⟩
  rw [hrun, hpoll]
  exact hend.2

/-- So does a call that cannot show a loss. -/
lemma note (h : l.Alert) {call : Call} {stack : HostStack}
    (hcalls : stack.calls = l.stack.calls ++ [call]) (hnoted : call.isNoted = false)
    (hcommand : call.isCommand = false) : Alert { l with stack } :=
  h.extend call hcalls (by simp [hnoted]) (by simp [hcommand]) fun _ ho => Or.inl ho

/-- So does a submission of a bulk transfer, and that of a command while the device is there. -/
lemma submit (h : l.Alert) {id : TransferId} {request : TransferRequest} {handler : Handler κ}
    {result : Except UsbError Unit} (hrun : l.submit id request handler = (result, l'))
    (hcommand : request.kind.isBulk = false → l.attached = true)
    (hbulk : handler.key.isSome = true → request.kind.isBulk = true) : l'.Alert := by
  obtain ⟨-, rfl⟩ | ⟨code, stack, -, hsubmit, ⟨hcode, -, rfl⟩ | ⟨hcode, -, rfl⟩⟩ :=
    submit_cases hrun
  · exact h
  · refine h.extend (.submit (submission id request) code) ?_ ?_ ?_ ?_
    · rw [stack_noteError]
      exact (HostStack.submit_cases hsubmit).1
    · simp [Call.isNoted, Call.showsLoss, Call.isParting, UsbError.ofCode_eq_noDevice]
    · simpa [Call.isCommand, submission] using hcommand
    · intro o ho
      rw [owned_noteError] at ho
      exact Or.inl ho
  · refine h.extend (.submit (submission id request) code) ?_ ?_ ?_ ?_
    · exact (HostStack.submit_cases hsubmit).1
    · have hne : code ≠ -4 := by omega
      simp [Call.isNoted, Call.showsLoss, hne]
    · simpa [Call.isCommand, submission] using hcommand
    · intro o ho
      rcases List.mem_append.mp ho with ho | ho
      · exact Or.inl ho
      · rw [List.mem_singleton.mp ho]
        exact Or.inr hbulk

lemma alloc (h : l.Alert) : l.alloc.2.Alert := by
  rcases halloc : l.alloc with ⟨error | id, l'⟩
  · obtain ⟨stack, rfl, hcalls, -, -⟩ := alloc_error halloc
    exact h.note hcalls rfl rfl
  · obtain ⟨-, stack, rfl, hcalls, -, -⟩ := alloc_ok halloc
    exact h.note hcalls rfl rfl

lemma cancel (h : l.Alert) (id : TransferId) : (l.cancel id).2.Alert := by
  rcases hcancel : l.cancel id with ⟨result, l'⟩
  obtain rfl | ⟨code, stack, -, hstack, rfl⟩ := cancel_cases hcancel
  · exact h
  · exact h.note (HostStack.cancel_cases hstack).1 (by simp [Call.isNoted, Call.isParting]) rfl

lemma free (h : l.Alert) (id : TransferId) : (l.free id).Alert := by
  obtain ⟨-, hfree⟩ | ⟨-, hfree⟩ := l.free_cases id
  · rwa [hfree]
  · rw [hfree]
    exact h.note rfl rfl rfl

lemma claim (h : l.Alert) (interface : UInt8) : (l.claim interface).2.Alert := by
  obtain ⟨code, stack, hclaim, hstack, howned, hattached⟩ := claim_cases l interface
  refine h.extend (.claim interface code) ?_ ?_ (by simp [Call.isCommand]) ?_
  · rw [hstack]
    exact (HostStack.claim_cases hclaim).1
  · rw [hattached]
    by_cases hcode : code = -4 <;>
      simp [Call.isNoted, Call.showsLoss, Call.isParting, UsbError.ofStackCode_eq_noDevice, hcode]
  · exact fun o ho => Or.inl (howned ▸ ho)

lemma release (h : l.Alert) (interface : UInt8) : (l.release interface).2.Alert := by
  obtain ⟨code, stack, hrelease, hstack, howned, hattached⟩ := release_cases l interface
  refine h.extend (.release interface code) ?_ ?_ (by simp [Call.isCommand]) ?_
  · rw [hstack]
    exact (HostStack.release_cases hrelease).1
  · simp [hattached, Call.isNoted, Call.isParting]
  · exact fun o ho => Or.inl (howned ▸ ho)

/-- A link that has just been opened is alert. -/
lemma opened {script : List HostStack.Cue} {vendor product : UInt16}
    (h : connect (script.foldl HostStack.cue {}) vendor product = .ok l) : l.Alert := by
  obtain ⟨howned, hattached, -, -, hcalls⟩ := DeviceLink.opened h
  refine ⟨?_, ?_, ?_⟩
  · rw [hattached, hcalls]
    rfl
  · rw [hcalls]
    exact ((Historic.nil.concat (by simp)).concat (by simp [Call.isCommand])).concat
      (by simp [Call.isCommand])
  · simp [howned]

end DeviceLink.Alert

namespace Pool

/-- **Alertness in the life of a pool**, whose transfers the link keeps. -/
structure Alert (p : Pool) (s : Session (DeviceLink (Handler κ)) ω) : Prop where
  linked : p.Linked s
  alert : s.transport.Alert

/-- **Every call leaves the link alert.** -/
theorem upheld_alert [Consumer κ ω] : Upheld (Alert (κ := κ) (ω := ω)) where
  pass ms h := ⟨upheld_linked.pass ms h.linked, h.alert.pass h.linked.exact ms _⟩
  alloc h := ⟨upheld_linked.alloc h.linked, h.alert.alloc⟩
  command {p s id l request result l'} h hattached halloc hkind hsubmit := by
    refine ⟨upheld_linked.command h.linked hattached halloc hkind hsubmit, ?_⟩
    have hafter := h.alert.alloc
    have hthere : l.attached = true := by
      obtain ⟨-, stack, rfl, -⟩ := DeviceLink.alloc_ok halloc
      exact hattached
    rw [show s.transport.alloc = _ from halloc] at hafter
    exact hafter.submit hsubmit (fun _ => hthere) (by simp [Handler.key])
  submit h hslot hsubmit := ⟨upheld_linked.submit h.linked hslot hsubmit,
    h.alert.submit hsubmit (by simp [TransferKind.isBulk]) fun _ => rfl⟩
  reject h hslot hsubmit := ⟨upheld_linked.reject h.linked hslot hsubmit,
    h.alert.submit hsubmit (by simp [TransferKind.isBulk]) fun _ => rfl⟩
  cancel id h := ⟨upheld_linked.cancel id h.linked, h.alert.cancel id⟩
  free id h := ⟨upheld_linked.free id h.linked, h.alert.free id⟩
  fill h hslots hobtain hafter :=
    ⟨upheld_linked.fill h.linked hslots hobtain hafter.linked, hafter.alert⟩
  empty h := ⟨upheld_linked.empty h.linked, h.alert⟩
  claim interface h := ⟨upheld_linked.claim interface h.linked, h.alert.claim interface⟩
  release interface h := ⟨upheld_linked.release interface h.linked, h.alert.release interface⟩
  shared shared h := ⟨upheld_linked.shared shared h.linked, h.alert⟩

/-- New script entries are no calls. -/
lemma alert_cue {p : Pool} {s : Session (DeviceLink (Handler κ)) ω} (cue : HostStack.Cue)
    (h : p.Alert s) : p.Alert { s with transport := Scripted.cue s.transport cue } :=
  ⟨linked_cue cue h.linked, h.alert.congr (HostStack.cue_cases s.transport.stack cue).1 rfl rfl⟩

/-- **After every run of a pool**, whatever its consumers make of the completions, the link is
alert. -/
theorem alert_of_run [Consumer κ ω] {script : List HostStack.Cue} {vendor product : UInt16}
    {link : DeviceLink (Handler κ)} {bufferSize : Nat} {shared : ω}
    {steps : List (Step κ HostStack.Cue)} {p : Pool} {s : Session (DeviceLink (Handler κ)) ω}
    (hopen : DeviceLink.connect (script.foldl HostStack.cue {}) vendor product = .ok link)
    (hrun : run steps (.empty bufferSize) (.start link shared) = some (p, s)) :
    s.transport.Alert :=
  ((upheld_alert.enduring alert_cue).run
    ⟨Linked.start bufferSize shared hopen, DeviceLink.Alert.opened hopen⟩ hrun).alert

end Pool

/-! ### The moments of a run -/

namespace DeviceLink

/-- Calls have been added; only the last of them may cancel a transfer or give an interface back. -/
def Grows (l l' : DeviceLink H) : Prop :=
  ∃ more, l'.stack.calls = l.stack.calls ++ more ∧ ∀ call ∈ more.dropLast, call.isParting = false

lemma Adds.grows {kind : Call → Prop} {l l' : DeviceLink H} (h : l.Adds kind l') : l.Grows l' := by
  obtain hcalls | ⟨call, -, hcalls⟩ := h
  · exact ⟨[], by rw [hcalls, List.append_nil], by simp⟩
  · exact ⟨[call], hcalls, by simp⟩

/-- A pass adds no such calls at all. -/
lemma grows_events (react : Reaction H σ) (l : DeviceLink H) (ms : Nat) (state : σ) :
    l.Grows ((l.events ms).run react state).2.1 := by
  obtain ⟨l', state', hsteps, hrun⟩ := run_events react l ms state
  rcases hpoll : l.stack.poll ms with ⟨code, settled, stack⟩
  obtain ⟨hcalls, -⟩ := HostStack.poll_cases hpoll
  have hend : ∃ more, l'.stack.calls = l.stack.calls ++ more ∧
      ∀ call ∈ more, call.isParting = false := by
    refine hsteps.induction (R := fun c => ∃ more, c.link.stack.calls = l.stack.calls ++ more ∧
      ∀ call ∈ more, call.isParting = false) ?_ ?_
    · rintro c c' hstep ⟨more, hmore, hparting⟩
      obtain ⟨-, settled, -, hnext | ⟨t, code, -, hnext⟩⟩ := hstep.calls_eq
      all_goals
        rw [hmore, List.append_assoc] at hnext
        refine ⟨_, hnext, ?_⟩
        simpa [or_imp, forall_and, Call.isParting] using hparting
    · rw [polled, hpoll]
      exact ⟨_, hcalls, by simp [Call.isParting]⟩
  obtain ⟨more, hmore, hparting⟩ := hend
  rw [hrun]
  refine ⟨more, by rw [stack_closed, hmore], ?_⟩
  exact fun call hcall => hparting call (List.dropLast_subset _ hcall)

/-- **Every call adds to the list of calls.** -/
theorem evolves_grows : Transport.Evolves (Grows : DeviceLink H → DeviceLink H → Prop) where
  alloc l := (adds_alloc l).grows
  submit l id request handler := (adds_submit l id request handler).grows
  cancel l id := (adds_cancel l id).grows
  free l id := (adds_free l id).grows
  claim l interface := (adds_claim l interface).grows
  release l interface := (adds_release l interface).grows
  events react l ms state := grows_events react l ms state

/-- **The moments of a journal** are alert beginnings of the list of calls, and every call that
cancels a transfer or gives an interface back is the last of one of them. -/
structure Chronicle (moments : List (DeviceLink (Handler κ))) (l : DeviceLink (Handler κ)) : Prop
    where
  alert : ∀ m ∈ moments, m.Alert
  begins : ∀ m ∈ moments, m.stack.calls <+: l.stack.calls
  parted : Historic (fun before call => call.isParting = true →
    ∃ m ∈ moments, m.stack.calls = before ++ [call]) l.stack.calls

namespace Chronicle

variable {moments : List (DeviceLink (Handler κ))} {l l' : DeviceLink (Handler κ)}

lemma next (h : Chronicle moments l) (hgrows : l.Grows l') (halert : l'.Alert) :
    Chronicle (moments ++ [l']) l' := by
  obtain ⟨more, hcalls, hmore⟩ := hgrows
  refine ⟨?_, ?_, ?_⟩
  · intro m hm
    rcases List.mem_append.mp hm with hm | hm
    · exact h.alert m hm
    · rwa [List.mem_singleton.mp hm]
  · intro m hm
    rcases List.mem_append.mp hm with hm | hm
    · exact (h.begins m hm).trans ⟨more, hcalls.symm⟩
    · exact List.mem_singleton.mp hm ▸ List.prefix_refl _
  · have hold : Historic (fun before call => call.isParting = true →
        ∃ m ∈ moments ++ [l'], m.stack.calls = before ++ [call]) l.stack.calls := by
      refine h.parted.mono fun before call hlaw hparting => ?_
      obtain ⟨m, hm, hlast⟩ := hlaw hparting
      exact ⟨m, List.mem_append_left _ hm, hlast⟩
    rcases List.eq_nil_or_concat more with rfl | ⟨init, last, rfl⟩
    · rwa [hcalls, List.append_nil]
    · rw [List.concat_eq_append, List.dropLast_concat] at hmore
      rw [List.concat_eq_append, ← List.append_assoc] at hcalls
      rw [hcalls]
      refine (hold.append fun call hcall before hparting => ?_).concat fun _ => ?_
      · rw [hmore call hcall] at hparting
        cases hparting
      · exact ⟨l', by simp, hcalls⟩

lemma congr (h : Chronicle moments l) (hcalls : l'.stack.calls = l.stack.calls) :
    Chronicle moments l' :=
  ⟨h.alert, hcalls ▸ h.begins, hcalls ▸ h.parted⟩

/-- **Every moment heeds the losses** exactly if the first of them is always one that the link
notes. -/
theorem forall_heeds_iff (h : Chronicle moments l) : (∀ m ∈ moments, m.Heeds) ↔
    Historic (fun before call => call.showsLoss = true → call.isParting = true →
      before.any Call.isNoted = true) l.stack.calls := by
  constructor
  · intro hheeds before call after hcalls hloss hparting
    obtain ⟨m, hm, hmoment⟩ := h.parted before call after hcalls hparting
    obtain ⟨hgone, -⟩ := hheeds m hm before call [] hmoment hloss
    rw [(h.alert m hm).attached, hmoment] at hgone
    simpa [Call.isNoted, hparting] using hgone
  · intro hnoted m hm before call after hcalls hloss
    by_cases hparting : call.isParting = true
    · obtain ⟨rest, hrest⟩ := h.begins m hm
      have hfirst := hnoted before call (after ++ rest) (by rw [← hrest, hcalls]; simp) hloss
        hparting
      obtain ⟨first, hmem, hloss'⟩ := List.any_eq_true.mp hfirst
      obtain ⟨earlier, between, rfl⟩ := List.append_of_mem hmem
      have hsplit : m.stack.calls = earlier ++ first :: (between ++ call :: after) := by
        rw [hcalls]
        simp
      obtain ⟨hgone, hquiet⟩ := (h.alert m hm).heeds_of_noted hsplit hloss'
      exact ⟨hgone, fun later hlater => hquiet later (by simp [hlater])⟩
    · exact (h.alert m hm).heeds_of_noted hcalls (by simp [Call.isNoted, hloss, hparting])

end Chronicle

end DeviceLink

namespace Analyzer

variable {S : Type} [SampleSink S]

/-- **Every run of a logged analyzer** leaves its link alert and its journal a chronicle. -/
lemma stable_chronicle : Stable fun a : Logged (DeviceLink (Handler StreamFormat)) S =>
    a.pool.Alert (a.session.mapTransport Journaled.transport) ∧
      DeviceLink.Chronicle a.session.transport.moments a.session.transport.transport :=
  (Pool.upheld_alert.journal (fun h => h.alert) DeviceLink.evolves_grows
    fun h hgrows halert => h.next hgrows halert).stable (C := HostStack.Cue)
      fun cue h => ⟨Pool.alert_cue cue h.1, h.2.congr (HostStack.cue_cases _ cue).1⟩

/-- **The losses that a run heeds.**  At every moment of a run, the device counts as attached
exactly if no call that the link takes note of has shown its loss, and no command has been submitted
after one.  So every loss is heeded at every moment exactly if cancellations and interfaces given
back never are the first to show it. -/
theorem heeds_iff {script : List HostStack.Cue} {vendor product : UInt16}
    {link : DeviceLink (Handler StreamFormat)} {settings : AcquisitionSettings} {sink : S}
    {steps : List (Step HostStack.Cue)} {a : Plugged S}
    (hopen : DeviceLink.connect (script.foldl HostStack.cue {}) vendor product = .ok link)
    (hrun : run steps (new link settings sink) = some a) :
    ∃ w : Logged (DeviceLink (Handler StreamFormat)) S,
      run steps (new link settings sink).journaled = some w ∧ w.bare = a ∧
      (∀ l ∈ w.session.transport.moments,
        l.attached = !l.stack.calls.any Call.isNoted ∧
        Historic (fun before call => call.isCommand = true → before.any Call.isNoted = false)
          l.stack.calls) ∧
      ((∀ l ∈ w.session.transport.moments, l.Heeds) ↔
        Historic (fun before call => call.showsLoss = true → call.isParting = true →
          before.any Call.isNoted = true) a.session.transport.stack.calls) := by
  obtain ⟨w, hw, rfl⟩ := run_journaled hrun
  have hstart : DeviceLink.Chronicle [] link := by
    obtain ⟨-, -, -, -, hcalls⟩ := DeviceLink.opened hopen
    refine ⟨by simp, by simp, ?_⟩
    rw [hcalls]
    exact ((Historic.nil.concat (by simp [Call.isParting])).concat
      (by simp [Call.isParting])).concat (by simp [Call.isParting])
  obtain ⟨-, hend⟩ := stable_chronicle.run (C := HostStack.Cue)
    (fun cue h => ⟨Pool.alert_cue cue h.1, h.2.congr (HostStack.cue_cases _ cue).1⟩)
    ⟨⟨Pool.Linked.start _ _ hopen, DeviceLink.Alert.opened hopen⟩, hstart⟩ hw
  exact ⟨w, hw, rfl, fun l hl => ⟨(hend.alert l hl).attached, (hend.alert l hl).quiet⟩,
    hend.forall_heeds_iff⟩

/-- The device disappears, and the first to tell is the interface that is given back. -/
def lostAtRelease : List (Step HostStack.Cue) := [.cue (.codes .release [-4]), .call .stop]

/-- The device disappears, and the first to tell is the stop command. -/
def lostAtSubmit : List (Step HostStack.Cue) :=
  [.cue (.codes .submit [-4]), .call .stop, .call .stop]

/-- A new analyzer on the link to a single device. -/
def onePlugged : Plugged SinkTrace := new (DeviceLink.onePluggedLink _) {} {}

theorem heeds_lostAtSubmit : ∃ a, run lostAtSubmit onePlugged = some a ∧
    a.session.transport.attached = false ∧
    ∃ w : Logged (DeviceLink (Handler StreamFormat)) SinkTrace,
      run lostAtSubmit onePlugged.journaled = some w ∧ w.bare = a ∧
      ∀ l ∈ w.session.transport.moments, l.Heeds := by
  have hend : (run lostAtSubmit onePlugged).map (fun a => (a.session.transport.attached,
      a.session.transport.stack.calls.any fun call => call.showsLoss && call.isParting)) =
        some (false, false) := by decide +kernel
  obtain ⟨a, hrun, hend⟩ := Option.map_eq_some_iff.mp hend
  obtain ⟨hgone, hnone⟩ := Prod.mk.inj hend
  obtain ⟨w, hw, hsame, -, hiff⟩ := heeds_iff (DeviceLink.connect_onePlugged _) hrun
  refine ⟨a, hrun, hgone, w, hw, hsame, hiff.mpr ?_⟩
  intro before call after hcalls hloss hparting
  have hmem : call ∈ a.session.transport.stack.calls := by rw [hcalls]; simp
  simpa [hloss, hparting] using List.any_eq_false.mp hnone call hmem

/-- **A loss that is not heeded**: the interface cannot be given back because the device is gone,
and the stop command is submitted all the same. -/
theorem not_heeds_lostAtRelease : ∃ a, run lostAtRelease onePlugged = some a ∧
    a.session.transport.attached = true ∧ ¬ a.session.transport.Heeds ∧
    ∃ before after, a.session.transport.stack.calls =
        before ++ .release Protocol.streamingInterface (-4) :: after ∧
      after.any Call.isCommand = true := by
  have hend : (run lostAtRelease onePlugged).map (fun a => (a.session.transport.attached,
      decide (a.session.transport.stack.calls = a.session.transport.stack.calls.take 3 ++
        .release Protocol.streamingInterface (-4) :: a.session.transport.stack.calls.drop 4),
      (a.session.transport.stack.calls.drop 4).any Call.isCommand)) =
        some (true, true, true) := by decide +kernel
  obtain ⟨a, hrun, hend⟩ := Option.map_eq_some_iff.mp hend
  simp only [Prod.mk.injEq, decide_eq_true_eq] at hend
  obtain ⟨hthere, hcalls, hcommand⟩ := hend
  refine ⟨a, hrun, hthere, fun hheeds => ?_, _, _, hcalls, hcommand⟩
  obtain ⟨hgone, -⟩ := hheeds _ _ _ hcalls rfl
  rw [hthere] at hgone
  cases hgone

end Analyzer

end LogicCapture
