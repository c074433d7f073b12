/-
A link that keeps a list of what becomes of the transfers on it.

* `Occurrence`: a transfer is declined, taken over, or has ended, or a pass is over;
* `Attested`: a link with the occurrences so far;
* `Attested.covers`: apart from the list, it is the link;
* `Attested.events_eq`: what a pass adds to the list;
* `DeviceLink.endings_induction`: a pass is what it adds, one end after the other;
* `Attested.Faithful`: the list has the completions of the stack's list of calls, in their order,
  and no transfer is taken over twice; `Attested.Faithful.passed` is the step for event passes.
-/
import LogicCapture.Proofs.Link.Patience

namespace LogicCapture

open HostStack (Settled Submission)

variable {κ ω H σ τ τ' : Type}

/-- What can happen on a link. -/
inductive Occurrence where
  /-- A transfer is not handed out, or its submission is refused. -/
  | declined (error : UsbError)
  /-- A transfer goes into the keeping of the link. -/
  | taken (t : Submission)
  /-- A transfer has completed. -/
  | ended (t : Submission) (settled : Settled)
  /-- An event pass is over. -/
  | passed (result : Except UsbError Unit)

/-- The pass with its last state changed. -/
def Pass.map (f : Except UsbError Unit → τ → τ') : Pass τ H → Pass τ' H
  | done result t => .done result (f result t)
  | call handler completion resume =>
    .call handler completion fun rearm next => (resume rearm next).map f

lemma Pass.run_map (f : Except UsbError Unit → τ → τ') (react : Reaction H σ) (pass : Pass τ H)
    (s : σ) : (pass.map f).run react s =
      ((pass.run react s).1, f (pass.run react s).1 (pass.run react s).2.1,
        (pass.run react s).2.2) := by
  induction pass generalizing s with
  | done result t => rfl
  | call handler c resume ih => exact ih _ _ _

/-- A link with what has happened on it. -/
structure Attested (H : Type) where
  link : DeviceLink H
  occurrences : List Occurrence := []

/-- What a call that fails declines. -/
def Occurrence.declines {α : Type} : Except UsbError α → List Occurrence
  | .ok _ => []
  | .error error => [.declined error]

/-- The ends of the transfers that these completions are for. -/
def DeviceLink.endings (l : DeviceLink H) (queue : List Settled) : List Occurrence :=
  queue.filterMap fun settled =>
    (l.awaiting settled.id).map fun o => .ended o.submission settled

namespace Attested

/-- The link has come to this, and more has happened. -/
def note (a : Attested H) (link : DeviceLink H) (more : List Occurrence) : Attested H :=
  ⟨link, a.occurrences ++ more⟩

/-- Obtains a transfer. -/
def alloc (a : Attested H) : Except UsbError TransferId × Attested H :=
  (a.link.alloc.1, a.note a.link.alloc.2 (Occurrence.declines a.link.alloc.1))

/-- What a submission comes to. -/
def submitted (id : TransferId) (request : TransferRequest) :
    Except UsbError Unit → List Occurrence
  | .ok _ => [.taken (DeviceLink.submission id request)]
  | .error error => [.declined error]

/-- Hands a transfer to the stack. -/
def submit (a : Attested H) (id : TransferId) (request : TransferRequest) (handler : H) :
    Except UsbError Unit × Attested H :=
  let (result, link) := a.link.submit id request handler
  (result, a.note link (submitted id request result))

/-- The link after a call of which nothing is noted. -/
def after {α : Type} (a : Attested H) (done : α × DeviceLink H) : α × Attested H :=
  (done.1, a.note done.2 [])

/-- One event pass.  Which transfers end in it is settled once the stack has been asked. -/
def events (a : Attested H) (ms : Nat) : Pass (Attested H) H :=
  (a.link.events ms).map fun result link =>
    a.note link (a.link.endings (a.link.stack.poll ms).2.1 ++ [.passed result])

instance : Transport (Attested H) H where
  attached a := a.link.attached
  alloc := alloc
  submit := submit
  cancel a id := a.after (a.link.cancel id)
  free a id := a.note (a.link.free id) []
  events := events
  claim a interface := a.after (a.link.claim interface)
  release a interface := a.after (a.link.release interface)
  handlers a := Transport.handlers a.link
  patience a := a.link.patience

instance : Scripted (Attested H) HostStack.Cue :=
  ⟨fun a cue => { a with link := Scripted.cue a.link cue }⟩

/-- **Apart from what is noted**, the link is as it is. -/
theorem covers : Transport.Covers (Attested.link : Attested H → DeviceLink H) where
  attached _ := rfl
  alloc _ := rfl
  submit _ _ _ _ := rfl
  cancel _ _ := rfl
  free _ _ := rfl
  claim _ _ := rfl
  release _ _ := rfl
  events react a ms s := by
    rw [show Transport.events a ms = a.events ms from rfl, events, Pass.run_map]
    rfl
  handlers _ := rfl
  patience _ := rfl

/-- An allocation only notes that it fails. -/
lemma alloc_eq {a a' : Attested H} {result : Except UsbError TransferId}
    (h : Transport.alloc a = (result, a')) :
    ∃ l, a.link.alloc = (result, l) ∧ a' = a.note l (Occurrence.declines result) := by
  obtain ⟨rfl, rfl⟩ := Prod.mk.inj h
  exact ⟨_, rfl, rfl⟩

/-- A submission notes what it comes to. -/
lemma submit_eq {a a' : Attested H} {id : TransferId} {request : TransferRequest} {handler : H}
    {result : Except UsbError Unit} (h : Transport.submit a id request handler = (result, a')) :
    ∃ l, a.link.submit id request handler = (result, l) ∧
      a' = a.note l (submitted id request result) := by
  obtain ⟨rfl, rfl⟩ := Prod.mk.inj h
  exact ⟨_, rfl, rfl⟩

/-- **What a pass adds**: the transfers that have ended, and its result. -/
lemma events_eq [Consumer κ ω] (s : Session (Attested (Handler κ)) ω) (ms : Nat) :
    let run := (s.transport.link.events ms).run Handler.react s.host
    s.events ms = (run.1, ⟨s.transport.note run.2.1
      (s.transport.link.endings (s.transport.link.stack.poll ms).2.1 ++ [.passed run.1]),
        run.2.2⟩) := by
  rw [Session.events, show Transport.events s.transport ms = s.transport.events ms from rfl, events,
    Pass.run_map]

end Attested

/-! ### The ends of a pass, one after the other -/

/-- **A completion is about one transfer**: for the others, the link waits as before. -/
lemma Course.awaiting_step {react : Reaction H σ} {c c' : Course H σ} (hstep : Step react c c') :
    ∃ settled, c.queue = settled :: c'.queue ∧
      ∀ id, id ≠ settled.id → c'.link.awaiting id = c.link.awaiting id := by
  have hforget (l : DeviceLink H) (settled : Settled) {id : TransferId} (hne : id ≠ settled.id) :
      ((l.told settled).forget settled.id).awaiting id = l.awaiting id := by
    rw [DeviceLink.awaiting_forget_of_ne hne, DeviceLink.awaiting_told]
  cases hstep with
  | @strayed settled rest l s hnone =>
      exact ⟨settled, rfl, fun id _ => DeviceLink.awaiting_congr rfl id⟩
  | @ended settled rest l s t rearm handler s' hfind _ _ =>
      exact ⟨settled, rfl, fun id hne => hforget l settled hne⟩
  | @rearmed settled rest l s t rearm handler s' stack hfind _ _ _ =>
      refine ⟨settled, rfl, fun id hne => ?_⟩
      have hid : (t.filled settled).id = settled.id := (DeviceLink.mem_of_awaiting hfind).2
      rw [DeviceLink.awaiting_concat, hid, if_neg (Ne.symm hne), Option.or_none,
        hforget l settled hne]
  | @refused settled rest l s t rearm handler s' code stack _ _ _ hfind _ _ _ _ _ =>
      refine ⟨settled, rfl, fun id hne => ?_⟩
      rw [DeviceLink.awaiting_noteError]
      exact (DeviceLink.awaiting_congr rfl id).trans (hforget l settled hne)

/-- **What each end of a transfer adds to, a pass adds to**: it begins with the transfers that the
stack settles, and takes one after the other. -/
theorem DeviceLink.endings_induction (react : Reaction H σ) {l : DeviceLink H}
    (hexact : l.Exact []) (ms : Nat) (s : σ) {R : List Occurrence → DeviceLink H → σ → Prop}
    (hstart : R [] { l with stack := (l.stack.poll ms).2.2 } s)
    (hstep : ∀ {c c' : Course H σ} {done settled o}, Course.Step react c c' →
      c.link.Exact c.queue → c.queue = settled :: c'.queue →
      c.link.awaiting settled.id = some o → R done c.link c.state →
      R (done ++ [.ended o.submission settled]) c'.link c'.state) :
    ∃ l' s', (l.events ms).run react s =
        (verdict (l.stack.poll ms).1, l'.closed (l.stack.poll ms).1, s') ∧
      R (l.endings (l.stack.poll ms).2.1) l' s' := by
  obtain ⟨l', s', hsteps, hrun⟩ := run_events react l ms s
  -- the completions that have reached their handlers, and those that still find theirs
  have hend := hsteps.induction (R := fun c => c.link.Exact c.queue ∧ ∃ done,
      (l.stack.poll ms).2.1 = done ++ c.queue ∧
      (∀ settled ∈ c.queue, c.link.awaiting settled.id = l.awaiting settled.id) ∧
      R (l.endings done) c.link c.state)
    (by
      rintro c c' hmove ⟨hexact, done, hsplit, hothers, hdone⟩
      obtain ⟨settled, hqueue, hsame⟩ := Course.awaiting_step hmove
      have hmem : settled ∈ c.queue := hqueue ▸ List.mem_cons_self
      have hnodup := hexact.apart
      rw [held, hqueue, List.map_cons, List.cons_append, List.nodup_cons] at hnodup
      cases hfind : c.link.awaiting settled.id with
      | none =>
          have howns := hexact.waiting settled hmem
          rw [awaiting_eq_none.mp hfind] at howns
          cases howns
      | some o =>
          have hmore : l.endings (done ++ [settled]) =
              l.endings done ++ [.ended o.submission settled] := by
            simp [endings, List.filterMap_append, ← hothers settled hmem, hfind]
          refine ⟨Course.exact_step hmove hexact, done ++ [settled], ?_, ?_, ?_⟩
          · rw [hsplit, hqueue, List.append_assoc]
            rfl
          · intro later hlater
            have hne : later.id ≠ settled.id := fun heq => hnodup.1
              (List.mem_append_left _ (heq ▸ List.mem_map_of_mem (f := (·.id)) hlater))
            rw [hsame later.id hne]
            exact hothers later (hqueue ▸ List.mem_cons_of_mem _ hlater)
          · rw [hmore]
            exact hstep hmove hexact hqueue hfind hdone)
    ⟨hexact.polled ms s, [], rfl, fun _ _ => rfl, hstart⟩
  obtain ⟨-, done, hsplit, -, hdone⟩ := hend
  rw [List.append_nil] at hsplit
  exact ⟨l', s', hrun, hsplit ▸ hdone⟩

/-! ### The list is right -/

/-- The completions among the calls on a stack. -/
def HostStack.Call.isCompletion : HostStack.Call → Bool
  | .complete _ _ => true
  | _ => false

namespace Occurrence

/-- The completion that an occurrence is. -/
def completion? : Occurrence → Option HostStack.Call
  | .ended _ settled => some (.complete settled.id settled.status)
  | _ => none

/-- The name of the transfer that is taken over. -/
def takenId? : Occurrence → Option TransferId
  | .taken t => some t.id
  | _ => none

end Occurrence

open HostStack.Call (isCompletion)

/-- **The completions of a pass** are those that the stack has settled. -/
lemma DeviceLink.completions_events {l : DeviceLink H} (hexact : l.Exact []) (react : Reaction H σ)
    (ms : Nat) (s : σ) :
    ((l.events ms).run react s).2.1.stack.allocated = l.stack.allocated ∧
      ((l.events ms).run react s).2.1.stack.calls.filter isCompletion =
        l.stack.calls.filter isCompletion ++
          (l.endings (l.stack.poll ms).2.1).filterMap Occurrence.completion? := by
  rcases hpoll : l.stack.poll ms with ⟨code, settled, stack⟩
  obtain ⟨l', s', hsteps, hrun⟩ := run_events react l ms s
  have hstart : l.polled ms s = ⟨settled, { l with stack }, s⟩ := by rw [polled, hpoll]
  have hwaiting := (hexact.polled ms s).waiting
  rw [hstart] at hsteps hwaiting
  obtain ⟨hcalls, halloc, -, -⟩ := HostStack.poll_cases hpoll
  have hend := hsteps.induction (R := fun c => c.link.stack.allocated = l.stack.allocated ∧
      ∃ done, settled = done ++ c.queue ∧ c.link.stack.calls.filter isCompletion =
        l.stack.calls.filter isCompletion ++ done.map fun t => .complete t.id t.status)
    (by
      rintro c c' hstep ⟨halloc, done, hsplit, hdone⟩
      obtain ⟨halloc', t, hqueue, hnew⟩ := hstep.calls_eq
      refine ⟨halloc'.trans halloc, done ++ [t], by rw [hsplit, hqueue]; simp, ?_⟩
      obtain hnew | ⟨o, code', -, hnew⟩ := hnew
      all_goals
        rw [hnew, List.filter_append, hdone]
        simp [List.filter_cons, isCompletion])
    ⟨halloc, [], rfl, by rw [hcalls]; simp [isCompletion]⟩
  obtain ⟨halloc', done, hsplit, hdone⟩ := hend
  rw [List.append_nil] at hsplit
  subst hsplit
  have hall : (l.endings settled).filterMap Occurrence.completion? =
      settled.map fun t => .complete t.id t.status := by
    rw [endings, List.filterMap_filterMap, ← List.filterMap_eq_map]
    refine List.filterMap_congr fun t ht => ?_
    have howns := hwaiting t ht
    cases hfind : l.awaiting t.id with
    | none =>
        have hno : l.owns t.id = false := awaiting_eq_none.mp hfind
        exact absurd (hno.symm.trans howns) Bool.false_ne_true
    | some o => rfl
  rw [hrun, stack_closed, hall]
  exact ⟨halloc', hdone⟩

/-- The endings of a pass are ends of transfers. -/
lemma DeviceLink.mem_endings {l : DeviceLink H} {queue : List Settled} :
    ∀ occurrence ∈ l.endings queue, ∃ t settled, occurrence = .ended t settled := by
  intro occurrence hmem
  obtain ⟨settled, -, hended⟩ := List.mem_filterMap.mp hmem
  obtain ⟨o, -, rfl⟩ := Option.map_eq_some_iff.mp hended
  exact ⟨o.submission, settled, rfl⟩

/-- A pass takes no transfer over. -/
lemma Occurrence.takenIds_pass {endings : List Occurrence}
    (h : ∀ occurrence ∈ endings, ∃ t settled, occurrence = .ended t settled)
    (result : Except UsbError Unit) :
    (endings ++ [passed result]).filterMap takenId? = [] := by
  refine List.filterMap_eq_nil_iff.mpr fun occurrence hmem => ?_
  rcases List.mem_append.mp hmem with hmem | hmem
  · obtain ⟨t, settled, rfl⟩ := h occurrence hmem
    rfl
  · rw [List.mem_singleton.mp hmem]
    rfl

namespace Attested

/-- **The list tells what has happened**: the completions of the stack, in order, and no transfer
is taken over twice. -/
structure Faithful (a : Attested H) : Prop where
  completions : a.link.stack.calls.filter isCompletion =
    a.occurrences.filterMap Occurrence.completion?
  nodup : (a.occurrences.filterMap Occurrence.takenId?).Nodup
  handed : ∀ id ∈ a.occurrences.filterMap Occurrence.takenId?, id < a.link.stack.allocated

variable {a : Attested H} {l : DeviceLink H}

/-- A call that completes nothing is not in the list, unless it takes a transfer over. -/
lemma Faithful.note (h : a.Faithful) {kind : HostStack.Call → Prop} (hadds : a.link.Adds kind l)
    (hkind : ∀ call, kind call → call.isCompletion = false)
    (halloc : a.link.stack.allocated ≤ l.stack.allocated) {more : List Occurrence}
    (hmore : more.filterMap Occurrence.completion? = [])
    (hnew : ∀ id ∈ more.filterMap Occurrence.takenId?, id < l.stack.allocated ∧
      id ∉ a.occurrences.filterMap Occurrence.takenId?)
    (honce : (more.filterMap Occurrence.takenId?).Nodup) : (a.note l more).Faithful where
  completions := by
    rw [Attested.note, List.filterMap_append, hmore, List.append_nil, ← h.completions]
    obtain hcalls | ⟨call, hcall, hcalls⟩ := hadds
    · rw [hcalls]
    · rw [hcalls, List.filter_append, List.filter_singleton, hkind call hcall]
      simp
  nodup := by
    rw [Attested.note, List.filterMap_append, List.nodup_append]
    refine ⟨h.nodup, honce, ?_⟩
    rintro id hold _ hid rfl
    exact (hnew id hid).2 hold
  handed := by
    rw [Attested.note, List.filterMap_append]
    intro id hid
    rcases List.mem_append.mp hid with hid | hid
    · exact Nat.lt_of_lt_of_le (h.handed id hid) halloc
    · exact (hnew id hid).1

/-- A call of which nothing is noted, or only that it fails. -/
lemma Faithful.pass_over (h : a.Faithful) {kind : HostStack.Call → Prop}
    (hadds : a.link.Adds kind l) (hkind : ∀ call, kind call → call.isCompletion = false)
    (halloc : a.link.stack.allocated ≤ l.stack.allocated) {more : List Occurrence}
    (hmore : more.filterMap Occurrence.completion? = [])
    (hnone : more.filterMap Occurrence.takenId? = []) : (a.note l more).Faithful :=
  h.note hadds hkind halloc hmore (by simp [hnone]) (by simp [hnone])

/-- A pass completes what the stack has settled. -/
lemma Faithful.passed [Consumer κ ω] {s : Session (Attested (Handler κ)) ω}
    (h : s.transport.Faithful) (hexact : s.transport.link.Exact []) (ms : Nat) :
    (s.events ms).2.transport.Faithful := by
  obtain ⟨halloc, hcompletions⟩ :=
    DeviceLink.completions_events hexact Handler.react ms s.host
  have hends : ∀ occurrence ∈ s.transport.link.endings (s.transport.link.stack.poll ms).2.1,
      ∃ t settled, occurrence = .ended t settled := DeviceLink.mem_endings
  have hnone := Occurrence.takenIds_pass hends
  rw [events_eq]
  refine ⟨?_, ?_, ?_⟩
  · rw [Attested.note, List.filterMap_append, List.filterMap_append, ← h.completions]
    exact hcompletions.trans (by simp [Occurrence.completion?])
  · rw [Attested.note, List.filterMap_append, hnone, List.append_nil]
    exact h.nodup
  · rw [Attested.note, List.filterMap_append, hnone, List.append_nil]
    exact fun id hid => Nat.lt_of_lt_of_le (h.handed id hid) (Nat.le_of_eq halloc.symm)

lemma Faithful.alloc {a' : Attested H} {result : Except UsbError TransferId} (h : a.Faithful)
    (halloc : Transport.alloc a = (result, a')) : a'.Faithful := by
  obtain ⟨l, hrun, rfl⟩ := alloc_eq halloc
  have hadds := a.link.adds_alloc
  rw [hrun] at hadds
  have hmono : a.link.stack.allocated ≤ l.stack.allocated := by
    cases result with
    | ok id =>
        obtain ⟨-, stack, rfl, -, -, hnext⟩ := DeviceLink.alloc_ok hrun
        exact hnext ▸ Nat.le_succ _
    | error error =>
        obtain ⟨stack, rfl, -, -, hsame⟩ := DeviceLink.alloc_error hrun
        exact Nat.le_of_eq hsame.symm
  refine h.pass_over hadds (by rintro _ ⟨id, rfl⟩; rfl) hmono ?_ ?_ <;> cases result <;> rfl

/-- A transfer that is handed out has not been taken over yet. -/
lemma Faithful.fresh {a' : Attested H} {id : TransferId} (h : a.Faithful)
    (halloc : Transport.alloc a = (.ok id, a')) : id < a'.link.stack.allocated ∧
      id ∉ a'.occurrences.filterMap Occurrence.takenId? := by
  obtain ⟨l, hrun, rfl⟩ := alloc_eq halloc
  obtain ⟨rfl, stack, rfl, -, -, hnext⟩ := DeviceLink.alloc_ok hrun
  refine ⟨hnext ▸ Nat.lt_succ_self _, fun hid => ?_⟩
  rw [Attested.note, Occurrence.declines, List.append_nil] at hid
  exact Nat.lt_irrefl _ (h.handed _ hid)

/-- A transfer that is submitted for the first time is taken over, or it is not. -/
lemma Faithful.submit {a' : Attested H} {id : TransferId} {request : TransferRequest} {handler : H}
    {result : Except UsbError Unit} (h : a.Faithful) (hid : id < a.link.stack.allocated)
    (hnew : id ∉ a.occurrences.filterMap Occurrence.takenId?)
    (hsubmit : Transport.submit a id request handler = (result, a')) : a'.Faithful := by
  obtain ⟨l, hrun, rfl⟩ := submit_eq hsubmit
  have hadds := a.link.adds_submit id request handler
  rw [hrun] at hadds
  have hsame : l.stack.allocated = a.link.stack.allocated := by
    obtain ⟨-, rfl⟩ | ⟨code, stack, -, hstack, ⟨-, -, rfl⟩ | ⟨-, -, rfl⟩⟩ :=
      DeviceLink.submit_cases hrun
    · rfl
    · rw [DeviceLink.stack_noteError]
      exact (HostStack.submit_cases hstack).2.1
    · exact (HostStack.submit_cases hstack).2.1
  refine h.note hadds (by rintro _ ⟨code, rfl⟩; rfl) (Nat.le_of_eq hsame.symm) ?_ ?_ ?_
  · cases result <;> rfl
  · cases result with
    | ok _ =>
        intro id' hid'
        rw [List.mem_singleton.mp hid']
        exact ⟨hsame ▸ hid, hnew⟩
    | error error => simp [submitted, Occurrence.takenId?]
  · cases result with
    | ok _ => exact List.nodup_singleton _
    | error error => exact List.nodup_nil

lemma Faithful.cancel (h : a.Faithful) (id : TransferId) : (Transport.cancel a id).2.Faithful := by
  refine h.pass_over (a.link.adds_cancel id) (by rintro _ ⟨code, rfl⟩; rfl) ?_ rfl rfl
  rcases hcancel : a.link.cancel id with ⟨result, l⟩
  obtain rfl | ⟨code, stack, -, hstack, rfl⟩ := DeviceLink.cancel_cases hcancel
  · exact Nat.le_refl _
  · exact Nat.le_of_eq (HostStack.cancel_cases hstack).2.1.symm

lemma Faithful.free (h : a.Faithful) (id : TransferId) : (Transport.free a id).Faithful := by
  refine h.pass_over (a.link.adds_free id) (by rintro _ rfl; rfl) ?_ rfl rfl
  have hkept : (a.link.free id).stack.allocated = a.link.stack.allocated := by
    obtain ⟨-, hfree⟩ | ⟨-, hfree⟩ := a.link.free_cases id <;> rw [hfree]
    rfl
  exact Nat.le_of_eq hkept.symm

/-- A link that has just been opened has nothing to tell. -/
lemma Faithful.start {script : List HostStack.Cue} {vendor product : UInt16} {link : DeviceLink H}
    (h : DeviceLink.connect (script.foldl HostStack.cue {}) vendor product = .ok link) :
    Faithful { link } := by
  refine ⟨?_, List.nodup_nil, by simp⟩
  rw [(DeviceLink.opened h).2.2.2.2]
  rfl

lemma Faithful.cue (h : a.Faithful) (cue : HostStack.Cue) : (Scripted.cue a cue).Faithful := by
  obtain ⟨hcalls, halloc, -⟩ := HostStack.cue_cases a.link.stack cue
  refine ⟨?_, h.nodup, fun id hid => ?_⟩
  · show (a.link.stack.cue cue).calls.filter isCompletion = _
    rw [hcalls]
    exact h.completions
  · show id < (a.link.stack.cue cue).allocated
    rw [halloc]
    exact h.handed id hid

end Attested

end LogicCapture
