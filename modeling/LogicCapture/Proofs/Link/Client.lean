/-
Clients of a link to a USB stack: they obtain transfers, submit and cancel those that they hold,
give them back and let events be processed, in any order.

* `Client`, `Client.Step`, `Client.run`: a client, what it can do, and what that comes to;
* `Client.Event`: what passes between a client and its handlers;
* `Client.Sound`: what every step of a client keeps (`Client.Sound.step`);
* `Client.sound_of_run`: transfers are freed when they are idle, and once; and the state of a
  transfer is there for as long as the stack may reach for it.
-/
import LogicCapture.Proofs.Link.Exact
import LogicCapture.Proofs.Trace
import LogicCapture.Usb.Recorder

namespace LogicCapture

open HostStack (inUse Lawful)

variable {K σ : Type}

/-! ### Clients -/

/-- What passes between a client and the handlers of its transfers. -/
inductive Client.Event (K : Type) where
  /-- A transfer has been submitted with a handler. -/
  | submitted (id : TransferId) (handler : K) (result : Except UsbError Unit)
  /-- The handler of a transfer has run; this is its verdict, and its next state. -/
  | ran (id : TransferId) (handler : K) (completion : Completion) (rearm : Rearm) (next : K)

/-- A client of a link.  Handlers `K` act on a state `σ`; the link keeps each with the name of its
transfer. -/
structure Client (K σ : Type) where
  link : DeviceLink (TransferId × K)
  state : σ
  /-- The transfers obtained and not yet given back. -/
  held : List TransferId := []
  events : List (Client.Event K) := []

namespace Client

/-- What a client can do.  It only has a hold on transfers that it has obtained and not yet given
back. -/
inductive Step (K : Type) where
  | alloc
  | submit (id : TransferId) (request : TransferRequest) (handler : K)
  | cancel (id : TransferId)
  | free (id : TransferId)
  | pass (timeoutMs : Nat)
  | claim (interface : UInt8)
  | release (interface : UInt8)
  /-- An entry for the script of the stack. -/
  | cue (cue : HostStack.Cue)

/-- Handlers act on the state, and it is noted that they have run. -/
def tell (react : Reaction K σ) : Reaction (TransferId × K) (σ × List (Event K)) :=
  fun handler completion s =>
    let (rearm, next, state) := react handler.2 completion s.1
    (rearm, (handler.1, next), state, s.2 ++ [.ran handler.1 handler.2 completion rearm next])

/-- Takes a step. -/
def step (react : Reaction K σ) (c : Client K σ) : Step K → Client K σ
  | .alloc =>
    match c.link.alloc with
    | (.ok id, link) => { c with link, held := c.held ++ [id] }
    | (.error _, link) => { c with link }
  | .submit id request handler =>
    if id ∈ c.held then
      let (result, link) := c.link.submit id request (id, handler)
      { c with link, events := c.events ++ [.submitted id handler result] }
    else c
  | .cancel id => if id ∈ c.held then { c with link := (c.link.cancel id).2 } else c
  | .free id =>
    if id ∈ c.held then { c with link := c.link.free id, held := c.held.erase id } else c
  | .pass timeoutMs =>
    let (_, link, state, events) :=
      (c.link.events timeoutMs).run (tell react) (c.state, c.events)
    { c with link, state, events }
  | .claim interface => { c with link := (c.link.claim interface).2 }
  | .release interface => { c with link := (c.link.release interface).2 }
  | .cue cue => { c with link := { c.link with stack := c.link.stack.cue cue } }

/-- Takes steps in turn. -/
def run (react : Reaction K σ) (steps : List (Step K)) (c : Client K σ) : Client K σ :=
  steps.foldl (step react) c

/-- The calls on the stack so far. -/
def calls (c : Client K σ) : List HostStack.Call := c.link.stack.calls

/-- The client in an event pass that has asked the stack what has completed. -/
def polled (c : Client K σ) (timeoutMs : Nat) :
    Course (TransferId × K) (σ × List (Event K)) :=
  c.link.polled timeoutMs (c.state, c.events)

/-- What every step keeps, every run keeps. -/
lemma run_induction {react : Reaction K σ} {R : Client K σ → Prop}
    (hstep : ∀ {c} action, R c → R (c.step react action)) (steps : List (Step K))
    {c : Client K σ} (hc : R c) : R (c.run react steps) := by
  induction steps generalizing c with
  | nil => exact hc
  | cons action rest ih => exact ih (hstep action hc)

end Client

/-! ### Transfers given back -/

namespace HostStack

/-- The transfers that calls free, in order. -/
def freed (calls : List Call) : List TransferId :=
  calls.filterMap fun
    | .free id => some id
    | _ => none

/-- Only transfers that are not in use are freed. -/
def FreesIdle : List Call → Prop :=
  Historic fun before call => ∀ id, call = .free id → id ∉ inUse before

/-- The calls free nothing. -/
def FreesNothing (calls : List Call) : Prop := ∀ id, .free id ∉ calls

variable {calls more : List Call}

lemma freed_append (h : FreesNothing more) : freed (calls ++ more) = freed calls := by
  have hnone : freed more = [] := List.filterMap_eq_nil_iff.mpr fun call hcall => by
    cases call
    case free id => exact absurd hcall (h id)
    all_goals rfl
  rw [freed, List.filterMap_append]
  exact (congrArg (freed calls ++ ·) hnone).trans (List.append_nil _)

lemma FreesIdle.append (h : FreesIdle calls) (hmore : FreesNothing more) :
    FreesIdle (calls ++ more) :=
  Historic.append h fun _ hcall _ id hfree => absurd (hfree ▸ hcall) (hmore id)

end HostStack

open HostStack (freed FreesIdle FreesNothing)

/-- At no moment of an event pass has the pass freed anything, or handed anything out. -/
lemma Course.freesNothing {H τ : Type} {react : Reaction H τ} {l : DeviceLink H} {ms : Nat} {s : τ}
    {course : Course H τ} (h : Course.Steps react (l.polled ms s) course) :
    course.link.stack.allocated = l.stack.allocated ∧
      ∃ more, course.link.stack.calls = l.stack.calls ++ more ∧ FreesNothing more := by
  rcases hpoll : l.stack.poll ms with ⟨code, settled, stack⟩
  obtain ⟨hcalls, halloc, -, -⟩ := HostStack.poll_cases hpoll
  refine h.induction (R := fun course => course.link.stack.allocated = l.stack.allocated ∧
    ∃ more, course.link.stack.calls = l.stack.calls ++ more ∧ FreesNothing more) ?_ ?_
  · rintro course course' hstep ⟨halloc, more, hcalls, hmore⟩
    obtain ⟨halloc', settled, -, hnew⟩ := hstep.calls_eq
    refine ⟨halloc'.trans halloc, ?_⟩
    obtain hnew | ⟨t, code', -, hnew⟩ := hnew
    all_goals
      rw [hnew, hcalls, List.append_assoc]
      refine ⟨_, rfl, fun id hid => ?_⟩
      rcases List.mem_append.mp hid with hid | hid
      · exact hmore id hid
      · simp at hid
  · rw [DeviceLink.polled, hpoll]
    exact ⟨halloc, [.events ms code], hcalls, by simp [FreesNothing]⟩

namespace Client

/-- **A client is sound**: the link keeps the state of all transfers in use, and transfers have been
freed when they were idle, at most once, and not while the client held them. -/
structure Sound (c : Client K σ) : Prop where
  exact : c.link.Exact []
  held_nodup : c.held.Nodup
  held_lt : ∀ id ∈ c.held, id < c.link.stack.allocated
  freed_nodup : (freed c.calls).Nodup
  freed_lt : ∀ id ∈ freed c.calls, id < c.link.stack.allocated
  apart : ∀ id ∈ freed c.calls, id ∉ c.held
  idle : FreesIdle c.calls

namespace Sound

variable {c c' : Client K σ}

/-- Calls that free nothing keep a client sound. -/
lemma grow {more : List HostStack.Call} (h : c.Sound) (hexact : c'.link.Exact [])
    (hheld : c'.held = c.held) (halloc : c'.link.stack.allocated = c.link.stack.allocated)
    (hcalls : c'.calls = c.calls ++ more) (hmore : FreesNothing more) : c'.Sound := by
  have hfreed : freed c'.calls = freed c.calls := by rw [hcalls, HostStack.freed_append hmore]
  exact {
    exact := hexact
    held_nodup := hheld ▸ h.held_nodup
    held_lt := by rw [hheld, halloc]; exact h.held_lt
    freed_nodup := hfreed ▸ h.freed_nodup
    freed_lt := by rw [hfreed, halloc]; exact h.freed_lt
    apart := by rw [hfreed, hheld]; exact h.apart
    idle := by rw [hcalls]; exact h.idle.append hmore }

/-- An event pass frees nothing. -/
lemma pass (h : c.Sound) (react : Reaction K σ) (ms : Nat) :
    (c.step react (.pass ms)).Sound := by
  obtain ⟨l', s', hsteps, hrun⟩ := DeviceLink.run_events (tell react) c.link ms (c.state, c.events)
  have hexact := h.exact.passed (tell react) ms (c.state, c.events)
  obtain ⟨halloc, more, hcalls, hmore⟩ := Course.freesNothing hsteps
  have hlink : (c.step react (.pass ms)).link = l'.closed (c.link.stack.poll ms).1 := by
    rw [step, hrun]
  have hstack : (c.step react (.pass ms)).link.stack = l'.stack := by
    rw [hlink, DeviceLink.stack_closed]
  rw [hrun] at hexact
  exact h.grow (hlink ▸ hexact) rfl ((congrArg HostStack.allocated hstack).trans halloc)
    ((congrArg HostStack.calls hstack).trans hcalls) hmore

/-- A transfer that is given back is freed if the stack does not own it. -/
lemma free (h : c.Sound) (react : Reaction K σ) (id : TransferId) :
    (c.step react (.free id)).Sound := by
  rw [step]
  split
  · rename_i hid
    have hsub : c.held.erase id ⊆ c.held := List.erase_subset
    have hgone : id ∉ c.held.erase id := h.held_nodup.not_mem_erase
    rcases c.link.free_cases id with ⟨-, hlink⟩ | ⟨howns, hlink⟩
    · rw [hlink]
      exact ⟨h.exact, h.held_nodup.erase id, fun i hi => h.held_lt i (hsub hi), h.freed_nodup,
        h.freed_lt, fun i hi hheld => h.apart i hi (hsub hheld), h.idle⟩
    · -- the stack does not own it, so it is not in use
      have hidle : id ∉ inUse c.calls := fun hused => by
        rw [h.exact.owns_of_inUse hused] at howns
        cases howns
      have hexact := hlink ▸ h.exact.free id
      have hfreed : freed (c.calls ++ [.free id]) = freed c.calls ++ [id] := by
        simp [freed, List.filterMap_append]
      rw [hlink]
      refine ⟨hexact, h.held_nodup.erase id, fun i hi => h.held_lt i (hsub hi), ?_, ?_, ?_, ?_⟩
      · show (freed (c.calls ++ [.free id])).Nodup
        rw [hfreed]
        refine List.nodup_append.mpr ⟨h.freed_nodup, List.nodup_singleton _, ?_⟩
        rintro i hi _ hlast rfl
        exact h.apart i hi (List.mem_singleton.mp hlast ▸ hid)
      · show ∀ i ∈ freed (c.calls ++ [.free id]), i < c.link.stack.allocated
        rw [hfreed]
        intro i hi
        rcases List.mem_append.mp hi with hi | hi
        · exact h.freed_lt i hi
        · exact h.held_lt i (List.mem_singleton.mp hi ▸ hid)
      · show ∀ i ∈ freed (c.calls ++ [.free id]), i ∉ c.held.erase id
        rw [hfreed]
        intro i hi
        rcases List.mem_append.mp hi with hi | hi
        · exact fun hheld => h.apart i hi (hsub hheld)
        · exact List.mem_singleton.mp hi ▸ hgone
      · exact h.idle.concat fun i hi => HostStack.Call.free.inj hi ▸ hidle
  · exact h

/-- A new transfer is held. -/
lemma alloc (h : c.Sound) (react : Reaction K σ) : (c.step react .alloc).Sound := by
  rw [step]
  rcases halloc : c.link.alloc with ⟨result, link⟩
  have hexact := h.exact.alloc halloc
  cases result with
  | error error =>
      obtain ⟨stack, rfl, hcalls, -, hnext⟩ := DeviceLink.alloc_error halloc
      exact h.grow hexact rfl hnext hcalls (by simp [FreesNothing])
  | ok id =>
      obtain ⟨rfl, stack, rfl, hcalls, -, hnext⟩ := DeviceLink.alloc_ok halloc
      have hfreed : freed stack.calls = freed c.calls := by
        rw [hcalls]
        exact HostStack.freed_append (by simp [FreesNothing])
      refine ⟨hexact, ?_, ?_, hfreed ▸ h.freed_nodup, ?_, ?_, ?_⟩
      · refine List.nodup_append.mpr ⟨h.held_nodup, List.nodup_singleton _, ?_⟩
        rintro i hi _ hlast rfl
        exact absurd (h.held_lt i hi) (by simp [List.mem_singleton.mp hlast])
      · intro i hi
        show i < stack.allocated
        rw [hnext]
        rcases List.mem_append.mp hi with hi | hi
        · exact Nat.lt_succ_of_lt (h.held_lt i hi)
        · exact List.mem_singleton.mp hi ▸ Nat.lt_succ_self _
      · intro i hi
        show i < stack.allocated
        rw [hnext]
        exact Nat.lt_succ_of_lt (h.freed_lt i (hfreed ▸ hi))
      · intro i hi hheld
        rcases List.mem_append.mp hheld with hheld | hheld
        · exact h.apart i (hfreed ▸ hi) hheld
        · exact absurd (h.freed_lt i (hfreed ▸ hi)) (by simp [List.mem_singleton.mp hheld])
      · show FreesIdle stack.calls
        rw [hcalls]
        exact h.idle.append (by simp [FreesNothing])

/-- A submission frees nothing. -/
lemma submit (h : c.Sound) (react : Reaction K σ) (id : TransferId) (request : TransferRequest)
    (handler : K) : (c.step react (.submit id request handler)).Sound := by
  rw [step]
  split
  · rename_i hid
    rcases hsubmit : c.link.submit id request (id, handler) with ⟨result, link⟩
    have hexact := h.exact.submit (h.held_lt id hid) hsubmit
    obtain ⟨-, rfl⟩ | ⟨code, stack, -, hstack, hrest⟩ := DeviceLink.submit_cases hsubmit
    · exact h.grow hexact rfl rfl (List.append_nil _).symm (by simp [FreesNothing])
    · obtain ⟨hcalls, hnext, -⟩ := HostStack.submit_cases hstack
      have hsame : link.stack = stack := by
        obtain ⟨-, -, rfl⟩ | ⟨-, -, rfl⟩ := hrest
        · exact DeviceLink.stack_noteError _ _
        · rfl
      exact h.grow hexact rfl ((congrArg HostStack.allocated hsame).trans hnext)
        ((congrArg HostStack.calls hsame).trans hcalls) (by simp [FreesNothing])
  · exact h

/-- A cancellation frees nothing. -/
lemma cancel (h : c.Sound) (react : Reaction K σ) (id : TransferId) :
    (c.step react (.cancel id)).Sound := by
  rw [step]
  split
  · rcases hcancel : c.link.cancel id with ⟨result, link⟩
    have hexact := h.exact.cancel hcancel
    obtain rfl | ⟨code, stack, -, hstack, rfl⟩ := DeviceLink.cancel_cases hcancel
    · exact h.grow hexact rfl rfl (List.append_nil _).symm (by simp [FreesNothing])
    · obtain ⟨hcalls, hnext, -⟩ := HostStack.cancel_cases hstack
      exact h.grow hexact rfl hnext hcalls (by simp [FreesNothing])
  · exact h

/-- **Every step keeps a client sound.** -/
theorem step (h : c.Sound) (react : Reaction K σ) (action : Step K) :
    (c.step react action).Sound := by
  cases action with
  | alloc => exact h.alloc react
  | submit id request handler => exact h.submit react id request handler
  | cancel id => exact h.cancel react id
  | free id => exact h.free react id
  | pass ms => exact h.pass react ms
  | claim interface =>
      obtain ⟨code, stack, hclaim, hstack, -, -⟩ := DeviceLink.claim_cases c.link interface
      obtain ⟨hcalls, hnext, -⟩ := HostStack.claim_cases hclaim
      exact h.grow (h.exact.claim interface) rfl ((congrArg HostStack.allocated hstack).trans hnext)
        ((congrArg HostStack.calls hstack).trans hcalls) (by simp [FreesNothing])
  | release interface =>
      obtain ⟨code, stack, hrelease, hstack, -, -⟩ := DeviceLink.release_cases c.link interface
      obtain ⟨hcalls, hnext, -⟩ := HostStack.release_cases hrelease
      exact h.grow (h.exact.release interface) rfl
        ((congrArg HostStack.allocated hstack).trans hnext)
        ((congrArg HostStack.calls hstack).trans hcalls) (by simp [FreesNothing])
  | cue cue =>
      obtain ⟨hcalls, hnext, -⟩ := HostStack.cue_cases c.link.stack cue
      exact h.grow (h.exact.cue cue) rfl hnext
        (hcalls.trans (List.append_nil _).symm) (by simp [FreesNothing])

end Sound

/-- A client of a link that has just been opened holds nothing. -/
lemma Sound.start {script : List HostStack.Cue} {vendor product : UInt16}
    {link : DeviceLink (TransferId × K)}
    (h : DeviceLink.connect (script.foldl HostStack.cue {}) vendor product = .ok link) (s : σ) :
    (⟨link, s, [], []⟩ : Client K σ).Sound := by
  obtain ⟨-, -, -, -, hcalls⟩ := DeviceLink.opened h
  have hfreed : freed link.stack.calls = [] := by rw [hcalls]; rfl
  have hidle : FreesIdle ([] ++ link.stack.calls) := by
    refine FreesIdle.append .nil fun id hid => ?_
    rw [hcalls] at hid
    simp [DeviceLink.openCalls] at hid
  refine ⟨DeviceLink.exact_opened h, List.nodup_nil, by simp, ?_, ?_, ?_, hidle⟩
  all_goals simp [calls, hfreed]

/-- **Transfers are freed when they are idle, and once**, whatever a client does, whatever completes
when and how, and whatever the handlers make of it:

* no transfer is freed while the stack owns it, and none is freed twice;
* on a lawful stack, a transfer that is given back idle is freed then and there;
* at every moment of every further event pass, the link keeps the state of every transfer in use,
  the transfers that have not completed are there as the stack carries them, and nothing has been
  freed. -/
theorem sound_of_run {script : List HostStack.Cue} {vendor product : UInt16}
    {link : DeviceLink (TransferId × K)}
    (hopen : DeviceLink.connect (script.foldl HostStack.cue {}) vendor product = .ok link)
    (react : Reaction K σ) (s : σ) (steps : List (Step K)) :
    let c := run react steps ⟨link, s, [], []⟩
    (∀ before id after, c.calls = before ++ .free id :: after → id ∉ inUse before) ∧
      (freed c.calls).Nodup ∧
      (Lawful c.calls → ∀ id ∈ c.held, id ∉ inUse c.calls →
        (c.step react (.free id)).calls = c.calls ++ [.free id]) ∧
      ∀ ms course, Course.Steps (tell react) (c.polled ms) course →
        (∀ id ∈ inUse course.link.stack.calls, ∃ o ∈ course.link.owned, o.submission.id = id) ∧
          (∀ t ∈ course.link.stack.carried, ∃ o ∈ course.link.owned, o.submission = t) ∧
          freed course.link.stack.calls = freed c.calls := by
  intro c
  have h : c.Sound :=
    run_induction (fun action h => h.step react action) steps (Sound.start hopen s)
  refine ⟨fun before id after heq => h.idle before (.free id) after heq id rfl, h.freed_nodup,
    fun hlawful id hid hidle => ?_, fun ms course hsteps => ?_⟩
  · have howns : ¬ c.link.owns id = true := fun howns => hidle (h.exact.inUse_of_owns hlawful howns)
    rw [step, if_pos hid, DeviceLink.free, if_neg howns]
    rfl
  · have hexact : course.link.Exact course.queue :=
      hsteps.induction (R := fun c => c.link.Exact c.queue)
        (fun hstep => Course.exact_step hstep) (h.exact.polled ms _)
    obtain ⟨-, more, hcalls, hmore⟩ := Course.freesNothing hsteps
    refine ⟨fun id hid => ?_, hexact.alive, ?_⟩
    · have howns := hexact.owns_of_inUse hid
      simpa [DeviceLink.owns] using howns
    · rw [hcalls]
      exact HostStack.freed_append hmore

/-- Four transfers, two of them submitted.  The second of these completes, and its resubmission is
refused; then three transfers are given back, one of them still in flight. -/
def oneLeaked : List (Step Recorder) :=
  [.alloc, .alloc, .alloc, .alloc,
    .submit 1 ⟨.bulkIn 0x81, zeros 2, 0⟩ ⟨0, .constant (.always .resubmit)⟩,
    .submit 2 ⟨.bulkIn 0x81, zeros 2, 0⟩ ⟨0, .constant (.always .resubmit)⟩,
    .cue (.arrivals [⟨1, { status := 0, data := [1] }⟩]), .cue (.codes .submit [-1]), .pass 10,
    .free 0, .free 1, .free 2]

theorem sound_oneLeaked :
    let c := run Recorder.react oneLeaked ⟨DeviceLink.onePluggedLink _, [], [], []⟩
    freed c.calls = [0, 2] ∧ inUse c.calls = [1] ∧
      (∀ before id after, c.calls = before ++ .free id :: after → id ∉ inUse before) ∧
      (c.step Recorder.react (.free 3)).calls = c.calls ++ [.free 3] := by
  have h := sound_of_run (DeviceLink.connect_onePlugged _) Recorder.react [] oneLeaked
  exact ⟨by decide +kernel, by decide +kernel, h.1,
    h.2.2.1 (by decide +kernel) 3 (by decide +kernel) (by decide +kernel)⟩

end Client

end LogicCapture
