/-
Slots that a pool has given back while their transfers were in flight.

* `Pool.withSlots`: a pool together with slots that it has had; `Pool.upheld_withSlots`: pool, host
  and link go on to agree about them;
* `HostStack.submittedIds`, `rearmedKeys`: the transfers that have been submitted, and the slots
  whose handlers have had their transfers armed again;
* `Pool.Accounts`: of slots that have been given back, these are the same;
* `Course.accounts_step`, `Pool.upheld_accounted`: completions and calls keep it so.
-/
import LogicCapture.Proofs.Link.Custody
import LogicCapture.Proofs.Session.Journal

namespace LogicCapture

variable {κ ω H σ : Type}

/-! ### Submissions and verdicts -/

namespace HostStack

/-- The transfers that have been submitted, with or without success. -/
def submittedIds (calls : List Call) : List TransferId :=
  calls.filterMap fun
    | .submit t _ => some t.id
    | _ => none

@[simp] lemma submittedIds_append (calls more : List Call) :
    submittedIds (calls ++ more) = submittedIds calls ++ submittedIds more :=
  List.filterMap_append

end HostStack

namespace HandlerCall

/-- The handler has had its transfer armed again. -/
def isHonoured (c : HandlerCall H) : Bool := c.rearm.honoured c.completion.status

/-- The slot that the call is about, if its transfer is armed again. -/
def rearmedKey (c : HandlerCall (Handler κ)) : Option Nat :=
  if c.isHonoured then c.handler.key else none

end HandlerCall

/-- The slots whose handlers have had their transfers armed again. -/
def rearmedKeys (handled : List (HandlerCall (Handler κ))) : List Nat :=
  handled.filterMap HandlerCall.rearmedKey

@[simp] lemma rearmedKeys_append (handled more : List (HandlerCall (Handler κ))) :
    rearmedKeys (handled ++ more) = rearmedKeys handled ++ rearmedKeys more :=
  List.filterMap_append

lemma mem_rearmedKeys {handled : List (HandlerCall (Handler κ))} {key : Nat} :
    key ∈ rearmedKeys handled ↔
      ∃ c ∈ handled, c.handler.key = some key ∧ c.isHonoured = true := by
  rw [rearmedKeys, List.mem_filterMap]
  refine exists_congr fun c => and_congr_right fun _ => ?_
  rw [HandlerCall.rearmedKey]
  split <;> simp [*]

/-! ### Handlers that note their calls -/

/-- What a handler does that notes its calls. -/
lemma noting_eq {react : Reaction H σ} {handler handler' : H} {c : Completion}
    {s s' : σ × List (HandlerCall H)} {rearm : Rearm}
    (h : noting react handler c s = (rearm, handler', s')) :
    react handler c s.1 = (rearm, handler', s'.1) ∧ s'.2 = s.2 ++ [⟨handler, c, rearm⟩] := by
  rcases hreact : react handler c s.1 with ⟨rearm₁, handler₁, s₁⟩
  rw [noting, hreact] at h
  cases h
  exact ⟨rfl, rfl⟩

namespace Course

/-- The course without the notes. -/
def plain (c : Course H (σ × List (HandlerCall H))) : Course H σ := ⟨c.queue, c.link, c.state.1⟩

/-- Completions do the same to handlers that note their calls. -/
lemma Step.plain {react : Reaction H σ} {c c' : Course H (σ × List (HandlerCall H))}
    (hstep : Step (noting react) c c') : Step react c.plain c'.plain := by
  cases hstep with
  | strayed hnone => exact .strayed hnone
  | ended hfind hreact hhon => exact .ended hfind (noting_eq hreact).1 hhon
  | rearmed hfind hreact hhon hsubmit => exact .rearmed hfind (noting_eq hreact).1 hhon hsubmit
  | refused hfind hreact hhon hsubmit hcode hagain =>
      exact .refused hfind (noting_eq hreact).1 hhon hsubmit hcode (noting_eq hagain).1

end Course

/-! ### Slots that have been given back -/

namespace Pool

/-- The pool together with more slots. -/
def withSlots (p : Pool) (slots : List Slot) : Pool := { p with slots := p.slots ++ slots }

variable {gone : List Slot}

/-- **Pool, host and link go on to agree** about slots that have been given back. -/
theorem upheld_withSlots [Consumer κ ω] (gone : List Slot) :
    Upheld fun p (s : Session (DeviceLink (Handler κ)) ω) => (p.withSlots gone).Linked s where
  pass ms h := upheld_linked.pass ms h
  alloc h := upheld_linked.alloc h
  command h hattached halloc hkind hsubmit := upheld_linked.command h hattached halloc hkind hsubmit
  submit h hslot hsubmit := upheld_linked.submit h (List.mem_append_left _ hslot) hsubmit
  reject h hslot hsubmit := upheld_linked.reject h (List.mem_append_left _ hslot) hsubmit
  cancel id h := upheld_linked.cancel id h
  free id h := upheld_linked.free id h
  fill {p s count slots l} h hslots hobtain hafter := by
    have hfilled := Linked.fill h hobtain hafter
    rwa [withSlots, hslots, List.nil_append] at hfilled
  empty {p s} h := by
    have hfewer := Linked.fewer h (List.sublist_append_right p.slots gone)
    rwa [withSlots, List.nil_append]
  claim interface h := upheld_linked.claim interface h
  release interface h := upheld_linked.release interface h
  shared shared h := upheld_linked.shared shared h

/-- **Of the slots that have been given back**, those transfers have been submitted since whose
handlers have had them armed again. -/
def Accounts (gone : List Slot) (base calls : List HostStack.Call)
    (handled : List (HandlerCall (Handler κ))) : Prop :=
  ∃ since, calls = base ++ since ∧ ∀ slot ∈ gone,
    slot.transfer ∈ HostStack.submittedIds since ↔ slot.key ∈ rearmedKeys handled

namespace Accounts

variable {base calls more : List HostStack.Call} {handled noted : List (HandlerCall (Handler κ))}

lemma start (gone : List Slot) (base : List HostStack.Call) :
    Accounts gone base base ([] : List (HandlerCall (Handler κ))) :=
  ⟨[], by simp, by simp [HostStack.submittedIds, rearmedKeys]⟩

/-- What comes with calls and verdicts that suit each other. -/
lemma extend (h : Accounts gone base calls handled)
    (hmore : ∀ slot ∈ gone,
      slot.transfer ∈ HostStack.submittedIds more ↔ slot.key ∈ rearmedKeys noted) :
    Accounts gone base (calls ++ more) (handled ++ noted) := by
  obtain ⟨since, rfl, hsince⟩ := h
  refine ⟨since ++ more, List.append_assoc _ _ _, fun slot hslot => ?_⟩
  rw [HostStack.submittedIds_append, rearmedKeys_append, List.mem_append, List.mem_append,
    hsince slot hslot, hmore slot hslot]

/-- Calls that submit no transfer that has been given back. -/
lemma add (h : Accounts gone base calls handled)
    (hmore : ∀ slot ∈ gone, slot.transfer ∉ HostStack.submittedIds more) :
    Accounts gone base (calls ++ more) handled := by
  have hnone : ∀ slot ∈ gone, slot.transfer ∈ HostStack.submittedIds more ↔
      slot.key ∈ rearmedKeys ([] : List (HandlerCall (Handler κ))) :=
    fun slot hslot => iff_of_false (hmore slot hslot) List.not_mem_nil
  have hafter := h.extend hnone
  rwa [List.append_nil] at hafter

end Accounts

end Pool

namespace Course

variable [Consumer κ ω] {c c' : Course (Handler κ) (Host ω × List (HandlerCall (Handler κ)))}
  {p : Pool} {gone : List Pool.Slot} {base : List HostStack.Call}

/-- **A completion submits a transfer again** if its handler wants it, and no other. -/
theorem accounts_step (hstep : Step (noting Handler.react) c c')
    (htied : p.Tied c.link c.state.1.armed) (hgone : gone ⊆ p.slots)
    (h : Pool.Accounts gone base c.link.stack.calls c.state.2) :
    Pool.Accounts gone base c'.link.stack.calls c'.state.2 := by
  cases hstep with
  | strayed hnone => exact h.add (by simp [HostStack.submittedIds])
  | @ended settled rest l s t rearm handler s' hfind hreact hhon =>
      obtain ⟨-, hnoted⟩ := noting_eq hreact
      have hcalls : ((l.told settled).forget settled.id).stack.calls = _ :=
        DeviceLink.calls_told l settled
      rw [hcalls, hnoted]
      refine h.extend fun slot hslot => iff_of_false (by simp [HostStack.submittedIds]) ?_
      simpa [mem_rearmedKeys, HandlerCall.isHonoured, DeviceLink.Owned.completion] using
        fun _ => hhon
  | @rearmed settled rest l s t rearm handler s' stack hfind hreact hhon hsubmit =>
      obtain ⟨-, hnoted⟩ := noting_eq hreact
      have hcalls := (HostStack.submit_cases hsubmit).1
      rw [DeviceLink.calls_told, List.append_assoc] at hcalls
      show Pool.Accounts gone base stack.calls s'.2
      rw [hcalls, hnoted]
      refine h.extend fun slot hslot => ?_
      have hmatched := eq_comm.trans
        (htied.matched t (DeviceLink.mem_of_awaiting hfind).1 slot (hgone hslot))
      simpa [mem_rearmedKeys, HandlerCall.isHonoured, HostStack.submittedIds,
        DeviceLink.Owned.completion, DeviceLink.Owned.filled, hhon] using hmatched
  | @refused settled rest l s t rearm handler s' code stack rearm' handler' s'' hfind hreact hhon
      hsubmit hcode hagain =>
      obtain ⟨-, hnoted⟩ := noting_eq hreact
      obtain ⟨-, hnoted'⟩ := noting_eq hagain
      have hcalls := (HostStack.submit_cases hsubmit).1
      rw [DeviceLink.calls_told, List.append_assoc] at hcalls
      show Pool.Accounts gone base (DeviceLink.noteError _ _).stack.calls s''.2
      rw [DeviceLink.stack_noteError, hcalls, hnoted', hnoted, List.append_assoc]
      refine h.extend fun slot hslot => ?_
      have hmatched := eq_comm.trans
        (htied.matched t (DeviceLink.mem_of_awaiting hfind).1 slot (hgone hslot))
      simpa [mem_rearmedKeys, HandlerCall.isHonoured, HostStack.submittedIds,
        DeviceLink.Owned.completion, DeviceLink.Owned.filled, hhon,
        Handler.not_honoured_refused] using hmatched

end Course

namespace Pool

variable {gone : List Slot} {base : List HostStack.Call} {handled : List (HandlerCall (Handler κ))}

/-- Calls of the link, if they submit none of the transfers. -/
lemma Accounts.adds {kind : HostStack.Call → Prop} {l l' : DeviceLink (Handler κ)}
    (h : Accounts gone base l.stack.calls handled) (hadds : l.Adds kind l')
    (hkind : ∀ call, kind call → ∀ slot ∈ gone, slot.transfer ∉ HostStack.submittedIds [call]) :
    Accounts gone base l'.stack.calls handled := by
  obtain hcalls | ⟨call, hcall, hcalls⟩ := hadds
  · rwa [hcalls]
  · rw [hcalls]
    exact h.add (hkind call hcall)

/-- A submission of another transfer. -/
lemma Accounts.submit {l : DeviceLink (Handler κ)} {id : TransferId}
    (h : Accounts gone base l.stack.calls handled) (request : TransferRequest) (handler : Handler κ)
    (hid : ∀ slot ∈ gone, slot.transfer ≠ id) :
    Accounts gone base (l.submit id request handler).2.stack.calls handled := by
  refine h.adds (DeviceLink.adds_submit l id request handler) ?_
  rintro _ ⟨code, rfl⟩ slot hslot
  simpa [HostStack.submittedIds, DeviceLink.submission] using hid slot hslot

/-- **The account of a journal.** -/
structure Accounted (gone : List Slot) (base : List HostStack.Call) (p : Pool)
    (s : Session (Journaled (DeviceLink (Handler κ)) (Handler κ)) ω) : Prop where
  linked : (p.withSlots gone).Linked (s.mapTransport Journaled.transport)
  accounts : Accounts gone base s.transport.transport.stack.calls s.transport.handled

/-- **Transfers that have been given back are only submitted again by their handlers.** -/
theorem upheld_accounted [Consumer κ ω] (gone : List Slot) (base : List HostStack.Call) :
    Upheld (Accounted (κ := κ) (ω := ω) gone base) := by
  have hlinked := (upheld_withSlots (κ := κ) (ω := ω) gone).cover Journaled.covers
  have hother {p : Pool} {s : Session (DeviceLink (Handler κ)) ω} {slot : Slot}
      (h : (p.withSlots gone).Linked s) (hslot : slot ∈ p.slots) :
      ∀ slot' ∈ gone, slot'.transfer ≠ slot.transfer := by
    intro slot' hslot' heq
    have hnodup := h.tied.transfers
    rw [withSlots, List.map_append] at hnodup
    exact (List.nodup_append.mp hnodup).2.2 _ (List.mem_map_of_mem hslot) _
      (List.mem_map_of_mem hslot') heq.symm
  constructor
  case pass =>
    intro p s ms h
    refine ⟨hlinked.pass ms h.linked, ?_⟩
    obtain ⟨l', s', hsteps, hrun⟩ := DeviceLink.run_events (noting Handler.react)
      s.transport.transport ms (s.host, s.transport.handled)
    have hstart : Accounts gone base
        (s.transport.transport.polled ms (s.host, s.transport.handled)).link.stack.calls
        s.transport.handled := by
      rcases hpoll : s.transport.transport.stack.poll ms with ⟨code, settled, stack⟩
      rw [DeviceLink.polled, hpoll]
      show Accounts gone base stack.calls _
      rw [(HostStack.poll_cases hpoll).1]
      exact h.accounts.add (by simp [HostStack.submittedIds])
    let Kept (c : Course (Handler κ) (Host ω × List (HandlerCall (Handler κ)))) : Prop :=
      (p.withSlots gone).Tied c.link c.state.1.armed ∧
        Accounts gone base c.link.stack.calls c.state.2
    have hend : Kept ⟨[], l', s'⟩ := hsteps.induction (R := Kept)
      (fun hstep hc => ⟨Course.tied_step hstep.plain hc.1,
        Course.accounts_step hstep hc.1 (List.subset_append_right _ _) hc.2⟩)
      ⟨h.linked.polled ms (s.host, s.transport.handled), hstart⟩
    have hevents :
        Transport.events s.transport.transport ms = s.transport.transport.events ms := rfl
    rw [Journaled.run_events, hevents]
    dsimp only
    rw [hrun, DeviceLink.stack_closed]
    exact hend.2
  case alloc => exact fun h => ⟨hlinked.alloc h.linked,
    h.accounts.adds (DeviceLink.adds_alloc _)
      (by rintro _ ⟨id, rfl⟩; simp [HostStack.submittedIds])⟩
  case command =>
    intro p s id t request result t' h hattached halloc hkind hsubmit
    refine ⟨hlinked.command h.linked hattached halloc hkind hsubmit, ?_⟩
    obtain ⟨hid, rfl⟩ := Prod.mk.inj halloc
    obtain ⟨-, rfl⟩ := Prod.mk.inj hsubmit
    have halloc' : s.transport.transport.alloc = (.ok id, s.transport.transport.alloc.2) :=
      Prod.ext hid rfl
    have hnew : id = s.transport.transport.stack.allocated := (DeviceLink.alloc_ok halloc').1
    refine Accounts.submit (h.accounts.adds (DeviceLink.adds_alloc _)
      (by rintro _ ⟨id, rfl⟩; simp [HostStack.submittedIds])) request _ fun slot hslot => ?_
    rw [hnew]
    exact Nat.ne_of_lt (h.linked.tied.transfers_lt slot (List.mem_append_right _ hslot))
  case submit =>
    intro p s slot endpoint buffer ms consumer t h hslot hsubmit
    refine ⟨hlinked.submit h.linked hslot hsubmit, ?_⟩
    obtain ⟨-, rfl⟩ := Prod.mk.inj hsubmit
    exact h.accounts.submit _ _ (hother h.linked hslot)
  case reject =>
    intro p s slot endpoint buffer ms consumer error t h hslot hsubmit
    refine ⟨hlinked.reject h.linked hslot hsubmit, ?_⟩
    obtain ⟨-, rfl⟩ := Prod.mk.inj hsubmit
    exact h.accounts.submit _ _ (hother h.linked hslot)
  case cancel => exact fun id h => ⟨hlinked.cancel id h.linked, h.accounts.adds
    (DeviceLink.adds_cancel _ id) (by rintro _ ⟨code, rfl⟩; simp [HostStack.submittedIds])⟩
  case free => exact fun id h => ⟨hlinked.free id h.linked, h.accounts.adds
    (DeviceLink.adds_free _ id) (by rintro _ rfl; simp [HostStack.submittedIds])⟩
  case fill => exact fun h hslots hobtain hafter =>
    ⟨hlinked.fill h.linked hslots hobtain hafter.linked, hafter.accounts⟩
  case empty => exact fun h => ⟨hlinked.empty h.linked, h.accounts⟩
  case claim => exact fun interface h => ⟨hlinked.claim interface h.linked, h.accounts.adds
    (DeviceLink.adds_claim _ interface) (by rintro _ ⟨code, rfl⟩; simp [HostStack.submittedIds])⟩
  case release => exact fun interface h => ⟨hlinked.release interface h.linked, h.accounts.adds
    (DeviceLink.adds_release _ interface) (by rintro _ ⟨code, rfl⟩; simp [HostStack.submittedIds])⟩
  case shared => exact fun shared h => ⟨hlinked.shared shared h.linked, h.accounts⟩

/-- New script entries are no calls. -/
lemma accounted_cue {p : Pool} {s : Session (Journaled (DeviceLink (Handler κ)) (Handler κ)) ω}
    (cue : HostStack.Cue) (h : Accounted gone base p s) :
    Accounted gone base p { s with transport := Scripted.cue s.transport cue } := by
  refine ⟨linked_cue cue h.linked, ?_⟩
  show Accounts gone base (s.transport.transport.stack.cue cue).calls s.transport.handled
  rw [(HostStack.cue_cases _ cue).1]
  exact h.accounts

end Pool

end LogicCapture
