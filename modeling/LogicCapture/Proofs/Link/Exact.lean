/-
Who owns the transfers of a link, as its stack's list of calls tells it.

* `HostStack.inUse`: the transfers that have been submitted and not completed since;
* `HostStack.Lawful`: no submission has been answered with a positive code, as the documentation of
  such stacks promises;
* `DeviceLink.Exact`: the link keeps the state of every transfer in use, and of no other;
* `Course.exact_step`: every completion leaves it exact, whatever its handler makes of it;
* `DeviceLink.Exact.submit`, `DeviceLink.Exact.passed`, …: so do the calls of the link and whole
  event passes.
-/
import LogicCapture.Proofs.Link.Moves
import Mathlib.Data.List.Nodup

namespace LogicCapture

variable {H σ : Type}

namespace HostStack

/-! ### Transfers in use -/

/-- The transfers that are in use after a call, if these have been before. -/
def Call.take (ids : List TransferId) : Call → List TransferId
  | .submit t code => if code = 0 then ids ++ [t.id] else ids
  | .complete id _ => ids.erase id
  | _ => ids

/-- **The transfers in use after some calls**: submitted and not completed since. -/
def inUse (calls : List Call) : List TransferId := calls.foldl Call.take []

@[simp] lemma inUse_concat (calls : List Call) (call : Call) :
    inUse (calls ++ [call]) = call.take (inUse calls) := by
  rw [inUse, List.foldl_concat, inUse]

/-- **The stack keeps to its documentation**: a submission succeeds with zero or fails with a
negative code. -/
def Lawful (calls : List Call) : Prop := ∀ t code, .submit t code ∈ calls → code ≤ 0

instance : DecidablePred Lawful := fun calls =>
  decidable_of_iff (calls.all fun
    | .submit _ code => code ≤ 0
    | _ => true) <| by
  rw [List.all_eq_true]
  constructor
  · intro h t code hmem
    simpa using h _ hmem
  · intro h call hmem
    cases call
    case submit t code => simpa using h t code hmem
    all_goals rfl

lemma Lawful.of_append {calls more : List Call} (h : Lawful (calls ++ more)) : Lawful calls :=
  fun t code hmem => h t code (List.mem_append_left _ hmem)

end HostStack

open HostStack (Settled Submission inUse Lawful)

namespace DeviceLink

/-! ### Exact links -/

/-- The transfers whose completions wait for their handlers or have not come yet. -/
def held (queue : List Settled) (l : DeviceLink H) : List TransferId :=
  queue.map (·.id) ++ l.stack.carried.map (·.id)

/-- **The link keeps the state of every transfer in use**, while some completions still wait for
their handlers.  On a lawful stack it keeps no other. -/
structure Exact (queue : List Settled) (l : DeviceLink H) : Prop where
  ids : (l.owned.map (·.submission.id)).Nodup
  handed : ∀ t ∈ l.owned, t.submission.id < l.stack.allocated
  apart : (l.held queue).Nodup
  waiting : ∀ settled ∈ queue, l.owns settled.id = true
  alive : ∀ t ∈ l.stack.carried, ∃ o ∈ l.owned, o.submission = t
  used : (inUse l.stack.calls).Perm (l.held queue)
  lawful : Lawful l.stack.calls → ∀ t ∈ l.owned, t.submission.id ∈ l.held queue

namespace Exact

variable {l l' : DeviceLink H} {queue : List Settled} {stack : HostStack} {t : Submission}
  {code : Int}

/-- Exactness is about the stack and the transfers that the link keeps. -/
lemma congr (h : Exact queue l) (hstack : l'.stack = l.stack) (howned : l'.owned = l.owned) :
    Exact queue l' := by
  obtain ⟨hids, hhanded, hapart, hwaiting, halive, hused, hlawful⟩ := h
  refine ⟨?_, ?_, ?_, ?_, ?_, ?_, ?_⟩
  all_goals simpa only [held, owns, hstack, howned]

/-- A transfer in use has its state in the link. -/
lemma owns_of_inUse (h : Exact queue l) {id : TransferId} (hid : id ∈ inUse l.stack.calls) :
    l.owns id = true := by
  rcases List.mem_append.mp (h.used.subset hid) with hid | hid
  · obtain ⟨settled, hsettled, rfl⟩ := List.mem_map.mp hid
    exact h.waiting settled hsettled
  · obtain ⟨t, ht, rfl⟩ := List.mem_map.mp hid
    obtain ⟨o, ho, rfl⟩ := h.alive t ht
    exact owns_iff.mpr (List.mem_map_of_mem (f := fun o : Owned H => o.submission.id) ho)

/-- On a lawful stack, a transfer whose state is in the link is in use. -/
lemma inUse_of_owns (h : Exact queue l) (hlawful : Lawful l.stack.calls) {id : TransferId}
    (hid : l.owns id = true) : id ∈ inUse l.stack.calls := by
  obtain ⟨o, ho, rfl⟩ := List.mem_map.mp (owns_iff.mp hid)
  exact h.used.symm.subset (h.lawful hlawful o ho)

/-- Calls that neither take a transfer over nor give it up leave the link exact. -/
lemma note (h : Exact queue l) {call : HostStack.Call}
    (hcalls : stack.calls = l.stack.calls ++ [call]) (hcall : ∀ ids, call.take ids = ids)
    (halloc : l.stack.allocated ≤ stack.allocated) (hcarried : stack.carried = l.stack.carried) :
    Exact queue { l with stack } where
  ids := h.ids
  handed o ho := Nat.lt_of_lt_of_le (h.handed o ho) halloc
  apart := by
    rw [held, hcarried]
    exact h.apart
  waiting := h.waiting
  alive o ho := h.alive o (hcarried ▸ ho)
  used := by
    rw [held, hcarried, hcalls, HostStack.inUse_concat, hcall]
    exact h.used
  lawful hlawful := by
    rw [held, hcarried]
    rw [hcalls] at hlawful
    exact h.lawful hlawful.of_append

/-- A submission that the stack refuses leaves the link exact. -/
lemma refuse (h : Exact queue l) (hsubmit : l.stack.submit t = (code, stack)) (hcode : code ≠ 0) :
    Exact queue { l with stack } := by
  obtain ⟨hcalls, halloc, hcarried⟩ := HostStack.submit_cases hsubmit
  rw [if_neg hcode] at hcarried
  exact h.note hcalls (fun ids => if_neg hcode) (Nat.le_of_eq halloc.symm) hcarried

/-- A submission that the stack accepts leaves the link exact, if the link keeps its state. -/
lemma accept (h : Exact queue l) (hsubmit : l.stack.submit t = (code, stack)) (hcode : 0 ≤ code)
    (hfree : l.owns t.id = false) (hid : t.id < l.stack.allocated) (handler : H) :
    Exact queue { l with stack, owned := l.owned ++ [⟨t, handler⟩] } := by
  obtain ⟨hcalls, halloc, hcarried⟩ := HostStack.submit_cases hsubmit
  have hfresh : t.id ∉ l.held queue := fun hmem =>
    absurd (h.owns_of_inUse (h.used.symm.subset hmem)) (by simp [hfree])
  have hheld : held queue { l with stack, owned := l.owned ++ [⟨t, handler⟩] } =
      if code = 0 then l.held queue ++ [t.id] else l.held queue := by
    rw [held, hcarried]
    split <;> simp [held]
  constructor
  case ids =>
    rw [List.map_append, List.nodup_append]
    refine ⟨h.ids, List.nodup_singleton _, ?_⟩
    rintro id hmem _ hlast rfl
    rw [List.mem_singleton.mp hlast] at hmem
    exact owns_eq_false_iff.mp hfree hmem
  case handed =>
    intro o ho
    rw [halloc]
    rcases List.mem_append.mp ho with ho | ho
    · exact h.handed o ho
    · rw [List.mem_singleton.mp ho]
      exact hid
  case apart =>
    rw [hheld]
    split
    · exact List.nodup_append.mpr ⟨h.apart, List.nodup_singleton _, fun id hmem id' hlast heq =>
        hfresh (by rwa [← List.mem_singleton.mp hlast, ← heq])⟩
    · exact h.apart
  case waiting =>
    intro settled hsettled
    have hold := owns_iff.mp (h.waiting settled hsettled)
    rw [owns_iff, List.map_append]
    exact List.mem_append_left _ hold
  case alive =>
    intro t' ht'
    rw [hcarried] at ht'
    have hor : t' ∈ l.stack.carried ∨ t' = t := by
      split at ht'
      · simpa using ht'
      · exact Or.inl ht'
    rcases hor with ht' | rfl
    · obtain ⟨o, ho, hsame⟩ := h.alive t' ht'
      exact ⟨o, List.mem_append_left _ ho, hsame⟩
    · exact ⟨⟨t', handler⟩, by simp, rfl⟩
  case used =>
    rw [hheld, hcalls, HostStack.inUse_concat, HostStack.Call.take]
    split
    · exact h.used.append_right _
    · exact h.used
  case lawful =>
    intro hlawful o ho
    rw [hcalls] at hlawful
    have hzero : code = 0 := Int.le_antisymm (hlawful t code (by simp)) hcode
    rw [hheld, if_pos hzero]
    rcases List.mem_append.mp ho with ho | ho
    · exact List.mem_append_left _ (h.lawful hlawful.of_append o ho)
    · rw [List.mem_singleton.mp ho]
      simp

/-- A completion whose transfer is left idle takes its state out of the link. -/
lemma settle {settled : Settled} (h : Exact (settled :: queue) l) :
    Exact queue ((l.told settled).forget settled.id) := by
  have hheld : held (settled :: queue) l = settled.id :: l.held queue := rfl
  have hapart := List.nodup_cons.mp (hheld ▸ h.apart)
  have hstack : ((l.told settled).forget settled.id).stack =
    l.stack.note (.complete settled.id settled.status) := stack_told l settled
  have howned := owned_forget_told l settled
  have hrest : held queue ((l.told settled).forget settled.id) = l.held queue := by
    rw [held, hstack]
    rfl
  have hother {id : TransferId} (hid : id ∈ l.held queue) : id ≠ settled.id := fun heq =>
    hapart.1 (heq ▸ hid)
  constructor
  case ids =>
    rw [howned]
    exact h.ids.sublist (List.filter_sublist.map _)
  case handed =>
    intro o ho
    rw [howned] at ho
    rw [hstack]
    exact h.handed o (List.mem_filter.mp ho).1
  case apart =>
    rw [hrest]
    exact hapart.2
  case waiting =>
    intro settled' hmem
    have hne := hother (List.mem_append_left _ (List.mem_map_of_mem (f := (·.id)) hmem))
    obtain ⟨o, ho, hid⟩ := List.mem_map.mp
      (owns_iff.mp (h.waiting settled' (List.mem_cons_of_mem _ hmem)))
    rw [owns_iff, howned]
    exact List.mem_map.mpr ⟨o, List.mem_filter.mpr ⟨ho, by simpa [hid] using hne⟩, hid⟩
  case alive =>
    intro t ht
    rw [hstack] at ht
    have hne := hother (List.mem_append_right _ (List.mem_map_of_mem (f := (·.id)) ht))
    obtain ⟨o, ho, rfl⟩ := h.alive t ht
    rw [howned]
    exact ⟨o, List.mem_filter.mpr ⟨ho, by simpa using hne⟩, rfl⟩
  case used =>
    have herase := h.used.erase settled.id
    rw [hheld, List.erase_cons_head] at herase
    rw [hrest, hstack]
    show (inUse (l.stack.calls ++ [_])).Perm _
    rw [HostStack.inUse_concat]
    exact herase
  case lawful =>
    intro hlawful o ho
    rw [hstack] at hlawful
    rw [howned] at ho
    rw [hrest]
    obtain ⟨ho, hne⟩ := List.mem_filter.mp ho
    rcases List.mem_cons.mp (hheld ▸ h.lawful (Lawful.of_append hlawful) o ho) with hid | hid
    · exact absurd hid (by simpa using hne)
    · exact hid

/-- The completions of a pass belong to transfers that the link keeps. -/
lemma polled (h : Exact [] l) (ms : Nat) (s : σ) :
    Exact (l.polled ms s).queue (l.polled ms s).link := by
  rcases hpoll : l.stack.poll ms with ⟨code, settled, stack⟩
  obtain ⟨hcalls, halloc, hperm, hsub⟩ := HostStack.poll_cases hpoll
  have hqueue : (l.polled ms s).queue = settled := by rw [DeviceLink.polled, hpoll]
  have hlink : (l.polled ms s).link = { l with stack } := by rw [DeviceLink.polled, hpoll]
  have hheld : held settled { l with stack } = settled.map (·.id) ++ stack.carried.map (·.id) := rfl
  have hbefore : l.held [] = l.stack.carried.map (·.id) := rfl
  have hused : (inUse stack.calls).Perm (l.stack.carried.map (·.id)) := by
    rw [hcalls, HostStack.inUse_concat]
    exact h.used
  rw [hqueue, hlink]
  constructor
  case ids => exact h.ids
  case handed =>
    intro o ho
    rw [halloc]
    exact h.handed o ho
  case apart => exact hperm.nodup_iff.mpr (hbefore ▸ h.apart)
  case waiting =>
    intro settled' hmem
    have hid : settled'.id ∈ l.stack.carried.map (·.id) :=
      hperm.subset (List.mem_append_left _ (List.mem_map_of_mem (f := (·.id)) hmem))
    exact h.owns_of_inUse (h.used.symm.subset hid)
  case alive => exact fun t ht => h.alive t (hsub.subset ht)
  case used => exact hused.trans hperm.symm
  case lawful =>
    intro hlawful o ho
    rw [hcalls] at hlawful
    exact hperm.symm.subset (h.lawful hlawful.of_append o ho)

end Exact

end DeviceLink

namespace Course

/-- **Every completion leaves the link exact**: its transfer is idle then and its state is gone, or
the stack has taken it over again and its state is kept. -/
theorem exact_step {react : Reaction H σ} {c c' : Course H σ} (hstep : Step react c c')
    (h : c.link.Exact c.queue) : c'.link.Exact c'.queue := by
  cases hstep with
  | strayed hnone =>
      have howns := h.waiting _ List.mem_cons_self
      rw [DeviceLink.awaiting_eq_none.mp hnone] at howns
      cases howns
  | ended _ _ _ => exact h.settle
  | @rearmed settled rest l s t rearm handler s' stack hfind _ _ hsubmit =>
      have hid := (DeviceLink.mem_of_awaiting hfind).2
      refine h.settle.accept hsubmit (Int.le_refl 0) ?_ ?_ handler
      · rw [DeviceLink.owns_eq_false_iff]
        simp [DeviceLink.forget, DeviceLink.Owned.filled, hid]
      · have hlt := h.handed t (DeviceLink.mem_of_awaiting hfind).1
        simpa [DeviceLink.forget, DeviceLink.told, DeviceLink.heard, HostStack.note,
          DeviceLink.Owned.filled] using hlt
  | refused _ _ _ hsubmit hcode _ =>
      exact (h.settle.refuse hsubmit hcode).congr (DeviceLink.stack_noteError _ _)
        (DeviceLink.owned_noteError _ _)

end Course

namespace DeviceLink.Exact

variable {l l' : DeviceLink H}

/-! ### Calls of the link -/

lemma alloc (h : Exact [] l) {result : Except UsbError TransferId}
    (hrun : l.alloc = (result, l')) : Exact [] l' := by
  cases result with
  | ok id =>
      obtain ⟨-, stack, rfl, hcalls, hcarried, halloc⟩ := alloc_ok hrun
      exact h.note hcalls (fun _ => rfl) (by omega) hcarried
  | error error =>
      obtain ⟨stack, rfl, hcalls, hcarried, halloc⟩ := alloc_error hrun
      exact h.note hcalls (fun _ => rfl) (Nat.le_of_eq halloc.symm) hcarried

/-- A submission keeps the link exact, for a transfer that has been handed out. -/
lemma submit (h : Exact [] l) {id : TransferId} {request : TransferRequest} {handler : H}
    {result : Except UsbError Unit} (hid : id < l.stack.allocated)
    (hrun : l.submit id request handler = (result, l')) : Exact [] l' := by
  obtain ⟨-, rfl⟩ | ⟨code, stack, hfree, hsubmit, ⟨hcode, -, rfl⟩ | ⟨hcode, -, rfl⟩⟩ :=
    submit_cases hrun
  · exact h
  · exact (h.refuse hsubmit (Int.ne_of_lt hcode)).congr (stack_noteError _ _)
      (owned_noteError _ _)
  · exact h.accept hsubmit hcode hfree hid handler

lemma cancel (h : Exact [] l) {id : TransferId} {result : Except UsbError Unit}
    (hrun : l.cancel id = (result, l')) : Exact [] l' := by
  obtain rfl | ⟨code, stack, -, hcancel, rfl⟩ := cancel_cases hrun
  · exact h
  · obtain ⟨hcalls, halloc, hcarried⟩ := HostStack.cancel_cases hcancel
    exact h.note hcalls (fun _ => rfl) (Nat.le_of_eq halloc.symm) hcarried

lemma free (h : Exact [] l) (id : TransferId) : Exact [] (l.free id) := by
  obtain ⟨-, hfree⟩ | ⟨-, hfree⟩ := l.free_cases id
  · rwa [hfree]
  · rw [hfree]
    exact h.note rfl (fun _ => rfl) (Nat.le_refl _) rfl

lemma claim (h : Exact [] l) (interface : UInt8) : Exact [] (l.claim interface).2 := by
  obtain ⟨code, stack, hclaim, hstack, howned, -⟩ := claim_cases l interface
  obtain ⟨hcalls, halloc, hcarried⟩ := HostStack.claim_cases hclaim
  exact (h.note hcalls (fun _ => rfl) (Nat.le_of_eq halloc.symm) hcarried).congr hstack howned

lemma release (h : Exact [] l) (interface : UInt8) : Exact [] (l.release interface).2 := by
  obtain ⟨code, stack, hrelease, hstack, howned, -⟩ := release_cases l interface
  obtain ⟨hcalls, halloc, hcarried⟩ := HostStack.release_cases hrelease
  exact (h.note hcalls (fun _ => rfl) (Nat.le_of_eq halloc.symm) hcarried).congr hstack howned

lemma cue (h : Exact [] l) (cue : HostStack.Cue) :
    Exact [] { l with stack := l.stack.cue cue } := by
  obtain ⟨hcalls, halloc, hcarried⟩ := HostStack.cue_cases l.stack cue
  obtain ⟨hids, hhanded, hapart, hwaiting, halive, hused, hlawful⟩ := h
  refine ⟨hids, ?_, ?_, ?_, ?_, ?_, ?_⟩
  all_goals simpa only [held, hcalls, halloc, hcarried]

/-- **A whole pass leaves the link exact.** -/
theorem passed (h : Exact [] l) (react : Reaction H σ) (ms : Nat) (s : σ) :
    Exact [] ((l.events ms).run react s).2.1 := by
  obtain ⟨l', s', hsteps, hrun⟩ := run_events react l ms s
  have hend : l'.Exact [] := hsteps.induction (R := fun c => c.link.Exact c.queue)
    (fun hstep => Course.exact_step hstep) (h.polled ms s)
  rw [hrun]
  exact hend.congr (stack_closed _ _) (owned_closed _ _)

/-- A link with nothing in its keeping is exact if nothing is in use. -/
lemma fresh (howned : l.owned = []) (hcarried : l.stack.carried = [])
    (hused : inUse l.stack.calls = []) : Exact [] l := by
  refine ⟨?_, ?_, ?_, ?_, ?_, ?_, ?_⟩ <;> simp [held, howned, hcarried, hused]

end DeviceLink.Exact

namespace DeviceLink

/-- The calls that open a device. -/
def openCalls (stack : HostStack) (vendor product : UInt16) : List HostStack.Call :=
  [.init stack.initCode, .openDevice vendor product true, .autoDetach stack.autoDetachCode]

/-- **A link that has just been opened** has nothing in its keeping. -/
theorem opened {script : List HostStack.Cue} {vendor product : UInt16} {l : DeviceLink H}
    (h : connect (script.foldl HostStack.cue {}) vendor product = .ok l) :
    l.owned = [] ∧ l.attached = true ∧ l.stack.carried = [] ∧ l.stack.allocated = 0 ∧
      l.stack.calls = openCalls l.stack vendor product := by
  obtain ⟨hcalls, halloc, hcarried⟩ := HostStack.script_cases script
  rw [connect, HostStack.init] at h
  dsimp only at h
  split at h
  · cases h
  · split at h
    · cases h
    · rename_i stack hopen
      obtain ⟨hfound, rfl⟩ := Prod.mk.inj hopen
      cases h
      refine ⟨rfl, rfl, hcarried, halloc, ?_⟩
      rw [hfound]
      simp [openCalls, HostStack.setAutoDetach, HostStack.note, hcalls]

lemma exact_opened {script : List HostStack.Cue} {vendor product : UInt16} {l : DeviceLink H}
    (h : connect (script.foldl HostStack.cue {}) vendor product = .ok l) : l.Exact [] := by
  obtain ⟨howned, -, hcarried, -, hcalls⟩ := opened h
  refine .fresh howned hcarried ?_
  rw [hcalls]
  rfl

/-- A script with one device. -/
def onePlugged : List HostStack.Cue := [.device 1 2]

/-- The link to that device, just opened. -/
def onePluggedLink (H : Type) : DeviceLink H :=
  { stack := { devices := [(1, 2)], calls := openCalls {} 1 2 } }

lemma connect_onePlugged (H : Type) :
    connect (onePlugged.foldl HostStack.cue {}) 1 2 = .ok (onePluggedLink H) := rfl

end DeviceLink

end LogicCapture
