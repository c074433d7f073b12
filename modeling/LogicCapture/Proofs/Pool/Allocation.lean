/-
Allocation is all or nothing.

* `Pool.transcript_obtain_ok`, `Pool.transcript_obtain_error`: the calls by which slots are
  obtained, or given back after a failure;
* `Pool.Atomic`: all that an allocation may come to, with its calls on the transport;
* `Pool.allocate_atomic`: every allocation comes to that.
-/
import LogicCapture.Proofs.Pool.Upheld
import LogicCapture.Proofs.Session.Transcript

namespace LogicCapture

variable {τ κ ω C H : Type}

namespace Transport

/-- The calls that have handed out transfers. -/
def obtained (ids : List TransferId) : List (Call H) := ids.map fun id => .alloc (.ok id)

/-- The calls that take transfers back, each of them once. -/
def returned (ids : List TransferId) : List (Call H) := ids.map .free

end Transport

namespace Pool

open Transport (Call obtained returned)

/-! ### The calls of an allocation -/

section
variable [Transport τ (Handler κ)]

lemma transcript_freeSlots (slots : List Slot) (w : Transcribed τ (Handler κ)) :
    (freeSlots slots w).transcript = w.transcript ++ returned (slots.map (·.transfer)) := by
  induction slots generalizing w with
  | nil => exact (List.append_nil _).symm
  | cons slot rest ih =>
      calc (freeSlots rest (Transport.free w slot.transfer)).transcript
          = (w.transcript ++ [.free slot.transfer]) ++ returned (rest.map (·.transfer)) := ih _
        _ = w.transcript ++ returned ((slot :: rest).map (·.transfer)) :=
            List.append_assoc _ _ _

/-- Slots that have been obtained have cost one call each. -/
lemma transcript_obtain_ok {count key : Nat} {taken slots : List Slot}
    {w w' : Transcribed τ (Handler κ)} (h : obtain count key taken w = (.ok slots, w')) :
    ∃ ids : List TransferId, slots.map (·.transfer) = taken.map (·.transfer) ++ ids ∧
      w'.transcript = w.transcript ++ obtained ids := by
  induction count generalizing key taken w with
  | zero =>
      cases h
      exact ⟨[], (List.append_nil _).symm, (List.append_nil _).symm⟩
  | succ count ih =>
      rw [obtain] at h
      split at h
      · rename_i id w₁ halloc
        obtain ⟨ids, hids, hcalls⟩ := ih h
        refine ⟨id :: ids, by simp [hids], ?_⟩
        rw [hcalls, Transcribed.transcript_alloc halloc, List.append_assoc]
        rfl
      · cases h

/-- If a transfer cannot be had, all those handed out before it are given back. -/
lemma transcript_obtain_error {count key : Nat} {taken : List Slot} {error : UsbError}
    {w w' : Transcribed τ (Handler κ)} (h : obtain count key taken w = (.error error, w')) :
    ∃ (ids : List TransferId) (reason : UsbError), ids.length < count ∧
      w'.transcript = w.transcript ++ (obtained ids ++ .alloc (.error reason) ::
        returned (taken.map (·.transfer) ++ ids)) := by
  induction count generalizing key taken w with
  | zero => cases h
  | succ count ih =>
      rw [obtain] at h
      split at h
      · rename_i id w₁ halloc
        obtain ⟨ids, reason, hlength, hcalls⟩ := ih h
        refine ⟨id :: ids, reason, Nat.succ_lt_succ hlength, ?_⟩
        rw [hcalls, Transcribed.transcript_alloc halloc, List.append_assoc, List.map_append,
          List.append_assoc]
        rfl
      · rename_i reason w₁ halloc
        cases h
        refine ⟨[], reason, Nat.succ_pos count, ?_⟩
        rw [transcript_freeSlots, Transcribed.transcript_alloc halloc, List.append_assoc,
          List.append_nil]
        rfl

/-! ### All that an allocation may come to -/

/-- **All or nothing**: what an allocation of `count` slots may answer, and leave of the pool and of
the session, by its calls on the transport. -/
inductive Atomic (p : Pool) (granted : Bool) (count : Nat) (s : Session τ ω) :
    Except UsbError Unit → Pool → Session τ ω → List (Call (Handler κ)) → Prop where
  /-- No slot is asked for. -/
  | invalid : count = 0 → Atomic p granted count s (.error .invalidParam) p s []
  /-- The pool has slots. -/
  | busy : count ≠ 0 → p.slots ≠ [] → Atomic p granted count s (.error .busy) p s []
  /-- There is no memory for the table. -/
  | denied : count ≠ 0 → p.slots = [] → granted = false →
      Atomic p granted count s (.error .noMemory) p s []
  /-- After fewer transfers than it takes the transport fails to hand out another, for whatever
  reason, and every transfer that was handed out is given back. -/
  | failed {ids : List TransferId} {reason : UsbError} {t : τ} :
      count ≠ 0 → p.slots = [] → granted = true → ids.length < count →
      Atomic p granted count s (.error .noMemory) p { s with transport := t }
        (obtained ids ++ .alloc (.error reason) :: returned ids)
  /-- The pool has exactly the transfers that were handed out, each in a new slot that is not
  armed. -/
  | filled {slots : List Slot} {t : τ} :
      count ≠ 0 → p.slots = [] → granted = true → slots.length = count →
      slots.map (·.key) = List.range' p.nextKey count →
      (∀ slot ∈ slots, s.host.isArmed slot.key = false) →
      Atomic p granted count s (.ok ()) { p with slots, nextKey := p.nextKey + count }
        { s with transport := t } (obtained (slots.map (·.transfer)))

/-- A key that has not been given away is not armed. -/
lemma Numbered.not_armed {p : Pool} {s : Session τ ω} (h : p.Numbered s) {key : Nat}
    (hkey : p.nextKey ≤ key) : s.host.isArmed key = false := by
  rw [Bool.eq_false_iff, Ne, Host.isArmed_iff]
  exact fun harmed => Nat.not_lt.mpr hkey (h.armed key harmed)

/-- What an allocation comes to, read off its transcript. -/
lemma atomic_of_allocateGranted {p p' : Pool} {granted : Bool} {count : Nat} {s : Session τ ω}
    {result : Except UsbError Unit} {w' : Session (Transcribed τ (Handler κ)) ω}
    (hnumbered : p.Numbered s)
    (h : p.allocateGranted granted count (s.transcribed []) = (result, p', w')) :
    p.Atomic granted count s result p' w'.bare w'.transport.transcript := by
  rw [allocateGranted] at h
  split at h
  · rename_i hcount
    cases h
    exact .invalid hcount
  · rename_i hcount
    split at h
    · rename_i hfull
      cases h
      exact .busy hcount fun hslots => by simp [isEmpty, hslots] at hfull
    · rename_i hempty
      have hslots : p.slots = [] := by simpa [isEmpty] using hempty
      split at h
      · rename_i hdenied
        cases h
        exact .denied hcount hslots hdenied
      · rename_i hgranted
        have hgranted : granted = true := by simpa using hgranted
        split at h
        · rename_i hobtain
          cases h
          cases error_of_obtain hobtain
          obtain ⟨ids, reason, hlength, hcalls⟩ := transcript_obtain_error hobtain
          rw [hcalls]
          exact .failed hcount hslots hgranted hlength
        · rename_i slots w hobtain
          cases h
          have hkeys : slots.map (·.key) = List.range' p.nextKey count := obtain_keys hobtain
          obtain ⟨ids, hids, hcalls⟩ := transcript_obtain_ok hobtain
          rw [List.map_nil, List.nil_append] at hids
          rw [hcalls, ← hids]
          refine .filled hcount hslots hgranted ?_ hkeys fun slot hslot => ?_
          · simpa using congrArg List.length hkeys
          · have hkey : slot.key ∈ slots.map (·.key) := List.mem_map_of_mem hslot
            rw [hkeys, List.mem_range'_1] at hkey
            exact hnumbered.not_armed hkey.1

end

section
variable [Transport τ (Handler κ)] [Consumer κ ω]

/-- **Every allocation is all or nothing**, at every point in the life of a pool on any transport,
for every number of slots and whatever memory is granted: it answers, and the answer, the pool, the
session and the calls that it has made on the transport are together one of the cases of
`Pool.Atomic`. -/
theorem allocate_atomic [Scripted τ C] {steps : List (Step κ C)} {bufferSize : Nat} {t : τ}
    {shared : ω} {p : Pool} {s : Session τ ω}
    (hrun : run steps (.empty bufferSize) (.start t shared) = some (p, s)) (count : Nat) :
    p.allocate count s = p.allocateGranted (count * slotBytes ≤ addressSpace) count s ∧
    ∀ granted, ∃ result p' s', ∃ calls : List (Call (Handler κ)),
      p.allocateGranted granted count s = (result, p', s') ∧
      p.allocateGranted granted count (s.transcribed []) = (result, p', s'.transcribed calls) ∧
      p.Atomic granted count s result p' s' calls := by
  refine ⟨p.allocate_eq_allocateGranted count s, fun granted => ?_⟩
  rcases hnoted : p.allocateGranted granted count
    (s.transcribed ([] : List (Call (Handler κ)))) with ⟨result, p', w'⟩
  have hbare := allocateGranted_mapTransport Transcribed.covers p granted count
    (s.transcribed ([] : List (Call (Handler κ))))
  rw [hnoted] at hbare
  exact ⟨result, p', w'.bare, w'.transport.transcript, hbare, rfl,
    atomic_of_allocateGranted (numbered_of_run hrun) hnoted⟩

/-- A pool that has been freed while its slots were armed; the bench will hand out four transfers in
all. -/
def freedWhileArmed : List (Step Recorder Bench.Cue) :=
  [.allocate 2, .arm 0x81 ⟨0x81, .constant (.always .resubmit)⟩, .freeAll, .cue (.failAlloc 4)]

/-- The third of three allocations fails. -/
theorem allocate_atomic_freedWhileArmed :
    ∃ (p p' : Pool) (s s' : Session (Bench (Handler Recorder)) (List Recorder.Call))
      (result : Except UsbError Unit) (calls : List (Call (Handler Recorder))),
      run freedWhileArmed (.empty 8) (.start {} []) = some (p, s) ∧ s.host.armed = [1, 0] ∧
      p.allocateGranted true 3 s = (result, p', s') ∧
      result = .error .noMemory ∧ s'.transport.allocated = 4 ∧ s'.transport.freed = [0, 1, 2, 3] ∧
      p.Atomic true 3 s result p' s' calls := by
  let run' := run (τ := Bench (Handler Recorder)) freedWhileArmed (.empty 8)
    (.start {} ([] : List Recorder.Call))
  have hdone : run'.map (fun r =>
      let done := r.1.allocateGranted true 3 r.2
      (r.2.host.armed, done.1, done.2.2.transport.allocated, done.2.2.transport.freed)) =
      some ([1, 0], .error .noMemory, 4, [0, 1, 2, 3]) := by
    decide +kernel
  obtain ⟨⟨p, s⟩, hrun, hdone⟩ := Option.map_eq_some_iff.mp hdone
  obtain ⟨result, p', s', calls, hanswer, -, hatomic⟩ := (allocate_atomic hrun 3).2 true
  simp only [hanswer, Prod.mk.injEq] at hdone
  obtain ⟨harmed, hresult, hallocated, hfreed⟩ := hdone
  exact ⟨p, p', s, s', result, calls, hrun, harmed, hanswer, hresult, hallocated, hfreed, hatomic⟩

end

end Pool

end LogicCapture
