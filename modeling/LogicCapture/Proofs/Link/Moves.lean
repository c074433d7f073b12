/-
What the link to a USB stack can do: allocations, submissions and cancellations, and event passes
one completion at a time.

* `HostStack.carried`: the transfers that the stack owns, as they were submitted;
* `HostStack.submit_cases`, `HostStack.cancel_cases`, `HostStack.poll_cases`, …: what the calls on
  the stack add to its list and change of the transfers that it carries;
* `DeviceLink.alloc_cases`, `DeviceLink.submit_cases`, `DeviceLink.cancel_cases`: the calls of the
  link; `DeviceLink.Adds`: what they add to the stack's list;
* `Course`: the completions that wait for their handlers, the link, and the state that the handlers
  act on;
* `Course.Step`: what one completion can bring about: nobody waits for it, or the transfer ends, or
  it is armed again, or its resubmission is refused and its handler is told so;
* `DeviceLink.run_events`: a pass settles transfers of the stack and steps through their
  completions; `DeviceLink.events_induction`: so it keeps what these keep.
-/
import LogicCapture.Proofs.Session.Exchange
import LogicCapture.Proofs.Session.Settling
import LogicCapture.Usb.DeviceLink
import LogicCapture.Usb.HostStack.Script
import Mathlib.Data.List.Induction
import Mathlib.Data.List.Perm.Basic
import Mathlib.Logic.Relation

namespace LogicCapture

variable {κ ω H σ : Type}

namespace HostStack

/-- The transfers that the stack owns, as they were submitted. -/
def carried (s : HostStack) : List Submission := s.inFlight.map (·.submission)

variable {s s' : HostStack} {code : Int}

/-! ### Calls on the stack -/

/-- Only a submission that succeeds makes the stack carry a transfer. -/
lemma submit_cases {t : Submission} (h : s.submit t = (code, s')) :
    s'.calls = s.calls ++ [.submit t code] ∧ s'.allocated = s.allocated ∧
      s'.carried = if code = 0 then s.carried ++ [t] else s.carried := by
  rw [submit] at h
  dsimp only at h
  split at h
  · rename_i hcode
    cases h
    exact ⟨rfl, rfl, (if_neg hcode).symm⟩
  · rename_i hcode
    have hzero := not_not.mp hcode
    split at h
    all_goals
      cases h
      refine ⟨rfl, rfl, ?_⟩
      rw [if_pos hzero]
      simp [carried, note]

/-- Marking a transfer leaves its submission as it was. -/
lemma carried_of_markCancelled {id : TransferId} {ts ts' : List InFlight}
    (h : markCancelled id ts = some ts') : ts'.map (·.submission) = ts.map (·.submission) := by
  induction ts generalizing ts' with
  | nil => cases h
  | cons t rest ih =>
      rw [markCancelled] at h
      split at h
      · cases h
        rfl
      · obtain ⟨rest', hrest, rfl⟩ := Option.map_eq_some_iff.mp h
        rw [List.map_cons, List.map_cons, ih hrest]

lemma cancel_cases {id : TransferId} (h : s.cancel id = (code, s')) :
    s'.calls = s.calls ++ [.cancel id code] ∧ s'.allocated = s.allocated ∧
      s'.carried = s.carried := by
  rw [cancel] at h
  dsimp only at h
  split at h
  · cases h
    exact ⟨rfl, rfl, rfl⟩
  · split at h
    · rename_i hmark
      cases h
      exact ⟨rfl, rfl, carried_of_markCancelled hmark⟩
    · cases h
      exact ⟨rfl, rfl, rfl⟩

/-- An allocation hands out the next number, or none. -/
lemma alloc_cases {result : Option TransferId} (h : s.alloc = (result, s')) :
    s'.calls = s.calls ++ [.alloc result] ∧ s'.carried = s.carried ∧
      ((result = none ∧ s'.allocated = s.allocated) ∨
        (result = some s.allocated ∧ s'.allocated = s.allocated + 1)) := by
  rw [alloc] at h
  dsimp only at h
  split at h
  · cases h
    exact ⟨rfl, rfl, Or.inl ⟨rfl, rfl⟩⟩
  · cases h
    exact ⟨rfl, rfl, Or.inr ⟨rfl, rfl⟩⟩

/-- Claiming an interface is noted, and changes nothing of the transfers. -/
lemma claim_cases {interface : UInt8} (h : s.claim interface = (code, s')) :
    s'.calls = s.calls ++ [.claim interface code] ∧ s'.allocated = s.allocated ∧
      s'.carried = s.carried := by
  cases h
  exact ⟨rfl, rfl, rfl⟩

/-- So is giving it back. -/
lemma release_cases {interface : UInt8} (h : s.release interface = (code, s')) :
    s'.calls = s.calls ++ [.release interface code] ∧ s'.allocated = s.allocated ∧
      s'.carried = s.carried := by
  cases h
  exact ⟨rfl, rfl, rfl⟩

/-- New script entries change nothing of the transfers. -/
lemma cue_cases (s : HostStack) (cue : Cue) : (s.cue cue).calls = s.calls ∧
    (s.cue cue).allocated = s.allocated ∧ (s.cue cue).carried = s.carried := by
  cases cue
  case codes queue codes => cases queue <;> exact ⟨rfl, rfl, rfl⟩
  all_goals exact ⟨rfl, rfl, rfl⟩

/-- A script adds nothing to what has happened. -/
lemma script_cases (script : List Cue) : (script.foldl cue {}).calls = [] ∧
    (script.foldl cue {}).allocated = 0 ∧ (script.foldl cue {}).carried = [] := by
  induction script using List.reverseRecOn with
  | nil => exact ⟨rfl, rfl, rfl⟩
  | append_singleton script last ih =>
      rw [List.foldl_concat]
      obtain ⟨hcalls, halloc, hcarried⟩ := cue_cases (script.foldl cue {}) last
      exact ⟨hcalls.trans ih.1, halloc.trans ih.2.1, hcarried.trans ih.2.2⟩

/-! ### Settling -/

/-- A completion belongs to the transfer that it settles. -/
lemma id_of_settle {t : InFlight} {replies replies' : List Reply} {ended : Settled}
    (h : settle t replies = (some ended, replies')) : ended.id = t.submission.id := by
  rw [settle] at h
  split at h
  · cases h
    rfl
  · split at h
    all_goals
      obtain ⟨reply, -, rfl⟩ := Option.map_eq_some_iff.mp (Prod.mk.inj h).1
      rfl

/-- The transfers in flight settle in turn by the replies. -/
lemma settling_of_settleAll {ts staying : List InFlight} {replies replies' : List Reply}
    {settled : List Settled} (h : settleAll ts replies = (settled, staying, replies')) :
    Settling settle ts replies settled staying replies' := by
  have hall : Settling settle ts replies _ _ _ := Settling.of_recursion settleAll (fun _ => rfl)
    (fun rest hsettle => by rw [settleAll, hsettle])
    (fun rest hsettle => by rw [settleAll, hsettle])
    ts replies
  rwa [h] at hall

/-- **Settling by replies** divides the transfers into those that complete and those that stay. -/
lemma settleAll_perm {ts staying : List InFlight} {replies replies' : List Reply}
    {settled : List Settled} (h : settleAll ts replies = (settled, staying, replies')) :
    (settled.map (·.id) ++ staying.map (·.submission.id)).Perm (ts.map (·.submission.id)) ∧
      staying.Sublist ts :=
  ⟨(settling_of_settleAll h).perm id_of_settle, (settling_of_settleAll h).sublist⟩

/-- **Settling by arrivals** divides them as well, in whatever order they come. -/
lemma settleArrivals_perm {arrivals : List Arrival} {ts staying : List InFlight}
    {settled : List Settled} (h : settleArrivals arrivals ts = (settled, staying)) :
    (settled.map (·.id) ++ staying.map (·.submission.id)).Perm (ts.map (·.submission.id)) ∧
      staying.Sublist ts := by
  induction arrivals generalizing ts settled staying with
  | nil =>
      cases h
      exact ⟨.refl _, .refl _⟩
  | cons arrival rest ih =>
      rw [settleArrivals] at h
      split at h
      · exact ih h
      · rename_i t hplace
        rcases hr : settleArrivals rest (ts.eraseIdx arrival.place) with ⟨settled₁, staying₁⟩
        rw [hr] at h
        cases h
        obtain ⟨hperm, hsub⟩ := ih hr
        obtain ⟨hlt, hget⟩ := List.getElem?_eq_some_iff.mp hplace
        have hsplit : (t :: ts.eraseIdx arrival.place).Perm ts := 
          hget ▸ List.getElem_cons_eraseIdx_perm hlt
        refine ⟨?_, hsub.trans (List.eraseIdx_sublist _ _)⟩
        have hids := hsplit.map fun t => t.submission.id
        rw [List.map_cons, List.cons_append]
        exact (hperm.cons _).trans hids

lemma settleNext_perm {staying : List InFlight} {replies : List Reply} {settled : List Settled}
    (h : s.settleNext = (settled, staying, replies)) :
    (settled.map (·.id) ++ staying.map (·.submission.id)).Perm
        (s.inFlight.map (·.submission.id)) ∧ staying.Sublist s.inFlight := by
  rw [settleNext] at h
  cases harrivals : s.arrivals with
  | nil =>
      rw [harrivals] at h
      exact settleAll_perm h
  | cons arrivals rest =>
      rw [harrivals] at h
      dsimp only at h
      rcases hset : settleArrivals arrivals s.inFlight with ⟨settled₁, staying₁⟩
      rw [hset] at h
      cases h
      exact settleArrivals_perm hset

/-- **An event pass** settles transfers that the stack carries, and carries the others on. -/
theorem poll_cases {ms : Nat} {settled : List Settled} (h : s.poll ms = (code, settled, s')) :
    s'.calls = s.calls ++ [.events ms code] ∧ s'.allocated = s.allocated ∧
      (settled.map (·.id) ++ s'.carried.map (·.id)).Perm (s.carried.map (·.id)) ∧
      s'.carried.Sublist s.carried := by
  have hids (ts : List InFlight) : (ts.map (·.submission)).map (·.id) =
    ts.map (·.submission.id) := List.map_map
  rw [poll] at h
  dsimp only at h
  split at h
  · cases h
    exact ⟨rfl, rfl, .refl _, .refl _⟩
  · rcases hset : ({ s with eventCodes := s.eventCodes.tail } : HostStack).settleNext with
      ⟨settled₁, staying, replies⟩
    rw [hset] at h
    cases h
    obtain ⟨hperm, hsub⟩ := settleNext_perm hset
    refine ⟨rfl, rfl, ?_, hsub.map _⟩
    rw [carried, carried, hids, hids]
    exact hperm

end HostStack

namespace DeviceLink

/-! ### Notes on the device -/

@[simp] lemma stack_noteError (l : DeviceLink H) (error : UsbError) :
    (l.noteError error).stack = l.stack := by
  rw [noteError]
  split <;> rfl

@[simp] lemma owned_noteError (l : DeviceLink H) (error : UsbError) :
    (l.noteError error).owned = l.owned := by
  rw [noteError]
  split <;> rfl

@[simp] lemma attached_noteError (l : DeviceLink H) (error : UsbError) :
    (l.noteError error).attached = (l.attached && error ≠ .noDevice) := by
  rw [noteError]
  split <;> simp [*]

@[simp] lemma stack_noteStatus (l : DeviceLink H) (status : TransferStatus) :
    (l.noteStatus status).stack = l.stack := by
  rw [noteStatus]
  split <;> rfl

@[simp] lemma owned_noteStatus (l : DeviceLink H) (status : TransferStatus) :
    (l.noteStatus status).owned = l.owned := by
  rw [noteStatus]
  split <;> rfl

@[simp] lemma attached_noteStatus (l : DeviceLink H) (status : TransferStatus) :
    (l.noteStatus status).attached = (l.attached && status ≠ .noDevice) := by
  rw [noteStatus]
  split <;> simp [*]

lemma owns_iff {l : DeviceLink H} {id : TransferId} :
    l.owns id = true ↔ id ∈ l.owned.map (·.submission.id) := by
  simp [owns]

lemma owns_eq_false_iff {l : DeviceLink H} {id : TransferId} :
    l.owns id = false ↔ id ∉ l.owned.map (·.submission.id) := by
  rw [← owns_iff, Bool.not_eq_true]

/-! ### Calls on the link -/

variable {l l' : DeviceLink H}

/-- An allocation is the stack's business. -/
lemma alloc_cases {result : Except UsbError TransferId} (h : l.alloc = (result, l')) :
    ∃ answer stack, l.stack.alloc = (answer, stack) ∧ l' = { l with stack } ∧
      ((answer = none ∧ result = .error .noMemory) ∨ ∃ id, answer = some id ∧ result = .ok id) := by
  rw [alloc] at h
  split at h
  all_goals
    rename_i halloc
    cases h
  · exact ⟨_, _, halloc, rfl, Or.inr ⟨_, rfl, rfl⟩⟩
  · exact ⟨_, _, halloc, rfl, Or.inl ⟨rfl, rfl⟩⟩

/-- A transfer that is handed out is the next one. -/
lemma alloc_ok {id : TransferId} (h : l.alloc = (.ok id, l')) :
    id = l.stack.allocated ∧ ∃ stack, l' = { l with stack } ∧
      stack.calls = l.stack.calls ++ [.alloc (some id)] ∧ stack.carried = l.stack.carried ∧
      stack.allocated = l.stack.allocated + 1 := by
  obtain ⟨answer, stack, halloc, rfl, ⟨-, hno⟩ | ⟨id', rfl, hid⟩⟩ := alloc_cases h
  · cases hno
  · cases hid
    obtain ⟨hcalls, hcarried, ⟨hno, -⟩ | ⟨hid, hnext⟩⟩ := HostStack.alloc_cases halloc
    · cases hno
    · exact ⟨Option.some.inj hid, stack, rfl, hcalls, hcarried, hnext⟩

/-- An allocation that fails leaves a note. -/
lemma alloc_error {error : UsbError} (h : l.alloc = (.error error, l')) :
    ∃ stack, l' = { l with stack } ∧ stack.calls = l.stack.calls ++ [.alloc none] ∧
      stack.carried = l.stack.carried ∧ stack.allocated = l.stack.allocated := by
  obtain ⟨answer, stack, halloc, rfl, ⟨rfl, -⟩ | ⟨id', rfl, hno⟩⟩ := alloc_cases h
  · obtain ⟨hcalls, hcarried, ⟨-, hnext⟩ | ⟨hno, -⟩⟩ := HostStack.alloc_cases halloc
    · exact ⟨stack, rfl, hcalls, hcarried, hnext⟩
    · cases hno
  · cases hno

/-- **A submission** is refused by the link, or it goes to the stack; the link keeps the handler
unless the stack answers with an error. -/
theorem submit_cases {id : TransferId} {request : TransferRequest} {handler : H}
    {result : Except UsbError Unit} (h : l.submit id request handler = (result, l')) :
    ((∃ error, result = .error error) ∧ l' = l) ∨
      ∃ code stack, l.owns id = false ∧ l.stack.submit (submission id request) = (code, stack) ∧
        ((code < 0 ∧ result = .error (.ofCode code) ∧
            l' = { l with stack }.noteError (.ofCode code)) ∨
          (0 ≤ code ∧ result = .ok () ∧
            l' = { l with stack, owned := l.owned ++ [⟨submission id request, handler⟩] })) := by
  rw [submit] at h
  split at h
  · cases h
    exact Or.inl ⟨⟨_, rfl⟩, rfl⟩
  · rename_i howns
    split at h
    · cases h
      exact Or.inl ⟨⟨_, rfl⟩, rfl⟩
    · dsimp only at h
      rcases hsubmit : l.stack.submit (submission id request) with ⟨code, stack⟩
      rw [hsubmit] at h
      dsimp only at h
      refine Or.inr ⟨code, stack, by simpa using howns, rfl, ?_⟩
      split at h
      · rename_i hcode
        cases h
        exact Or.inl ⟨hcode, rfl, rfl⟩
      · rename_i hcode
        cases h
        exact Or.inr ⟨Int.not_lt.mp hcode, rfl, rfl⟩

/-- **A cancellation** only goes to the stack for a transfer that the stack may own. -/
theorem cancel_cases {id : TransferId} {result : Except UsbError Unit}
    (h : l.cancel id = (result, l')) : l' = l ∨
      ∃ code stack, l.owns id = true ∧ l.stack.cancel id = (code, stack) ∧
        l' = { l with stack } := by
  rw [cancel] at h
  split at h
  · cases h
    exact Or.inl rfl
  · rename_i howns
    rcases hcancel : l.stack.cancel id with ⟨code, stack⟩
    rw [hcancel] at h
    cases h
    exact Or.inr ⟨code, stack, by simpa using howns, rfl, rfl⟩

/-- Giving a transfer back frees it, unless the stack may own it. -/
lemma free_cases (l : DeviceLink H) (id : TransferId) : (l.owns id = true ∧ l.free id = l) ∨
    (l.owns id = false ∧ l.free id = { l with stack := l.stack.free id }) := by
  cases howns : l.owns id with
  | true => exact Or.inl ⟨rfl, by rw [free, if_pos howns]⟩
  | false => exact Or.inr ⟨rfl, by rw [free, if_neg (by simp [howns])]⟩

/-- A claim is noted by the stack, and its failure may show that the device is gone. -/
lemma claim_cases (l : DeviceLink H) (interface : UInt8) :
    ∃ code stack, l.stack.claim interface = (code, stack) ∧
      (l.claim interface).2.stack = stack ∧ (l.claim interface).2.owned = l.owned ∧
      (l.claim interface).2.attached =
        (l.attached && (code = 0 || UsbError.ofStackCode code ≠ .noDevice)) := by
  rcases hclaim : l.stack.claim interface with ⟨code, stack⟩
  refine ⟨code, stack, rfl, ?_⟩
  rw [claim, hclaim]
  dsimp only
  split
  · rename_i hcode
    simp [hcode]
  · rename_i hcode
    simp [not_not.mp hcode]

/-- Giving an interface back is noted by the stack alone. -/
lemma release_cases (l : DeviceLink H) (interface : UInt8) :
    ∃ code stack, l.stack.release interface = (code, stack) ∧
      (l.release interface).2.stack = stack ∧ (l.release interface).2.owned = l.owned ∧
      (l.release interface).2.attached = l.attached := by
  rcases hrelease : l.stack.release interface with ⟨code, stack⟩
  refine ⟨code, stack, rfl, ?_⟩
  rw [release, hrelease]
  dsimp only
  split <;> exact ⟨rfl, rfl, rfl⟩

/-- Giving a transfer back takes nothing out of the link. -/
lemma owned_free (l : DeviceLink H) (id : TransferId) : (l.free id).owned = l.owned := by
  obtain ⟨-, hfree⟩ | ⟨-, hfree⟩ := l.free_cases id <;> rw [hfree]

/-- Nor does a cancellation. -/
lemma owned_cancel (l : DeviceLink H) (id : TransferId) : (l.cancel id).2.owned = l.owned := by
  rcases hcancel : l.cancel id with ⟨result, l'⟩
  obtain rfl | ⟨code, stack, -, -, rfl⟩ := cancel_cases hcancel <;> rfl

/-- A submission that is refused puts nothing into it. -/
lemma owned_of_refused {l l' : DeviceLink H} {id : TransferId} {request : TransferRequest}
    {handler : H} {error : UsbError} (h : l.submit id request handler = (.error error, l')) :
    l'.owned = l.owned := by
  obtain ⟨-, rfl⟩ | ⟨code, stack, -, -, ⟨-, -, rfl⟩ | ⟨-, hno, -⟩⟩ := submit_cases h
  · rfl
  · exact owned_noteError _ _
  · cases hno

/-- At most one call has been added to the list, one of this kind. -/
def Adds (kind : HostStack.Call → Prop) (l l' : DeviceLink H) : Prop :=
  l'.stack.calls = l.stack.calls ∨ ∃ call, kind call ∧ l'.stack.calls = l.stack.calls ++ [call]

lemma adds_alloc (l : DeviceLink H) : l.Adds (fun call => ∃ id, call = .alloc id) l.alloc.2 := by
  rcases halloc : l.alloc with ⟨result, l'⟩
  obtain ⟨answer, stack, hstack, rfl, -⟩ := alloc_cases halloc
  exact Or.inr ⟨_, ⟨answer, rfl⟩, (HostStack.alloc_cases hstack).1⟩

lemma adds_submit (l : DeviceLink H) (id : TransferId) (request : TransferRequest) (handler : H) :
    l.Adds (fun call => ∃ code, call = .submit (submission id request) code)
      (l.submit id request handler).2 := by
  rcases hsubmit : l.submit id request handler with ⟨result, l'⟩
  obtain ⟨-, rfl⟩ | ⟨code, stack, -, hstack, ⟨-, -, rfl⟩ | ⟨-, -, rfl⟩⟩ := submit_cases hsubmit
  · exact Or.inl rfl
  · refine Or.inr ⟨_, ⟨code, rfl⟩, ?_⟩
    rw [stack_noteError]
    exact (HostStack.submit_cases hstack).1
  · exact Or.inr ⟨_, ⟨code, rfl⟩, (HostStack.submit_cases hstack).1⟩

lemma adds_cancel (l : DeviceLink H) (id : TransferId) :
    l.Adds (fun call => ∃ code, call = .cancel id code) (l.cancel id).2 := by
  rcases hcancel : l.cancel id with ⟨result, l'⟩
  obtain rfl | ⟨code, stack, -, hstack, rfl⟩ := cancel_cases hcancel
  · exact Or.inl rfl
  · exact Or.inr ⟨_, ⟨code, rfl⟩, (HostStack.cancel_cases hstack).1⟩

lemma adds_free (l : DeviceLink H) (id : TransferId) : l.Adds (· = .free id) (l.free id) := by
  obtain ⟨-, hfree⟩ | ⟨-, hfree⟩ := l.free_cases id
  · exact Or.inl (by rw [hfree])
  · exact Or.inr ⟨_, rfl, by rw [hfree]; rfl⟩

lemma adds_claim (l : DeviceLink H) (interface : UInt8) :
    l.Adds (fun call => ∃ code, call = .claim interface code) (l.claim interface).2 := by
  obtain ⟨code, stack, hclaim, hstack, -⟩ := claim_cases l interface
  exact Or.inr ⟨_, ⟨code, rfl⟩, hstack ▸ (HostStack.claim_cases hclaim).1⟩

lemma adds_release (l : DeviceLink H) (interface : UInt8) :
    l.Adds (fun call => ∃ code, call = .release interface code) (l.release interface).2 := by
  obtain ⟨code, stack, hrelease, hstack, -⟩ := release_cases l interface
  exact Or.inr ⟨_, ⟨code, rfl⟩, hstack ▸ (HostStack.release_cases hrelease).1⟩

/-! ### Completions, one at a time -/

/-- The link once a completion has reached it. -/
def heard (l : DeviceLink H) (settled : HostStack.Settled) : DeviceLink H :=
  { l with stack := l.stack.note (.complete settled.id settled.status) }

/-- The link once it has found out whose completion it is. -/
def told (l : DeviceLink H) (settled : HostStack.Settled) : DeviceLink H :=
  (l.heard settled).noteStatus (.ofCode settled.status)

@[simp] lemma stack_told (l : DeviceLink H) (settled : HostStack.Settled) :
    (l.told settled).stack = l.stack.note (.complete settled.id settled.status) :=
  stack_noteStatus _ _

@[simp] lemma owned_told (l : DeviceLink H) (settled : HostStack.Settled) :
    (l.told settled).owned = l.owned :=
  owned_noteStatus _ _

/-- A link that is told of a completion has it in the stack's list. -/
lemma calls_told (l : DeviceLink H) (settled : HostStack.Settled) :
    (l.told settled).stack.calls = l.stack.calls ++ [.complete settled.id settled.status] := by
  rw [stack_told, HostStack.note]

/-- The transfer that has completed is taken out of the link. -/
lemma owned_forget_told (l : DeviceLink H) (settled : HostStack.Settled) :
    ((l.told settled).forget settled.id).owned =
      l.owned.filter fun t => t.submission.id ≠ settled.id := by
  rw [forget, owned_told]

/-- The transfer with what has been written into its buffer. -/
def Owned.filled (t : Owned H) (settled : HostStack.Settled) : HostStack.Submission :=
  { t.submission with
    buffer := overwrite t.submission.buffer t.submission.offset settled.written }

/-- What the handler of the transfer is told. -/
def Owned.completion (t : Owned H) (settled : HostStack.Settled) : Completion :=
  ⟨.ofCode settled.status, received (t.filled settled) settled.actual⟩

/-- The transfer for which a completion comes. -/
def awaiting (l : DeviceLink H) (id : TransferId) : Option (Owned H) :=
  l.owned.find? fun t => t.submission.id = id

lemma awaiting_eq_none {id : TransferId} : l.awaiting id = none ↔ l.owns id = false := by
  simp [awaiting, owns]

lemma mem_of_awaiting {id : TransferId} {t : Owned H} (h : l.awaiting id = some t) :
    t ∈ l.owned ∧ t.submission.id = id :=
  ⟨List.mem_of_find?_eq_some h, by simpa using List.find?_some h⟩

end DeviceLink

/-- The work of an event pass: completions that wait for their handlers, the link, and the state
that the handlers act on. -/
structure Course (H σ : Type) where
  queue : List HostStack.Settled
  link : DeviceLink H
  state : σ

namespace Course

/-- **What one completion can bring about.** -/
inductive Step (react : Reaction H σ) : Course H σ → Course H σ → Prop where
  /-- Nobody waits for it. -/
  | strayed {settled rest l s} :
      l.awaiting settled.id = none →
      Step react ⟨settled :: rest, l, s⟩ ⟨rest, l.heard settled, s⟩
  /-- The transfer is left idle. -/
  | ended {settled rest l s t rearm handler s'} :
      l.awaiting settled.id = some t →
      react t.handler (t.completion settled) s = (rearm, handler, s') →
      rearm.honoured (.ofCode settled.status) = false →
      Step react ⟨settled :: rest, l, s⟩ ⟨rest, (l.told settled).forget settled.id, s'⟩
  /-- The transfer is armed again. -/
  | rearmed {settled rest l s t rearm handler s' stack} :
      l.awaiting settled.id = some t →
      react t.handler (t.completion settled) s = (rearm, handler, s') →
      rearm.honoured (.ofCode settled.status) = true →
      (l.told settled).stack.submit (t.filled settled) = (0, stack) →
      Step react ⟨settled :: rest, l, s⟩ ⟨rest, { (l.told settled).forget settled.id with
        stack
        owned := ((l.told settled).forget settled.id).owned ++ [⟨t.filled settled, handler⟩] }, s'⟩
  /-- The transfer should be armed again, but its resubmission is refused. -/
  | refused {settled rest l s t rearm handler s' code stack rearm' handler' s''} :
      l.awaiting settled.id = some t →
      react t.handler (t.completion settled) s = (rearm, handler, s') →
      rearm.honoured (.ofCode settled.status) = true →
      (l.told settled).stack.submit (t.filled settled) = (code, stack) → code ≠ 0 →
      react handler .refused s' = (rearm', handler', s'') →
      Step react ⟨settled :: rest, l, s⟩
        ⟨rest, { (l.told settled).forget settled.id with stack }.noteError (.ofCode code), s''⟩

/-- **The stack sees** of a completion itself, and at most a resubmission of its transfer. -/
lemma Step.calls_eq {react : Reaction H σ} {c c' : Course H σ} (h : Step react c c') :
    c'.link.stack.allocated = c.link.stack.allocated ∧
      ∃ settled, c.queue = settled :: c'.queue ∧
        (c'.link.stack.calls = c.link.stack.calls ++ [.complete settled.id settled.status] ∨
          ∃ t code, c.link.awaiting settled.id = some t ∧
            c'.link.stack.calls = c.link.stack.calls ++
              [.complete settled.id settled.status, .submit (t.filled settled) code]) := by
  cases h with
  | @strayed settled => exact ⟨rfl, settled, rfl, Or.inl rfl⟩
  | @ended settled rest l =>
      have hafter : ((l.told settled).forget settled.id).stack = _ :=
        DeviceLink.stack_told l settled
      rw [hafter]
      exact ⟨rfl, settled, rfl, Or.inl rfl⟩
  | @rearmed settled rest l s t rearm handler s' stack hfind _ _ hsubmit =>
      obtain ⟨hcalls, halloc, -⟩ := HostStack.submit_cases hsubmit
      rw [DeviceLink.stack_told] at hcalls halloc
      refine ⟨halloc, settled, rfl, Or.inr ⟨t, 0, hfind, ?_⟩⟩
      rw [hcalls]
      simp [HostStack.note]
  | @refused settled rest l s t rearm handler s' code stack _ _ _ hfind _ _ hsubmit =>
      obtain ⟨hcalls, halloc, -⟩ := HostStack.submit_cases hsubmit
      rw [DeviceLink.stack_told] at hcalls halloc
      rw [DeviceLink.stack_noteError]
      refine ⟨halloc, settled, rfl, Or.inr ⟨t, code, hfind, ?_⟩⟩
      rw [hcalls]
      simp [HostStack.note]

/-- Several completions, one after the other. -/
abbrev Steps (react : Reaction H σ) : Course H σ → Course H σ → Prop :=
  Relation.ReflTransGen (Step react)

/-- What every step keeps, several keep. -/
lemma Steps.induction {react : Reaction H σ} {R : Course H σ → Prop}
    (hstep : ∀ {c c'}, Step react c c' → R c → R c') {c c' : Course H σ} (h : Steps react c c')
    (hc : R c) : R c' := by
  induction h with
  | refl => exact hc
  | tail _ hlast ih => exact hstep hlast ih

end Course

namespace DeviceLink

/-- A pass that has asked the stack what has completed. -/
def polled (l : DeviceLink H) (ms : Nat) (s : σ) : Course H σ :=
  ⟨(l.stack.poll ms).2.1, { l with stack := (l.stack.poll ms).2.2 }, s⟩

/-- What the code of a pass comes to. -/
def verdict (code : Int) : Except UsbError Unit :=
  if code < 0 then .error (.ofStackCode code) else .ok ()

/-- The link at the end of a pass with this code. -/
def closed (l : DeviceLink H) (code : Int) : DeviceLink H :=
  if code < 0 then l.noteError (.ofStackCode code) else l

@[simp] lemma stack_closed (l : DeviceLink H) (code : Int) : (l.closed code).stack = l.stack := by
  rw [closed]
  split
  · exact stack_noteError _ _
  · rfl

@[simp] lemma owned_closed (l : DeviceLink H) (code : Int) : (l.closed code).owned = l.owned := by
  rw [closed]
  split
  · exact owned_noteError _ _
  · rfl

/-- The handler calls of a pass are steps of its course. -/
lemma run_deliver (react : Reaction H σ) (code : Int) (queue : List HostStack.Settled)
    (l : DeviceLink H) (s : σ) : ∃ l' s', Course.Steps react ⟨queue, l, s⟩ ⟨[], l', s'⟩ ∧
      (deliver code queue l).run react s = (verdict code, l'.closed code, s') := by
  induction queue generalizing l s with
  | nil =>
      refine ⟨l, s, .refl, ?_⟩
      rw [deliver, verdict, closed]
      split <;> rfl
  | cons settled rest ih =>
      rw [deliver]
      dsimp only
      rcases hfind : l.awaiting settled.id with - | t
      · obtain ⟨l', s', hsteps, hrun⟩ := ih (l.heard settled) s
        have hnone : (l.owned.find? fun t => t.submission.id = settled.id) = none := hfind
        rw [hnone]
        exact ⟨l', s', .head (.strayed hfind) hsteps, hrun⟩
      · have hsome : (l.owned.find? fun t => t.submission.id = settled.id) = some t := hfind
        rw [hsome]
        dsimp only
        rw [Pass.run]
        rcases hcall : react t.handler (t.completion settled) s with ⟨rearm, handler, s₁⟩
        have hcall' : react t.handler ⟨.ofCode settled.status, received { t.submission with
          buffer := overwrite t.submission.buffer t.submission.offset settled.written }
            settled.actual⟩ s = (rearm, handler, s₁) := hcall
        rw [hcall']
        dsimp only
        by_cases hhon : rearm.honoured (.ofCode settled.status) = true
        · rw [if_pos hhon]
          rcases hsubmit : (l.told settled).stack.submit (t.filled settled) with ⟨code', stack⟩
          have hsubmit' : ((({ l with
                stack := l.stack.note (.complete settled.id settled.status) } :
              DeviceLink H).noteStatus (.ofCode settled.status)).forget settled.id).stack.submit
                { t.submission with
                  buffer := overwrite t.submission.buffer t.submission.offset settled.written } =
              (code', stack) := hsubmit
          rw [hsubmit']
          dsimp only
          by_cases hcode : code' = 0
          · subst hcode
            rw [if_pos rfl]
            obtain ⟨l', s', hsteps, hrun⟩ := ih _ s₁
            exact ⟨l', s', .head (.rearmed hfind hcall hhon hsubmit) hsteps, hrun⟩
          · rw [if_neg hcode, Pass.run]
            rcases hagain : react handler .refused s₁ with ⟨rearm', handler', s₂⟩
            dsimp only
            obtain ⟨l', s', hsteps, hrun⟩ := ih _ s₂
            exact ⟨l', s', .head (.refused hfind hcall hhon hsubmit hcode hagain) hsteps, hrun⟩
        · rw [if_neg hhon]
          obtain ⟨l', s', hsteps, hrun⟩ := ih _ s₁
          exact ⟨l', s', .head (.ended hfind hcall (by simpa using hhon)) hsteps, hrun⟩

/-- **An event pass** settles transfers and steps through their completions; at its end the code
of the stack may show that the device is gone. -/
theorem run_events (react : Reaction H σ) (l : DeviceLink H) (ms : Nat) (s : σ) :
    ∃ l' s', Course.Steps react (l.polled ms s) ⟨[], l', s'⟩ ∧
      (l.events ms).run react s =
        (verdict (l.stack.poll ms).1, l'.closed (l.stack.poll ms).1, s') :=
  run_deliver react _ _ _ _

/-- **What the completions of a pass keep of the link**, and its end, the pass keeps. -/
lemma events_induction [Consumer κ ω] {R : DeviceLink (Handler κ) → Prop}
    {s : Session (DeviceLink (Handler κ)) ω} (ms : Nat)
    (hpolled : R (s.transport.polled ms s.host).link)
    (hstep : ∀ {c c' : Course (Handler κ) (Host ω)}, Course.Step Handler.react c c' →
      R c.link → R c'.link)
    (hclosed : ∀ {l : DeviceLink (Handler κ)} (code : Int), R l → R (l.closed code)) :
    R (s.events ms).2.transport := by
  obtain ⟨l', host', hsteps, hrun⟩ := run_events Handler.react s.transport ms s.host
  have hend : R l' := hsteps.induction (R := fun c => R c.link) hstep hpolled
  have hpass : (s.events ms).2.transport = l'.closed (s.transport.stack.poll ms).1 :=
    congrArg (fun run => run.2.1) hrun
  rw [hpass]
  exact hclosed _ hend

end DeviceLink

end LogicCapture
