/-
Who holds the transfers of a pool on a link to a USB stack.

* `Handler.key`: the slot that a handler is for; completions do not change it (`Handler.key_react`);
* `Pool.Tied`: handlers of slots and transfers of slots belong together, and a slot is armed exactly
  if the link keeps the state of its transfer;
* `Course.tied_step`: every completion leaves it so, whatever the consumer makes of it;
* `Pool.upheld_linked`: so does every call;
* `Client.contract_of_run`: the contract of completion handlers, for clients of a link and for the
  pools that rely on it.
-/
import LogicCapture.Proofs.Link.Contract
import LogicCapture.Proofs.Pool.Upheld

namespace LogicCapture

variable {κ ω : Type}

namespace Handler

/-- The slot that a handler is for; control transfers have none. -/
def key : Handler κ → Option Nat
  | control _ => none
  | slot key _ => some key

variable [Consumer κ ω]

/-- A handler stays with its slot. -/
lemma key_react (handler : Handler κ) (c : Completion) (host : Host ω) :
    (handler.react c host).2.1.key = handler.key := by
  cases handler <;> rfl

/-- A handler call leaves its slot idle unless its transfer is to be armed again. -/
lemma armed_react (handler : Handler κ) (c : Completion) (host : Host ω) :
    (handler.react c host).2.2.armed =
      if (handler.react c host).1.honoured c.status then host.armed
      else host.armed.filter fun key => handler.key ≠ some key := by
  cases handler with
  | control ticket =>
      have hidle :
          ((Handler.control ticket : Handler κ).react c host).1.honoured c.status = false :=
        rfl
      rw [armed_react_control, if_neg (by simp [hidle])]
      exact (List.filter_eq_self.mpr fun _ _ => rfl).symm
  | slot key consumer =>
      obtain ⟨rearm, consumer', shared, -, hreact⟩ := react_slot key consumer c host
      have hother : (host.armed.filter fun k => (Handler.slot key consumer).key ≠ some k) =
          host.armed.filter (· ≠ key) :=
        List.filter_congr fun k _ => by simp [Handler.key, eq_comm]
      rw [hreact, hother]

/-- Only handlers of slots have their transfers armed again. -/
lemma key_of_honoured {handler : Handler κ} {c : Completion} {host : Host ω}
    (h : (handler.react c host).1.honoured c.status = true) : ∃ key, handler.key = some key := by
  cases handler with
  | control ticket => simp [react, Rearm.honoured] at h
  | slot key consumer => exact ⟨key, rfl⟩

end Handler

namespace Pool

/-- **The pool and the link agree**: the handlers of a slot are those of its transfer, and it is
armed exactly if the link keeps the state of that transfer. -/
structure Tied (p : Pool) (l : DeviceLink (Handler κ)) (armed : List Nat) : Prop where
  keys : (p.slots.map (·.key)).Nodup
  transfers : (p.slots.map (·.transfer)).Nodup
  keys_lt : ∀ slot ∈ p.slots, slot.key < p.nextKey
  transfers_lt : ∀ slot ∈ p.slots, slot.transfer < l.stack.allocated
  armed_lt : ∀ key ∈ armed, key < p.nextKey
  known : ∀ o ∈ l.owned, ∀ key ∈ o.handler.key, key < p.nextKey
  matched : ∀ o ∈ l.owned, ∀ slot ∈ p.slots,
    o.submission.id = slot.transfer ↔ o.handler.key = some slot.key
  armed_iff : ∀ slot ∈ p.slots, slot.key ∈ armed ↔ l.owns slot.transfer = true

namespace Tied

variable {p : Pool} {l l' : DeviceLink (Handler κ)} {armed : List Nat}
  {o o' : DeviceLink.Owned (Handler κ)}

/-- It does not depend on what happens elsewhere in the link and its stack. -/
lemma congr (h : p.Tied l armed) (howned : l'.owned = l.owned)
    (halloc : l.stack.allocated ≤ l'.stack.allocated) : p.Tied l' armed where
  keys := h.keys
  transfers := h.transfers
  keys_lt := h.keys_lt
  transfers_lt slot hslot := Nat.lt_of_lt_of_le (h.transfers_lt slot hslot) halloc
  armed_lt := h.armed_lt
  known := howned ▸ h.known
  matched := howned ▸ h.matched
  armed_iff slot hslot := by
    rw [DeviceLink.owns, howned]
    exact h.armed_iff slot hslot

/-- The transfer of a handler ends, and its slot, if it has one, is marked idle. -/
lemma drop (h : p.Tied l armed) (ho : o ∈ l.owned)
    (howned : l'.owned = l.owned.filter fun t => t.submission.id ≠ o.submission.id)
    (halloc : l'.stack.allocated = l.stack.allocated) :
    p.Tied l' (armed.filter fun key => o.handler.key ≠ some key) where
  keys := h.keys
  transfers := h.transfers
  keys_lt := h.keys_lt
  transfers_lt := halloc ▸ h.transfers_lt
  armed_lt key hkey := h.armed_lt key (List.mem_filter.mp hkey).1
  known t ht := by
    rw [howned] at ht
    exact h.known t (List.mem_filter.mp ht).1
  matched t ht := by
    rw [howned] at ht
    exact h.matched t (List.mem_filter.mp ht).1
  armed_iff slot hslot := by
    have hmatched := h.matched o ho slot hslot
    have hiff := h.armed_iff slot hslot
    rw [DeviceLink.owns_iff] at hiff ⊢
    simp only [List.mem_filter, decide_eq_true_eq, hiff, howned, List.mem_map, ne_eq, ← hmatched]
    constructor
    · rintro ⟨⟨t, ht, hid⟩, hne⟩
      exact ⟨t, ⟨ht, fun heq => hne (heq.symm.trans hid)⟩, hid⟩
    · rintro ⟨t, ⟨ht, hne⟩, hid⟩
      exact ⟨⟨t, ht, hid⟩, fun heq => hne (hid.trans heq.symm)⟩

/-- The link keeps another transfer for the handler's slot. -/
lemma replace (h : p.Tied l armed) (ho : o ∈ l.owned) (hid : o'.submission.id = o.submission.id)
    (hkey : o'.handler.key = o.handler.key)
    (howned : l'.owned = (l.owned.filter fun t => t.submission.id ≠ o.submission.id) ++ [o'])
    (halloc : l'.stack.allocated = l.stack.allocated) : p.Tied l' armed := by
  have hmem {t : DeviceLink.Owned (Handler κ)} (ht : t ∈ l'.owned) : t ∈ l.owned ∨ t = o' := by
    rw [howned] at ht
    rcases List.mem_append.mp ht with ht | ht
    · exact Or.inl (List.mem_filter.mp ht).1
    · exact Or.inr (List.mem_singleton.mp ht)
  refine ⟨h.keys, h.transfers, h.keys_lt, halloc ▸ h.transfers_lt, h.armed_lt, ?_, ?_, ?_⟩
  · intro t ht
    rcases hmem ht with ht | rfl
    · exact h.known t ht
    · rw [hkey]
      exact h.known o ho
  · intro t ht slot hslot
    rcases hmem ht with ht | rfl
    · exact h.matched t ht slot hslot
    · rw [hid, hkey]
      exact h.matched o ho slot hslot
  · intro slot hslot
    rw [h.armed_iff slot hslot, DeviceLink.owns_iff, DeviceLink.owns_iff, howned]
    by_cases hsame : slot.transfer = o.submission.id
    · simp only [List.map_append, List.map_singleton, List.mem_append, List.mem_singleton, hid,
        hsame, or_true, iff_true]
      exact List.mem_map_of_mem (f := fun t : DeviceLink.Owned (Handler κ) => t.submission.id) ho
    · simp only [List.map_append, List.map_singleton, List.mem_append, List.mem_singleton, hid,
        hsame, or_false, List.mem_map, List.mem_filter, decide_eq_true_eq, ne_eq]
      constructor
      · rintro ⟨t, ht, hid'⟩
        exact ⟨t, ⟨ht, fun heq => hsame (hid'.symm.trans heq)⟩, hid'⟩
      · rintro ⟨t, ⟨ht, -⟩, hid'⟩
        exact ⟨t, ht, hid'⟩

/-- The link keeps one more transfer, which is new and not for a slot. -/
lemma add_control (h : p.Tied l armed) (hkey : o.handler.key = none)
    (hnew : ∀ slot ∈ p.slots, slot.transfer ≠ o.submission.id) (howned : l'.owned = l.owned ++ [o])
    (halloc : l.stack.allocated ≤ l'.stack.allocated) : p.Tied l' armed where
  keys := h.keys
  transfers := h.transfers
  keys_lt := h.keys_lt
  transfers_lt slot hslot := Nat.lt_of_lt_of_le (h.transfers_lt slot hslot) halloc
  armed_lt := h.armed_lt
  known t ht := by
    rw [howned] at ht
    rcases List.mem_append.mp ht with ht | ht
    · exact h.known t ht
    · rw [List.mem_singleton.mp ht, hkey]
      simp
  matched t ht slot hslot := by
    rw [howned] at ht
    rcases List.mem_append.mp ht with ht | ht
    · exact h.matched t ht slot hslot
    · rw [List.mem_singleton.mp ht, hkey]
      simpa using (hnew slot hslot).symm
  armed_iff slot hslot := by
    rw [h.armed_iff slot hslot, DeviceLink.owns_iff, DeviceLink.owns_iff, howned]
    simp [hnew slot hslot]

/-- The link keeps the transfer of one more slot, and the slot is marked. -/
lemma add_slot {slot : Slot} (h : p.Tied l armed) (hslot : slot ∈ p.slots)
    (hid : o.submission.id = slot.transfer) (hkey : o.handler.key = some slot.key)
    (howned : l'.owned = l.owned ++ [o]) (halloc : l'.stack.allocated = l.stack.allocated) :
    p.Tied l' (armed.insert slot.key) := by
  have hsame {slot' : Slot} (hslot' : slot' ∈ p.slots) :
      slot.transfer = slot'.transfer ↔ slot.key = slot'.key :=
    ⟨fun heq => congrArg Slot.key (List.inj_on_of_nodup_map h.transfers hslot hslot' heq),
      fun heq => congrArg Slot.transfer (List.inj_on_of_nodup_map h.keys hslot hslot' heq)⟩
  refine ⟨h.keys, h.transfers, h.keys_lt, halloc ▸ h.transfers_lt, ?_, ?_, ?_, ?_⟩
  · intro key hmem
    rcases List.mem_insert_iff.mp hmem with rfl | hmem
    · exact h.keys_lt slot hslot
    · exact h.armed_lt key hmem
  · intro t ht
    rw [howned] at ht
    rcases List.mem_append.mp ht with ht | ht
    · exact h.known t ht
    · rw [List.mem_singleton.mp ht, hkey]
      rintro key ⟨⟩
      exact h.keys_lt slot hslot
  · intro t ht slot' hslot'
    rw [howned] at ht
    rcases List.mem_append.mp ht with ht | ht
    · exact h.matched t ht slot' hslot'
    · rw [List.mem_singleton.mp ht, hid, hkey, Option.some.injEq]
      exact hsame hslot'
  · intro slot' hslot'
    rw [List.mem_insert_iff, h.armed_iff slot' hslot', DeviceLink.owns_iff, DeviceLink.owns_iff,
      howned, List.map_append, List.mem_append, List.map_singleton, List.mem_singleton, hid,
      eq_comm (a := slot'.transfer), hsame hslot', eq_comm (a := slot.key), or_comm]

end Tied

end Pool

namespace Course

variable [Consumer κ ω] {c c' : Course (Handler κ) (Host ω)} {p : Pool}

/-- **Pool and link agree after every completion**: transfers that end leave their slots idle, those
armed again leave them armed, and a refused resubmission leaves its slot idle too. -/
theorem tied_step (hstep : Step Handler.react c c') (h : p.Tied c.link c.state.armed) :
    p.Tied c'.link c'.state.armed := by
  have htold (l : DeviceLink (Handler κ)) (settled : HostStack.Settled) :
      (l.told settled).stack.allocated = l.stack.allocated := by
    rw [DeviceLink.stack_told, HostStack.note]
  cases hstep with
  | strayed _ => exact h.congr rfl (Nat.le_refl _)
  | @ended settled rest l s t rearm handler s' hfind hreact hhon =>
      obtain ⟨ht, hid⟩ := DeviceLink.mem_of_awaiting hfind
      have harmed := Handler.armed_react t.handler (t.completion settled) s
      rw [hreact] at harmed
      rw [if_neg (by simpa [DeviceLink.Owned.completion] using hhon)] at harmed
      show p.Tied _ s'.armed
      rw [show s'.armed = _ from harmed]
      exact h.drop ht (by rw [DeviceLink.owned_forget_told, hid]) (htold l settled)
  | @rearmed settled rest l s t rearm handler s' stack hfind hreact hhon hsubmit =>
      obtain ⟨ht, hid⟩ := DeviceLink.mem_of_awaiting hfind
      have harmed := Handler.armed_react t.handler (t.completion settled) s
      have hkey := Handler.key_react t.handler (t.completion settled) s
      rw [hreact] at harmed hkey
      rw [if_pos (by simpa [DeviceLink.Owned.completion] using hhon)] at harmed
      obtain ⟨-, halloc, -⟩ := HostStack.submit_cases hsubmit
      show p.Tied _ s'.armed
      rw [show s'.armed = _ from harmed]
      have hsame : (⟨t.filled settled, handler⟩ : DeviceLink.Owned (Handler κ)).submission.id =
        t.submission.id := rfl
      refine h.replace ht hsame hkey ?_ (halloc.trans (htold l settled))
      rw [hid]
      exact congrArg (· ++ [⟨t.filled settled, handler⟩]) (DeviceLink.owned_forget_told l settled)
  | @refused settled rest l s t rearm handler s' code stack rearm' handler' s'' hfind hreact hhon
      hsubmit hcode hagain =>
      obtain ⟨ht, hid⟩ := DeviceLink.mem_of_awaiting hfind
      have harmed := Handler.armed_react t.handler (t.completion settled) s
      have hkey := Handler.key_react t.handler (t.completion settled) s
      have harmed' := Handler.armed_react handler .refused s'
      rw [hreact] at harmed hkey
      rw [if_pos (by simpa [DeviceLink.Owned.completion] using hhon)] at harmed
      rw [hagain] at harmed'
      rw [Handler.not_honoured_refused, if_neg (by simp), show s'.armed = _ from harmed,
        show handler.key = _ from hkey] at harmed'
      obtain ⟨-, halloc, -⟩ := HostStack.submit_cases hsubmit
      show p.Tied _ s''.armed
      rw [show s''.armed = _ from harmed']
      refine h.drop ht ?_ ?_
      · rw [DeviceLink.owned_noteError, hid]
        exact DeviceLink.owned_forget_told l settled
      · rw [DeviceLink.stack_noteError]
        exact halloc.trans (htold l settled)

end Course

namespace Pool

/-- Obtaining slots hands out transfers in turn, with a call for each. -/
lemma obtain_link {count key : Nat} {taken slots : List Slot} {l l' : DeviceLink (Handler κ)}
    (h : obtain count key taken l = (.ok slots, l')) :
    slots.map (·.transfer) = taken.map (·.transfer) ++ List.range' l.stack.allocated count ∧
      l'.owned = l.owned ∧ l'.stack.allocated = l.stack.allocated + count ∧
      l'.stack.calls = l.stack.calls ++
        (List.range' l.stack.allocated count).map fun id => .alloc (some id) := by
  induction count generalizing key taken l with
  | zero =>
      cases h
      exact ⟨by simp, rfl, rfl, by simp⟩
  | succ count ih =>
      have halloc : (Transport.alloc l : Except UsbError TransferId × DeviceLink (Handler κ)) =
        l.alloc := rfl
      rcases hrun : l.alloc with ⟨result, l₁⟩
      rw [obtain, halloc, hrun] at h
      cases result with
      | error error => cases h
      | ok id =>
          obtain ⟨rfl, stack, rfl, hcall, -, hnext⟩ := DeviceLink.alloc_ok hrun
          obtain ⟨hids, howned, hcount, hcalls⟩ := ih h
          refine ⟨?_, howned, ?_, ?_⟩
          · rw [hids, hnext]
            simp [List.range'_succ]
          · rw [hcount, hnext]
            omega
          · rw [hcalls, hcall, hnext]
            simp [List.range'_succ]

/-- **Pool, host and link of a session agree.** -/
structure Linked (p : Pool) (s : Session (DeviceLink (Handler κ)) ω) : Prop where
  exact : s.transport.Exact []
  tied : p.Tied s.transport s.host.armed

namespace Linked

variable {p : Pool} {s : Session (DeviceLink (Handler κ)) ω}

/-- Calls that the transfers in the link's keeping do not depend on leave the session as it is. -/
lemma reframe {l : DeviceLink (Handler κ)} (h : p.Linked s) (hexact : l.Exact [])
    (howned : l.owned = s.transport.owned)
    (halloc : s.transport.stack.allocated ≤ l.stack.allocated) :
    p.Linked { s with transport := l } :=
  ⟨hexact, h.tied.congr howned halloc⟩

/-- A pass that has asked the stack what has completed changes nothing of it yet. -/
lemma polled {σ : Type} (h : p.Linked s) (ms : Nat) (state : σ) :
    p.Tied (s.transport.polled ms state).link s.host.armed := by
  rcases hpoll : s.transport.stack.poll ms with ⟨code, settled, stack⟩
  obtain ⟨-, halloc, -, -⟩ := HostStack.poll_cases hpoll
  rw [DeviceLink.polled, hpoll]
  exact h.tied.congr rfl (Nat.le_of_eq halloc.symm)

lemma pass [Consumer κ ω] (h : p.Linked s) (ms : Nat) : p.Linked (s.events ms).2 := by
  obtain ⟨l', host', hsteps, hrun⟩ :=
    DeviceLink.run_events Handler.react s.transport ms s.host
  have hend : p.Tied l' host'.armed :=
    hsteps.induction (R := fun c => p.Tied c.link c.state.armed)
      (fun hstep hc => Course.tied_step hstep hc) (h.polled ms s.host)
  have hexact := h.exact.passed Handler.react ms s.host
  have hafter : (s.events ms).2 = ⟨l'.closed (s.transport.stack.poll ms).1, host'⟩ := by
    rw [Session.events, show Transport.events s.transport ms = s.transport.events ms from rfl, hrun]
  rw [hrun] at hexact
  rw [hafter]
  exact ⟨hexact, hend.congr (DeviceLink.owned_closed _ _)
    (Nat.le_of_eq (congrArg HostStack.allocated (DeviceLink.stack_closed _ _)).symm)⟩

lemma alloc (h : p.Linked s) : p.Linked { s with transport := s.transport.alloc.2 } := by
  rcases halloc : s.transport.alloc with ⟨result, l⟩
  have hexact := h.exact.alloc halloc
  cases result with
  | error error =>
      obtain ⟨stack, rfl, -, -, hnext⟩ := DeviceLink.alloc_error halloc
      exact h.reframe hexact rfl (Nat.le_of_eq hnext.symm)
  | ok id =>
      obtain ⟨-, stack, rfl, -, -, hnext⟩ := DeviceLink.alloc_ok halloc
      exact h.reframe hexact rfl (hnext ▸ Nat.le_succ _)

/-- A submission that is refused changes nothing of what pool and link agree on. -/
lemma unsubmitted {id : TransferId} {request : TransferRequest} {handler : Handler κ}
    {error : UsbError} {l : DeviceLink (Handler κ)} (h : p.Linked s)
    (hid : id < s.transport.stack.allocated)
    (hsubmit : s.transport.submit id request handler = (.error error, l)) :
    p.Linked { s with transport := l } := by
  have hexact := h.exact.submit hid hsubmit
  obtain ⟨-, rfl⟩ | ⟨code, stack, -, hstack, ⟨-, -, rfl⟩ | ⟨-, hno, -⟩⟩ :=
    DeviceLink.submit_cases hsubmit
  · exact h
  · obtain ⟨-, halloc, -⟩ := HostStack.submit_cases hstack
    refine h.reframe hexact (DeviceLink.owned_noteError _ _) (Nat.le_of_eq ?_)
    rw [DeviceLink.stack_noteError]
    exact halloc.symm
  · cases hno

/-- A new control transfer is not a slot's. -/
lemma command {id : TransferId} {request : TransferRequest} {ticket : Nat}
    {result : Except UsbError Unit} {l l' : DeviceLink (Handler κ)} (h : p.Linked s)
    (halloc : s.transport.alloc = (.ok id, l))
    (hsubmit : l.submit id request (.control ticket) = (result, l')) :
    p.Linked { s with transport := l' } := by
  have hafter := h.alloc
  rw [halloc] at hafter
  have hnew : ∀ slot ∈ p.slots, slot.transfer ≠ id := by
    obtain ⟨rfl, -⟩ := DeviceLink.alloc_ok halloc
    exact fun slot hslot => Nat.ne_of_lt (h.tied.transfers_lt slot hslot)
  have hid : id < l.stack.allocated := by
    obtain ⟨rfl, stack, rfl, -, -, hnext⟩ := DeviceLink.alloc_ok halloc
    exact hnext ▸ Nat.lt_succ_self _
  cases result with
  | error error => exact hafter.unsubmitted hid hsubmit
  | ok _ =>
      have hexact := hafter.exact.submit hid hsubmit
      obtain ⟨⟨_, hno⟩, -⟩ | ⟨code, stack, -, hstack, ⟨-, hno, -⟩ | ⟨-, -, rfl⟩⟩ :=
        DeviceLink.submit_cases hsubmit
      · cases hno
      · cases hno
      · obtain ⟨-, hnext, -⟩ := HostStack.submit_cases hstack
        exact ⟨hexact, hafter.tied.add_control (o := ⟨_, .control ticket⟩) rfl hnew rfl
          (Nat.le_of_eq hnext.symm)⟩

/-- A slot's transfer that is submitted is kept for the slot. -/
lemma submit {slot : Slot} {request : TransferRequest} {consumer : κ}
    {l : DeviceLink (Handler κ)} (h : p.Linked s) (hslot : slot ∈ p.slots)
    (hsubmit : s.transport.submit slot.transfer request (.slot slot.key consumer) = (.ok (), l)) :
    p.Linked ⟨l, s.host.arm slot.key⟩ := by
  have hexact := h.exact.submit (h.tied.transfers_lt slot hslot) hsubmit
  obtain ⟨⟨_, hno⟩, -⟩ | ⟨code, stack, -, hstack, ⟨-, hno, -⟩ | ⟨-, -, rfl⟩⟩ :=
    DeviceLink.submit_cases hsubmit
  · cases hno
  · cases hno
  · obtain ⟨-, hnext, -⟩ := HostStack.submit_cases hstack
    exact ⟨hexact, h.tied.add_slot (o := ⟨_, .slot slot.key consumer⟩) hslot rfl rfl rfl hnext⟩

/-- Slots that have just been obtained are idle, and none of those that there are already. -/
lemma fill {count : Nat} {slots : List Slot} {l : DeviceLink (Handler κ)} (h : p.Linked s)
    (hobtain : obtain count p.nextKey [] s.transport = (.ok slots, l))
    (hafter : p.Linked { s with transport := l }) :
    Linked { p with slots := slots ++ p.slots, nextKey := p.nextKey + count }
      { s with transport := l } := by
  obtain ⟨hids, howned, hnext, -⟩ := obtain_link hobtain
  have hkeys := obtain_keys hobtain
  have hbounds {slot : Slot} (hslot : slot ∈ slots) :
      (p.nextKey ≤ slot.key ∧ slot.key < p.nextKey + count) ∧
        s.transport.stack.allocated ≤ slot.transfer ∧ slot.transfer < l.stack.allocated := by
    have hkey : slot.key ∈ slots.map (·.key) := List.mem_map_of_mem hslot
    have hid : slot.transfer ∈ slots.map (·.transfer) := List.mem_map_of_mem hslot
    rw [hkeys] at hkey
    rw [hids] at hid
    rw [hnext]
    exact ⟨by simpa using hkey, by simpa using hid⟩
  refine ⟨hafter.exact, ?_, ?_, ?_, ?_, ?_, ?_, ?_, ?_⟩
  · rw [List.map_append, List.nodup_append]
    refine ⟨by rw [hkeys]; exact List.nodup_range', h.tied.keys, ?_⟩
    intro key hnew key' hold heq
    obtain ⟨slot, hslot, rfl⟩ := List.mem_map.mp hnew
    obtain ⟨slot', hslot', rfl⟩ := List.mem_map.mp hold
    exact absurd (hbounds hslot).1.1 (Nat.not_le.mpr (heq ▸ h.tied.keys_lt slot' hslot'))
  · rw [List.map_append, List.nodup_append]
    refine ⟨by rw [hids]; exact List.nodup_range', h.tied.transfers, ?_⟩
    intro id hnew id' hold heq
    obtain ⟨slot, hslot, rfl⟩ := List.mem_map.mp hnew
    obtain ⟨slot', hslot', rfl⟩ := List.mem_map.mp hold
    exact absurd (hbounds hslot).2.1 (Nat.not_le.mpr (heq ▸ h.tied.transfers_lt slot' hslot'))
  · intro slot hslot
    rcases List.mem_append.mp hslot with hslot | hslot
    · exact (hbounds hslot).1.2
    · exact Nat.lt_add_right _ (h.tied.keys_lt slot hslot)
  · intro slot hslot
    rcases List.mem_append.mp hslot with hslot | hslot
    · exact (hbounds hslot).2.2
    · exact hafter.tied.transfers_lt slot hslot
  · exact fun key hkey => Nat.lt_add_right _ (h.tied.armed_lt key hkey)
  · intro o ho key hkey
    exact Nat.lt_add_right _ (h.tied.known o (howned ▸ ho) key hkey)
  · intro o ho slot hslot
    have ho : o ∈ s.transport.owned := howned ▸ ho
    rcases List.mem_append.mp hslot with hslot | hslot
    · refine iff_of_false (fun heq => ?_) fun heq => ?_
      · have hold := h.exact.handed o ho
        exact absurd (hbounds hslot).2.1 (Nat.not_le.mpr (heq ▸ hold))
      · have hold := h.tied.known o ho slot.key heq
        exact absurd (hbounds hslot).1.1 (Nat.not_le.mpr hold)
    · exact h.tied.matched o ho slot hslot
  · intro slot hslot
    rcases List.mem_append.mp hslot with hslot | hslot
    · refine iff_of_false (fun hkey => ?_) fun howns => ?_
      · exact absurd (hbounds hslot).1.1 (Nat.not_le.mpr (h.tied.armed_lt slot.key hkey))
      · obtain ⟨o, ho, hid⟩ := List.mem_map.mp (DeviceLink.owns_iff.mp howns)
        have hold := h.exact.handed o (howned ▸ ho)
        exact absurd (hbounds hslot).2.1 (Nat.not_le.mpr (hid ▸ hold))
    · exact hafter.tied.armed_iff slot hslot

/-- A pool may lose slots. -/
lemma fewer {slots : List Slot} (h : p.Linked s) (hslots : slots.Sublist p.slots) :
    Linked { p with slots } s where
  exact := h.exact
  tied :=
    { keys := h.tied.keys.sublist (hslots.map _)
      transfers := h.tied.transfers.sublist (hslots.map _)
      keys_lt := fun slot hslot => h.tied.keys_lt slot (hslots.subset hslot)
      transfers_lt := fun slot hslot => h.tied.transfers_lt slot (hslots.subset hslot)
      armed_lt := h.tied.armed_lt
      known := h.tied.known
      matched := fun o ho slot hslot => h.tied.matched o ho slot (hslots.subset hslot)
      armed_iff := fun slot hslot => h.tied.armed_iff slot (hslots.subset hslot) }

end Linked

/-- **Pool, host and link agree after every call.** -/
theorem upheld_linked [Consumer κ ω] : Upheld (Linked (κ := κ) (ω := ω)) where
  pass ms h := h.pass ms
  alloc h := h.alloc
  command h _ halloc _ hsubmit :=
    ⟨(h.command halloc hsubmit).exact, (h.command halloc hsubmit).tied⟩
  submit h hslot hsubmit := h.submit hslot hsubmit
  reject h hslot hsubmit := h.unsubmitted (h.tied.transfers_lt _ hslot) hsubmit
  cancel {p s} id h := by
    rcases hcancel : s.transport.cancel id with ⟨result, l⟩
    have hexact := h.exact.cancel hcancel
    show p.Linked { s with transport := (s.transport.cancel id).2 }
    rw [hcancel]
    obtain rfl | ⟨code, stack, -, hstack, rfl⟩ := DeviceLink.cancel_cases hcancel
    · exact h
    · exact h.reframe hexact rfl (Nat.le_of_eq (HostStack.cancel_cases hstack).2.1.symm)
  free {p s} id h := by
    have hexact := h.exact.free id
    show p.Linked { s with transport := s.transport.free id }
    rcases s.transport.free_cases id with ⟨-, hfree⟩ | ⟨-, hfree⟩
    all_goals
      rw [hfree] at hexact ⊢
      exact h.reframe hexact rfl (Nat.le_refl _)
  fill h hslots hobtain hafter := by
    have hfilled := h.fill hobtain hafter
    rwa [hslots, List.append_nil] at hfilled
  empty h := h.fewer (List.nil_sublist _)
  claim {p s} interface h := by
    obtain ⟨code, stack, hclaim, hstack, howned, -⟩ :=
      DeviceLink.claim_cases s.transport interface
    exact h.reframe (h.exact.claim interface) howned (Nat.le_of_eq
      ((congrArg HostStack.allocated hstack).trans (HostStack.claim_cases hclaim).2.1).symm)
  release {p s} interface h := by
    obtain ⟨code, stack, hrelease, hstack, howned, -⟩ :=
      DeviceLink.release_cases s.transport interface
    exact h.reframe (h.exact.release interface) howned (Nat.le_of_eq
      ((congrArg HostStack.allocated hstack).trans (HostStack.release_cases hrelease).2.1).symm)
  shared _ h := ⟨h.exact, h.tied⟩

variable {script : List HostStack.Cue} {vendor product : UInt16}

/-- A new pool and a link that has just been opened agree. -/
lemma Linked.start {link : DeviceLink (Handler κ)} (bufferSize : Nat) (shared : ω)
    (h : DeviceLink.connect (script.foldl HostStack.cue {}) vendor product = .ok link) :
    Linked (.empty bufferSize) (.start link shared) := by
  obtain ⟨howned, -⟩ := DeviceLink.opened h
  refine ⟨DeviceLink.exact_opened h, ?_⟩
  constructor <;> simp [Pool.empty, Session.start, howned]

/-- New script entries change nothing of what pool and link agree on. -/
lemma linked_cue {p : Pool} {s : Session (DeviceLink (Handler κ)) ω} (cue : HostStack.Cue)
    (h : p.Linked s) : p.Linked { s with transport := Scripted.cue s.transport cue } :=
  h.reframe (h.exact.cue cue) rfl
    (Nat.le_of_eq (HostStack.cue_cases s.transport.stack cue).2.1.symm)

/-- **On a lawful stack, a slot is armed exactly if its transfer is in flight.** -/
theorem Linked.isArmed_iff {p : Pool} {s : Session (DeviceLink (Handler κ)) ω} (h : p.Linked s)
    (hlawful : HostStack.Lawful s.transport.stack.calls) {slot : Slot} (hslot : slot ∈ p.slots) :
    s.host.isArmed slot.key = true ↔
      ∃ t ∈ s.transport.stack.inFlight, t.submission.id = slot.transfer := by
  have hcarried : slot.transfer ∈ HostStack.inUse s.transport.stack.calls ↔
      ∃ t ∈ s.transport.stack.inFlight, t.submission.id = slot.transfer := by
    rw [h.exact.used.mem_iff]
    simp [DeviceLink.held, HostStack.carried]
  rw [Host.isArmed_iff, h.tied.armed_iff slot hslot, ← hcarried]
  exact ⟨h.exact.inUse_of_owns hlawful, h.exact.owns_of_inUse⟩

end Pool

namespace DeviceLink

/-- **The contract of completion handlers**, on every stack:

* every client's transfers are served as the contract says, whatever completes and whatever the
  handlers want;
* after every run of a pool, with control transfers and event passes between its operations and for
  every consumer, the armed slots are those whose transfers are in flight, if the stack is
  lawful. -/
theorem contract_of_run (script : List HostStack.Cue) (vendor product : UInt16) :
    (∀ {K σ : Type} {link : DeviceLink (TransferId × K)} (react : Reaction K σ) (state : σ)
        (steps : List (Client.Step K)),
      connect (script.foldl HostStack.cue {}) vendor product = .ok link →
        (Client.run react steps ⟨link, state, [], []⟩).Contracted) ∧
      ∀ {κ ω : Type} [Consumer κ ω] {link : DeviceLink (Handler κ)} (bufferSize : Nat) (shared : ω)
        (steps : List (Pool.Step κ HostStack.Cue)) {p : Pool}
        {s : Session (DeviceLink (Handler κ)) ω},
      connect (script.foldl HostStack.cue {}) vendor product = .ok link →
        Pool.run steps (.empty bufferSize) (.start link shared) = some (p, s) →
        HostStack.Lawful s.transport.stack.calls →
        ∀ slot ∈ p.slots, s.host.isArmed slot.key = true ↔
          ∃ t ∈ s.transport.stack.inFlight, t.submission.id = slot.transfer := by
  constructor
  · intro K σ link react state steps hopen
    exact Client.served_of_run hopen react state steps
  · intro κ ω _ link bufferSize shared steps p s hopen hrun hlawful slot hslot
    have h : p.Linked s := (Pool.upheld_linked.enduring Pool.linked_cue).run
      (Pool.Linked.start bufferSize shared hopen) hrun
    exact h.isArmed_iff hlawful hslot

/-- One transfer whose handler always asks for another submission, which is refused. -/
def oneDropped : List (Client.Step Recorder) :=
  [.alloc, .submit 0 ⟨.bulkIn 0x81, zeros 2, 0⟩ ⟨0, .constant (.always .resubmit)⟩,
    .cue (.bulk { status := 0, data := [1] }), .cue (.codes .submit [-1]), .pass 10]

/-- Two slots whose consumer always asks for another submission.  The event pass of a control
transfer arms the first again, and the resubmission of the second is refused. -/
def oneRefused : List (Pool.Step Recorder HostStack.Cue) :=
  [.allocate 2, .arm 0x81 ⟨0, .constant (.always .resubmit)⟩,
    .cue (.bulk { status := 0, data := [1] }), .cue (.bulk { status := 2 }),
    .cue (.codes .submit [0, 0, -1]), .transfer 0x65 0 1 (.send []) 100]

theorem contract_oneRefused :
    (Client.run Recorder.react oneDropped ⟨onePluggedLink _, [], [], []⟩).events.length = 3 ∧
    (Client.run Recorder.react oneDropped ⟨onePluggedLink _, [], [], []⟩).Contracted ∧
    ∃ (p : Pool) (s : Session (DeviceLink (Handler Recorder)) (List Recorder.Call)),
      Pool.run oneRefused (.empty 8) (.start (onePluggedLink _) []) = some (p, s) ∧
      p.slots.map (fun slot => s.host.isArmed slot.key) = [true, false] ∧
      ∀ slot ∈ p.slots, s.host.isArmed slot.key = true ↔
        ∃ t ∈ s.transport.stack.inFlight, t.submission.id = slot.transfer := by
  refine ⟨by decide +kernel, (contract_of_run onePlugged 1 2).1 Recorder.react [] oneDropped
    (connect_onePlugged _), ?_⟩
  have hend : (Pool.run (τ := DeviceLink (Handler Recorder)) oneRefused (.empty 8)
      (.start (onePluggedLink _) ([] : List Recorder.Call))).map
        (fun r => (r.1.slots.map fun slot => r.2.host.isArmed slot.key,
          decide (HostStack.Lawful r.2.transport.stack.calls))) = some ([true, false], true) := by
    decide +kernel
  obtain ⟨⟨p, s⟩, hrun, hend⟩ := Option.map_eq_some_iff.mp hend
  obtain ⟨harmed, hlawful⟩ := Prod.mk.inj hend
  exact ⟨p, s, hrun, harmed, (contract_of_run onePlugged 1 2).2 8 [] oneRefused
    (connect_onePlugged _) hrun (of_decide_eq_true hlawful)⟩

end DeviceLink

end LogicCapture
