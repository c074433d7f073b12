/-
Arming a pool is all or nothing.

* `Pool.submitGranted_cons`, `Pool.submitGranted_bench`: slots are submitted in turn up to the first
  that meets an obstacle;
* `Pool.Underway`: just some slots of a pool are in flight, each with a zeroed buffer of its own;
* `Pool.undone_of_underway`: slots whose cancellation has been requested are gone after the next
  pass that completes anything, and their consumers have been told of that and nothing else;
* `Pool.Reachable`: the states of a pool in any life in which any buffer may be denied;
* `Pool.arms_of_reachable`: from each of them, arming puts all slots in flight or undoes what it
  did.
-/
import LogicCapture.Proofs.Analyzer.Cancel
import LogicCapture.Proofs.Analyzer.Watch
import LogicCapture.Proofs.Bench.Events
import LogicCapture.Proofs.Pool.Run

namespace LogicCapture

variable {κ ω H : Type}

namespace Pool

/-! ### Submitting slots in turn -/

/-- The transfer of a slot as arming puts it in flight, with a zeroed buffer of its own. -/
def Slot.streaming (slot : Slot) (bufferSize : Nat) (endpoint : UInt8) (consumer : κ)
    (cancelled : Bool) : Bench.InFlight (Handler κ) :=
  ⟨slot.transfer, .bulkIn endpoint, zeros bufferSize, .slot slot.key consumer, none, cancelled⟩

/-- What stands in the way of a slot whose submission would be the one with this number: there is
no memory for its buffer, or the script refuses the submission, with whatever error. -/
def obstacle (granted : Slot → Bool) (b : Bench H) (number : Nat) (slot : Slot) : Option UsbError :=
  if granted slot = false then some .noMemory
  else if (b.failSubmitAt.any fun fault => fault.1 = number) = true then some .io
  else none

/-- The host with these slots marked as armed. -/
def armSlots (slots : List Slot) (host : Host ω) : Host ω :=
  slots.foldl (fun host slot => host.arm slot.key) host

lemma mem_armed_armSlots {slots : List Slot} {host : Host ω} {key : Nat} :
    key ∈ (armSlots slots host).armed ↔ key ∈ host.armed ∨ ∃ slot ∈ slots, slot.key = key := by
  induction slots generalizing host with
  | nil => simp [armSlots]
  | cons slot rest ih =>
      have hrest : armSlots (slot :: rest) host = armSlots rest (host.arm slot.key) := rfl
      rw [hrest, ih]
      simp only [Host.arm, List.mem_insert_iff, List.exists_mem_cons_iff]
      tauto

/-- Marking slots changes the list of armed slots alone. -/
lemma armSlots_frame (slots : List Slot) (host : Host ω) :
    armSlots slots host = { host with armed := (armSlots slots host).armed } := by
  induction slots generalizing host with
  | nil => rfl
  | cons slot rest ih => exact ih (host.arm slot.key)

lemma obstacle_of_denied {granted : Slot → Bool} {slot : Slot} (h : granted slot = false)
    (b : Bench H) (number : Nat) : obstacle granted b number slot = some .noMemory := by
  rw [obstacle, if_pos h]

/-- If there is memory for its buffer, it is for the script to say. -/
lemma obstacle_of_granted {granted : Slot → Bool} {slot : Slot} (h : granted slot = true)
    (b : Bench H) :
    obstacle granted b b.submissions slot = if b.refusal.isSome then some .io else none := by
  have hrefused : (b.failSubmitAt.any fun fault => fault.1 = b.submissions) = b.refusal.isSome := by
    rw [Bench.refusal]
    cases b.failSubmitAt with
    | none => rfl
    | some fault => by_cases hnumber : fault.1 = b.submissions <;> simp [hnumber]
  rw [obstacle, if_neg (by simp [h]), hrefused]

/-- Nothing stands in the way of slots whose submissions have these numbers, from `number` on. -/
def Clear (granted : Slot → Bool) (b : Bench H) (number : Nat) (slots : List Slot) : Prop :=
  ∀ i slot, slots[i]? = some slot → obstacle granted b (number + i) slot = none

lemma Clear.cons {granted : Slot → Bool} {b : Bench H} {number : Nat} {slot : Slot}
    {rest : List Slot} (hslot : obstacle granted b number slot = none)
    (hrest : Clear granted b (number + 1) rest) : Clear granted b number (slot :: rest)
  | 0, found, hfound => by
      cases hfound
      exact hslot
  | i + 1, found, hfound => by
      have hlater := hrest i found hfound
      rwa [Nat.add_assoc, Nat.add_comm 1] at hlater

/-- The session once the slot has been submitted. -/
def Slot.sent (slot : Slot) (bufferSize : Nat) (endpoint : UInt8) (consumer : κ)
    (s : Session (Bench (Handler κ)) ω) : Session (Bench (Handler κ)) ω :=
  ⟨{ s.transport with submissions := s.transport.submissions + 1 }.arm
    (slot.streaming bufferSize endpoint consumer false), s.host.arm slot.key⟩

/-- **A slot meets an obstacle**, and that is the end of it, or it is submitted. -/
lemma submitGranted_cons (granted : Slot → Bool) (length : Nat) (endpoint : UInt8) (consumer : κ)
    {slot : Slot} (rest : List Slot) {s : Session (Bench (Handler κ)) ω}
    (hidle : ∀ t ∈ s.transport.inFlight, t.id ≠ slot.transfer) :
    (∃ error, obstacle granted s.transport s.transport.submissions slot = some error ∧
      submitGranted granted length endpoint consumer (slot :: rest) s = (.error error,
        { s with transport := { s.transport with
          submissions := s.transport.submissions + if granted slot then 1 else 0 } })) ∨
    (obstacle granted s.transport s.transport.submissions slot = none ∧
      submitGranted granted length endpoint consumer (slot :: rest) s =
        submitGranted granted length endpoint consumer rest
          (slot.sent length endpoint consumer s)) := by
  rw [submitGranted]
  cases hgranted : granted slot with
  | false =>
      refine Or.inl ⟨.noMemory, obstacle_of_denied hgranted _ _, ?_⟩
      rw [if_pos rfl]
      rfl
  | true =>
      have hobstacle := obstacle_of_granted hgranted s.transport
      have hsubmit : Transport.submit s.transport slot.transfer
          ⟨.bulkIn endpoint, zeros length, 0⟩ (.slot slot.key consumer) = _ :=
        Bench.submit_bulk hidle endpoint (zeros length) 0 (.slot slot.key consumer)
      rw [if_neg (by simp), hsubmit]
      cases hrefusal : s.transport.refusal with
      | some error =>
          rw [hrefusal] at hobstacle
          exact Or.inl ⟨.io, hobstacle, rfl⟩
      | none =>
          rw [hrefusal] at hobstacle
          exact Or.inr ⟨hobstacle, rfl⟩

/-- **Slots are submitted in turn** up to the first that meets an obstacle. -/
lemma submitGranted_bench (granted : Slot → Bool) (length : Nat) (endpoint : UInt8) (consumer : κ)
    (done : List Slot) {rest : List Slot} {s : Session (Bench (Handler κ)) ω}
    (hids : ((done ++ rest).map (·.transfer)).Nodup)
    (hflight : s.transport.inFlight =
      done.map fun slot => slot.streaming length endpoint consumer false) :
    (Clear granted s.transport s.transport.submissions rest ∧
      submitGranted granted length endpoint consumer rest s = (.ok (), ⟨{ s.transport with
        inFlight := (done ++ rest).map fun slot => slot.streaming length endpoint consumer false
        submissions := s.transport.submissions + rest.length }, armSlots rest s.host⟩)) ∨
    ∃ before slot after error, rest = before ++ slot :: after ∧
      Clear granted s.transport s.transport.submissions before ∧
      obstacle granted s.transport (s.transport.submissions + before.length) slot = some error ∧
      submitGranted granted length endpoint consumer rest s = (.error error, ⟨{ s.transport with
        inFlight := (done ++ before).map fun slot => slot.streaming length endpoint consumer false
        submissions := s.transport.submissions + before.length + if granted slot then 1 else 0 },
        armSlots before s.host⟩) := by
  induction rest generalizing done s with
  | nil =>
      refine Or.inl ⟨fun i slot hslot => by simp at hslot, ?_⟩
      rw [submitGranted, List.append_nil, ← hflight]
      rfl
  | cons slot rest ih =>
      have hidle : ∀ t ∈ s.transport.inFlight, t.id ≠ slot.transfer := by
        rw [hflight]
        intro t ht hid
        obtain ⟨earlier, hearlier, rfl⟩ := List.mem_map.mp ht
        rw [List.map_append, List.nodup_append] at hids
        exact hids.2.2 _ (List.mem_map_of_mem hearlier) _ (List.mem_map_of_mem
          List.mem_cons_self) hid
      rcases submitGranted_cons granted length endpoint consumer rest hidle with
        ⟨error, hobstacle, hrun⟩ | ⟨hclear, hrun⟩
      · refine Or.inr ⟨[], slot, rest, error, rfl, fun i found hfound => by simp at hfound,
          hobstacle, hrun.trans ?_⟩
        rw [List.append_nil, ← hflight]
        rfl
      · -- the slot has joined those that are in flight, and the rest follows it
        have hflight' : (slot.sent length endpoint consumer s).transport.inFlight =
            (done ++ [slot]).map fun slot => slot.streaming length endpoint consumer false := by
          rw [List.map_append, ← hflight]
          rfl
        have hsplit (slots : List Slot) : done ++ slot :: slots = done ++ [slot] ++ slots := by
          simp
        have hcount (slots : List Slot) : s.transport.submissions + (slot :: slots).length =
            s.transport.submissions + 1 + slots.length := by
          rw [List.length_cons, Nat.add_assoc, Nat.add_comm 1]
        rw [hsplit] at hids
        rcases ih (done ++ [slot]) hids hflight' with ⟨hrest, hlater⟩ |
          ⟨before, last, after, error, hrest, hbefore, hlast, hlater⟩
        · refine Or.inl ⟨.cons hclear hrest, hrun.trans (hlater.trans ?_)⟩
          rw [hsplit rest, hcount]
          rfl
        · refine Or.inr ⟨slot :: before, last, after, error, by rw [hrest]; rfl,
            .cons hclear hbefore, ?_, hrun.trans (hlater.trans ?_)⟩
          · rw [hcount]
            exact hlast
          · rw [hsplit before, hcount]
            rfl

/-! ### Slots under way -/

/-- **Just these slots of the pool are in flight**, armed between `s` and `s'`: each with a zeroed
buffer of its own, and with one cancellation requested if it is to be cancelled.  Nothing else has
changed but the count of submissions. -/
structure Underway (p : Pool) (endpoint : UInt8) (consumer : κ) (slots : List Slot)
    (cancelled : Bool) (s s' : Session (Bench (Handler κ)) ω) : Prop where
  inFlight : s'.transport.inFlight =
    slots.map fun slot => slot.streaming p.bufferSize endpoint consumer cancelled
  armed : ∀ slot ∈ p.slots, s'.host.isArmed slot.key = true ↔ slot ∈ slots
  cancels : s'.transport.cancelRequests =
    s.transport.cancelRequests + if cancelled then slots.length else 0
  transport : s'.transport = { s.transport with
    inFlight := s'.transport.inFlight, submissions := s'.transport.submissions
    cancelRequests := s'.transport.cancelRequests }
  host : s'.host = { s.host with armed := s'.host.armed }

variable {p : Pool} {endpoint : UInt8} {consumer : κ} {before after : List Slot}
  {s s' : Session (Bench (Handler κ)) ω}

/-- Slots of an idle pool that have been submitted are under way. -/
lemma underway_of_submitted (h : p.Held none s) (hidle : p.armedCount s.host = 0)
    (hslots : before ⊆ p.slots) (submissions : Nat) :
    p.Underway endpoint consumer before false s ⟨{ s.transport with
      inFlight := before.map fun slot => slot.streaming p.bufferSize endpoint consumer false
      submissions }, armSlots before s.host⟩ := by
  refine ⟨rfl, fun slot hslot => ?_, rfl, rfl, armSlots_frame before s.host⟩
  rw [Host.isArmed_iff, mem_armed_armSlots]
  constructor
  · rintro (hold | ⟨slot', hslot', hkey⟩)
    · exact absurd hold (armedCount_eq_zero_iff.mp hidle slot hslot)
    · exact h.custody.eq_of_key (hslots hslot') hslot hkey ▸ hslot'
  · exact fun hmem => Or.inr ⟨slot, hmem, rfl⟩

/-- Every armed slot is cancelled once. -/
lemma cancelRequests_cancelSlots (host : Host ω) (slots : List Slot)
    (result : Except UsbError Unit) (b : Bench (Handler κ)) :
    (cancelSlots host slots result b).2.cancelRequests =
      b.cancelRequests + (slots.filter fun slot => host.isArmed slot.key).length := by
  induction slots generalizing result b with
  | nil => rfl
  | cons slot rest ih =>
      rw [cancelSlots]
      split
      · rename_i harmed
        obtain ⟨inFlight, hcancelled, -⟩ := b.cancel_frame slot.transfer
        have hcount : (b.cancel slot.transfer).2.cancelRequests = b.cancelRequests + 1 := by
          rw [hcancelled]
        have hcancel : (Transport.cancel b slot.transfer : Except UsbError Unit ×
          Bench (Handler κ)) = b.cancel slot.transfer := rfl
        rw [List.filter_cons_of_pos (p := fun slot : Slot => host.isArmed slot.key) harmed,
          List.length_cons, hcancel]
        rcases hrun : b.cancel slot.transfer with ⟨answer, b'⟩
        rw [hrun] at hcount
        cases answer <;> rw [ih, hcount] <;> omega
      · rename_i hidle
        rw [List.filter_cons_of_neg (p := fun slot : Slot => host.isArmed slot.key) hidle]
        exact ih result b

/-- The armed slots are those under way. -/
lemma Underway.filter_armed {cancelled : Bool}
    (h : p.Underway endpoint consumer before cancelled s s')
    (hkeys : (p.slots.map (·.key)).Nodup) (hslots : p.slots = before ++ after) :
    (p.slots.filter fun slot => s'.host.isArmed slot.key) = before := by
  have hmem {slot : Slot} (hslot : slot ∈ before ++ after) := h.armed slot (hslots ▸ hslot)
  have hdistinct : (before ++ after).Nodup := hslots ▸ List.Nodup.of_map _ hkeys
  rw [hslots, List.filter_append, List.filter_eq_self.mpr, List.filter_eq_nil_iff.mpr,
    List.append_nil]
  · intro slot hslot harmed
    exact List.disjoint_of_nodup_append hdistinct
      ((hmem (List.mem_append_right _ hslot)).mp harmed) hslot
  · exact fun slot hslot => (hmem (List.mem_append_left _ hslot)).mpr hslot

/-- **Cancelling the pool** requests the cancellation of each slot under way once. -/
lemma Underway.cancelAll (h : p.Underway endpoint consumer before false s s')
    (hheld : p.Held none s')
    (hslots : p.slots = before ++ after) :
    p.Underway endpoint consumer before true s (p.cancelAll s').2 ∧
      (p.cancelAll s').2.transport.submissions = s'.transport.submissions := by
  have harmed := h.filter_armed hheld.custody.keys hslots
  have hcount : (p.cancelAll s').2.transport.cancelRequests = _ :=
    cancelRequests_cancelSlots s'.host p.slots (.ok ()) s'.transport
  have hmarked : (p.cancelAll s').2.transport.inFlight = _ :=
    inFlight_cancelSlots s'.host p.slots (.ok ()) hheld.custody.ids
  rw [harmed] at hcount hmarked
  obtain ⟨inFlight, cancelRequests, hafter, -⟩ := p.cancelAll_bench s'
  have hhost : (p.cancelAll s').2.host = s'.host := by rw [hafter]
  refine ⟨⟨?_, by rw [hhost]; exact h.armed, ?_, ?_, by rw [hhost]; exact h.host⟩, by rw [hafter]⟩
  · rw [hmarked, h.inFlight, List.map_map]
    refine List.map_congr_left fun slot hslot => ?_
    have hid : slot.transfer ∈ before.map (·.transfer) := List.mem_map_of_mem hslot
    rw [Function.comp_apply, Bench.InFlight.mark]
    exact if_pos hid
  · rw [hcount, h.cancels]
    rfl
  · rw [hafter, h.transport]

end Pool

/-! ### What becomes of cancelled transfers -/

/-- The number of event passes up to the next that completes anything, that one included. -/
def Bench.dispatchIn (b : Bench H) : Nat :=
  (b.script.takeWhile fun event => event ≠ .dispatch).length + 1

namespace Session

/-- The session under watch from now on. -/
def watched (s : Session (Bench (Handler κ)) ω) :
    Session (Watched (Bench (Handler κ)) (Handler κ)) ω :=
  ⟨{ transport := s.transport }, s.host⟩

variable [Consumer κ ω]

/-- The session after some event passes in a row. -/
def passes {τ : Type} [Transport τ (Handler κ)] (ms : Nat) : Nat → Session τ ω → Session τ ω
  | 0, s => s
  | n + 1, s => passes ms n (s.events ms).2

/-- Handlers of cancelled transfers are called once, and none of them is armed again. -/
lemma run_watch_cancelled (ts : List (Bench.InFlight (Handler κ))) (b : Bench (Handler κ))
    (calls : List (Handler κ × Completion)) (host : Host ω) : ∃ host',
      ((Bench.deliver (ts.map fun t => (t, ⟨.cancelled, []⟩)) b).watch calls).run
        Handler.react host =
          (.ok (), ⟨b, calls ++ ts.map fun t => (t.handler, ⟨.cancelled, []⟩)⟩, host') := by
  induction ts generalizing calls host with
  | nil => exact ⟨host, by simp [Bench.deliver, Pass.watch, Pass.run]⟩
  | cons t rest ih =>
      have hnever (rearm : Rearm) : rearm.honoured .cancelled = false := by cases rearm <;> rfl
      rcases hcall : t.handler.react ⟨.cancelled, []⟩ host with ⟨rearm, handler, host₁⟩
      obtain ⟨host', hrun⟩ := ih (calls ++ [(t.handler, ⟨.cancelled, []⟩)]) host₁
      refine ⟨host', ?_⟩
      rw [List.map_cons, List.map_cons, Bench.deliver, Pass.watch, Pass.run, hcall]
      dsimp only
      rw [hnever, if_neg (by simp)]
      simpa using hrun

variable {s : Session (Watched (Bench (Handler κ)) (Handler κ)) ω}

/-- A pass that is to complete something completes all that is to be cancelled. -/
lemma calls_of_dispatch (h : ∀ t ∈ s.transport.transport.inFlight, t.cancelled = true)
    (hdispatch : s.transport.transport.script.head?.getD .dispatch = .dispatch) (ms : Nat) :
    (s.events ms).2.transport.transport.inFlight = [] ∧
      (s.events ms).2.transport.calls = s.transport.calls ++
        s.transport.transport.inFlight.map fun t => (t.handler, ⟨.cancelled, []⟩) := by
  have hevents : Transport.events s.transport ms =
    s.transport.transport.events.watch s.transport.calls := rfl
  rw [events, hevents, Bench.events, hdispatch]
  dsimp only
  rw [Bench.settleAll_of_cancelled h]
  dsimp only
  obtain ⟨host', hrun⟩ := run_watch_cancelled s.transport.transport.inFlight
    { s.transport.transport with
      eventsHandled := s.transport.transport.eventsHandled + 1
      script := s.transport.transport.script.tail
      inFlight := [] } s.transport.calls s.host
  rw [hrun]
  exact ⟨rfl, rfl⟩

/-- Any other pass calls nobody and leaves everything in flight. -/
lemma calls_of_other {event : Bench.Event} {rest : List Bench.Event}
    (hscript : s.transport.transport.script = event :: rest) (hevent : event ≠ .dispatch)
    (ms : Nat) : (s.events ms).2.transport.transport.script = rest ∧
      (s.events ms).2.transport.transport.inFlight = s.transport.transport.inFlight ∧
      (s.events ms).2.transport.calls = s.transport.calls := by
  have hevents : Transport.events s.transport ms =
    s.transport.transport.events.watch s.transport.calls := rfl
  rw [events, hevents, Bench.events, hscript]
  cases event with
  | dispatch => exact absurd rfl hevent
  | fail error => exact ⟨rfl, rfl, rfl⟩
  | detach => exact ⟨rfl, rfl, rfl⟩

/-- **Cancelled transfers are gone** after the next pass that completes anything, and each handler
has been called once until then, with that it was cancelled. -/
theorem calls_of_cancelled (h : ∀ t ∈ s.transport.transport.inFlight, t.cancelled = true)
    (ms : Nat) :
    (s.passes ms s.transport.transport.dispatchIn).transport.transport.inFlight = [] ∧
      (s.passes ms s.transport.transport.dispatchIn).transport.calls = s.transport.calls ++
        s.transport.transport.inFlight.map fun t => (t.handler, ⟨.cancelled, []⟩) := by
  induction hscript : s.transport.transport.script generalizing s with
  | nil =>
      have hnext : s.transport.transport.dispatchIn = 1 := by rw [Bench.dispatchIn, hscript]; rfl
      rw [hnext]
      exact calls_of_dispatch h (by rw [hscript]; rfl) ms
  | cons event rest ih =>
      by_cases hevent : event = .dispatch
      · have hnext : s.transport.transport.dispatchIn = 1 := by
          rw [Bench.dispatchIn, hscript, List.takeWhile_cons_of_neg (by simp [hevent])]
          rfl
        rw [hnext]
        exact calls_of_dispatch h (by rw [hscript, hevent]; rfl) ms
      · obtain ⟨hrest, hflight, hcalls⟩ := calls_of_other hscript hevent ms
        have hnext : s.transport.transport.dispatchIn =
            (s.events ms).2.transport.transport.dispatchIn + 1 := by
          rw [Bench.dispatchIn, Bench.dispatchIn, hscript, hrest,
            List.takeWhile_cons_of_pos (by simpa using hevent)]
          rfl
        rw [← hflight, ← hcalls, hnext]
        exact ih (hflight ▸ h) hrest

/-- Event passes do over the bare transport what they do over the whole one. -/
lemma passes_mapTransport {τ τ' : Type} [Transport τ (Handler κ)] [Transport τ' (Handler κ)]
    {bare : τ' → τ} (h : Transport.Covers bare) (s : Session τ' ω) (ms n : Nat) :
    (s.mapTransport bare).passes ms n = (s.passes ms n).mapTransport bare := by
  induction n generalizing s with
  | zero => rfl
  | succ n ih =>
      rw [passes, passes, events_mapTransport h]
      exact ih _

/-- A pool's custody outlives event passes. -/
lemma held_passes {p : Pool} {s : Session (Bench (Handler κ)) ω} (h : p.Held none s) (ms n : Nat) :
    p.Held none (s.passes ms n) := by
  induction n generalizing s with
  | zero => exact h
  | succ n ih => exact ih (h.passed (passed_events s ms))

end Session

namespace Pool

variable [Consumer κ ω] {p : Pool} {endpoint : UInt8} {consumer : κ} {before : List Slot}
  {s s' : Session (Bench (Handler κ)) ω}

/-- **These slots are undone** by the event passes up to the next that completes anything: nothing
is in flight or armed then, and each consumer has been called once until then, with that its
transfer was cancelled. -/
structure Undone (p : Pool) (consumer : κ) (slots : List Slot) (ms : Nat)
    (s : Session (Bench (Handler κ)) ω) : Prop where
  inFlight : (s.passes ms s.transport.dispatchIn).transport.inFlight = []
  armed : p.armedCount (s.passes ms s.transport.dispatchIn).host = 0
  calls : (s.watched.passes ms s.transport.dispatchIn).transport.calls =
    slots.map fun slot => (.slot slot.key consumer, ⟨.cancelled, []⟩)

/-- Slots under way that are to be cancelled are undone. -/
lemma undone_of_underway (h : p.Underway endpoint consumer before true s s')
    (hheld : p.Held none s') (ms : Nat) : p.Undone consumer before ms s' := by
  have hcancelled : ∀ t ∈ s'.transport.inFlight, t.cancelled = true := by
    rw [h.inFlight]
    intro t ht
    obtain ⟨slot, -, rfl⟩ := List.mem_map.mp ht
    rfl
  obtain ⟨hnone, hcalls⟩ := Session.calls_of_cancelled (s := s'.watched) hcancelled ms
  have hplain : s'.passes ms s'.transport.dispatchIn =
      (s'.watched.passes ms s'.transport.dispatchIn).mapTransport Watched.transport :=
    Session.passes_mapTransport Watched.covers s'.watched ms _
  have hend : (s'.passes ms s'.transport.dispatchIn).transport.inFlight = [] := by
    rw [hplain]
    exact hnone
  refine ⟨hend, ?_, hcalls.trans ?_⟩
  · rw [(Session.held_passes hheld ms _).custody.armedCount_eq_length, hend]
    rfl
  · have hflight : s'.watched.transport.transport.inFlight = _ := h.inFlight
    rw [hflight, List.map_map]
    rfl

/-! ### Arming in any state -/

/-- **The states of a pool** on a bench, after any operations, control transfers, event passes and
new script entries, where arming may at any slot find no memory for a buffer. -/
inductive Reachable : Pool → Session (Bench (Handler κ)) ω → Prop
  | start (bufferSize : Nat) (shared : ω) : Reachable (.empty bufferSize) (.start {} shared)
  | step {p p' : Pool} {s s' : Session (Bench (Handler κ)) ω} {action : Step κ Bench.Cue} :
      Reachable p s → p.step s action = some (p', s') → Reachable p' s'
  | arm {p : Pool} {s : Session (Bench (Handler κ)) ω} (granted : Slot → Bool) (endpoint : UInt8)
      (consumer : κ) : Reachable p s → Reachable p (p.armGranted granted endpoint consumer s).2

/-- Every run leads to such states. -/
lemma Reachable.run {steps : List (Step κ Bench.Cue)} {p p' : Pool}
    {s s' : Session (Bench (Handler κ)) ω} (h : Reachable p s)
    (hrun : Pool.run steps p s = some (p', s')) : Reachable p' s' :=
  run_induction (fun _ _ hreach hstep => .step hreach hstep) h hrun

/-- In all of them the pool and the bench agree on who holds what. -/
theorem Reachable.held (h : Reachable p s) : p.Held none s := by
  induction h with
  | start bufferSize shared => exact Held.start bufferSize {} rfl shared
  | step hreach hstep ih => exact enduring_held.step ih hstep
  | arm granted endpoint consumer hreach ih => exact ih.armGranted granted endpoint consumer

/-- **What arming an idle pool comes to.** -/
inductive Arms (p : Pool) (granted : Slot → Bool) (endpoint : UInt8) (consumer : κ)
    (s : Session (Bench (Handler κ)) ω) :
    Except UsbError Unit → Session (Bench (Handler κ)) ω → Prop
  /-- No slot meets an obstacle, and all are in flight. -/
  | all {s' : Session (Bench (Handler κ)) ω} :
      Clear granted s.transport s.transport.submissions p.slots →
      s'.transport.submissions = s.transport.submissions + p.size →
      p.Underway endpoint consumer p.slots false s s' →
      Arms p granted endpoint consumer s (.ok ()) s'
  /-- A slot meets an obstacle, and those before it are cancelled and undone. -/
  | undone {before : List Slot} {slot : Slot} {after : List Slot} {error : UsbError}
      {s' : Session (Bench (Handler κ)) ω} :
      p.slots = before ++ slot :: after →
      Clear granted s.transport s.transport.submissions before →
      obstacle granted s.transport (s.transport.submissions + before.length) slot = some error →
      s'.transport.submissions =
        s.transport.submissions + before.length + (if granted slot then 1 else 0) →
      p.Underway endpoint consumer before true s s' → (∀ ms, p.Undone consumer before ms s') →
      Arms p granted endpoint consumer s (.error error) s'

/-- An idle pool with slots is armed, or what has been done for it is undone. -/
lemma arms_of_held (h : p.Held none s) (hslots : p.slots ≠ []) (hidle : p.armedCount s.host = 0)
    (granted : Slot → Bool) (endpoint : UInt8) (consumer : κ) :
    p.Arms granted endpoint consumer s (p.armGranted granted endpoint consumer s).1
      (p.armGranted granted endpoint consumer s).2 := by
  have hheld := h.submitGranted granted endpoint consumer
  have hnone : s.transport.inFlight = [] := h.inFlight_eq_nil (armedCount_eq_zero_iff.mp hidle)
  rw [armGranted, if_neg (by simpa [isEmpty] using hslots), if_neg (by omega)]
  rcases submitGranted_bench granted p.bufferSize endpoint consumer []
    h.custody.transfers hnone with
    ⟨hclear, hrun⟩ | ⟨before, slot, after, error, hsplit, hclear, hobstacle, hrun⟩
  · rw [hrun]
    exact .all hclear rfl (underway_of_submitted h hidle (List.Subset.refl _) _)
  · have hbefore : before ⊆ p.slots := by simp [hsplit]
    rw [hrun] at hheld ⊢
    obtain ⟨hunderway, hcount⟩ :=
      (underway_of_submitted h hidle hbefore _).cancelAll hheld hsplit
    exact .undone hsplit hclear hobstacle hcount hunderway
      (undone_of_underway hunderway hheld.cancelAll)

/-- **Arming is all or nothing**, in every state of a pool and whichever buffers are denied and
submissions refused: a pool that is not idle stays as it is; of an idle one either all slots are in
flight, or those before the first obstacle are cancelled, and gone with the next event pass that
completes anything. -/
theorem arms_of_reachable (h : Reachable p s) (hslots : p.slots ≠ []) (granted : Slot → Bool)
    (endpoint : UInt8) (consumer : κ) :
    p.arm endpoint consumer s =
      p.armGranted (fun _ => p.bufferSize ≤ addressSpace) endpoint consumer s ∧
    (0 < p.armedCount s.host →
      p.armGranted granted endpoint consumer s = (.error .busy, s)) ∧
    (p.armedCount s.host = 0 →
      p.Arms granted endpoint consumer s (p.armGranted granted endpoint consumer s).1
        (p.armGranted granted endpoint consumer s).2) := by
  refine ⟨p.arm_eq_armGranted endpoint consumer s, fun harmed => ?_,
    fun hidle => arms_of_held h.held hslots hidle granted endpoint consumer⟩
  rw [armGranted, if_neg (by simpa [isEmpty] using hslots), if_pos harmed]

/-- Three slots, of which the second will be refused, and a consumer that always asks for another
submission. -/
def secondRefused : List (Step Recorder Bench.Cue) := [.allocate 3, .cue (.failSubmit 1 .pipe)]

theorem arms_secondRefused :
    ∃ (p : Pool) (s : Session (Bench (Handler Recorder)) (List Recorder.Call)),
      Reachable p s ∧ p.slots ≠ [] ∧ p.armedCount s.host = 0 ∧
      ∃ s', p.Arms (fun _ => true) 0x81 ⟨0, .constant (.always .resubmit)⟩ s (.error .io) s' ∧
        s'.transport.cancelRequests = 1 := by
  have hfacts : (run (τ := Bench (Handler Recorder)) secondRefused (.empty 8)
      (.start {} ([] : List Recorder.Call))).map (fun r =>
        let armed := r.1.armGranted (fun _ => true) 0x81 ⟨0, .constant (.always .resubmit)⟩ r.2
        (r.1.slots.length, r.1.armedCount r.2.host, armed.1, armed.2.transport.cancelRequests)) =
      some (3, 0, .error .io, 1) := by
    decide +kernel
  obtain ⟨⟨p, s⟩, hrun, hfacts⟩ := Option.map_eq_some_iff.mp hfacts
  simp only [Prod.mk.injEq] at hfacts
  obtain ⟨hsize, hidle, herror, hcancels⟩ := hfacts
  have hslots : p.slots ≠ [] := fun hnone => by simp [hnone] at hsize
  have hreach : Reachable p s := (Reachable.start 8 []).run hrun
  obtain ⟨-, -, harms⟩ := arms_of_reachable hreach hslots (fun _ => true) 0x81
    ⟨0, .constant (.always .resubmit)⟩
  exact ⟨p, s, hreach, hslots, hidle, _, herror ▸ harms hidle, hcancels⟩

end Pool

end LogicCapture
