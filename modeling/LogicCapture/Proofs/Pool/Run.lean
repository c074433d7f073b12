/-
The life of a pool: its operations in any order, with control transfers, event passes and new
script entries between them, and whatever its consumers make of the completions.

* `Pool.Step`, `Pool.run`: the steps of such a life, and what they come to; what every step keeps, a
  run keeps (`Pool.run_induction`);
* `Pool.Enduring`: a property that every operation of the pool, every control transfer and every
  event pass keeps; `Pool.Enduring.run` follows it through a run;
* `Pool.enduring_held`: custody is such a property;
* `Pool.isArmed_iff_inFlight`: after every run, the armed slots are those whose transfers are in
  flight.
-/
import LogicCapture.Proofs.Analyzer.Run
import LogicCapture.Proofs.Pool.Held
import LogicCapture.Usb.Recorder

namespace LogicCapture

namespace Pool

variable {τ κ ω C : Type}

/-! ### Steps and runs -/

/-- A step in the life of a pool. -/
inductive Step (κ C : Type) where
  | allocate (count : Nat)
  | arm (endpoint : UInt8) (consumer : κ)
  | cancelAll
  | freeAll
  /-- A control transfer on the same transport. -/
  | transfer (request : UInt8) (value index : UInt16) (data : ControlData) (timeoutMs : Nat)
  /-- An event pass. -/
  | pass (timeoutMs : Nat)
  /-- An entry for the script of the transport. -/
  | cue (cue : C)

variable [Transport τ (Handler κ)] [Consumer κ ω] [Scripted τ C]

/-- Takes a step; `none` if it is a control transfer that never returns. -/
def step (p : Pool) (s : Session τ ω) : Step κ C → Option (Pool × Session τ ω)
  | .allocate count => some (p.allocate count s).2
  | .arm endpoint consumer => some (p, (p.arm endpoint consumer s).2)
  | .cancelAll => some (p, (p.cancelAll s).2)
  | .freeAll => some (p.freeAll s)
  | .transfer request value index data timeoutMs =>
    (s.controlTransfer request value index data timeoutMs).map fun r => (p, r.2)
  | .pass timeoutMs => some (p, (s.events timeoutMs).2)
  | .cue cue => some (p, { s with transport := Scripted.cue s.transport cue })

/-- Takes steps in turn. -/
def run : List (Step κ C) → Pool → Session τ ω → Option (Pool × Session τ ω)
  | [], p, s => some (p, s)
  | step :: rest, p, s => (p.step s step).bind fun (p, s) => run rest p s

/-- What every step keeps, a run keeps. -/
lemma run_induction {I : Pool → Session τ ω → Prop} {steps : List (Step κ C)} {p p' : Pool}
    {s s' : Session τ ω}
    (hstep : ∀ {p p' s s'}, ∀ action ∈ steps, I p s → p.step s action = some (p', s') → I p' s')
    (hs : I p s) (hrun : run steps p s = some (p', s')) : I p' s' := by
  induction steps generalizing p s with
  | nil =>
      cases hrun
      exact hs
  | cons action rest ih =>
      obtain ⟨⟨p₁, s₁⟩, hfirst, hrest⟩ := Option.bind_eq_some_iff.mp hrun
      exact ih (fun later hlater => hstep later (List.mem_cons_of_mem _ hlater))
        (hstep action List.mem_cons_self hs hfirst) hrest

/-! ### Properties that every step keeps -/

/-- **A property kept by every step in the life of a pool**; while the control transfer `id` is
in flight, `Q p id` holds in its place. -/
structure Enduring (P : Pool → Session τ ω → Prop) (Q : Pool → TransferId → Session τ ω → Prop) :
    Prop where
  kept : ∀ p, Session.Kept (P p) (Q p)
  pass : ∀ {p s} ms, P p s → P p (s.events ms).2
  allocate : ∀ {p s} count, P p s → P (p.allocate count s).2.1 (p.allocate count s).2.2
  arm : ∀ {p s} endpoint consumer, P p s → P p (p.arm endpoint consumer s).2
  cancelAll : ∀ {p s}, P p s → P p (p.cancelAll s).2
  freeAll : ∀ {p s}, P p s → P (p.freeAll s).1 (p.freeAll s).2
  cue : ∀ {p s} cue, P p s → P p { s with transport := Scripted.cue s.transport cue }

namespace Enduring

variable {P : Pool → Session τ ω → Prop} {Q : Pool → TransferId → Session τ ω → Prop}

lemma step (h : Enduring P Q) {p p' : Pool} {s s' : Session τ ω} {action : Step κ C}
    (hs : P p s) (hstep : p.step s action = some (p', s')) : P p' s' := by
  cases action with
  | allocate count =>
      have hafter := h.allocate count hs
      rwa [Option.some.inj hstep] at hafter
  | arm endpoint consumer =>
      cases hstep
      exact h.arm endpoint consumer hs
  | cancelAll =>
      cases hstep
      exact h.cancelAll hs
  | freeAll =>
      cases hstep
      exact h.freeAll hs
  | transfer request value index data ms =>
      obtain ⟨⟨result, s₁⟩, hrun, hend⟩ := Option.map_eq_some_iff.mp hstep
      cases hend
      exact (h.kept p).controlTransfer hs hrun
  | pass ms =>
      cases hstep
      exact h.pass ms hs
  | cue cue =>
      cases hstep
      exact h.cue cue hs

/-- **Every run keeps** what single steps keep. -/
theorem run (h : Enduring P Q) {steps : List (Step κ C)} {p p' : Pool} {s s' : Session τ ω}
    (hs : P p s) (hrun : Pool.run steps p s = some (p', s')) : P p' s' :=
  run_induction (fun _ _ hs hstep => h.step hs hstep) hs hrun

end Enduring

/-! ### Pools on the bench -/

section
variable {κ ω : Type} [Consumer κ ω]

/-- **Custody endures.** -/
theorem enduring_held : Enduring (κ := κ) (ω := ω) (τ := Bench (Handler κ))
    (fun p s => p.Held none s) (fun p id s => p.Held (some id) s) where
  kept := Held.kept
  pass ms h := h.passed (Session.passed_events _ ms)
  allocate count h := h.allocate count
  arm endpoint consumer h := h.arm endpoint consumer
  cancelAll h := h.cancelAll
  freeAll h := h.freeAll
  cue {p s} cue h := by
    obtain ⟨hflight, halloc, -⟩ := s.transport.cue_frame cue
    exact h.reframe hflight halloc

variable {p : Pool} {s : Session (Bench (Handler κ)) ω}

/-- **A slot is armed exactly if its transfer is in flight**, after every step of every run of
operations, control transfers and event passes from a new pool on a new bench, for every consumer
and every script; and all that is in flight then are the transfers of the armed slots. -/
theorem isArmed_iff_inFlight {bufferSize : Nat} {shared : ω} {steps : List (Step κ Bench.Cue)}
    (hrun : run steps (.empty bufferSize) (.start {} shared) = some (p, s)) :
    (∀ slot ∈ p.slots, s.host.isArmed slot.key = true ↔
      ∃ t ∈ s.transport.inFlight, t.id = slot.transfer) ∧
    p.armedCount s.host = s.transport.bulkInFlight := by
  have h : p.Held none s := enduring_held.run (Held.start bufferSize {} rfl shared) hrun
  refine ⟨fun slot hslot => ?_, ?_⟩
  · exact Host.isArmed_iff.trans (h.custody.armed_iff slot hslot)
  · rw [h.custody.armedCount_eq_length, Bench.bulkInFlight, h.custody.filter_isBulk]

/-- Two slots whose consumer always asks for another submission.  The event pass of a control
transfer arms the first again, and the resubmission of the second is refused. -/
def oneRefused : List (Step Recorder Bench.Cue) :=
  [.allocate 2, .arm 0x81 ⟨0x81, .constant (.always .resubmit)⟩,
    .cue (.chunk [1]), .cue (.chunk [2]), .cue (.failSubmit 4 .noDevice),
    .transfer 0x65 0 1 (.send []) 100]

theorem isArmed_oneRefused :
    ∃ (p : Pool) (s : Session (Bench (Handler Recorder)) (List Recorder.Call)),
      run oneRefused (.empty 8) (.start {} []) = some (p, s) ∧
      p.slots.map (fun slot => s.host.isArmed slot.key) = [true, false] ∧
      (∀ slot ∈ p.slots, s.host.isArmed slot.key = true ↔
        ∃ t ∈ s.transport.inFlight, t.id = slot.transfer) ∧
      p.armedCount s.host = s.transport.bulkInFlight := by
  have harmed : (run (τ := Bench (Handler Recorder)) oneRefused (.empty 8)
      (.start {} ([] : List Recorder.Call))).map
        (fun r => r.1.slots.map fun slot => r.2.host.isArmed slot.key) = some [true, false] := by
    decide +kernel
  obtain ⟨⟨p, s⟩, hrun, harmed⟩ := Option.map_eq_some_iff.mp harmed
  exact ⟨p, s, hrun, harmed, isArmed_iff_inFlight hrun⟩

end

end Pool

end LogicCapture
