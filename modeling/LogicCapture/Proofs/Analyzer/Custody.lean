/-
What the life of a pool keeps, every run of the analyzer that owns it keeps.

* `Analyzer.stable_ofPool`: a property that endures in a pool and does not depend on what the
  handlers share is stable in the analyzer;
* `Analyzer.Benched`, `Analyzer.stable_ofBench`: the same for analyzers on the bench, with a sink
  of any kind;
* `Analyzer.stable_held`, `Analyzer.held_of_run`: after every run the pool and the bench agree on
  who holds which transfer.
-/
import LogicCapture.Proofs.Pool.Run

namespace LogicCapture

namespace Analyzer

variable {τ S C : Type} [Transport τ (Handler StreamFormat)] [SampleSink S] [Scripted τ C]

/-- **What endures in the pool is stable in the analyzer**, if interfaces and the state that the
handlers share do not matter to it. -/
theorem stable_ofPool {P : Pool → Session τ (Feed S) → Prop}
    {Q : Pool → TransferId → Session τ (Feed S) → Prop} (h : Pool.Enduring P Q)
    (hclaim : ∀ {p s} interface, P p s →
      P p { s with transport := (Transport.claim s.transport interface).2 })
    (hrelease : ∀ {p s} interface, P p s →
      P p { s with transport := (Transport.release s.transport interface).2 })
    (hshared : ∀ {p s} shared, P p s → P p { s with host := { s.host with shared } }) :
    Stable fun a : Analyzer τ S => P a.pool a.session where
  exchange ha hrun := (h.kept _).execute ha hrun
  pass ms ha := h.pass ms ha
  context _ ha := ha
  allocate ha := h.allocate _ ha
  free ha := h.freeAll ha
  claim interface ha := hclaim interface ha
  release interface ha := hrelease interface ha
  phase _ ha := ha
  halt ha := hshared _ ha
  notify ha _ := hshared _ ha
  cancelAll ha := h.cancelAll ha
  begin ha _ hrun := armStreaming_induction (I := fun a : Analyzer τ S => P a.pool a.session)
    (fun ha => h.allocate _ ha) (fun ha => h.arm _ _ ha) (hshared _ ((h.kept _).execute ha hrun))

end Analyzer

/-! ### Analyzers on the bench -/

namespace Analyzer

variable {S : Type} [SampleSink S]

/-- An analyzer on the bench. -/
abbrev Benched (S : Type) := Analyzer (Bench (Handler StreamFormat)) S

/-- An analyzer on a new bench. -/
def onBench {S : Type} (settings : AcquisitionSettings) (sink : S) : Benched S :=
  new {} settings sink

/-- On the bench, only the transfers may matter: those in flight, those handed out and those taken
back. -/
theorem stable_ofBench {P : Pool → Session (Bench (Handler StreamFormat)) (Feed S) → Prop}
    {Q : Pool → TransferId → Session (Bench (Handler StreamFormat)) (Feed S) → Prop}
    (h : Pool.Enduring P Q)
    (hframe : ∀ {p s b} shared, P p s → b.inFlight = s.transport.inFlight →
      b.allocated = s.transport.allocated → b.freed = s.transport.freed →
      P p ⟨b, { s.host with shared }⟩) : Stable fun a : Benched S => P a.pool a.session := by
  refine stable_ofPool h ?_ ?_ fun shared hs => hframe shared hs rfl rfl rfl
  · intro p s interface hs
    have hclaim := Bench.claim_frame s.transport interface
    have hflight := congrArg Bench.inFlight hclaim
    have halloc := congrArg Bench.allocated hclaim
    have hfreed := congrArg Bench.freed hclaim
    exact hframe s.host.shared hs hflight halloc hfreed
  · intro p s interface hs
    have hrelease := Bench.release_frame s.transport interface
    have hflight := congrArg Bench.inFlight hrelease
    have halloc := congrArg Bench.allocated hrelease
    have hfreed := congrArg Bench.freed hrelease
    exact hframe s.host.shared hs hflight halloc hfreed

/-- **Custody of the pool is stable.** -/
theorem stable_held : Stable fun a : Benched S => a.pool.Held none a.session :=
  stable_ofBench Pool.enduring_held fun _ h hflight halloc _ =>
    h.congr (.of_eq (congrArg (List.map (·.badge)) hflight)) rfl halloc

/-- **After every run**, the pool and the bench agree on who holds which transfer. -/
theorem held_of_run {settings : AcquisitionSettings} {sink : S} {steps : List (Step Bench.Cue)}
    {a : Benched S} (hrun : run steps (new {} settings sink) = some a) :
    a.pool.Held none a.session :=
  stable_held.run (fun cue h => Pool.enduring_held.cue cue h) (Pool.Held.start _ {} rfl _) hrun

end Analyzer

end LogicCapture
