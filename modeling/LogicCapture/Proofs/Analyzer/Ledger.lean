/-
Every transfer that the bench hands out to an analyzer is given back exactly once.

* `Analyzer.stable_balanced`: the ledger of transfers stays balanced in every operation;
* `Analyzer.dispose_eq_teardown`: a teardown leaves the pool nothing to give back;
* `Analyzer.returned_of_run`: between operations the outstanding transfers are those of the pool's
  slots, and after the analyzer's end there are none.
-/
import LogicCapture.Proofs.Analyzer.Custody
import LogicCapture.Proofs.Pool.Ledger

namespace LogicCapture

namespace Analyzer

variable {S : Type} [SampleSink S]

/-- **The balance of the ledger is stable.** -/
theorem stable_balanced : Stable fun a : Benched S => a.pool.Balanced none a.session :=
  stable_ofBench Pool.enduring_balanced fun _ h _ halloc hfreed => h.congr halloc hfreed

lemma balanced_of_run {settings : AcquisitionSettings} {sink : S} {steps : List (Step Bench.Cue)}
    {a : Benched S} (hrun : run steps (new {} settings sink) = some a) :
    a.pool.Balanced none a.session := by
  have hstart : Pool.Balanced (κ := StreamFormat) (.empty settings.transferBufferSize) none
      (.start {} ({ sink } : Feed S)) := List.Perm.refl []
  exact stable_balanced.run (fun cue h => Pool.enduring_balanced.cue cue h) hstart hrun

/-- An analyzer ends with its teardown: its pool has no slots then, and nothing left to give
back. -/
lemma dispose_eq_teardown {τ : Type} [Transport τ (Handler StreamFormat)] (a : Analyzer τ S) :
    a.dispose = a.teardown := rfl

/-- **Every transfer is given back exactly once.**  Between the operations of a run, whatever
fails in them, the transfers handed out and not yet given back are those of the pool's slots;
after the analyzer's end each of them has been given back once, nothing else has, and nothing is
in flight. -/
theorem returned_of_run {settings : AcquisitionSettings} {sink : S} {steps : List (Step Bench.Cue)}
    {a : Benched S} (hrun : run steps (new {} settings sink) = some a) :
    (∀ id, id ∈ a.session.transport.handedOut ∧ id ∉ a.session.transport.freed ↔
      ∃ slot ∈ a.pool.slots, slot.transfer = id) ∧
    (∀ id, a.dispose.session.transport.freed.count id =
      if id ∈ a.dispose.session.transport.handedOut then 1 else 0) ∧
    a.dispose.session.transport.inFlight = [] := by
  rw [dispose_eq_teardown]
  have hbalanced := balanced_of_run hrun
  have hended := stable_balanced.teardown hbalanced
  have hheld := stable_held.teardown (held_of_run hrun)
  have hslots : a.teardown.pool.slots = [] := rfl
  exact ⟨hbalanced.outstanding_iff, hended.count_freed hslots,
    hheld.inFlight_eq_nil (by simp [hslots])⟩

/-- An allocation that fails half way, an acquisition, a resubmission that is refused, and a
command during which event processing fails. -/
def manyFailures : List (Step Bench.Cue) :=
  [.cue (.failAlloc 1), .call .allocate, .cue (.failAlloc 9),
    .cue (.response [64, 66, 15, 0, 0, 0, 0, 0, 0x82]), .call .acquire,
    .cue (.failSubmit 5 .pipe), .cue (.chunk [1]), .call (.poll 10),
    .cue (.event (.fail .io)), .call .version]

theorem returned_manyFailures :
    ∃ a : Benched Discard,
      run manyFailures (new {} { transferPoolSize := 2, transferBufferSize := 2 } ⟨⟩) = some a ∧
      a.session.transport.freed = [0, 1, 2, 3, 6] ∧
      a.dispose.session.transport.freed = [0, 1, 2, 3, 6, 4, 5] ∧
      (∀ id, id ∈ a.session.transport.handedOut ∧ id ∉ a.session.transport.freed ↔
        ∃ slot ∈ a.pool.slots, slot.transfer = id) ∧
      a.dispose.session.transport.inFlight = [] := by
  have hfreed : (run manyFailures (new (τ := Bench (Handler StreamFormat)) {}
      { transferPoolSize := 2, transferBufferSize := 2 } (⟨⟩ : Discard))).map
        (fun a => (a.session.transport.freed, a.dispose.session.transport.freed)) =
      some ([0, 1, 2, 3, 6], [0, 1, 2, 3, 6, 4, 5]) := by
    decide +kernel
  obtain ⟨a, hrun, hfreed⟩ := Option.map_eq_some_iff.mp hfreed
  obtain ⟨hbetween, hend⟩ := Prod.mk.inj hfreed
  have hreturned := returned_of_run hrun
  exact ⟨a, hrun, hbetween, hend, hreturned.1, hreturned.2.2⟩

end Analyzer

end LogicCapture
