/-
A cancellation that succeeds leaves nothing behind, and lets no sample through.

* `Pool.inFlight_cancelSlots`, `Pool.Held.ebbing_cancelAll`: cancelling the slots of a pool marks
  every bulk transfer in flight;
* `Analyzer.drained_of_cancel`: after a cancellation that has succeeded, no bulk transfer is in
  flight and no slot is armed, and the sink has been told of the end and nothing else.
-/
import LogicCapture.Proofs.Analyzer.Custody
import LogicCapture.Proofs.Bench.Drain
import LogicCapture.Proofs.Stream.Shut

namespace LogicCapture

variable {τ κ ω S : Type}

/-! ### Cancelling the slots of a pool -/

namespace Pool

/-- **Cancelling slots** marks the transfers of those that are armed. -/
lemma inFlight_cancelSlots (host : Host ω) (slots : List Slot) (result : Except UsbError Unit)
    {b : Bench (Handler κ)} (hids : (b.inFlight.map (·.id)).Nodup) :
    (cancelSlots host slots result b).2.inFlight = b.inFlight.map
      (·.mark ((slots.filter fun slot => host.isArmed slot.key).map (·.transfer))) := by
  induction slots generalizing result b with
  | nil =>
      have hnone (t : Bench.InFlight (Handler κ)) : t.mark [] = t := by simp [Bench.InFlight.mark]
      simp [cancelSlots, hnone]
  | cons slot rest ih =>
      rw [cancelSlots]
      split
      · rename_i harmed
        -- a mark does not change ids, so the rest is cancelled as the induction says
        have hmarked := Bench.inFlight_cancel hids slot.transfer
        have hids' : ((b.cancel slot.transfer).2.inFlight.map (·.id)).Nodup := by
          rw [hmarked, List.map_map]
          simpa [Function.comp_def] using hids
        have hboth : (b.cancel slot.transfer).2.inFlight.map
            (·.mark ((rest.filter fun slot => host.isArmed slot.key).map (·.transfer))) =
          b.inFlight.map (·.mark (((slot :: rest).filter fun slot => host.isArmed slot.key).map
            (·.transfer))) := by
          rw [hmarked, List.map_map,
            List.filter_cons_of_pos (p := fun slot : Slot => host.isArmed slot.key) harmed]
          exact List.map_congr_left fun t _ => t.mark_mark _ _
        have hcancel : (Transport.cancel b slot.transfer : Except UsbError Unit ×
          Bench (Handler κ)) = b.cancel slot.transfer := rfl
        rw [hcancel]
        rcases hrun : b.cancel slot.transfer with ⟨answer, b'⟩
        rw [hrun] at hids' hboth
        cases answer <;> exact (ih _ hids').trans hboth
      · rename_i hidle
        rw [List.filter_cons_of_neg (p := fun slot : Slot => host.isArmed slot.key) hidle]
        exact ih _ hids

/-- **Cancelling the pool** marks every bulk transfer in flight: each of them is an armed slot's. -/
theorem Held.ebbing_cancelAll {p : Pool} {s : Session (Bench (Handler κ)) ω} (h : p.Held none s) :
    (p.cancelAll s).2.Ebbing := by
  intro t' ht' _
  have hmarked : (p.cancelAll s).2.transport.inFlight = _ :=
    inFlight_cancelSlots s.host p.slots (.ok ()) h.custody.ids
  rw [hmarked] at ht'
  obtain ⟨t, ht, rfl⟩ := List.mem_map.mp ht'
  obtain ⟨slot, hc⟩ := h.custody.carried ht
  have harmed : slot.key ∈ s.host.armed := (h.custody.armed_iff slot hc.mem).mpr ⟨t, ht, hc.id_eq⟩
  have hid : t.id ∈ (p.slots.filter fun slot => s.host.isArmed slot.key).map (·.transfer) :=
    List.mem_map.mpr ⟨slot, List.mem_filter.mpr ⟨hc.mem, Host.isArmed_iff.mpr harmed⟩,
      hc.id_eq.symm⟩
  rw [Bench.InFlight.mark, if_pos hid]

/-- A pool without bulk transfers in flight has no armed slots. -/
lemma Held.idle_of_drained {p : Pool} {s : Session (Bench (Handler κ)) ω} (h : p.Held none s)
    (hdrained : s.Drained) : s.transport.inFlight = [] ∧ p.armedCount s.host = 0 := by
  have hnone : s.transport.inFlight = [] := by
    rw [← h.custody.filter_isBulk]
    exact List.filter_eq_nil_iff.mpr fun t ht => by simp [hdrained t ht]
  refine ⟨hnone, ?_⟩
  rw [h.custody.armedCount_eq_length, hnone]
  rfl

end Pool

/-! ### Stop and cancel -/

namespace Analyzer

section
variable [Transport τ (Handler StreamFormat)] [SampleSink S]

/-- The analyzer with the cancellation of its armed slots requested. -/
def cancelling (a : Analyzer τ S) : Analyzer τ S :=
  { a with session := (a.pool.cancelAll a.session).2 }

lemma cancel_eq_stop (a : Analyzer τ S) : a.cancel = a.cancelling.stop := rfl

end

variable [SampleSink S]

omit [SampleSink S] in
/-- The stop command of a cancellation finds every bulk transfer in flight marked. -/
lemma ebbing_cancelling {a : Benched S} (h : a.pool.Held none a.session) :
    a.cancelling.halted.Ebbing := by
  have hflight := congrArg Bench.inFlight
    (Bench.release_frame a.cancelling.session.transport Protocol.streamingInterface)
  intro t ht
  exact h.ebbing_cancelAll t (hflight ▸ ht)

/-- It finds the pool in custody of its slots. -/
lemma held_cancelling {a : Benched S} (h : a.pool.Held none a.session) :
    a.pool.Held none a.cancelling.halted :=
  stable_held.release Protocol.streamingInterface (stable_held.halt (stable_held.cancelAll h))

/-- After a cancellation that has succeeded, nothing is in flight and no slot is armed. -/
lemma idle_of_cancel {a b : Benched S} (hheld : a.pool.Held none a.session)
    (hcancel : a.cancel = some (.ok (), b)) :
    b.session.transport.inFlight = [] ∧ b.armedCount = 0 := by
  have hafter : b.pool.Held none b.session := stable_held.cancel hheld hcancel
  rw [cancel_eq_stop] at hcancel
  obtain ⟨answer, session, hex, hanswer, rfl⟩ := stop_eq_some.mp hcancel
  obtain ⟨n, hok⟩ : ∃ n, answer.result = .ok n := by
    cases hresult : answer.result with
    | error error => rw [hresult] at hanswer; cases hanswer
    | ok n => exact ⟨n, rfl⟩
  have hdrained : session.Drained := Session.drained_of_execute (ebbing_cancelling hheld) hex hok
  exact hafter.idle_of_drained hdrained

/-- **A cancellation that succeeds** leaves no bulk transfer in flight and no slot armed; the
analyzer is idle, its stream does not run, its pool has the slots that it had, and the sink has
only been told of the end. -/
theorem drained_of_cancel {settings : AcquisitionSettings} {sink : S}
    {steps : List (Step Bench.Cue)} {a b : Benched S}
    (hrun : run steps (new {} settings sink) = some a) (hcancel : a.cancel = some (.ok (), b)) :
    b.session.transport.bulkInFlight = 0 ∧ b.armedCount = 0 ∧ b.phase = .idle ∧
      b.feed.running = false ∧ b.pool = a.pool ∧ b.feed.sink = SampleSink.stopped a.feed.sink := by
  obtain ⟨hnone, hidle⟩ := idle_of_cancel (held_of_run hrun) hcancel
  -- the stream has been halted before the first completion of the stop command can come
  have hshut := shut_of_cancel hcancel
  rw [cancel_eq_stop] at hcancel
  obtain ⟨_, _, -, -, rfl⟩ := stop_eq_some.mp hcancel
  exact ⟨by rw [Bench.bulkInFlight, hnone]; rfl, hidle, rfl, hshut.off, rfl, hshut.sink_eq⟩

/-- An acquisition whose cancellation fails: the cancellations have been requested, but no event
has been processed, and a chunk is queued. -/
def failedCancel : List (Step Bench.Cue) :=
  [.cue (.response [64, 66, 15, 0, 0, 0, 0, 0, 0x82]), .call .acquire, .cue (.chunk [1]),
    .cue (.event (.fail .io)), .call .cancel]

theorem drained_failedCancel :
    ∃ a b : Benched SinkTrace,
      run failedCancel (new {} { transferPoolSize := 2, transferBufferSize := 2 } {}) = some a ∧
      a.cancel = some (.ok (), b) ∧
      a.session.transport.inFlight.map (·.cancelled) = [true, true] ∧ a.armedCount = 2 ∧
      b.session.transport.bulkInFlight = 0 ∧ b.armedCount = 0 ∧ b.phase = .idle ∧
      b.feed.running = false ∧ b.pool = a.pool ∧ b.feed.sink = SampleSink.stopped a.feed.sink := by
  have hend : (run failedCancel (new (τ := Bench (Handler StreamFormat)) {}
      { transferPoolSize := 2, transferBufferSize := 2 } ({} : SinkTrace))).map (fun a =>
        (a.session.transport.inFlight.map (·.cancelled), a.armedCount,
          a.cancel.map (·.1.toOption))) = some ([true, true], 2, some (some ())) := by
    decide +kernel
  obtain ⟨a, hrun, hend⟩ := Option.map_eq_some_iff.mp hend
  obtain ⟨hmarked, hend⟩ := Prod.mk.inj hend
  obtain ⟨harmed, hend⟩ := Prod.mk.inj hend
  obtain ⟨⟨result, b⟩, hcancel, hok⟩ := Option.map_eq_some_iff.mp hend
  cases result with
  | error error => cases hok
  | ok _ => exact ⟨a, b, hrun, hcancel, hmarked, harmed, drained_of_cancel hrun hcancel⟩

end Analyzer

end LogicCapture
