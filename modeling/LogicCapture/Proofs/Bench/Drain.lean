/-
Cancelled transfers leave the bench with the first event pass that completes anything.

* `Bench.mem_ready_of_settle`, `Bench.mem_pending_of_settle`: transfers that a pass completes, and
  transfers that it leaves in flight, whatever chunks there are;
* `Bench.inFlight_cancel`: a cancellation marks the transfer with its id;
* `Session.Draining`: all bulk transfers in flight are to be cancelled, and once the latest control
  transfer has been answered there are none;
* `Session.kept_ebbing`: no control transfer takes a cancellation back;
* `Session.drained_of_execute`: so there are none after a command that has succeeded.
-/
import LogicCapture.Proofs.Bench.Moves

namespace LogicCapture

variable {τ κ ω H : Type}

namespace Bench

/-! ### What settles -/

/-- A transfer that is to be cancelled settles whatever chunks there are. -/
lemma settle_of_cancelled {t : InFlight H} (h : t.cancelled = true) (queue : List Bytes) :
    settle t queue = (some (t, ⟨.cancelled, []⟩), queue) := by
  unfold settle
  rw [if_pos h]

lemma shape_of_settled {t : InFlight H} {queue : List Bytes} {e : InFlight H × Completion}
    (h : (settle t queue).1 = some e) : e.1.shape = t.shape :=
  shape_of_settle (Prod.ext h rfl)

/-- A transfer that settles whatever chunks there are is completed. -/
lemma mem_ready_of_settle {ts pending : List (InFlight H)} {chunks chunks' : List Bytes}
    {ready : List (InFlight H × Completion)} {t : InFlight H} {e : InFlight H × Completion}
    (h : settleAll ts chunks = (ready, pending, chunks')) (ht : t ∈ ts)
    (hsettle : ∀ queue, (settle t queue).1 = some e) : e ∈ ready := by
  obtain ⟨queue, hready, -⟩ := (settling_of_settleAll h).exists_turn ht
  exact hready e (hsettle queue)

/-- A transfer that settles with no chunks whatever stays in flight. -/
lemma mem_pending_of_settle {ts pending : List (InFlight H)} {chunks chunks' : List Bytes}
    {ready : List (InFlight H × Completion)} {t : InFlight H}
    (h : settleAll ts chunks = (ready, pending, chunks')) (ht : t ∈ ts)
    (hsettle : ∀ queue, (settle t queue).1 = none) : t ∈ pending := by
  obtain ⟨queue, -, hpending⟩ := (settling_of_settleAll h).exists_turn ht
  exact hpending (hsettle queue)

/-- If all are to be cancelled, all are completed so. -/
lemma settleAll_of_cancelled {ts : List (InFlight H)} (h : ∀ t ∈ ts, t.cancelled = true)
    (chunks : List Bytes) :
    settleAll ts chunks = (ts.map fun t => (t, ⟨.cancelled, []⟩), [], chunks) := by
  induction ts with
  | nil => rfl
  | cons t rest ih =>
      rw [settleAll, settle_of_cancelled (h t List.mem_cons_self)]
      dsimp only
      rw [ih fun t' ht' => h t' (List.mem_cons_of_mem _ ht')]
      rfl

/-! ### Cancellations -/

/-- The transfer, marked for cancellation if its id is one of these. -/
def InFlight.mark (ids : List TransferId) (t : InFlight H) : InFlight H :=
  if t.id ∈ ids then { t with cancelled := true } else t

@[simp] lemma InFlight.id_mark (ids : List TransferId) (t : InFlight H) :
    (t.mark ids).id = t.id := by
  rw [mark]
  split <;> rfl

lemma InFlight.mark_mark (ids ids' : List TransferId) (t : InFlight H) :
    (t.mark ids).mark ids' = t.mark (ids ++ ids') := by
  by_cases h : t.id ∈ ids <;> by_cases h' : t.id ∈ ids' <;> simp [mark, h, h']

lemma markCancelled_eq (id : TransferId) {ts : List (InFlight H)} (hids : (ts.map (·.id)).Nodup) :
    (markCancelled id ts).getD ts = ts.map (·.mark [id]) := by
  induction ts with
  | nil => rfl
  | cons t rest ih =>
      obtain ⟨hfresh, hrest⟩ := List.nodup_cons.mp hids
      have ih := ih hrest
      rw [markCancelled]
      split
      · rename_i hmarked
        -- no other transfer has this id
        have hother : rest.map (·.mark [id]) = rest := by
          refine (List.map_congr_left fun t' ht' => ?_).trans (List.map_id rest)
          have hne : t'.id ≠ id := fun heq =>
            hfresh (List.mem_map.mpr ⟨t', ht', heq.trans hmarked.1.symm⟩)
          simp [InFlight.mark, hne]
        rw [List.map_cons, hother]
        simp [InFlight.mark, hmarked.1]
      · rename_i hmarked
        have hsame : t.mark [id] = t := by
          by_cases hid : t.id = id
          · have hcancelled : t.cancelled = true := by simpa [hid] using hmarked
            rw [InFlight.mark, ← hcancelled]
            simp
          · simp [InFlight.mark, hid]
        rw [List.map_cons, hsame, ← ih]
        cases markCancelled id rest <;> rfl

/-- **A cancellation marks the transfer with its id.** -/
theorem inFlight_cancel {b : Bench H} (hids : (b.inFlight.map (·.id)).Nodup) (id : TransferId) :
    (b.cancel id).2.inFlight = b.inFlight.map (·.mark [id]) := by
  have hmark := markCancelled_eq id hids
  unfold cancel
  dsimp only
  split
  · rename_i hsome
    rwa [hsome] at hmark
  · rename_i hnone
    rwa [hnone] at hmark

end Bench

/-! ### Draining -/

namespace Session

/-- Every bulk transfer in flight is to be cancelled. -/
def Ebbing (s : Session (Bench (Handler κ)) ω) : Prop :=
  ∀ t ∈ s.transport.inFlight, t.kind.isBulk = true → t.cancelled = true

/-- No bulk transfer is in flight. -/
def Drained (s : Session (Bench (Handler κ)) ω) : Prop :=
  ∀ t ∈ s.transport.inFlight, t.kind.isBulk = false

/-- **The bulk transfers in flight are to be cancelled**, and once the latest control transfer has
been answered there are none. -/
structure Draining (s : Session (Bench (Handler κ)) ω) : Prop where
  ebbing : s.Ebbing
  drained : s.host.reply ≠ none → s.Drained

lemma Drained.ebbing {s : Session (Bench (Handler κ)) ω} (h : s.Drained) : s.Ebbing :=
  fun t ht hbulk => by simp [h t ht] at hbulk

variable [Consumer κ ω] {s s' : Session (Bench (Handler κ)) ω}

/-- A pass completes nothing, or every transfer that is to be cancelled. -/
lemma Draining.passed (h : s.Draining) (hpass : Passed s s') : s'.Draining := by
  rcases hpass.moves with ⟨hhost, hflight, -⟩ | ⟨ready, pending, hset, hsteps⟩
  · exact ⟨by rw [Ebbing, hflight]; exact h.ebbing,
      by rw [Drained, hhost, hflight]; exact h.drained⟩
  · have hsettling := Bench.settling_of_settleAll hset
    let R (l : Line κ ω) : Prop :=
      (∀ e ∈ l.ready, e.1.kind.isBulk = true → e.2.status = .cancelled) ∧
        ∀ t ∈ l.inFlight, t.kind.isBulk = false
    have hsettled : R ⟨ready, pending, s.host⟩ := by
      constructor
      · intro e he hbulk
        obtain ⟨t, ht, queue, hsettle⟩ := hsettling.ready_settled e he
        have hkind := (Bench.InFlight.shape_inj (Bench.shape_of_settled hsettle)).2.1
        rw [Bench.settle_of_cancelled (h.ebbing t ht (hkind ▸ hbulk))] at hsettle
        cases hsettle
        rfl
      · intro t ht
        obtain ⟨ht, queue, hsettle⟩ := hsettling.pending_settled t ht
        by_contra hbulk
        rw [Bench.settle_of_cancelled (h.ebbing t ht (by simpa using hbulk))] at hsettle
        cases hsettle
    have hdrained : R s'.line := by
      refine hsteps.induction (fun hstep hl => ?_) hsettled
      cases hstep with
      | ended _ => exact ⟨fun e he => hl.1 e (List.mem_cons_of_mem _ he), hl.2⟩
      | @rearmed t c rest inFlight host hhon =>
          refine ⟨fun e he => hl.1 e (List.mem_cons_of_mem _ he), fun t' ht' => ?_⟩
          rcases List.mem_append.mp ht' with ht' | ht'
          · exact hl.2 t' ht'
          · rw [List.mem_singleton.mp ht']
            -- a cancelled transfer is never armed again
            by_contra hbulk
            have hstatus := hl.1 (t, c) List.mem_cons_self (by simpa using hbulk)
            dsimp only at hstatus
            rw [hstatus, Rearm.honoured] at hhon
            simp [TransferStatus.allowsResubmit] at hhon
      | refused _ => exact ⟨fun e he => hl.1 e (List.mem_cons_of_mem _ he), hl.2⟩
    have hnone : s'.Drained := hdrained.2
    exact ⟨hnone.ebbing, fun _ => hnone⟩

lemma awaited_draining : Awaited fun _ (s : Session (Bench (Handler κ)) ω) => s.Draining where
  passed h := h.passed (passed_events _ _)
  cancelled {id s} h := by
    constructor
    · intro t' ht' hbulk
      rcases Bench.mem_of_mem_cancel ht' with ht | ⟨hcancelled, -⟩
      · exact h.ebbing t' ht hbulk
      · exact hcancelled
    · intro hreply t' ht'
      rcases Bench.mem_of_mem_cancel ht' with ht | ⟨-, t, ht, -, hkind, -⟩
      · exact h.drained hreply t' ht
      · exact hkind ▸ h.drained hreply t ht

omit [Consumer κ ω] in
/-- A control transfer may be submitted beside them. -/
lemma Ebbing.submitted {b b' : Bench (Handler κ)} {id : TransferId} {request : TransferRequest}
    {handler : Handler κ} (h : s.Ebbing) (halloc : s.transport.alloc = (.ok id, b))
    (hkind : request.kind = .control) (hsubmit : b.submit id request handler = (.ok (), b')) :
    (⟨b', s.host.expect⟩ : Session (Bench (Handler κ)) ω).Draining := by
  obtain ⟨-, rfl⟩ := Bench.alloc_ok halloc
  obtain ⟨-, controlLog, replies, reply, rfl⟩ := Bench.submit_ok hsubmit
  refine ⟨fun t ht hbulk => ?_, fun hno => absurd rfl hno⟩
  rcases List.mem_append.mp (show t ∈ _ ++ [_] from ht) with ht | ht
  · exact h t ht hbulk
  · rw [List.mem_singleton.mp ht] at hbulk
    have hcontrol : request.kind.isBulk = true := hbulk
    rw [hkind] at hcontrol
    cases hcontrol

/-- **No control transfer** puts another bulk transfer in flight, or takes a cancellation back. -/
lemma kept_ebbing : Kept Ebbing fun _ (s : Session (Bench (Handler κ)) ω) => s.Draining where
  toAwaited := awaited_draining
  unallocated {s error t} h halloc := by
    obtain rfl := Bench.alloc_error halloc
    exact h
  refused {s id t request error t'} h _ halloc _ hsubmit := by
    obtain ⟨-, rfl⟩ := Bench.alloc_ok halloc
    obtain ⟨controlLog, replies, rfl⟩ := Bench.submit_error hsubmit
    exact fun t ht => h t (List.mem_filter.mp ht).1
  submitted h _ halloc hkind hsubmit := h.submitted halloc hkind hsubmit
  freed h := fun t ht => h.ebbing t (List.mem_filter.mp ht).1

/-- **A control transfer that succeeds** leaves no cancelled transfer behind. -/
theorem drained_of_controlTransfer {request : UInt8} {value index : UInt16} {data : ControlData}
    {ms n : Nat} {result : ControlResult} (h : s.Ebbing)
    (hrun : s.controlTransfer request value index data ms = some (result, s'))
    (hok : result.result = .ok n) : s'.Drained := by
  obtain ⟨id, b, b', outcome, s₁, halloc, hsubmit, hwait, rfl, rfl⟩ :=
    controlTransfer_of_ok hrun hok
  obtain ⟨c, rfl, hstatus⟩ := status_of_conclude hok
  have hsent := h.submitted halloc rfl hsubmit
  have hend := awaited_draining.await hsent hwait
  have hanswered := hend.drained (by simp [reply_of_await hwait hstatus])
  exact fun t ht => hanswered t (List.mem_filter.mp ht).1

/-- **A command that succeeds** leaves no cancelled transfer behind. -/
theorem drained_of_execute {packet : CommandPacket} {response : Option Bytes} {ms n : Nat}
    {answer : CommandResult} (h : s.Ebbing)
    (hrun : s.execute packet response ms = some (answer, s')) (hok : answer.result = .ok n) :
    s'.Drained := by
  cases executes_of_execute hrun with
  | unsent => cases hok
  | sent hsend hsent => exact drained_of_controlTransfer h hsend hsent
  | read hsend hsent _ hread =>
      exact drained_of_controlTransfer (drained_of_controlTransfer h hsend hsent).ebbing hread hok

end Session

end LogicCapture
