/-
How a control transfer behaves towards its transport, whatever the transport does.

* `Session.Rejects`: the device is not there, or the data stage cannot travel;
* `Session.controlTransferGranted`: a control transfer whose buffer is granted or denied;
* `Transport.Waiting`: the calls made while a transfer is waited for, and what comes of it;
* `Session.Conduct`: the calls of a whole control transfer, exit by exit;
* `Session.conduct_of_controlTransfer`: every control transfer takes one of these exits;
* `Session.Disciplined`: one transfer at most, given back once and last, submitted and cancelled
  once at most, and a buffer that only a completion writes to;
* `Session.controlTransfer_disciplined`: every control transfer is disciplined.
-/
import LogicCapture.Proofs.Session.Exchange
import LogicCapture.Proofs.Session.Transcript
import LogicCapture.Proofs.Trace
import LogicCapture.Usb.Bench
import LogicCapture.Usb.Recorder

namespace LogicCapture

variable {τ κ ω : Type}

/-! ### Waiting -/

namespace Transport

/-- **The calls made while a transfer is waited for**, and what comes of it. -/
inductive Waiting (id : TransferId) (ticket : Nat) :
    List (Call (Handler κ)) → Except UsbError Completion → Prop where
  /-- Its completion is reported. -/
  | answered {passes c} : (∀ call ∈ passes, call.Idle) → (reported ticket passes).head? = some c →
      Waiting id ticket passes (.ok c)
  /-- Its handler is lost. -/
  | lost {passes} : (∀ call ∈ passes, call.Idle) → reported ticket passes = [] →
      Waiting id ticket passes (.error Session.droppedTransfer)
  /-- The device goes away. -/
  | gone {passes} : (∀ call ∈ passes, call.Idle) → reported ticket passes = [] →
      Waiting id ticket passes (.ok ⟨.noDevice, []⟩)
  /-- An event pass fails, and the transfer is cancelled. -/
  | failed {passes handled error answer} : (∀ call ∈ passes, call.Idle) →
      reported ticket passes = [] → error.isTransient = false →
      Waiting id ticket
        (passes ++ [.events Session.waitPassMs handled (.error error), .cancel id answer])
        (.error error)

end Transport

namespace Session

variable [Transport τ (Handler κ)] [Consumer κ ω]

open Transport

/-- **Every waiting ends in one of these ways**: as long as it goes on, what has been reported is
the reply. -/
lemma waiting_of_await {id : TransferId} {n : Nat} {w w' : Session (Transcribed τ (Handler κ)) ω}
    {outcome : Except UsbError Completion} {before passes : List (Call (Handler κ))}
    (hcalls : w.transport.transcript = before ++ passes) (hidle : ∀ call ∈ passes, call.Idle)
    (hreply : w.host.reply = (reported w.host.ticket passes).head?)
    (hrun : await id n w = some (outcome, w')) :
    ∃ calls, w'.transport.transcript = before ++ calls ∧
      Waiting id w.host.ticket calls outcome := by
  induction n generalizing w passes with
  | zero => cases hrun
  | succ n ih =>
      rw [await] at hrun
      split at hrun
      · rename_i hsome
        cases hrun
        exact ⟨passes, hcalls, .answered hidle (hreply.symm.trans hsome)⟩
      · rename_i hnone
        have hsilent : reported w.host.ticket passes = [] :=
          List.head?_eq_none_iff.mp (hreply.symm.trans hnone)
        split at hrun
        · cases hrun
          exact ⟨passes, hcalls, .lost hidle hsilent⟩
        · split at hrun
          · cases hrun
            exact ⟨passes, hcalls, .gone hidle hsilent⟩
          · obtain ⟨handled, hpass, hticket, hafter⟩ := w.events_transcript waitPassMs
            -- a pass that does not end the waiting is one more idle pass
            have hon : (Call.events waitPassMs handled (w.events waitPassMs).1).Idle →
                await id n (w.events waitPassMs).2 = some (outcome, w') →
                ∃ calls, w'.transport.transcript = before ++ calls ∧
                  Waiting id w.host.ticket calls outcome := by
              intro hnext hrest
              have hlonger : (w.events waitPassMs).2.transport.transcript =
                  before ++ (passes ++ [.events waitPassMs handled (w.events waitPassMs).1]) := by
                rw [hpass, hcalls, List.append_assoc]
              have hmore := ih hlonger
                (fun call hcall => (List.mem_append.mp hcall).elim (hidle call)
                  fun h => List.mem_singleton.mp h ▸ hnext)
                (by rw [hticket, reported_concat, hsilent, hafter, hnone]; rfl) hrest
              rwa [hticket] at hmore
            split at hrun
            · rename_i hev
              rw [hev] at hon
              exact hon .ok hrun
            · rename_i error w₁ hev
              rw [hev] at hon hpass
              split at hrun
              · rename_i htransient
                exact hon (.interrupted htransient) hrun
              · rename_i hfatal
                obtain ⟨answer, hcancel⟩ := w₁.transport.transcript_cancel id
                cases hrun
                refine ⟨passes ++ [.events waitPassMs handled (.error error), .cancel id answer],
                  ?_, .failed hidle hsilent (by simpa using hfatal)⟩
                refine hcancel.trans ?_
                rw [hpass, hcalls]
                simp only [List.append_assoc, List.cons_append, List.nil_append]

/-! ### Whole transfers -/

/-- The arguments of a control transfer are rejected: the device is not there, the data stage is too
long, or there is no room for what the device is to send. -/
def Rejects (s : Session τ ω) (data : ControlData) : Prop :=
  attached s.transport = false ∨ UInt16.size ≤ data.length ∨
    (data.direction = .toHost ∧ data.isEmpty = true)

instance (s : Session τ ω) (data : ControlData) : Decidable (s.Rejects data) :=
  inferInstanceAs (Decidable (_ ∨ _ ∨ _))

/-- A control transfer whose buffer is granted or denied; what is rejected needs none. -/
def controlTransferGranted (granted : Bool) (s : Session τ ω) (request : UInt8)
    (value index : UInt16) (data : ControlData) (timeoutMs : Nat) :
    Option (ControlResult × Session τ ω) :=
  if granted ∨ s.Rejects data then s.controlTransfer request value index data timeoutMs
  else some (⟨.error .noMemory, data.bytes⟩, s)

/-- A control transfer is one whose buffer is granted. -/
lemma controlTransfer_eq_granted (s : Session τ ω) (request : UInt8) (value index : UInt16)
    (data : ControlData) (ms : Nat) : s.controlTransfer request value index data ms =
      s.controlTransferGranted true request value index data ms := by
  rw [controlTransferGranted, if_pos (Or.inl rfl)]

lemma controlTransferGranted_mapTransport {τ' : Type} [Transport τ' (Handler κ)] {bare : τ' → τ}
    (h : Covers bare) (s : Session τ' ω) (granted : Bool) (request : UInt8) (value index : UInt16)
    (data : ControlData) (ms : Nat) :
    (s.mapTransport bare).controlTransferGranted granted request value index data ms =
      (s.controlTransferGranted granted request value index data ms).map
        (Prod.map id (mapTransport bare)) := by
  have hrejects : (s.mapTransport bare).Rejects data ↔ s.Rejects data := by
    rw [Rejects, Rejects, mapTransport, h.attached]
  simp only [controlTransferGranted, controlTransfer_mapTransport h, hrejects]
  split <;> rfl

/-- **The calls of a control transfer**, exit by exit. -/
inductive Conduct (s : Session τ ω) (data : ControlData) (sought : TransferRequest) :
    ControlResult → List (Call (Handler κ)) → Prop where
  /-- The arguments are rejected. -/
  | refused : s.Rejects data → Conduct s data sought ⟨.error .invalidParam, data.bytes⟩ []
  /-- There is no memory for the buffer. -/
  | denied : ¬ s.Rejects data → Conduct s data sought ⟨.error .noMemory, data.bytes⟩ []
  /-- No transfer is handed out. -/
  | unallocated {error} : ¬ s.Rejects data →
      Conduct s data sought ⟨.error error, data.bytes⟩ [.alloc (.error error)]
  /-- The submission is refused. -/
  | unsubmitted {id error} : ¬ s.Rejects data →
      Conduct s data sought ⟨.error error, data.bytes⟩ [.alloc (.ok id),
        .submit id sought (.control s.host.expect.ticket) (.error error), .free id]
  /-- The transfer is submitted and waited for. -/
  | awaited {id calls outcome} : ¬ s.Rejects data →
      Waiting id s.host.expect.ticket calls outcome →
      Conduct s data sought (conclude data outcome) (.alloc (.ok id) ::
        .submit id sought (.control s.host.expect.ticket) (.ok ()) :: calls ++ [.free id])

/-- **Every control transfer takes one of these exits.** -/
theorem conduct_of_controlTransfer {granted : Bool}
    {w w' : Session (Transcribed τ (Handler κ)) ω} {request : UInt8} {value index : UInt16}
    {data : ControlData} {ms : Nat} {result : ControlResult}
    (hrun : w.controlTransferGranted granted request value index data ms = some (result, w')) :
    ∃ calls, w'.transport.transcript = w.transport.transcript ++ calls ∧
      w.bare.Conduct data
        ⟨.control, controlBuffer (vendorSetup request value index data) data, ms⟩ result calls := by
  rw [controlTransferGranted] at hrun
  split at hrun
  · by_cases hreject : w.Rejects data
    · rw [controlTransfer, if_pos (hreject.imp_left fun hgone => by rw [hgone]; rfl)] at hrun
      cases hrun
      exact ⟨[], (List.append_nil _).symm, .refused hreject⟩
    rw [controlTransfer, if_neg fun h => hreject (h.imp_left fun hgone => by simpa using hgone)]
      at hrun
    split at hrun
    · rename_i halloc
      cases hrun
      exact ⟨_, Transcribed.transcript_alloc halloc, .unallocated hreject⟩
    · rename_i id t halloc
      have hbefore := Transcribed.transcript_alloc halloc
      dsimp only at hrun
      split at hrun
      · rename_i hsubmit
        cases hrun
        refine ⟨_ :: [_, .free id], ?_, .unsubmitted hreject⟩
        rw [Transcribed.transcript_free, Transcribed.transcript_submit hsubmit, hbefore]
        simp only [List.append_assoc, List.cons_append, List.nil_append]
        rfl
      · rename_i hsubmit
        simp only [Option.bind_eq_bind, Option.bind_eq_some_iff] at hrun
        obtain ⟨⟨outcome, w₁⟩, hwait, hend⟩ := hrun
        cases hend
        obtain ⟨calls, hcalls, hwaiting⟩ := waiting_of_await (List.append_nil _).symm
          (fun _ h => absurd h List.not_mem_nil) rfl hwait
        refine ⟨_, ?_, .awaited hreject hwaiting⟩
        rw [Transcribed.transcript_free, hcalls, Transcribed.transcript_submit hsubmit, hbefore]
        simp only [List.append_assoc, List.cons_append, List.nil_append]
        rfl
  · rename_i hdenied
    cases hrun
    exact ⟨[], (List.append_nil _).symm, .denied fun h => hdenied (Or.inr h)⟩

/-! ### Discipline -/

/-- Only what has been handed out, and has not been given back since, is used. -/
def Leased : List (Call (Handler κ)) → Call (Handler κ) → Prop := fun before call =>
  ∀ id, call.subject? = some id →
    id ∈ before.filterMap Call.handedOut? ∧ id ∉ before.filterMap Call.takenBack?

/-- A transfer is only cancelled directly after an event pass that has failed, and this failure is
what is returned. -/
def Excused (result : Except UsbError Nat) : List (Call (Handler κ)) → Call (Handler κ) → Prop :=
  fun before call => call.isCancel = true → ∃ earlier ms handled error,
    before = earlier ++ [.events ms handled (.error error)] ∧ error.isTransient = false ∧
      result = .error error

/-- **The discipline of a control transfer**, towards its transport and towards the caller's
buffer. -/
structure Disciplined (s : Session τ ω) (data : ControlData) (result : ControlResult)
    (calls : List (Call (Handler κ))) : Prop where
  /-- One transfer at most is asked for. -/
  asked : calls.countP Call.isAlloc ≤ 1
  /-- What has been handed out is given back, and nothing else is. -/
  returned : calls.filterMap Call.takenBack? = calls.filterMap Call.handedOut?
  /-- Nothing is used before it has been handed out or after it has been given back. -/
  leased : Historic Leased calls
  submitted : (submissions calls).length ≤ 1
  cancelled : calls.countP Call.isCancel ≤ 1
  excused : Historic (Excused result.result) calls
  /-- Rejected arguments lead to no call. -/
  rejected : s.Rejects data → result.result = .error .invalidParam ∧ calls = []
  /-- A failure leaves the caller's bytes as they were. -/
  unchanged : ∀ error, result.result = .error error → result.bytes = data.bytes
  /-- A success has copied as much of the first reported completion as there is room for. -/
  received : ∀ buffer n, data = .receive buffer → result.result = .ok n →
    ∃ id request ticket c, .submit id request (.control ticket) (.ok ()) ∈ calls ∧
      (reported ticket calls).head? = some c ∧ c.status = .completed ∧
      n = min c.data.length buffer.length ∧ result.bytes = c.data.take n ++ buffer.drop n

/-- A call that is made while a transfer is waited for. -/
inductive Attends (id : TransferId) : Call (Handler κ) → Prop where
  | events {ms handled answer} : Attends id (.events ms handled answer)
  | cancel {answer} : Attends id (.cancel id answer)

namespace Attends

variable {id : TransferId} {calls : List (Call (Handler κ))}

lemma filterMap {α : Type} (h : ∀ call ∈ calls, Attends id call) {f : Call (Handler κ) → Option α}
    (hf : ∀ {call}, Attends id call → f call = none) : calls.filterMap f = [] :=
  List.filterMap_eq_nil_iff.mpr fun call hcall => hf (h call hcall)

/-- Between its handing out and its return, a transfer may be used. -/
lemma leased (h : ∀ call ∈ calls, Attends id call) {request : TransferRequest}
    {handler : Handler κ} {answer : Except UsbError Unit} : Historic Leased
      (.alloc (.ok id) :: .submit id request handler answer :: calls ++ [.free id]) := by
  intro before call after heq id' hsubject
  rcases before with _ | ⟨first, _ | ⟨second, before⟩⟩ <;>
    simp only [List.cons_append, List.nil_append, List.cons.injEq] at heq
  · obtain ⟨rfl, -⟩ := heq
    cases hsubject
  · obtain ⟨rfl, rfl, -⟩ := heq
    cases hsubject
    exact ⟨List.mem_singleton_self _, List.not_mem_nil⟩
  · obtain ⟨rfl, rfl, hrest⟩ := heq
    have hown : id' = id ∧ ∀ call ∈ before, Attends id call := by
      rcases split_of_concat_eq hrest with ⟨rfl, rfl⟩ | ⟨after', rfl⟩
      · exact ⟨(Option.some.inj hsubject).symm, h⟩
      · refine ⟨?_, fun call hcall => h call (List.mem_append_left _ hcall)⟩
        cases h call (by simp) <;> cases hsubject
        rfl
    obtain ⟨rfl, hbefore⟩ := hown
    refine ⟨List.mem_cons_self, ?_⟩
    rw [List.filterMap_cons_none rfl, List.filterMap_cons_none rfl,
      filterMap hbefore fun hcall => by cases hcall <;> rfl]
    exact List.not_mem_nil

end Attends

section Waiting

variable {id : TransferId} {ticket : Nat} {calls : List (Call (Handler κ))}
  {outcome : Except UsbError Completion}

omit [Transport τ (Handler κ)] [Consumer κ ω] in
lemma attends_of_idle {call : Call (Handler κ)} (h : call.Idle) : Attends id call := by
  cases h <;> exact .events

lemma attends_of_waiting (h : Waiting id ticket calls outcome) :
    ∀ call ∈ calls, Attends id call := by
  cases h with
  | answered hidle | lost hidle | gone hidle =>
      exact fun call hcall => attends_of_idle (hidle call hcall)
  | failed hidle =>
      intro call hcall
      rcases List.mem_append.mp hcall with hcall | hcall
      · exact attends_of_idle (hidle call hcall)
      · rcases List.mem_pair.mp hcall with rfl | rfl
        · exact .events
        · exact .cancel

lemma countP_cancel_of_idle (h : ∀ call ∈ calls, call.Idle) : calls.countP Call.isCancel = 0 :=
  List.countP_eq_zero.mpr fun call hcall => by cases h call hcall <;> exact Bool.false_ne_true

/-- Whoever waits cancels once at most. -/
lemma countP_cancel_of_waiting (h : Waiting id ticket calls outcome) :
    calls.countP Call.isCancel ≤ 1 := by
  cases h with
  | answered hidle | lost hidle | gone hidle =>
      rw [countP_cancel_of_idle hidle]
      exact Nat.zero_le 1
  | failed hidle =>
      rw [List.countP_append, countP_cancel_of_idle hidle]
      exact Nat.le_refl 1

/-- Without a cancellation there is nothing to excuse. -/
lemma excused_of_ne {result : Except UsbError Nat} {call : Call (Handler κ)}
    (h : call.isCancel = false) (before : List (Call (Handler κ))) : Excused result before call :=
  fun hcancel => absurd (h.symm.trans hcancel) Bool.false_ne_true

/-- Whoever waits only cancels when an event pass has failed. -/
lemma excused_of_waiting (h : Waiting id ticket calls outcome) (data : ControlData)
    {first : List (Call (Handler κ))} (hfirst : ∀ call ∈ first, call.isCancel = false) :
    Historic (Excused (conclude data outcome).result) (first ++ calls) := by
  have hidle {passes : List (Call (Handler κ))} (hpasses : ∀ call ∈ passes, call.Idle) :
      Historic (Excused (conclude data outcome).result) (first ++ passes) :=
    (Historic.nil.append fun call hcall => excused_of_ne (hfirst call hcall)).append
      fun call hcall => excused_of_ne (by cases hpasses call hcall <;> rfl)
  cases h with
  | answered hpasses | lost hpasses | gone hpasses => exact hidle hpasses
  | failed hpasses _ hfatal =>
      rw [List.append_cons, ← List.append_assoc, ← List.append_assoc]
      exact ((hidle hpasses).concat (excused_of_ne rfl _)).concat fun _ =>
        ⟨_, _, _, _, rfl, hfatal, rfl⟩

end Waiting

/-- The front of a buffer is overwritten as far as the buffer and the data reach. -/
lemma overwrite_front (buffer data : Bytes) : overwrite buffer 0 data =
    data.take (min data.length buffer.length) ++ buffer.drop (min data.length buffer.length) := by
  rw [overwrite]
  simp only [List.take_zero, List.drop_zero, List.nil_append, List.length_take]
  rw [List.take_eq_take_min, Nat.min_comm]

/-- A success in receiving has been reported. -/
lemma received_of_waiting {id : TransferId} {ticket : Nat} {calls : List (Call (Handler κ))}
    {outcome : Except UsbError Completion} (h : Waiting id ticket calls outcome)
    {buffer : Bytes} {n : Nat} (hok : (conclude (.receive buffer) outcome).result = .ok n) :
    ∃ c, (reported ticket calls).head? = some c ∧ c.status = .completed ∧
      n = min c.data.length buffer.length ∧
      (conclude (.receive buffer) outcome).bytes = c.data.take n ++ buffer.drop n := by
  obtain ⟨c, rfl, hstatus⟩ := status_of_conclude hok
  cases h with
  | gone => cases hstatus
  | answered _ hreported =>
      obtain ⟨status, bytes⟩ := c
      cases status <;> cases hstatus
      cases hok
      exact ⟨_, hreported, rfl, rfl, overwrite_front buffer bytes⟩

omit [Consumer κ ω] in
/-- Where no transfer is handed out, there is nothing to be given back. -/
lemma disciplined_of_unallocated {s : Session τ ω} {data : ControlData} {error : UsbError}
    {calls : List (Call (Handler κ))}
    (hcalls : calls = [] ∨ ∃ cause, calls = [.alloc (.error cause)])
    (hreject : s.Rejects data → error = .invalidParam ∧ calls = []) :
    s.Disciplined data ⟨.error error, data.bytes⟩ calls where
  asked := by rcases hcalls with rfl | ⟨cause, rfl⟩ <;> exact Nat.le_of_ble_eq_true rfl
  returned := by rcases hcalls with rfl | ⟨cause, rfl⟩ <;> rfl
  leased := by
    rcases hcalls with rfl | ⟨cause, rfl⟩
    · exact Historic.nil
    · exact Historic.nil.concat fun _ hsubject => by cases hsubject
  submitted := by rcases hcalls with rfl | ⟨cause, rfl⟩ <;> exact Nat.zero_le 1
  cancelled := by rcases hcalls with rfl | ⟨cause, rfl⟩ <;> exact Nat.zero_le 1
  excused := by
    rcases hcalls with rfl | ⟨cause, rfl⟩
    · exact Historic.nil
    · exact Historic.nil.concat (excused_of_ne rfl _)
  rejected h := ⟨congrArg Except.error (hreject h).1, (hreject h).2⟩
  unchanged _ _ := rfl
  received _ _ _ hok := by cases hok

omit [Consumer κ ω] in
/-- Where one is handed out, it is submitted, perhaps waited for, and given back. -/
lemma disciplined_of_allocated {s : Session τ ω} {data : ControlData} {result : ControlResult}
    {id : TransferId} {sought : TransferRequest} {handler : Handler κ}
    {answer : Except UsbError Unit} {calls : List (Call (Handler κ))} (hvalid : ¬ s.Rejects data)
    (hcalls : ∀ call ∈ calls, Attends id call) (hcancelled : calls.countP Call.isCancel ≤ 1)
    (hexcused : Historic (Excused result.result)
      ([.alloc (.ok id), .submit id sought handler answer] ++ calls))
    (hunchanged : ∀ error, result.result = .error error → result.bytes = data.bytes)
    (hreceived : ∀ buffer n, data = .receive buffer → result.result = .ok n →
      (∃ ticket, handler = .control ticket ∧ answer = .ok () ∧
        ∃ c, (reported ticket calls).head? = some c ∧ c.status = .completed ∧
          n = min c.data.length buffer.length ∧ result.bytes = c.data.take n ++ buffer.drop n)) :
    s.Disciplined data result
      (.alloc (.ok id) :: .submit id sought handler answer :: calls ++ [.free id]) where
  asked := by
    have hnone : calls.countP Call.isAlloc = 0 := List.countP_eq_zero.mpr fun call hcall => by
      cases hcalls call hcall <;> exact Bool.false_ne_true
    simp only [List.countP_append, List.countP_cons, hnone]
    exact Nat.le_refl 1
  returned := by
    have hback : calls.filterMap Call.takenBack? = [] :=
      Attends.filterMap hcalls fun h => by cases h <;> rfl
    have hout : calls.filterMap Call.handedOut? = [] :=
      Attends.filterMap hcalls fun h => by cases h <;> rfl
    simp only [List.cons_append, List.filterMap_cons, List.filterMap_append, hback, hout]
    rfl
  leased := Attends.leased hcalls
  submitted := by
    have hnone : submissions calls = [] := Attends.filterMap hcalls fun h => by cases h <;> rfl
    have hone : submissions (.alloc (.ok id) :: .submit id sought handler answer :: calls ++
      [.free id]) = sought :: (submissions calls ++ []) := submissions_append (_ :: _ :: calls) _
    rw [hone, hnone]
    exact Nat.le_refl 1
  cancelled := by
    simp only [List.countP_append, List.countP_cons]
    exact hcancelled
  excused := hexcused.concat (excused_of_ne rfl _)
  rejected hreject := absurd hreject hvalid
  unchanged := hunchanged
  received buffer n hdata hok := by
    obtain ⟨ticket, rfl, rfl, c, hc, hrest⟩ := hreceived buffer n hdata hok
    refine ⟨id, sought, ticket, c, by simp, ?_, hrest⟩
    have hreported : reported ticket (.alloc (.ok id) ::
      .submit id sought (.control ticket) (.ok ()) :: calls ++ [.free id]) =
        reported ticket calls := by simp [reported, Call.handled]
    rw [hreported, hc]

omit [Consumer κ ω] in
/-- **Every exit is disciplined.** -/
lemma Conduct.disciplined {s : Session τ ω} {data : ControlData} {sought : TransferRequest}
    {result : ControlResult} {calls : List (Call (Handler κ))}
    (h : s.Conduct data sought result calls) : s.Disciplined data result calls := by
  cases h with
  | refused => exact disciplined_of_unallocated (.inl rfl) fun _ => ⟨rfl, rfl⟩
  | denied hvalid => exact disciplined_of_unallocated (.inl rfl) fun h => absurd h hvalid
  | unallocated hvalid =>
      exact disciplined_of_unallocated (.inr ⟨_, rfl⟩) fun h => absurd h hvalid
  | @unsubmitted id _ hvalid =>
      have hnone : ∀ call ∈ ([] : List (Call (Handler κ))), Attends id call :=
        fun _ h => absurd h List.not_mem_nil
      refine disciplined_of_allocated hvalid hnone (Nat.zero_le 1) ?_ (fun _ _ => rfl)
        fun _ _ _ hok => by cases hok
      exact (Historic.nil.concat (excused_of_ne rfl _)).concat (excused_of_ne rfl _)
  | awaited hvalid hwaiting =>
      refine disciplined_of_allocated hvalid (attends_of_waiting hwaiting)
        (countP_cancel_of_waiting hwaiting) ?_ (fun _ => bytes_of_conclude) ?_
      · refine excused_of_waiting hwaiting data fun call hcall => ?_
        rcases List.mem_pair.mp hcall with rfl | rfl <;> rfl
      · rintro buffer n rfl hok
        exact ⟨_, rfl, rfl, received_of_waiting hwaiting hok⟩

omit [Consumer κ ω] in
/-- A control transfer gives no interface back. -/
lemma Conduct.not_release {s : Session τ ω} {data : ControlData} {sought : TransferRequest}
    {result : ControlResult} {calls : List (Call (Handler κ))}
    (h : s.Conduct data sought result calls) : ∀ call ∈ calls, call.isRelease = false := by
  cases h with
  | refused | denied => exact nofun
  | unallocated | unsubmitted => simp [Call.isRelease]
  | @awaited _ calls _ _ hwaiting =>
      have hcalls : ∀ call ∈ calls, call.isRelease = false := fun call hcall => by
        cases attends_of_waiting hwaiting call hcall <;> rfl
      simpa [Call.isRelease, or_imp, forall_and] using hcalls

/-- **Every control transfer is disciplined**, whatever the transport does: it keeps its calls to
the one transfer that it has been handed out, which it gives back at every exit. -/
theorem controlTransfer_disciplined (s : Session τ ω) (request : UInt8) (value index : UInt16)
    (data : ControlData) (ms : Nat) :
    s.controlTransfer request value index data ms =
      s.controlTransferGranted true request value index data ms ∧
    ∀ granted result s',
      s.controlTransferGranted granted request value index data ms = some (result, s') →
      ∃ calls : List (Call (Handler κ)),
        (s.transcribed []).controlTransferGranted granted request value index data ms =
          some (result, s'.transcribed calls) ∧
        s.Disciplined data result calls := by
  refine ⟨s.controlTransfer_eq_granted request value index data ms,
    fun granted result s' hrun => ?_⟩
  have hbare := controlTransferGranted_mapTransport Transcribed.covers
    (s.transcribed ([] : List (Call (Handler κ)))) granted request value index data ms
  obtain ⟨calls, hdone⟩ := eq_transcribed (hbare.symm.trans hrun)
  obtain ⟨calls', hcalls, hconduct⟩ := conduct_of_controlTransfer hdone
  obtain rfl : calls = calls' := hcalls
  exact ⟨calls, hdone, hconduct.disciplined⟩

/-- A session with a stream beside it, whose device leaves the next control transfer unanswered; the
third event pass will fail. -/
def unanswered : Session (Bench (Handler Recorder)) (List Recorder.Call) where
  transport := {
    allocated := 1
    inFlight := [⟨0, .bulkIn 0x81, zeros 8, .slot 0 ⟨0, .constant (.always .resubmit)⟩, none,
      false⟩]
    replies := [.hang]
    script := [.fail .interrupted, .dispatch, .fail .io]
    chunks := [[7, 7]] }
  host := { armed := [0], shared := [] }

theorem controlTransfer_unanswered : ∃ s' calls,
    unanswered.controlTransferGranted true 0x65 0 0 (.receive [5, 6]) 100 =
      some (⟨.error .io, [5, 6]⟩, s') ∧
    s'.transport.freed = [1] ∧ s'.transport.cancelRequests = 1 ∧ s'.host.shared.length = 1 ∧
    unanswered.Disciplined (.receive [5, 6]) ⟨.error .io, [5, 6]⟩ calls := by
  obtain ⟨s', hrun, hafter⟩ : ∃ s',
      unanswered.controlTransferGranted true 0x65 0 0 (.receive [5, 6]) 100 =
        some (⟨.error .io, [5, 6]⟩, s') ∧
      s'.transport.freed = [1] ∧ s'.transport.cancelRequests = 1 ∧ s'.host.shared.length = 1 :=
    ⟨_, rfl, rfl, rfl, rfl⟩
  obtain ⟨calls, -, hdisciplined⟩ := (unanswered.controlTransfer_disciplined 0x65 0 0
    (.receive [5, 6]) 100).2 true _ s' hrun
  exact ⟨s', calls, hrun, hafter.1, hafter.2.1, hafter.2.2, hdisciplined⟩

end Session

end LogicCapture
