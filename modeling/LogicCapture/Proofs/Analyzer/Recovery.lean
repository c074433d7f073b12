/-
No state of an analyzer is a dead end: once nothing fails any more, a cancellation and a new
acquisition bring it back to streaming.

* `Pool.allocate_of_calm`, `Pool.arm_of_calm`: on a calm bench a pool gets its slots, and a pool
  with nothing in flight can be armed;
* `Analyzer.cancel_of_calm`, `Analyzer.configure_of_calm`, `Analyzer.start_of_calm`: the operations
  succeed on a calm bench with the answers that they need;
* `Analyzer.Filled`: a pool has no slots, or as many as the settings say;
* `Analyzer.recovers_of_run`: from every state, through a cancellation and an acquisition.
-/
import LogicCapture.Proofs.Analyzer.Cancel
import LogicCapture.Proofs.Session.Calm

namespace LogicCapture

variable {κ ω S : Type}

/-! ### The pool on a calm bench -/

namespace Pool

variable {p : Pool} {s : Session (Bench (Handler κ)) ω}

/-- Cancelling the pool leaves the bench calm and the device's answers as they are. -/
lemma calm_cancelAll (h : s.transport.Calm) : (p.cancelAll s).2.transport.Calm ∧
    (p.cancelAll s).2.transport.replies = s.transport.replies := by
  obtain ⟨inFlight, cancelRequests, hafter, -⟩ := p.cancelAll_bench s
  rw [hafter]
  exact ⟨h.mono rfl rfl rfl rfl rfl (Nat.le_refl _) (Nat.le_refl _), rfl⟩

/-- As many slots are obtained as are asked for. -/
lemma obtain_of_calm {b : Bench (Handler κ)} (h : b.Calm) (count key : Nat) (taken : List Slot) :
    ∃ slots b', obtain count key taken b = (.ok slots, b') := by
  induction count generalizing b key taken with
  | zero => exact ⟨taken, b, rfl⟩
  | succ count ih =>
      have halloc : Transport.alloc b = (.ok b.allocated, _) := h.alloc_eq
      have hafter := h.alloc
      rw [h.alloc_eq] at hafter
      rw [obtain, halloc]
      exact ih hafter _ _

/-- **A pool without slots gets them.** -/
lemma allocate_of_calm {count : Nat} (h : s.transport.Calm) (hempty : p.isEmpty = true)
    (hcount : 0 < count) (hroom : count * slotBytes ≤ addressSpace) :
    ∃ p' s', p.allocate count s = (.ok (), p', s') ∧ p'.isEmpty = false ∧
      p'.bufferSize = p.bufferSize ∧ s'.transport.Calm := by
  obtain ⟨slots, b', hobtain⟩ := obtain_of_calm h count p.nextKey []
  have hkeys := obtain_keys hobtain
  have hsize : slots.length = count := by simpa using congrArg List.length hkeys
  have hslots : slots.isEmpty = false := by
    rw [List.isEmpty_eq_false_iff, ← List.length_pos_iff, hsize]
    exact hcount
  refine ⟨{ p with slots, nextKey := p.nextKey + count }, { s with transport := b' }, ?_, hslots,
    rfl, ?_⟩
  · rw [allocate, if_neg (Nat.ne_of_gt hcount), if_neg (by simp [hempty]),
      if_neg (Nat.not_lt.mpr hroom), hobtain]
  · obtain ⟨_, _, rfl, _⟩ | ⟨_, _, _, hno, _⟩ := obtain_bench hobtain
    · exact h.mono rfl rfl rfl rfl rfl (Nat.le_add_right _ _) (Nat.le_refl _)
    · cases hno

/-- Slots that are not in flight are submitted, all of them. -/
lemma submitSlots_of_calm {length : Nat} {slots : List Slot} (h : s.transport.Calm)
    (hlength : length ≤ addressSpace) (hids : (slots.map (·.transfer)).Nodup)
    (hidle : ∀ slot ∈ slots, ∀ t ∈ s.transport.inFlight, t.id ≠ slot.transfer)
    (endpoint : UInt8) (consumer : κ) :
    (submitSlots length endpoint consumer slots s).1 = .ok () := by
  induction slots generalizing s with
  | nil => rfl
  | cons slot rest ih =>
      obtain ⟨hfresh, hrest⟩ := List.nodup_cons.mp hids
      have hsubmit : Transport.submit s.transport slot.transfer
          ⟨.bulkIn endpoint, zeros length, 0⟩ (.slot slot.key consumer) = (.ok (), _) :=
        h.submit_bulk (hidle slot List.mem_cons_self) endpoint (zeros length) 0 _
      rw [submitSlots, if_neg (Nat.not_lt.mpr hlength), hsubmit]
      refine ih (s := ⟨_, s.host.arm slot.key⟩) (h.submit hsubmit) hrest ?_
      intro slot' hslot' t ht
      rcases List.mem_append.mp (show t ∈ _ ++ [_] from ht) with ht | ht
      · exact hidle slot' (List.mem_cons_of_mem _ hslot') t ht
      · rw [List.mem_singleton.mp ht]
        exact fun hsame => hfresh (List.mem_map.mpr ⟨slot', hslot', hsame.symm⟩)

/-- **A pool with nothing in flight is armed.** -/
lemma arm_of_calm (h : s.transport.Calm) (hheld : p.Held none s)
    (hnone : s.transport.inFlight = []) (hslots : p.isEmpty = false)
    (hbuffer : p.bufferSize ≤ addressSpace) (endpoint : UInt8) (consumer : κ) :
    (p.arm endpoint consumer s).1 = .ok () := by
  have hidle : p.armedCount s.host = 0 := by
    rw [hheld.custody.armedCount_eq_length, hnone]
    rfl
  have hsubmit := submitSlots_of_calm h hbuffer hheld.custody.transfers
    (fun slot _ t ht => by rw [hnone] at ht; cases ht) endpoint consumer
  rcases hrun : submitSlots p.bufferSize endpoint consumer p.slots s with ⟨result, s'⟩
  rw [hrun] at hsubmit
  obtain rfl : result = .ok () := hsubmit
  rw [arm, if_neg (by simp [hslots]), if_neg (by omega), hrun]

end Pool

/-! ### The device's answers -/

/-- A buffer is overwritten by data of its length. -/
lemma overwrite_of_length_eq {buffer data : Bytes} (h : data.length = buffer.length) :
    overwrite buffer 0 data = data := by
  simp [overwrite, ← h]

/-- A response that is long enough and names an IN endpoint is accepted. -/
lemma Analyzer.readResponse_eq_ok {response buffer : Bytes} {endpoint : UInt8}
    (hendpoint : response[8]? = some endpoint) (hin : isInEndpoint endpoint = true)
    (hbuffer : buffer.length = ConfigureResponse.size) :
    ∃ r, readResponse ⟨.ok (min (response.take buffer.length).length buffer.length),
      some (overwrite buffer 0 (response.take buffer.length))⟩ = .ok r := by
  have hlong : ConfigureResponse.size ≤ response.length :=
    (List.getElem?_eq_some_iff.mp hendpoint).1
  have hlength : (response.take buffer.length).length = buffer.length := by
    rw [List.length_take, hbuffer, Nat.min_eq_left hlong]
  have hreceived : (overwrite buffer 0 (response.take buffer.length)).take
      (min (response.take buffer.length).length buffer.length) =
      response.take ConfigureResponse.size := by
    rw [overwrite_of_length_eq hlength, hlength, Nat.min_self, List.take_take, Nat.min_self,
      hbuffer]
  refine ⟨.spelled response, readResponse_eq_ok_iff.mpr ?_⟩
  rw [hreceived, ConfigureResponse.spelled_take, List.length_take, Nat.min_eq_left hlong]
  refine ⟨Nat.le_refl _, ?_, rfl⟩
  rwa [ConfigureResponse.spelled, List.getD_eq_getElem?_getD, hendpoint]

/-! ### The operations on a calm bench -/

namespace Analyzer

variable [SampleSink S] {a : Benched S}

/-- **A cancellation succeeds** if the device acknowledges the stop command. -/
lemma cancel_of_calm {ack : Bytes} (hcalm : a.session.transport.Calm)
    (hheld : a.pool.Held none a.session) (hreply : a.session.transport.nextReply = .respond ack) :
    ∃ session, a.cancel =
        some (.ok (), ({ a with session, phase := .idle } : Benched S).notified) ∧
      session.transport.Calm ∧ session.transport.replies = a.session.transport.replies.tail := by
  obtain ⟨hcancelled, hsame⟩ := Pool.calm_cancelAll (p := a.pool) hcalm
  have hreplies : a.cancelling.halted.transport.replies = a.session.transport.replies :=
    (congrArg Bench.replies (Bench.release_frame _ Protocol.streamingInterface)).trans hsame
  have hhalted : a.cancelling.halted.transport.Calm := hcancelled.release _
  have hack : a.cancelling.halted.transport.nextReply = .respond ack := by
    rw [Bench.nextReply, hreplies]
    exact hreply
  obtain ⟨session, hex, hleft⟩ := Session.execute_of_calm hhalted (held_cancelling hheld) hack
    stopPacket a.settings.stopTimeoutMs
  refine ⟨session, ?_, Bench.Calm.kept.execute hhalted hex, by rw [hleft, hreplies]⟩
  exact (cancel_eq_stop a).trans (stop_eq_some.mpr ⟨_, session, hex, rfl, rfl⟩)

/-- **A configure succeeds** if the device agrees. -/
lemma configure_of_calm {ack response : Bytes} {endpoint : UInt8} {rest : List Bench.Reply}
    (hcalm : a.session.transport.Calm) (hheld : a.pool.Held none a.session)
    (hphase : a.phase ≠ .streaming) (hrate : a.context.sampleRateHz < UInt32.size)
    (hreplies : a.session.transport.replies = .respond ack :: .respond response :: rest)
    (hendpoint : response[8]? = some endpoint) (hin : isInEndpoint endpoint = true) :
    ∃ r session, a.configure = some (.ok r, ({ a with
        session, context := a.context.apply r, phase := .configured } : Benched S)) ∧
      session.transport.Calm ∧ session.transport.replies = rest ∧
      session.host.armed ⊆ a.session.host.armed := by
  have hbuffer : (zeros ConfigureResponse.size).length = ConfigureResponse.size := by simp [zeros]
  obtain ⟨r, hread⟩ := readResponse_eq_ok hendpoint hin hbuffer
  obtain ⟨s, hex, hleft⟩ := Session.query_of_calm (zeros ConfigureResponse.size) hcalm hheld
    hreplies (by decide) (by decide) a.request.toPacket a.settings.commandTimeoutMs
  have hquiet : s.transport.Calm := Bench.Calm.kept.execute hcalm hex
  have harmed := Session.armed_execute hex
  exact ⟨r, { s with transport := (s.transport.claim Protocol.streamingInterface).2 },
    configure_of_asks hrate ⟨hphase, hex⟩ hread (hquiet.claim_eq _), hquiet.claim _,
    (congrArg Bench.replies (Bench.claim_frame _ _)).trans hleft, harmed⟩

omit [SampleSink S] in
/-- **A stream with nothing in flight is armed**, on the slots that the pool has or gets now. -/
lemma armStreaming_of_calm (hcalm : a.session.transport.Calm) (hheld : a.pool.Held none a.session)
    (hnone : a.session.transport.inFlight = []) (hsize : 0 < a.settings.transferPoolSize)
    (hroom : a.settings.transferPoolSize * Pool.slotBytes ≤ Pool.addressSpace)
    (hbuffer : a.pool.bufferSize ≤ Pool.addressSpace) (format : StreamFormat) :
    ∃ b, a.armStreaming format = (.ok (), b) := by
  -- with slots of before or new ones, the pool is ready to be armed
  obtain ⟨b, hpool, hcalm, hheld, hnone, hslots, hbuffer⟩ : ∃ b : Benched S,
      (if a.pool.isEmpty then a.allocateTransfers else (.ok (), a)) = (.ok (), b) ∧
        b.session.transport.Calm ∧ b.pool.Held none b.session ∧
        b.session.transport.inFlight = [] ∧ b.pool.isEmpty = false ∧
        b.pool.bufferSize ≤ Pool.addressSpace := by
    cases hempty : a.pool.isEmpty with
    | false => exact ⟨a, rfl, hcalm, hheld, hnone, hempty, hbuffer⟩
    | true =>
        obtain ⟨p, s, halloc, hslots, hsame, hcalm'⟩ :=
          Pool.allocate_of_calm hcalm hempty hsize hroom
        have hheld' := hheld.allocate a.settings.transferPoolSize
        have hnone' : (a.pool.allocate a.settings.transferPoolSize
            a.session).2.2.transport.inFlight = [] :=
          List.eq_nil_iff_forall_not_mem.mpr fun t ht =>
            absurd (hnone ▸ Pool.mem_of_mem_allocate ht) List.not_mem_nil
        rw [halloc] at hheld' hnone'
        refine ⟨{ a with pool := p, session := s }, ?_, hcalm', hheld', hnone', hslots,
          hsame.symm ▸ hbuffer⟩
        rw [if_pos rfl, allocateTransfers, halloc]
        rfl
  have harm := Pool.arm_of_calm hcalm hheld hnone hslots hbuffer format.endpoint format
  rcases hrun : b.pool.arm format.endpoint format b.session with ⟨result, session⟩
  rw [hrun] at harm
  obtain rfl : result = .ok () := harm
  refine ⟨{ b with session }, ?_⟩
  rw [armStreaming, hpool]
  simp only [hrun]
  rfl

/-- **A start succeeds** if the device acknowledges it. -/
lemma start_of_calm {ack : Bytes} {r : ConfigureResponse} (hcalm : a.session.transport.Calm)
    (hheld : a.pool.Held none a.session) (hphase : a.phase = .configured) (hidle : a.armedCount = 0)
    (hnegotiated : a.context.negotiated = some r)
    (hreply : a.session.transport.nextReply = .respond ack)
    (hsize : 0 < a.settings.transferPoolSize)
    (hroom : a.settings.transferPoolSize * Pool.slotBytes ≤ Pool.addressSpace)
    (hbuffer : a.pool.bufferSize ≤ Pool.addressSpace) : ∃ b, a.start = some (.ok (), b) := by
  obtain ⟨s, hex, -⟩ := Session.execute_of_calm hcalm hheld hreply startPacket
    a.settings.commandTimeoutMs
  have hcalm' : s.transport.Calm := Bench.Calm.kept.execute hcalm hex
  have hheld' : a.pool.Held none s := (Pool.Held.kept _).execute hheld hex
  have hnone := hheld.inFlight_of_execute hidle hex
  let format : StreamFormat := ⟨r.achievedRateHz, a.context.numChannels, r.endpoint⟩
  have hformat : a.context.streamFormat = some format := by
    rw [DeviceContext.streamFormat, hnegotiated]
    rfl
  have hopened : (({ a with session := s } : Benched S).openFeed format).pool.Held none
      (({ a with session := s } : Benched S).openFeed format).session :=
    hheld'.congr (.refl _) rfl rfl
  obtain ⟨b, harm⟩ := armStreaming_of_calm hcalm' hopened hnone hsize hroom hbuffer format
  refine ⟨{ b with phase := .streaming }, ?_⟩
  rw [start, if_neg (by simp [hphase]), if_neg (by omega), hformat]
  simp only [Option.bind_eq_bind, hex, Option.bind_some, harm]
  rfl

/-- **An idle analyzer acquires** if the device agrees and acknowledges. -/
lemma acquire_of_calm {ack response : Bytes} {endpoint : UInt8} {rest : List Bench.Reply}
    (hcalm : a.session.transport.Calm) (hheld : a.pool.Held none a.session)
    (hphase : a.phase = .idle) (hidle : a.armedCount = 0)
    (hrate : a.context.sampleRateHz < UInt32.size)
    (hreplies : a.session.transport.replies = .respond ack :: .respond response :: rest)
    (hendpoint : response[8]? = some endpoint) (hin : isInEndpoint endpoint = true)
    (hrest : ∀ reply ∈ rest, ∃ ack, reply = .respond ack)
    (hsize : 0 < a.settings.transferPoolSize)
    (hroom : a.settings.transferPoolSize * Pool.slotBytes ≤ Pool.addressSpace)
    (hbuffer : a.pool.bufferSize ≤ Pool.addressSpace) : ∃ b, a.acquire = some (.ok (), b) := by
  obtain ⟨r, s, hconf, hcalm', hleft, harmed⟩ :=
    configure_of_calm hcalm hheld (by simp [hphase]) hrate hreplies hendpoint hin
  have hidle' : ∀ slot ∈ a.pool.slots, slot.key ∉ s.host.armed := fun slot hslot hmem =>
    armedCount_eq_zero.mp hidle slot hslot (harmed hmem)
  obtain ⟨ack', hreply⟩ : ∃ ack, s.transport.nextReply = .respond ack := by
    rw [Bench.nextReply, hleft]
    cases rest with
    | nil => exact ⟨[], rfl⟩
    | cons reply rest => exact hrest reply List.mem_cons_self
  obtain ⟨b, hstart⟩ := start_of_calm hcalm' (stable_held.configure hheld hconf) rfl
    (armedCount_eq_zero.mpr hidle') rfl hreply hsize hroom hbuffer
  exact ⟨b, acquire_eq_some.mpr (Or.inr ⟨r, _, hconf, hstart⟩)⟩

/-! ### The number of slots -/

/-- The pool has no slots, or as many as the settings say. -/
def Filled {τ : Type} (a : Analyzer τ S) : Prop :=
  a.pool.isEmpty = true ∨ a.pool.size = a.settings.transferPoolSize

lemma stable_filled {τ : Type} [Transport τ (Handler StreamFormat)] :
    Stable (Filled : Analyzer τ S → Prop) := by
  have hallocate {a : Analyzer τ S} (h : Filled a) : Filled a.allocateTransfers.2 := by
    have hpool : a.allocateTransfers.2.pool =
      (a.pool.allocate a.settings.transferPoolSize a.session).2.1 := rfl
    rw [Filled, hpool]
    rcases Pool.size_allocate a.pool a.settings.transferPoolSize a.session with hsame | hnew
    · rw [hsame]
      exact h
    · exact Or.inr hnew
  exact {
    exchange := fun h _ => h
    pass := fun _ h => h
    context := fun _ h => h
    allocate := hallocate
    free := fun _ => Or.inl rfl
    claim := fun _ h => h
    release := fun _ h => h
    phase := fun _ h => h
    halt := fun h => h
    notify := fun h _ => h
    cancelAll := fun h => h
    begin := fun h _ _ => armStreaming_induction hallocate (fun h => h) h }

/-- An acquisition that succeeds has the whole pool armed and in flight. -/
lemma streaming_of_acquire {b : Benched S} (hheld : a.pool.Held none a.session) (hfilled : Filled a)
    (h : a.acquire = some (.ok (), b)) :
    b.phase = .streaming ∧ b.pool.size = b.settings.transferPoolSize ∧ ∀ slot ∈ b.pool.slots,
      slot.key ∈ b.session.host.armed ∧
        ∃ t ∈ b.session.transport.inFlight, t.id = slot.transfer := by
  have hheld' := stable_held.acquire hheld h
  have hfilled' := stable_filled.acquire hfilled h
  rcases acquire_eq_some.mp h with ⟨error, -, hno⟩ | ⟨response, c, -, hstart⟩
  · cases hno
  · obtain ⟨hphase, hslots⟩ := streaming_of_start hstart
    refine ⟨hphase, hfilled'.resolve_left (by simp [hslots]), fun slot hslot => ?_⟩
    have harmed := armed_of_start hstart slot hslot
    exact ⟨harmed, (hheld'.custody.armed_iff slot hslot).mp harmed⟩

/-! ### Runs -/

/-- **No state is a dead end.**  Whatever a run has left behind, if from then on nothing fails and
the device acknowledges every command and names an IN endpoint, a cancellation and an acquisition
succeed one after the other; then the analyzer streams, its pool has all its slots, and each of
them is armed and in flight. -/
theorem recovers_of_run {settings : AcquisitionSettings} {sink : S} {steps : List (Step Bench.Cue)}
    {a : Benched S} {ack₁ ack₂ response : Bytes} {rest : List Bench.Reply} {endpoint : UInt8}
    (hrun : run steps (new {} settings sink) = some a) (hcalm : a.session.transport.Calm)
    (hrate : a.context.sampleRateHz < UInt32.size) (hsize : 1 ≤ settings.transferPoolSize)
    (hroom : settings.transferPoolSize * Pool.slotBytes ≤ Pool.addressSpace)
    (hbuffer : settings.transferBufferSize ≤ Pool.addressSpace)
    (hreplies : a.session.transport.replies =
      .respond ack₁ :: .respond ack₂ :: .respond response :: rest)
    (hendpoint : response[8]? = some endpoint) (hin : isInEndpoint endpoint = true)
    (hrest : ∀ reply ∈ rest, ∃ ack, reply = .respond ack) :
    ∃ b c, a.cancel = some (.ok (), b) ∧ b.acquire = some (.ok (), c) ∧ c.phase = .streaming ∧
      c.pool.size = settings.transferPoolSize ∧ ∀ slot ∈ c.pool.slots,
        slot.key ∈ c.session.host.armed ∧
          ∃ t ∈ c.session.transport.inFlight, t.id = slot.transfer := by
  have hheld := held_of_run hrun
  have hfilled : Filled a := stable_filled.run (fun _ h => h) (Or.inl rfl) hrun
  have hsized : Sized settings a :=
    (stable_sized settings).run (fun _ h => ⟨h.1, h.2⟩) ⟨rfl, rfl⟩ hrun
  -- the first answer goes to the stop command, the others are left for the acquisition
  have hack : a.session.transport.nextReply = .respond ack₁ := by
    rw [Bench.nextReply, hreplies]
    rfl
  obtain ⟨s, hcancel, hcalm', hleft⟩ := cancel_of_calm hcalm hheld hack
  have hheld' := stable_held.cancel hheld hcancel
  have hsized' := (stable_sized settings).cancel hsized hcancel
  obtain ⟨c, hacquire⟩ := acquire_of_calm hcalm' hheld' rfl (idle_of_cancel hheld hcancel).2 hrate
    (hleft.trans (congrArg List.tail hreplies)) hendpoint hin hrest
    (hsized'.settings_eq.symm ▸ hsize) (hsized'.settings_eq.symm ▸ hroom)
    (hsized'.bufferSize.symm ▸ hbuffer)
  obtain ⟨hphase, hfull, hslots⟩ :=
    streaming_of_acquire hheld' (stable_filled.cancel hfilled hcancel) hacquire
  have hsettings := ((stable_sized settings).acquire hsized' hacquire).settings_eq
  exact ⟨_, c, hcancel, hacquire, hphase, hsettings ▸ hfull, hslots⟩

/-- An acquisition that arms one slot of two, and whose stop command fails, too: the slot is left
with its cancellation requested. -/
def partialStart : List (Step Bench.Cue) :=
  [.cue (.response [64, 66, 15, 0, 0, 0, 0, 0, 0x82]), .cue (.failSubmit 4 .pipe),
    .cue (.event .dispatch), .cue (.event .dispatch), .cue (.event .dispatch),
    .cue (.event (.fail .io)), .call .acquire, .cue (.chunk [1]), .cue (.reply (.respond [])),
    .cue (.response [64, 66, 15, 0, 0, 0, 0, 0, 0x82])]

theorem recovers_partialStart :
    ∃ a b c : Benched Discard,
      run partialStart (new {} { transferPoolSize := 2, transferBufferSize := 2 } ⟨⟩) = some a ∧
      a.session.transport.inFlight.map (·.cancelled) = [true] ∧ a.armedCount = 1 ∧
      a.cancel = some (.ok (), b) ∧ b.acquire = some (.ok (), c) ∧ c.phase = .streaming ∧
      c.pool.size = 2 ∧ ∀ slot ∈ c.pool.slots, slot.key ∈ c.session.host.armed ∧
        ∃ t ∈ c.session.transport.inFlight, t.id = slot.transfer := by
  have hend : (run partialStart (new (τ := Bench (Handler StreamFormat)) {}
      { transferPoolSize := 2, transferBufferSize := 2 } (⟨⟩ : Discard))).map (fun a =>
        (a.session.transport.inFlight.map (·.cancelled), a.armedCount,
          decide a.session.transport.Calm, decide (a.context.sampleRateHz < UInt32.size),
          a.session.transport.replies)) =
      some ([true], 1, true, true, [.respond [], .respond [],
        .respond [64, 66, 15, 0, 0, 0, 0, 0, 0x82]]) := by
    decide +kernel
  obtain ⟨a, hrun, hend⟩ := Option.map_eq_some_iff.mp hend
  simp only [Prod.mk.injEq, decide_eq_true_eq] at hend
  obtain ⟨hmarked, harmed, hcalm, hrate, hreplies⟩ := hend
  obtain ⟨b, c, hrecovers⟩ := recovers_of_run hrun hcalm hrate (by decide) (by decide) (by decide)
    hreplies rfl (by decide) (by simp)
  exact ⟨a, b, c, hrun, hmarked, harmed, hrecovers⟩

end Analyzer

end LogicCapture
