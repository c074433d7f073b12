/-
What a stream passes on: from a successful start until the next stop, cancel or teardown, the
sink gets the chunks that the transport consumes, each cut to the size of a transfer's buffer,
in their order.

* `Streaming.deliveries`: the events that pass pieces of data on;
* `Streaming.Handled`: pieces have been passed on and counted;
* `Streaming.Flow`: of the pieces taken from the queue, some have been handled and the others
  wait for their handlers, in order; `owed_of_settleAll` and `Flow.step` keep it so;
* `Streaming.Flows`, `Streaming.Flows.kept`: the same for a session and its queue of chunks;
* `Analyzer.delivered_of_period`: the flow through a whole period.
-/
import LogicCapture.Proofs.Stream.Bracket

namespace LogicCapture

namespace Streaming

open SinkTrace

/-! ### Pieces of data -/

/-- What the sink is told of pieces of data; empty ones are not passed on. -/
def deliveries (format : StreamFormat) (pieces : List Bytes) : List SinkEvent :=
  (pieces.filter fun piece => !piece.isEmpty).map fun piece => .deliver piece format

/-- The bytes that events deliver. -/
def samples (events : List SinkEvent) : Bytes :=
  events.flatMap fun
    | .deliver samples _ => samples
    | _ => []

lemma deliveries_append (format : StreamFormat) (pieces pieces' : List Bytes) :
    deliveries format (pieces ++ pieces') =
      deliveries format pieces ++ deliveries format pieces' := by
  simp [deliveries]

/-- Nothing is lost by not passing empty pieces on. -/
lemma samples_deliveries (format : StreamFormat) (pieces : List Bytes) :
    samples (deliveries format pieces) = pieces.flatten := by
  induction pieces with
  | nil => rfl
  | cons piece rest ih =>
      have hhead : samples (deliveries format [piece]) = piece := by
        cases piece <;> simp [deliveries, samples]
      rw [← List.singleton_append, deliveries_append, samples, List.flatMap_append]
      exact congrArg₂ (· ++ ·) hhead ih

/-- **Pieces have been passed on**, in order, to a sink that knew of `earlier`, and counted. -/
structure Handled (earlier : List SinkEvent) (format : StreamFormat) (pieces : List Bytes)
    (feed : Feed SinkTrace) : Prop where
  running : feed.running = true
  told : feed.sink.events = earlier ++ deliveries format pieces
  transfers : feed.stats.transfers = UInt64.ofNat pieces.length
  bytes : feed.stats.bytes = UInt64.ofNat pieces.flatten.length

variable {earlier : List SinkEvent} {format : StreamFormat} {size : Nat}
  {pieces : List Bytes} {feed : Feed SinkTrace}

/-- One more piece is passed on. -/
lemma Handled.accept (h : Handled earlier format pieces feed) (piece : Bytes) :
    Handled earlier format (pieces ++ [piece]) (feed.accept piece format) := by
  refine ⟨h.running, ?_, ?_, ?_⟩
  · rw [deliveries_append, ← List.append_assoc, ← h.told, Feed.accept]
    cases piece with
    | nil => simp [deliveries]
    | cons b rest => rfl
  · simp [Feed.accept, StreamStats.recordTransfer, h.transfers, UInt64.ofNat_add]
  · simp [Feed.accept, StreamStats.recordTransfer, h.bytes, UInt64.ofNat_add]

/-! ### Transfers and completions -/

/-- The transfer is a control transfer, or it fills a buffer of the given size for the stream. -/
inductive Fed (format : StreamFormat) (size : Nat) (t : Bench.InFlight (Handler StreamFormat)) :
    Prop where
  | control (ticket : Nat) (kind : t.kind = .control) (handler : t.handler = .control ticket)
  | slot (key : Nat) (kind : t.kind.isBulk = true) (handler : t.handler = .slot key format)
    (wanted : t.cancelled = false) (length : t.buffer.length = size)

/-- The data of bulk transfers that wait for their handlers. -/
def owed (ready : List (Bench.InFlight (Handler StreamFormat) × Completion)) : List Bytes :=
  (ready.filter fun e => e.1.kind.isBulk).map fun e => e.2.data

lemma owed_cons_of_control {e : Bench.InFlight (Handler StreamFormat) × Completion}
    (ready : List (Bench.InFlight (Handler StreamFormat) × Completion))
    (h : e.1.kind = .control) : owed (e :: ready) = owed ready := by
  rw [owed, List.filter_cons_of_neg (by simp [h, TransferKind.isBulk]), owed]

lemma owed_cons_of_bulk {e : Bench.InFlight (Handler StreamFormat) × Completion}
    (ready : List (Bench.InFlight (Handler StreamFormat) × Completion))
    (h : e.1.kind.isBulk = true) : owed (e :: ready) = e.2.data :: owed ready := by
  rw [owed, List.filter_cons_of_pos (by simpa using h), List.map_cons, owed]

/-- **The flow of a stream**: the first of the pieces taken from the queue have been handled, and
the others wait for their handlers in order. -/
structure Flow (earlier : List SinkEvent) (format : StreamFormat) (size : Nat)
    (pieces : List Bytes) (l : Line StreamFormat (Feed SinkTrace)) : Prop where
  handled : ∃ done, pieces = done ++ owed l.ready ∧ Handled earlier format done l.host.shared
  fed : ∀ t ∈ l.entries, Fed format size t
  full : ∀ e ∈ l.ready, e.1.kind.isBulk = true → e.2.status = .completed

/-- Filling or moving a transfer does not change what it is for. -/
lemma Fed.of_shape {t t' : Bench.InFlight (Handler StreamFormat)} (h : Fed format size t)
    (hshape : t'.shape = t.shape) : Fed format size t' := by
  obtain ⟨-, hkind, hhandler, -, hcancelled, hlength⟩ := Bench.InFlight.shape_inj hshape
  cases h with
  | control ticket kind handler =>
      exact .control ticket (hkind.trans kind) (hhandler.trans handler)
  | slot key kind handler wanted length =>
      exact .slot key (hkind ▸ kind) (hhandler.trans handler) (hcancelled.trans wanted)
        (hlength.trans length)

/-- A control transfer takes nothing from the queue. -/
lemma settle_of_control {t : Bench.InFlight (Handler StreamFormat)} (h : t.kind = .control)
    (chunks : List Bytes) : (Bench.settle t chunks).2 = chunks := by
  unfold Bench.settle
  split
  · rfl
  · rw [h]

/-- A slot of the stream takes the next chunk, if there is one. -/
lemma settle_of_slot {t : Bench.InFlight (Handler StreamFormat)} (h : t.kind.isBulk = true)
    (hwanted : t.cancelled = false) (chunks : List Bytes) :
    chunks = [] ∧ Bench.settle t chunks = (none, []) ∨
      ∃ chunk rest t', chunks = chunk :: rest ∧ t'.kind = t.kind ∧
        Bench.settle t chunks = (some (t', ⟨.completed, chunk.take t.buffer.length⟩), rest) := by
  unfold Bench.settle
  rw [if_neg (by simp [hwanted])]
  split
  · rename_i hkind
    rw [hkind] at h
    cases h
  · cases chunks with
    | nil => exact Or.inl ⟨rfl, rfl⟩
    | cons chunk rest =>
        exact Or.inr ⟨chunk, rest, { t with buffer := overwrite t.buffer 0 chunk }, rfl, rfl, rfl⟩

/-- **Settling takes chunks from the queue in order**, one for each bulk transfer that completes,
cut to the size of the buffers. -/
theorem owed_of_settleAll {ts pending : List (Bench.InFlight (Handler StreamFormat))}
    {chunks chunks' : List Bytes}
    {ready : List (Bench.InFlight (Handler StreamFormat) × Completion)}
    (hfed : ∀ t ∈ ts, Fed format size t)
    (h : Bench.settleAll ts chunks = (ready, pending, chunks')) :
    (∃ taken, chunks = taken ++ chunks' ∧ owed ready = taken.map (List.take size)) ∧
      ∀ e ∈ ready, e.1.kind.isBulk = true → e.2.status = .completed := by
  induction ts generalizing chunks chunks' ready pending with
  | nil =>
      cases h
      exact ⟨⟨[], rfl, rfl⟩, by simp⟩
  | cons t rest ih =>
      rw [Bench.settleAll] at h
      rcases hs : Bench.settle t chunks with ⟨ending, chunks₁⟩
      rcases hr : Bench.settleAll rest chunks₁ with ⟨ready₁, pending₁, chunks₂⟩
      rw [hs] at h
      dsimp only at h
      rw [hr] at h
      obtain ⟨⟨taken, hchunks, howed⟩, hfull⟩ :=
        ih (fun t' ht' => hfed t' (List.mem_cons_of_mem _ ht')) hr
      cases hfed t List.mem_cons_self with
      | control ticket kind handler =>
          have hsame : chunks₁ = chunks := by
            rw [← settle_of_control kind chunks, hs]
          cases ending with
          | none =>
              cases h
              exact ⟨⟨taken, hsame ▸ hchunks, howed⟩, hfull⟩
          | some ended =>
              have hkind : ended.1.kind = .control :=
                (Bench.InFlight.shape_inj (Bench.shape_of_settle hs)).2.1.trans kind
              cases h
              refine ⟨⟨taken, hsame ▸ hchunks, ?_⟩, ?_⟩
              · rw [owed_cons_of_control _ hkind, howed]
              · intro e he hbulk
                rcases List.mem_cons.mp he with rfl | he
                · rw [hkind] at hbulk
                  cases hbulk
                · exact hfull e he hbulk
      | slot key kind handler wanted length =>
          rcases settle_of_slot kind wanted chunks with ⟨rfl, hnone⟩ | ⟨chunk, later, t', rfl,
            hkind, hsome⟩
          · cases hs.symm.trans hnone
            cases h
            exact ⟨⟨taken, hchunks, howed⟩, hfull⟩
          · cases hs.symm.trans hsome
            cases h
            have hbulk : t'.kind.isBulk = true := hkind ▸ kind
            refine ⟨⟨chunk :: taken, by rw [hchunks, List.cons_append], ?_⟩, ?_⟩
            · rw [owed_cons_of_bulk _ hbulk, howed, List.map_cons, length]
            · intro e he hfilled
              rcases List.mem_cons.mp he with rfl | he
              · rfl
              · exact hfull e he hfilled

/-! ### Completions -/

variable {l l' : Line StreamFormat (Feed SinkTrace)}

/-- A completed transfer of the stream is passed on and armed again. -/
lemma react_of_handled {done : List Bytes} {host : Host (Feed SinkTrace)} (key : Nat)
    {c : Completion} (h : Handled earlier format done host.shared) (hc : c.status = .completed) :
    ∃ host', (Handler.slot key format).react c host = (.resubmit, .slot key format, host') ∧
      Handled earlier format (done ++ [c.data]) host'.shared := by
  obtain ⟨rearm, format', shared, hconsume, hreact⟩ := Handler.react_slot key format c host
  have hcomplete : Consumer.consume format c host.shared =
      (.resubmit, format, host.shared.accept c.data format) := by
    simp [Consumer.consume, Feed.complete, hc, Feed.verdict, h.running]
  obtain ⟨rfl, hrest⟩ := Prod.mk.inj (hconsume.symm.trans hcomplete)
  obtain ⟨rfl, rfl⟩ := Prod.mk.inj hrest
  exact ⟨_, hreact, h.accept c.data⟩

/-- The refusal of a resubmission is counted as an error, and that is all. -/
lemma handled_of_refused {done : List Bytes} {host : Host (Feed SinkTrace)} (key : Nat)
    (h : Handled earlier format done host.shared) :
    Handled earlier format done
      ((Handler.slot key format).react .refused host).2.2.shared := by
  rw [Handler.shared_react_slot]
  exact ⟨h.running, h.told, h.transfers, h.bytes⟩

/-- **Every completion keeps the flow**: the head of the line is what is owed next. -/
theorem Flow.step (hstep : Line.Step l l') (h : Flow earlier format size pieces l) :
    Flow earlier format size pieces l' := by
  -- a slot that completes is owed the next piece, which its handler passes on
  have hcall {t c rest inFlight host} {key : Nat}
      (hl : Flow earlier format size pieces ⟨(t, c) :: rest, inFlight, host⟩)
      (kind : t.kind.isBulk = true) (handler : t.handler = .slot key format) :
      ∃ host' done, Line.call t c host = (.resubmit, .slot key format, host') ∧
        c.status = .completed ∧ pieces = done ++ owed rest ∧
        Handled earlier format done host'.shared := by
    obtain ⟨done, hpieces, hdone⟩ := hl.handled
    have hfull : c.status = .completed := hl.full (t, c) List.mem_cons_self kind
    obtain ⟨host', hreact, hmore⟩ := react_of_handled key hdone hfull
    refine ⟨host', done ++ [c.data], by rw [Line.call, handler, hreact], hfull, ?_, hmore⟩
    rw [hpieces, owed_cons_of_bulk rest kind, List.append_assoc]
    rfl
  have hlater {t c rest inFlight host t'}
      (hl : Flow earlier format size pieces ⟨(t, c) :: rest, inFlight, host⟩)
      (ht' : t' ∈ rest.map (·.1) ++ inFlight) : Fed format size t' :=
    hl.fed t' (List.mem_cons_of_mem _ ht')
  cases hstep with
  | @ended t c rest inFlight host hhon =>
      have hfed := h.fed t List.mem_cons_self
      cases hfed with
      | control ticket kind handler =>
          obtain ⟨done, hpieces, hdone⟩ := h.handled
          refine ⟨⟨done, ?_, ?_⟩, fun t' => hlater h,
            fun e he => h.full e (List.mem_cons_of_mem _ he)⟩
          · rw [hpieces, owed_cons_of_control rest kind]
          · rw [Line.call, handler]
            rw [Handler.shared_react_control]
            exact hdone
      | slot key kind handler wanted length =>
          obtain ⟨host', done, hreact, hfull, -, -⟩ := hcall h kind handler
          rw [hreact, hfull] at hhon
          cases hhon
  | @rearmed t c rest inFlight host hhon =>
      have hfed := h.fed t List.mem_cons_self
      cases hfed with
      | control ticket kind handler =>
          rw [Line.call, handler] at hhon
          cases hhon
      | slot key kind handler wanted length =>
          obtain ⟨host', done, hreact, hfull, hpieces, hdone⟩ := hcall h kind handler
          rw [hreact]
          refine ⟨⟨done, hpieces, hdone⟩, ?_,
            fun e he => h.full e (List.mem_cons_of_mem _ he)⟩
          intro t' ht'
          rw [Line.entries, ← List.append_assoc] at ht'
          rcases List.mem_append.mp ht' with ht' | ht'
          · exact hlater h ht'
          · rw [List.mem_singleton.mp ht']
            exact .slot key kind rfl rfl length
  | @refused t c rest inFlight host hhon =>
      have hfed := h.fed t List.mem_cons_self
      cases hfed with
      | control ticket kind handler =>
          rw [Line.call, handler] at hhon
          cases hhon
      | slot key kind handler wanted length =>
          obtain ⟨host', done, hreact, hfull, hpieces, hdone⟩ := hcall h kind handler
          rw [hreact]
          exact ⟨⟨done, hpieces, handled_of_refused key hdone⟩, fun t' => hlater h,
            fun e he => h.full e (List.mem_cons_of_mem _ he)⟩

/-! ### Event passes and control transfers -/

/-- **The flow in a session** whose queue has held the chunks `queue` since the stream began:
those that are gone have been taken for the stream. -/
def Flows (earlier : List SinkEvent) (format : StreamFormat) (size : Nat) (queue : List Bytes)
    (s : Session (Bench (Handler StreamFormat)) (Feed SinkTrace)) : Prop :=
  ∃ taken, queue = taken ++ s.transport.chunks ∧
    Flow earlier format size (taken.map (List.take size)) s.line

variable {queue : List Bytes} {p : Pool}
  {s s' : Session (Bench (Handler StreamFormat)) (Feed SinkTrace)}

/-- Between passes, only the queue, the transfers in flight and the shared state matter. -/
lemma Flows.mono (h : Flows earlier format size queue s)
    (hchunks : s'.transport.chunks = s.transport.chunks) (hshared : s'.host.shared = s.host.shared)
    (hfed : (∀ t ∈ s.transport.inFlight, Fed format size t) →
      ∀ t ∈ s'.transport.inFlight, Fed format size t) :
    Flows earlier format size queue s' := by
  obtain ⟨taken, hqueue, ⟨done, hpieces, hdone⟩, hs, hfull⟩ := h
  exact ⟨taken, by rw [hqueue, hchunks], ⟨done, hpieces, hshared ▸ hdone⟩, hfed hs, hfull⟩

/-- An event pass keeps the flow. -/
lemma Flows.passed (hpass : Session.Passed s s') (h : Flows earlier format size queue s) :
    Flows earlier format size queue s' := by
  rcases hpass.moves with ⟨hhost, hflight, hchunks⟩ | ⟨ready, pending, hset, hsteps⟩
  · exact h.mono hchunks (by rw [hhost]) fun hfed => by rwa [hflight]
  · obtain ⟨taken, hqueue, ⟨done, hpieces, hdone⟩, hfed, -⟩ := h
    obtain ⟨⟨more, hchunks, howed⟩, hfull⟩ := owed_of_settleAll hfed hset
    have hnone : taken.map (List.take size) = done := by simpa [owed, Session.line] using hpieces
    refine ⟨taken ++ more, by rw [hqueue, hchunks, List.append_assoc], ?_⟩
    refine hsteps.induction Flow.step ⟨⟨done, ?_, hdone⟩, ?_, hfull⟩
    · rw [List.map_append, hnone, ← howed]
    · intro t' ht'
      obtain ⟨t, ht, hshape⟩ := List.mem_map.mp
        ((Bench.settleAll_perm hset).subset (List.mem_map_of_mem (f := (·.shape)) ht'))
      exact (hfed t ht).of_shape hshape.symm

/-- **Control transfers keep the flow**: what they cancel is their own. -/
theorem Flows.kept (p : Pool) : Session.Kept
    (fun s => p.Held none s ∧ Flows earlier format size queue s)
    (fun id s => p.Held (some id) s ∧ Flows earlier format size queue s) where
  unallocated h halloc := by
    refine ⟨(Pool.Held.kept p).unallocated h.1 halloc, ?_⟩
    obtain rfl := Bench.alloc_error halloc
    exact h.2
  refused h hattached halloc hkind hsubmit := by
    refine ⟨(Pool.Held.kept p).refused h.1 hattached halloc hkind hsubmit, ?_⟩
    obtain ⟨-, rfl⟩ := Bench.alloc_ok halloc
    obtain ⟨controlLog, replies, rfl⟩ := Bench.submit_error hsubmit
    exact h.2.mono rfl rfl fun hfed t ht => hfed t (List.mem_filter.mp ht).1
  submitted {s id b request b'} h hattached halloc hkind hsubmit := by
    refine ⟨(Pool.Held.kept p).submitted h.1 hattached halloc hkind hsubmit, ?_⟩
    obtain ⟨-, rfl⟩ := Bench.alloc_ok halloc
    obtain ⟨-, controlLog, replies, reply, rfl⟩ := Bench.submit_ok hsubmit
    refine h.2.mono rfl rfl ?_
    intro hfed t ht
    rcases List.mem_append.mp (show t ∈ _ ++ [_] from ht) with ht | ht
    · exact hfed t ht
    · rw [List.mem_singleton.mp ht]
      exact .control _ hkind rfl
  passed h := ⟨(Pool.Held.kept p).passed h.1, h.2.passed (Session.passed_events _ _)⟩
  cancelled {id s} h := by
    refine ⟨(Pool.Held.kept p).cancelled h.1, h.2.mono ?_ rfl ?_⟩
    · rcases hcancel : s.transport.cancel id with ⟨result, b⟩
      obtain ⟨inFlight, rfl, -⟩ := Bench.cancel_cases hcancel
      exact congrArg (fun r => r.2.chunks) hcancel
    · intro hfed t' ht'
      rcases Bench.mem_of_mem_cancel ht' with ht | ⟨-, t, ht, hid, hkind, hhandler⟩
      · exact hfed t' ht
      · rcases h.1.custody.source t ht with ⟨slot, hc⟩ | ⟨id', -, hc⟩
        · exact absurd (hc.id_eq.symm.trans hid) (h.1.custody.apart id rfl slot hc.mem)
        · obtain ⟨ticket, hticket⟩ := hc.handler
          exact .control ticket (hkind ▸ hc.kind) (hhandler ▸ hticket)
  freed h := ⟨(Pool.Held.kept p).freed h.1,
    h.2.mono rfl rfl fun hfed t ht => hfed t (List.mem_filter.mp ht).1⟩

end Streaming

/-! ### Periods -/

namespace Analyzer

open SinkTrace Streaming

/-- The chunks that an entry of the script adds to the queue. -/
def pushedBy : Bench.Cue → List Bytes
  | .chunk data => [data]
  | _ => []

/-- The chunks that steps add to the queue. -/
def pushed (steps : List (Step Bench.Cue)) : List Bytes := (cues steps).flatMap pushedBy

variable {earlier : List SinkEvent} {format : StreamFormat} {size : Nat} {queue : List Bytes}

/-- **A stream keeps its flow**, whatever is done with the analyzer but end the stream. -/
lemma steady_flows (earlier : List SinkEvent) (format : StreamFormat) (size : Nat)
    (queue : List Bytes) : Steady fun a : Traced =>
      a.pool.Held none a.session ∧ Flows earlier format size queue a.session where
  exchange {a packet response ms answer s} h hex := (Flows.kept a.pool).execute h hex
  pass ms h :=
    have hpass := Session.passed_events _ ms
    ⟨h.1.passed hpass, h.2.passed hpass⟩
  context _ h := h
  allocate {a} h := by
    obtain ⟨allocated, freed, inFlight, hframe⟩ :=
      Pool.allocate_frame a.pool a.settings.transferPoolSize a.session
    have hchunks := congrArg Bench.chunks hframe
    refine ⟨h.1.allocate _, h.2.mono hchunks ?_ ?_⟩
    · exact congrArg Host.shared (Pool.host_allocate _ _ _)
    · intro hfed t ht
      exact hfed t (Pool.mem_of_mem_allocate ht)
  free {a} h := by
    have hchunks := congrArg Bench.chunks
      (Pool.freeSlots_bench a.pool.slots a.session.transport)
    exact ⟨h.1.freeAll, h.2.mono hchunks rfl fun hfed t ht => hfed t (Pool.mem_of_mem_freeAll ht)⟩

lemma chunks_cue {H : Type} (b : Bench H) (cue : Bench.Cue) :
    (b.cue cue).chunks = b.chunks ++ pushedBy cue := by
  cases cue <;> simp [Bench.cue, pushedBy]

/-- The script only adds to the queue. -/
lemma flows_cued {a : Traced} (cue : Bench.Cue)
    (h : a.pool.Held none a.session ∧ Flows earlier format size queue a.session) :
    (a.cued cue).pool.Held none (a.cued cue).session ∧
      Flows earlier format size (queue ++ pushedBy cue) (a.cued cue).session := by
  obtain ⟨hheld, taken, hqueue, hflow⟩ := h
  have hflight : (a.session.transport.cue cue).inFlight = a.session.transport.inFlight := by
    cases cue <;> rfl
  have halloc : (a.session.transport.cue cue).allocated = a.session.transport.allocated := by
    cases cue <;> rfl
  refine ⟨hheld.congr (.of_eq (congrArg _ hflight)) rfl halloc, taken, ?_, hflow.handled,
    fun t ht => hflow.fed t (show t ∈ a.session.transport.inFlight from hflight ▸ ht), hflow.full⟩
  rw [hqueue, List.append_assoc, ← chunks_cue]
  rfl

/-- Submitted slots are in flight to be filled for the stream. -/
lemma fed_of_submitSlots {endpoint : UInt8} {slots : List Pool.Slot}
    {s s' : Session (Bench (Handler StreamFormat)) (Feed SinkTrace)}
    {result : Except UsbError Unit}
    (hrun : Pool.submitSlots size endpoint format slots s = (result, s'))
    (hs : ∀ t ∈ s.transport.inFlight, Fed format size t) :
    (∀ t ∈ s'.transport.inFlight, Fed format size t) ∧ s'.host.shared = s.host.shared := by
  let Ready (s' : Session (Bench (Handler StreamFormat)) (Feed SinkTrace)) : Prop :=
    (∀ t ∈ s'.transport.inFlight, Fed format size t) ∧ s'.host.shared = s.host.shared
  have hsent : Ready (Pool.submitSlots size endpoint format slots s).2 := by
    refine Pool.submitSlots_induction (R := Ready) ?_ ?_ ⟨hs, rfl⟩
    · intro slot s₁ b _ h₁ hsubmit
      obtain ⟨-, controlLog, replies, reply, rfl⟩ := Bench.submit_ok hsubmit
      refine ⟨?_, h₁.2⟩
      intro t ht
      rcases List.mem_append.mp (show t ∈ _ ++ [_] from ht) with ht | ht
      · exact h₁.1 t ht
      · rw [List.mem_singleton.mp ht]
        exact .slot slot.key rfl rfl rfl (by simp [zeros])
    · intro slot s₁ error b _ h₁ hsubmit
      obtain ⟨controlLog, replies, rfl⟩ := Bench.submit_error hsubmit
      exact h₁
  rwa [hrun] at hsent

/-- **A successful start opens the flow**: the sink has been told of it, nothing has been taken
from the queue for it, and every slot is in flight to be filled. -/
lemma flows_of_start {a b : Traced} (h : Orderly a) (hstart : a.start = some (.ok (), b)) :
    ∃ format earlier, b.phase = .streaming ∧ b.trace = earlier ++ [.started format] ∧
      b.pool.Held none b.session ∧
      Flows b.trace format a.pool.bufferSize b.session.transport.chunks b.session := by
  have hb := stable_orderly.start h hstart
  obtain ⟨format, answer, s, c, -, hidle, -, hex, harm, rfl⟩ := start_eq_ok hstart
  have hnone := h.held.inFlight_of_execute hidle hex
  obtain ⟨d, session, hpool, -, -, hsubmit, rfl⟩ := armStreaming_eq_ok harm
  -- allocation, if there was any, has left the new feed alone and put nothing in flight
  have hd : d.pool.bufferSize = a.pool.bufferSize ∧ d.session.transport.inFlight = [] ∧
      d.feed = { running := true, sink := s.host.shared.sink.push (.started format) } := by
    rcases hpool with rfl | rfl
    · exact ⟨rfl, hnone, rfl⟩
    · refine ⟨Pool.bufferSize_allocate _ _ _, List.eq_nil_iff_forall_not_mem.mpr ?_, ?_⟩
      · intro t ht
        have hmem := Pool.mem_of_mem_allocate ht
        exact absurd (hnone ▸ hmem) List.not_mem_nil
      · exact congrArg Host.shared (Pool.host_allocate _ _ _)
  rw [hd.1] at hsubmit
  obtain ⟨hfed, hshared⟩ := fed_of_submitSlots hsubmit (by simp [hd.2.1])
  have hfeed := hshared.trans hd.2.2
  have htold : session.host.shared.sink.events = told s.host ++ [.started format] :=
    congrArg (fun f => f.sink.events) hfeed
  refine ⟨format, told s.host, rfl, htold, hb.held, [], rfl, ⟨[], rfl, ?_⟩, hfed,
    by simp [Session.line]⟩
  refine ⟨congrArg Feed.running hfeed, ?_, ?_, ?_⟩
  · exact (List.append_nil _).symm
  · exact congrArg (fun f => f.stats.transfers) hfeed
  · exact congrArg (fun f => f.stats.bytes) hfeed

/-- **Nothing is lost, duplicated or reordered.**  From a successful start until the next stop,
cancel or teardown, the chunks that have left the queue, each cut to the size of a transfer's
buffer, are what the sink got in that period and what the counters count. -/
theorem delivered_of_period {settings : AcquisitionSettings} {before period : List (Step Bench.Cue)}
    {op : Op} {a₁ a₂ a₃ : Traced} (hbefore : run before (fresh settings) = some a₁)
    (hop : op.opensStream = true) (hstart : a₁.perform op = some (.done (.ok ()), a₂))
    (hperiod : ∀ s ∈ period, s.endsStream = false) (hrun : run period a₂ = some a₃) :
    ∃ format earlier consumed since,
      a₂.trace = earlier ++ [.started format] ∧
      a₂.session.transport.chunks ++ pushed period =
        consumed ++ a₃.session.transport.chunks ∧
      let pieces := consumed.map (List.take settings.transferBufferSize)
      a₃.trace = a₂.trace ++ since ∧
      (∀ event ∈ since, ∃ samples, event = .deliver samples format) ∧
      samples since = pieces.flatten ∧
      a₃.feed.stats.bytes = UInt64.ofNat pieces.flatten.length ∧
      a₃.feed.stats.transfers = UInt64.ofNat pieces.length := by
  obtain ⟨b, hb, hstarted⟩ := start_of_perform hop hstart
  have horderly : Orderly b ∧ Sized settings b := by
    have h₁ := orderly_of_run hbefore
    have h₁' : Sized settings a₁ := (stable_sized settings).run (fun _ h => ⟨h.1, h.2⟩)
      ⟨rfl, rfl⟩ hbefore
    rcases hb with rfl | ⟨response, hconf⟩
    · exact ⟨h₁, h₁'⟩
    · exact ⟨stable_orderly.configure h₁ hconf, (stable_sized settings).configure h₁' hconf⟩
  obtain ⟨format, earlier, hphase, htold, hheld, hflows⟩ := flows_of_start horderly.1 hstarted
  rw [horderly.2.bufferSize] at hflows
  obtain ⟨-, -, consumed, hqueue, ⟨done, hpieces, hhandled⟩, -, -⟩ :=
    Steady.run (I := fun given (a : Traced) => a.pool.Held none a.session ∧
      Flows a₂.trace format settings.transferBufferSize
        (a₂.session.transport.chunks ++ given.flatMap pushedBy) a.session) []
      (fun given => steady_flows _ _ _ _)
      (fun cue h => by simpa [List.flatMap_append, List.append_assoc] using flows_cued cue h)
      hperiod hphase ⟨hheld, by simpa using hflows⟩ hrun
  have hdone : done = consumed.map (List.take settings.transferBufferSize) := by
    simpa [owed, Session.line] using hpieces.symm
  rw [hdone] at hhandled
  refine ⟨format, earlier, consumed, _, htold, hqueue, hhandled.told, ?_,
    samples_deliveries _ _, hhandled.bytes, hhandled.transfers⟩
  intro event hevent
  obtain ⟨piece, -, rfl⟩ := List.mem_map.mp hevent
  exact ⟨piece, rfl⟩

/-- Chunks for a poll in which one slot is lost, and one for the passes of a command. -/
def threeChunks : List (Step Bench.Cue) :=
  [.cue (.chunk [1, 2, 3]), .cue (.chunk [4]), .cue (.failSubmit 5 .io), .call (.poll 10),
    .cue (.chunk [5]), .call .version]

theorem delivered_threeChunks : ∃ a₁ a₂ a₃ : Traced,
    run [.cue (.response [64, 66, 15, 0, 0, 0, 0, 0, 0x82])]
      (fresh { transferPoolSize := 2, transferBufferSize := 2 }) = some a₁ ∧
    a₁.perform .acquire = some (.done (.ok ()), a₂) ∧ run threeChunks a₂ = some a₃ ∧
    a₃.feed.stats = ⟨3, 4, 1⟩ ∧ ∃ since, a₃.trace = a₂.trace ++ since ∧
      ∃ consumed : List Bytes,
        a₂.session.transport.chunks ++ pushed threeChunks =
          consumed ++ a₃.session.transport.chunks ∧
        samples since = (consumed.map (List.take 2)).flatten := by
  let a₁ : Traced := (fresh { transferPoolSize := 2, transferBufferSize := 2 }).cued
    (.response [64, 66, 15, 0, 0, 0, 0, 0, 0x82])
  have hbefore : run [.cue (.response [64, 66, 15, 0, 0, 0, 0, 0, 0x82])]
      (fresh { transferPoolSize := 2, transferBufferSize := 2 }) = some a₁ := rfl
  have hall : (a₁.acquire.bind fun r => (run threeChunks r.2).map fun a =>
      (r.1.isOk, a.feed.stats)) = some (true, ⟨3, 4, 1⟩) := by decide +kernel
  obtain ⟨⟨result, a₂⟩, hacquire, hrest⟩ := Option.bind_eq_some_iff.mp hall
  obtain ⟨a₃, hrun, hend⟩ := Option.map_eq_some_iff.mp hrest
  obtain ⟨hok, hstats⟩ := Prod.mk.inj hend
  cases result with
  | error error => cases hok
  | ok _ =>
      have hperform : a₁.perform .acquire = some (.done (.ok ()), a₂) := by
        rw [perform, hacquire]
        rfl
      obtain ⟨format, earlier, consumed, since, -, hqueue, htrace, -, hsamples, -, -⟩ :=
        delivered_of_period hbefore rfl hperform (by decide) hrun
      exact ⟨a₁, a₂, a₃, hbefore, hperform, hrun, hstats, since, htrace, consumed, hqueue, hsamples⟩

end Analyzer

end LogicCapture
