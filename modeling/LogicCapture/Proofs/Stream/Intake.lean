/-
What a stream over a link takes in: the bytes of its bulk transfers, as the stack reports them.

* `HostStack.Submission.arrived`: the bytes that have arrived with a transfer;
* `Occurrence.pieces`: of the transfers that end, the completed ones bring the pieces of a stream,
  until the device is gone;
* `Streaming.Taken`: a feed has passed these pieces on, and counted them;
* `DeviceLink.Streams`: the transfers on a link are those of a stream;
* `Course.taken_step`: every completion of such a link is taken;
* `DeviceLink.taken_events`: so are those of a pass.
-/
import LogicCapture.Proofs.Link.Attested
import LogicCapture.Stream.Feed

namespace LogicCapture

open HostStack (Settled Submission)

variable {κ S : Type}

/-! ### What arrives -/

/-- **The bytes that have arrived** with a transfer: as many of those in its buffer, behind the
setup header if there is one, as the stack says it has received, or all of them. -/
def HostStack.Submission.arrived (t : Submission) (settled : Settled) : Bytes :=
  ((overwrite t.buffer t.offset settled.written).drop t.offset).take settled.actual.toNat

/-- The handler of a transfer is told what has arrived. -/
lemma DeviceLink.Owned.completion_eq (o : Owned κ) (settled : Settled) :
    o.completion settled = ⟨.ofCode settled.status, o.submission.arrived settled⟩ := rfl

namespace Occurrence

/-- A transfer has ended because the device is gone. -/
def losesDevice : Occurrence → Bool
  | .ended _ settled => TransferStatus.ofCode settled.status = .noDevice
  | _ => false

/-- What has arrived with a bulk transfer, if it has completed. -/
def piece? : Occurrence → Option Bytes
  | .ended t settled =>
    if t.kind.isBulk = true ∧ TransferStatus.ofCode settled.status = .completed then
      some (t.arrived settled)
    else none
  | _ => none

/-- **The pieces of a stream**: what has arrived with the bulk transfers that have completed, in
order, before a transfer has ended because the device is gone. -/
def pieces (occurrences : List Occurrence) : List Bytes :=
  (occurrences.takeWhile fun o => !o.losesDevice).filterMap piece?

/-- A loss brings nothing, and nothing is taken after one. -/
lemma pieces_concat (occurrences : List Occurrence) (last : Occurrence) :
    pieces (occurrences ++ [last]) = pieces occurrences ++
      if occurrences.any losesDevice ∨ last.losesDevice = true then [] else last.piece?.toList := by
  induction occurrences with
  | nil => cases h : last.losesDevice <;> cases hpiece : last.piece? <;> simp [pieces, h, hpiece]
  | cons first rest ih =>
      cases hfirst : first.losesDevice with
      | true => simp [pieces, hfirst]
      | false =>
          have hcons (more : List Occurrence) :
              pieces (first :: more) = first.piece?.toList ++ pieces more := by
            cases hpiece : first.piece? <;> simp [pieces, hfirst, hpiece]
          rw [List.cons_append, hcons, ih, hcons, List.append_assoc]
          simp [hfirst]

end Occurrence

/-! ### What a feed takes -/

namespace Streaming

open Occurrence (pieces losesDevice)

variable [SampleSink S]

/-- The sink once it has been given these pieces; empty ones are not passed on. -/
def passOn (format : StreamFormat) (sink : S) (pieces : List Bytes) : S :=
  (pieces.filter fun piece => !piece.isEmpty).foldl
    (fun sink piece => SampleSink.deliver sink piece format) sink

lemma passOn_concat (format : StreamFormat) (sink : S) (pieces : List Bytes) (piece : Bytes) :
    passOn format sink (pieces ++ [piece]) =
      if piece.isEmpty then passOn format sink pieces
      else SampleSink.deliver (passOn format sink pieces) piece format := by
  cases h : piece.isEmpty <;> simp [passOn, h]

/-- **The pieces of a stream have been taken**: since its feed was `opened`, the sink has been given
them in order, and they have been counted.  The stream runs until the device is gone. -/
structure Taken (format : StreamFormat) (opened : Feed S) (since : List Occurrence)
    (feed : Feed S) : Prop where
  running : feed.running = !since.any losesDevice
  sink : feed.sink = passOn format opened.sink (pieces since)
  transfers : feed.stats.transfers = opened.stats.transfers + UInt64.ofNat (pieces since).length
  bytes : feed.stats.bytes = opened.stats.bytes + UInt64.ofNat (pieces since).flatten.length

variable {format : StreamFormat} {opened feed : Feed S} {since : List Occurrence}

/-- Nothing has been taken as long as nothing has happened. -/
lemma Taken.start (h : opened.running = true) : Taken format opened [] opened where
  running := h
  sink := rfl
  transfers := (UInt64.add_zero _).symm
  bytes := (UInt64.add_zero _).symm

/-- An error is only counted. -/
lemma Taken.reject (h : Taken format opened since feed) : Taken format opened since feed.reject :=
  ⟨h.running, h.sink, h.transfers, h.bytes⟩

/-- What brings no piece changes nothing. -/
lemma Taken.skip {last : Occurrence} (h : Taken format opened since feed)
    (hnone : pieces (since ++ [last]) = pieces since) {feed' : Feed S}
    (hrunning : feed'.running = (feed.running && !last.losesDevice))
    (hsink : feed'.sink = feed.sink) (htransfers : feed'.stats.transfers = feed.stats.transfers)
    (hbytes : feed'.stats.bytes = feed.stats.bytes) :
    Taken format opened (since ++ [last]) feed' where
  running := by simp [hrunning, h.running]
  sink := by rw [hsink, hnone, h.sink]
  transfers := by rw [htransfers, hnone, h.transfers]
  bytes := by rw [hbytes, hnone, h.bytes]

/-- One more piece is taken. -/
lemma Taken.accept {last : Occurrence} {piece : Bytes} (h : Taken format opened since feed)
    (hlast : last.losesDevice = false)
    (hmore : pieces (since ++ [last]) = pieces since ++ [piece]) :
    Taken format opened (since ++ [last]) (feed.accept piece format) where
  running := by simp [Feed.accept, h.running, hlast]
  sink := by rw [hmore, passOn_concat, ← h.sink]; rfl
  transfers := by
    simp [Feed.accept, StreamStats.recordTransfer, hmore, h.transfers, UInt64.ofNat_add,
      UInt64.add_assoc]
  bytes := by
    simp [Feed.accept, StreamStats.recordTransfer, hmore, h.bytes, UInt64.ofNat_add,
      UInt64.add_assoc]

/-- **The completion of a bulk transfer is taken.** -/
theorem Taken.complete (h : Taken format opened since feed) {t : Submission}
    (hkind : t.kind.isBulk = true) (settled : Settled) :
    Taken format opened (since ++ [.ended t settled])
      (feed.complete format ⟨.ofCode settled.status, t.arrived settled⟩).2 := by
  have hmore := Occurrence.pieces_concat since (.ended t settled)
  rcases hstatus : TransferStatus.ofCode settled.status
  case completed =>
    have hlast : losesDevice (.ended t settled) = false := by simp [losesDevice, hstatus]
    have hpiece : Occurrence.piece? (.ended t settled) = some (t.arrived settled) := by
      simp [Occurrence.piece?, hkind, hstatus]
    rw [hlast, hpiece] at hmore
    cases hlost : since.any losesDevice with
    | true =>
        have hoff : feed.running = false := by simp [h.running, hlost]
        exact h.skip (by simpa [hlost] using hmore) (by simp [Feed.complete, hoff])
          (by simp [Feed.complete, hoff]) (by simp [Feed.complete, hoff])
          (by simp [Feed.complete, hoff])
    | false =>
        have hon : feed.running = true := by simp [h.running, hlost]
        have hpieces : Occurrence.pieces (since ++ [.ended t settled]) =
            Occurrence.pieces since ++ [t.arrived settled] := by simpa [hlost] using hmore
        simpa [Feed.complete, hon] using h.accept hlast hpieces
  all_goals
    refine h.skip ?_ ?_ rfl rfl rfl
    · simpa [Occurrence.piece?, hstatus] using hmore
    · simp [Feed.complete, Feed.reject, losesDevice, hstatus]

end Streaming

/-! ### Completions and passes -/

open Streaming (Taken)

/-- **The link carries a stream**: the transfers that it keeps are bulk transfers of slots that
consume samples in this format. -/
def DeviceLink.Streams (l : DeviceLink (Handler StreamFormat)) (format : StreamFormat) : Prop :=
  ∀ o ∈ l.owned, o.submission.kind.isBulk = true ∧ ∃ key, o.handler = .slot key format

variable [SampleSink S] {format : StreamFormat} {opened : Feed S} {since : List Occurrence}

namespace Course

variable {c c' : Course (Handler StreamFormat) (Host (Feed S))}

/-- **What completes on a link that carries a stream is taken**, whether the transfer is armed
again, or not, or its resubmission is refused. -/
theorem taken_step {settled : Settled} {o : DeviceLink.Owned (Handler StreamFormat)}
    (hstep : Step Handler.react c c') (hqueue : c.queue = settled :: c'.queue)
    (hfind : c.link.awaiting settled.id = some o) (hstreams : c.link.Streams format)
    (h : Taken format opened since c.state.shared) :
    c'.link.Streams format ∧
      Taken format opened (since ++ [.ended o.submission settled]) c'.state.shared := by
  obtain ⟨hkind, key, hhandler⟩ := hstreams o (DeviceLink.mem_of_awaiting hfind).1
  have hcomplete : Taken format opened (since ++ [.ended o.submission settled])
      (c.state.shared.complete format (o.completion settled)).2 := by
    rw [DeviceLink.Owned.completion_eq]
    exact h.complete hkind settled
  have hreact {rearm : Rearm} {handler : Handler StreamFormat} {host' : Host (Feed S)}
      (hrun : o.handler.react (o.completion settled) c.state = (rearm, handler, host')) :
      handler = .slot key format ∧
        Taken format opened (since ++ [.ended o.submission settled]) host'.shared := by
    obtain ⟨_, _, shared, hconsume, hslot⟩ :=
      Handler.react_slot key format (o.completion settled) c.state
    rw [hhandler, hslot] at hrun
    cases hconsume
    cases hrun
    exact ⟨rfl, hcomplete⟩
  have hless {l : DeviceLink (Handler StreamFormat)} (hl : l.Streams format) (settled : Settled) :
      ((l.told settled).forget settled.id).Streams format := by
    intro o' ho'
    rw [DeviceLink.owned_forget_told] at ho'
    exact hl o' (List.mem_filter.mp ho').1
  cases hstep with
  | strayed hnone =>
      obtain ⟨rfl, -⟩ := List.cons.inj hqueue
      cases hnone.symm.trans hfind
  | ended hfind' hrun _ =>
      obtain ⟨rfl, -⟩ := List.cons.inj hqueue
      obtain rfl := Option.some.inj (hfind'.symm.trans hfind)
      exact ⟨hless hstreams _, (hreact hrun).2⟩
  | @rearmed _ rest l s t rearm handler s' stack hfind' hrun _ _ =>
      obtain ⟨rfl, -⟩ := List.cons.inj hqueue
      obtain rfl := Option.some.inj (hfind'.symm.trans hfind)
      refine ⟨fun o' ho' => ?_, (hreact hrun).2⟩
      rcases List.mem_append.mp ho' with ho' | ho'
      · exact hless hstreams _ o' ho'
      · rw [List.mem_singleton.mp ho']
        exact ⟨hkind, key, (hreact hrun).1⟩
  | @refused _ rest l s t rearm handler s' code stack rearm' handler' s'' hfind' hrun _ _ _
      hagain =>
      obtain ⟨rfl, -⟩ := List.cons.inj hqueue
      obtain rfl := Option.some.inj (hfind'.symm.trans hfind)
      obtain ⟨rfl, htaken⟩ := hreact hrun
      refine ⟨fun o' ho' => ?_, ?_⟩
      · rw [DeviceLink.owned_noteError] at ho'
        exact hless hstreams _ o' ho'
      · -- the handler is told of the refusal, which is one more error
        have hshared := Handler.shared_react_slot key format .refused s'
        rw [hagain] at hshared
        rw [hshared]
        exact htaken.reject

end Course

/-- **What completes in a pass is taken**, in the order in which the stack reports it. -/
theorem DeviceLink.taken_events {l : DeviceLink (Handler StreamFormat)} {host : Host (Feed S)}
    (hexact : l.Exact []) (hstreams : l.Streams format) (h : Taken format opened since host.shared)
    (ms : Nat) :
    let run := (l.events ms).run Handler.react host
    run.2.1.Streams format ∧
      Taken format opened (since ++ l.endings (l.stack.poll ms).2.1) run.2.2.shared := by
  obtain ⟨l', host', hrun, hstreams', htaken⟩ := endings_induction Handler.react hexact ms host
    (R := fun done link state => link.Streams format ∧
      Taken format opened (since ++ done) state.shared)
    ⟨hstreams, (List.append_nil since).symm ▸ h⟩
    (fun hstep _ hqueue hfind hdone => by
      rw [← List.append_assoc]
      exact Course.taken_step hstep hqueue hfind hdone.1 hdone.2)
  simp only [hrun]
  exact ⟨fun o ho => hstreams' o (owned_closed l' _ ▸ ho), htaken⟩

end LogicCapture
