/-
What a capture leaves in its output file.

* `Analyzer.begun_of_acquire`: an acquisition that begins on an empty link opens the feed, and
  leaves only the transfers of its stream there;
* `Capture.reported`: the transfers whose ends the stack reports while samples are streamed;
* `Capture.Going`: these are in its list of calls, in their order, and what arrives with them has
  been taken; `Going.poll` is the step for a pass, and `Going.streamUntil` goes over all passes;
* `Capture.Streamed`: the course of a capture that comes to report (`Capture.streamed_of_run`);
* `Capture.accounted_of_run`: if every write succeeds, the file holds what has arrived with the bulk
  transfers that have completed while the stream ran, and all counts are its length;
* `CommandLine.read_of_capture`: this is what is read from the output file of the program.
-/
import LogicCapture.CommandLine.Run
import LogicCapture.Proofs.Capture.Ends
import LogicCapture.Proofs.Files.ReadBack
import LogicCapture.Proofs.Link.Cleared
import LogicCapture.Proofs.Sink.Contents
import LogicCapture.Proofs.Stream.Intake
import LogicCapture.Proofs.Stream.Shut

namespace LogicCapture

open Analyzer (Plugged)
open Feed (Shut)
open HostStack.Call (isCompletion)
open Occurrence (pieces)
open Streaming (Taken passOn)

variable {S W : Type}

/-! ### The beginning of a stream -/

namespace Analyzer

variable {a b : Plugged S}

/-- Allocation leaves an empty link empty. -/
lemma owned_allocateTransfers (h : a.session.transport.owned = []) :
    a.allocateTransfers.2.session.transport.owned = [] :=
  Pool.allocate_induction (R := fun l : DeviceLink (Handler StreamFormat) => l.owned = [])
    (fun {l} hl => by
      rcases halloc : l.alloc with ⟨result, l'⟩
      obtain ⟨answer, stack, -, rfl, -⟩ := DeviceLink.alloc_cases halloc
      have hrun : Transport.alloc l = (result, { l with stack }) := halloc
      rw [hrun]
      exact hl)
    (fun id hl => (DeviceLink.owned_free _ id).trans hl) a.pool a.settings.transferPoolSize h

variable [SampleSink S]

/-- A configure that succeeds leaves an empty link empty. -/
lemma cleared_of_configure {response : ConfigureResponse} (h : a.session.Cleared)
    (hrun : a.configure = some (.ok response, b)) : b.session.Cleared := by
  cases configures_of_configure hrun with
  | @agreed answer session response hasks hread _ =>
      obtain ⟨-, n, hok⟩ := valid_of_readResponse hread
      have hcleared := Session.cleared_of_execute h hasks.sent hok
      obtain ⟨_, _, -, -, howned, -⟩ :=
        DeviceLink.claim_cases session.transport Protocol.streamingInterface
      exact ⟨hcleared.exact.claim _, howned.trans hcleared.owned⟩

/-- **A start that succeeds** on an empty link leaves only the transfers of its stream there. -/
lemma streams_of_start (h : a.session.Cleared) (hrun : a.start = some (.ok (), b)) :
    ∃ format, a.context.streamFormat = some format ∧ b.session.transport.Streams format := by
  cases starts_of_start hrun with
  | @armed format answer session c n hlaunch harm hok =>
      have hcleared := Session.cleared_of_execute h hlaunch.sent hok
      obtain ⟨d, session', hd, -, -, hsubmit, rfl⟩ := armStreaming_eq_ok harm
      have hempty : d.session.transport.owned = [] := by
        rcases hd with rfl | rfl
        · exact hcleared.owned
        · exact owned_allocateTransfers hcleared.owned
      refine ⟨format, hlaunch.known, ?_⟩
      have hstreams : (Pool.submitSlots d.pool.bufferSize format.endpoint format d.pool.slots
          d.session).2.transport.Streams format := by
        refine Pool.submitSlots_induction (R := fun s : Session (DeviceLink (Handler StreamFormat))
          (Feed S) => s.transport.Streams format) ?_ ?_ (by simp [DeviceLink.Streams, hempty])
        · intro slot s l _ hs hsubmit
          obtain ⟨⟨_, hno⟩, -⟩ | ⟨code, stack, -, -, ⟨-, hno, -⟩ | ⟨-, -, rfl⟩⟩ :=
            DeviceLink.submit_cases hsubmit
          · cases hno
          · cases hno
          · intro o ho
            rcases List.mem_append.mp ho with ho | ho
            · exact hs o ho
            · rw [List.mem_singleton.mp ho]
              exact ⟨rfl, slot.key, rfl⟩
        · intro slot s error l _ hs hsubmit o ho
          exact hs o (DeviceLink.owned_of_refused hsubmit ▸ ho)
      rw [hsubmit] at hstreams
      exact hstreams

/-- **An acquisition that begins** on an empty link opens the feed, and leaves only the transfers of
its stream there. -/
theorem begun_of_acquire {before : Feed S} (h : a.session.Cleared) (hshut : Shut before a.feed)
    (hrun : a.acquire = some (.ok (), b)) :
    ∃ format, b.session.transport.Streams format ∧
      b.feed = ⟨true, {}, SampleSink.started before.sink format⟩ := by
  rcases acquire_eq_some.mp hrun with ⟨error, -, hno⟩ | ⟨response, c, hconf, hstart⟩
  · cases hno
  · obtain ⟨format, hformat, hstreams⟩ := streams_of_start (cleared_of_configure h hconf) hstart
    obtain ⟨format', hformat', hopened⟩ := opened_of_start (shut_configure hshut hconf) hstart
    cases hformat.symm.trans hformat'
    exact ⟨format, hstreams, hopened⟩

end Analyzer

namespace Capture

/-! ### Streaming -/

/-- **What the stack reports** while samples are streamed: the ends of transfers in the passes that
`streamUntil` makes, in the stack's order. -/
def reports [SampleSink S] (clock : Clock) (deadline : Nat) :
    Nat → Nat → Plugged S → List Occurrence
  | 0, _, _ => []
  | fuel + 1, reading, a =>
    if deadline ≤ clock reading ∨ a.isStreaming = false then []
    else
      a.session.transport.endings (a.session.transport.stack.poll passMs).2.1 ++
        match a.poll passMs with
        | (.error _, _) => []
        | (.ok (), a) => reports clock deadline fuel (reading + 1) a

/-- What the stack reports while samples are streamed for a length of time. -/
def reported [SampleSink S] (clock : Clock) (duration : Timespan) (started : Plugged S) :
    List Occurrence :=
  reports clock (clock 0 + duration.nanoseconds) (patience started) 1 started

section
variable [SampleSink S] {a b : Plugged S} {format : StreamFormat} {opened : Feed S}
  {since : List Occurrence}

/-- A pass is that of the session. -/
lemma session_poll {ms : Nat} {result : Except CaptureError Unit} (h : a.poll ms = (result, b)) :
    b.session = (a.session.events ms).2 := by
  rw [Analyzer.poll] at h
  dsimp only at h
  split at h
  · cases h
    rfl
  · split at h <;> cases h <;> rfl

/-- **The stream so far**: the link carries it, and what the stack has reported since it was opened
has been taken, and is in the list of calls behind those `before`. -/
structure Going (format : StreamFormat) (opened : Feed S) (before : List HostStack.Call)
    (since : List Occurrence) (a : Plugged S) : Prop where
  alert : a.Alert
  streams : a.session.transport.Streams format
  taken : Taken format opened since a.feed
  completions : a.session.transport.stack.calls.filter isCompletion =
    before.filter isCompletion ++ since.filterMap Occurrence.completion?

variable {before : List HostStack.Call}

/-- **A pass goes on with the stream.** -/
theorem Going.poll {ms : Nat} {result : Except CaptureError Unit}
    (h : Going format opened before since a) (hrun : a.poll ms = (result, b)) :
    Going format opened before
      (since ++ a.session.transport.endings (a.session.transport.stack.poll ms).2.1) b := by
  have hexact := h.alert.linked.exact
  have hsession := session_poll hrun
  have halert := Analyzer.stable_alert.poll ms h.alert
  rw [hrun] at halert
  obtain ⟨hstreams, htaken⟩ := DeviceLink.taken_events hexact h.streams h.taken ms
  obtain ⟨-, hcompletions⟩ := DeviceLink.completions_events hexact Handler.react ms a.session.host
  refine ⟨halert, ?_, ?_, ?_⟩
  · rw [hsession]
    exact hstreams
  · rw [Analyzer.feed, hsession]
    exact htaken
  · rw [hsession, List.filterMap_append, ← List.append_assoc, ← h.completions]
    exact hcompletions

/-- **Streaming goes on with the stream** until it ends. -/
theorem Going.streamUntil {clock : Clock} {deadline fuel reading : Nat}
    {result : Except Interruption Unit} (h : Going format opened before since a)
    (hrun : streamUntil clock deadline fuel reading a = some (result, b)) :
    Going format opened before (since ++ reports clock deadline fuel reading a) b := by
  induction fuel generalizing a since reading with
  | zero => cases hrun
  | succ fuel ih =>
      rw [Capture.streamUntil] at hrun
      rw [reports]
      split at hrun
      · rename_i hdeadline
        cases hrun
        rw [if_pos (Or.inl hdeadline), List.append_nil]
        exact h
      · rename_i hdeadline
        split at hrun
        · rename_i hstopped
          cases hrun
          rw [if_pos (Or.inr (by simpa using hstopped)), List.append_nil]
          exact h
        · rename_i hstreaming
          rw [if_neg (not_or.mpr ⟨hdeadline, by simpa using hstreaming⟩), ← List.append_assoc]
          split at hrun
          · rename_i hpoll
            cases hrun
            rw [hpoll, List.append_nil]
            exact h.poll hpoll
          · rename_i hpoll
            rw [hpoll]
            exact ih (h.poll hpoll) hrun

end

/-! ### Captures that come to report -/

section
variable {τ : Type} [Transport τ (Handler StreamFormat)] [Writer W]

/-- **The course of a capture that comes to report**: the acquisition is set going, samples are
streamed in event passes until that ends, and then the acquisition is cancelled. -/
structure Streamed (clock : Clock) (duration : Timespan) (a : Analyzer τ (Option (FileSink W)))
    (result : Except Interruption Unit) (started last stopped : Analyzer τ (Option (FileSink W))) :
    Prop where
  acquires : Acquires a started
  streams : streamUntil clock (clock 0 + duration.nanoseconds) (patience started) 1 started =
    some (result, last)
  cancels : ∃ answer, last.cancel = some (answer, stopped)

lemma streamed_of_run {clock : Clock} {duration : Timespan}
    {a b : Analyzer τ (Option (FileSink W))} {result : Except Interruption Unit}
    {written : Option (Except WriteError UInt64)}
    (h : run clock duration a = some (.streamed result written, b)) :
    ∃ started last stopped, Streamed clock duration a result started last stopped ∧
      finish stopped.teardown = (written, b) := by
  rw [run] at h
  split at h
  · cases h
  · rename_i allocated hallocate
    simp only [Option.bind_eq_bind, Option.bind_eq_some_iff, Prod.exists] at h
    obtain ⟨acquired, started, hacquire, hrest⟩ := h
    cases acquired with
    | error error => cases hrest
    | ok _ =>
        dsimp only at hrest
        split at hrest
        · cases hrest
        · simp only [Option.bind_eq_some_iff, Prod.exists] at hrest
          obtain ⟨interruption, last, hstream, answer, stopped, hcancel, hend⟩ := hrest
          cases hend
          exact ⟨started, last, stopped,
            ⟨⟨allocated, hallocate, hacquire⟩, hstream, answer, hcancel⟩, rfl⟩

end

/-! ### What is in the file -/

variable [Writer W]

/-- What a file is given of the pieces of a stream. -/
lemma passOn_some (format : StreamFormat) (s : FileSink W) (pieces : List Bytes) :
    passOn format (some s) pieces = some (pieces.foldl FileSink.deliver s) := by
  induction pieces using List.reverseRecOn with
  | nil => rfl
  | append_singleton pieces last ih =>
      rw [Streaming.passOn_concat, ih, List.foldl_concat]
      cases last with
      | nil => rw [FileSink.deliver_nil]; rfl
      | cons byte rest => rfl

/-- **What is said of the samples agrees**: the file holds them, and their number, modulo `2 ^ 64`,
is what the sink has counted and reported, what is printed, and what the stream has counted. -/
structure Accounted (samples : Bytes) (result : Except Interruption Unit)
    (written : Option (Except WriteError UInt64)) {τ : Type}
    (b : Analyzer τ (Option (FileSink W))) : Prop where
  file : ∃ sink, b.feed.sink = some sink ∧ Writer.contents sink.writer = samples ∧
    sink.bytesWritten = UInt64.ofNat samples.length
  reported : written = some (.ok (UInt64.ofNat samples.length))
  printed : (CommandLine.conclude (.streamed result written)).2 =
    s!"Wrote {samples.length % UInt64.size} bytes of samples\n"
  counted : b.feed.stats.bytes = UInt64.ofNat samples.length

/-- The number of bytes reported is printed, however streaming has ended. -/
lemma printed_of_ok (result : Except Interruption Unit) (length : Nat) :
    (CommandLine.conclude (.streamed result (some (.ok (UInt64.ofNat length))))).2 =
      s!"Wrote {length % UInt64.size} bytes of samples\n" := by
  have hnumber : (UInt64.ofNat length).toNat = length % UInt64.size := UInt64.toNat_ofNat'
  rw [← hnumber]
  cases result <;> rfl

section
variable {script : List HostStack.Cue} {vendor product : UInt16}
  {link : DeviceLink (Handler StreamFormat)} {settings : AcquisitionSettings} {w : W}
  {clock : Clock} {duration : Timespan} {result : Except Interruption Unit}

/-- A capture begins with a link that carries its stream, and with an open feed. -/
lemma going_of_acquires {started : Plugged (Option (FileSink W))}
    (hopen : DeviceLink.connect (script.foldl HostStack.cue {}) vendor product = .ok link)
    (h : Acquires (.new link settings (some { writer := w })) started) :
    ∃ format, Going format ⟨true, {}, some { writer := w }⟩ started.session.transport.stack.calls []
      started := by
  have hnew := Analyzer.alert_new settings (some ({ writer := w } : FileSink W)) hopen
  have hstarted := h.alert hnew
  obtain ⟨allocated, hallocate, hacquire⟩ := h
  have halert := Analyzer.stable_alert.allocate hnew
  have howned := Analyzer.owned_allocateTransfers
    (a := .new link settings (some ({ writer := w } : FileSink W))) (DeviceLink.opened hopen).1
  have hfeed : (Analyzer.new link settings (some ({ writer := w } : FileSink W)) :
      Plugged (Option (FileSink W))).allocateTransfers.2.feed = { sink := some { writer := w } } :=
    congrArg Host.shared (Pool.host_allocate _ _ _)
  rw [hallocate] at halert howned hfeed
  have hshut : Shut { sink := some { writer := w } } allocated.feed := hfeed.symm ▸ Shut.refl rfl
  obtain ⟨format, hstreams, hopened⟩ :=
    Analyzer.begun_of_acquire ⟨halert.linked.exact, howned⟩ hshut hacquire
  have htaken : Taken format started.feed [] started.feed := .start (by rw [hopened])
  refine ⟨format, hstarted, hstreams, ?_, by simp⟩
  rwa [hopened] at htaken ⊢

/-- **What a capture makes of its samples**: the sink has been given them and told of the end, and
they have been counted. -/
theorem feed_of_streamed {started last stopped : Plugged (Option (FileSink W))}
    (hopen : DeviceLink.connect (script.foldl HostStack.cue {}) vendor product = .ok link)
    (h : Streamed clock duration (.new link settings (some { writer := w })) result started last
      stopped) :
    last.session.transport.stack.calls.filter isCompletion =
        started.session.transport.stack.calls.filter isCompletion ++
          (reported clock duration started).filterMap Occurrence.completion? ∧
      stopped.teardown.feed.sink = some (((pieces (reported clock duration started)).foldl
        FileSink.deliver { writer := w }).stopped) ∧
      stopped.teardown.feed.stats.bytes =
        UInt64.ofNat (pieces (reported clock duration started)).flatten.length := by
  obtain ⟨format, hstarted⟩ := going_of_acquires hopen h.acquires
  obtain ⟨answer, hcancel⟩ := h.cancels
  have hlast := hstarted.streamUntil h.streams
  obtain ⟨errors, hshut⟩ := Analyzer.shut_teardown (Analyzer.shut_of_cancel hcancel)
  rw [List.nil_append] at hlast
  refine ⟨hlast.completions, ?_, ?_⟩
  · rw [hshut, hlast.taken.sink, passOn_some]
    rfl
  · rw [hshut]
    exact hlast.taken.bytes.trans (UInt64.zero_add _)

/-- **The report of a capture**: a number is reported exactly if every write has succeeded, and then
all that is said of the samples agrees. -/
theorem accounted_of_streamed {started last stopped b : Plugged (Option (FileSink W))}
    {written : Option (Except WriteError UInt64)}
    (hopen : DeviceLink.connect (script.foldl HostStack.cue {}) vendor product = .ok link)
    (hempty : Writer.contents w = [])
    (h : Streamed clock duration (.new link settings (some { writer := w })) result started last
      stopped) (hfinish : finish stopped.teardown = (written, b)) :
    ((∃ n, written = some (.ok n)) ↔
        ∃ w', Writer.Stores w (pieces (reported clock duration started)) w') ∧
      ((∃ w', Writer.Stores w (pieces (reported clock duration started)) w') →
        Accounted (pieces (reported clock duration started)).flatten result written b) := by
  obtain ⟨-, hsink, hbytes⟩ := feed_of_streamed hopen h
  generalize pieces (reported clock duration started) = pieces at hsink hbytes ⊢
  have hcount : ({ writer := w } : FileSink W).bytesWritten +
      UInt64.ofNat pieces.flatten.length = UInt64.ofNat pieces.flatten.length := UInt64.zero_add _
  have hreports (n : UInt64) (sink : FileSink W) :
      (pieces.foldl FileSink.deliver { writer := w }).stopped.finish = (.ok n, sink) ↔
        n = ({ writer := w } : FileSink W).bytesWritten + UInt64.ofNat pieces.flatten.length ∧
          ∃ w', Writer.Stores w pieces w' ∧ sink = ⟨w', n, none⟩ := FileSink.finish_eq_ok_iff rfl
  rw [finish, hsink] at hfinish
  dsimp only at hfinish
  refine ⟨⟨?_, ?_⟩, ?_⟩
  · rintro ⟨n, rfl⟩
    have hanswer := Option.some.inj (congrArg Prod.fst hfinish)
    obtain ⟨-, w', hstores, -⟩ := (hreports n _).mp (Prod.ext hanswer rfl)
    exact ⟨w', hstores⟩
  · rintro ⟨w', hstores⟩
    rw [(hreports _ _).mpr ⟨rfl, w', hstores, rfl⟩] at hfinish
    exact ⟨_, (congrArg Prod.fst hfinish).symm⟩
  · rintro ⟨w', hstores⟩
    rw [(hreports _ _).mpr ⟨rfl, w', hstores, rfl⟩, hcount] at hfinish
    obtain ⟨rfl, rfl⟩ := Prod.mk.inj hfinish
    exact ⟨⟨_, rfl, by rw [hstores.contents_eq, hempty, List.nil_append], rfl⟩, rfl,
      printed_of_ok _ _, hbytes⟩

/-- **What a capture leaves in its file.**  When it comes to report, however streaming has ended,
and every write has succeeded, the file holds, in the order in which the stack has reported them,
the bytes that have arrived with the bulk transfers that have completed between the beginning of the
acquisition and its cancellation, before any transfer has ended because the device is gone.  Their
number, modulo `2 ^ 64`, is what is printed, what the sink has counted, and what the stream has
counted.  If a write fails, no number is reported. -/
theorem accounted_of_run {written : Option (Except WriteError UInt64)}
    {b : Plugged (Option (FileSink W))}
    (hopen : DeviceLink.connect (script.foldl HostStack.cue {}) vendor product = .ok link)
    (hempty : Writer.contents w = [])
    (hrun : run clock duration (.new link settings (some { writer := w })) =
      some (.streamed result written, b)) :
    ∃ started last stopped, Streamed clock duration (.new link settings (some { writer := w }))
        result started last stopped ∧
      last.session.transport.stack.calls.filter isCompletion =
        started.session.transport.stack.calls.filter isCompletion ++
          (reported clock duration started).filterMap Occurrence.completion? ∧
      ((∃ n, written = some (.ok n)) ↔
        ∃ w', Writer.Stores w (pieces (reported clock duration started)) w') ∧
      ((∃ w', Writer.Stores w (pieces (reported clock duration started)) w') →
        Accounted (pieces (reported clock duration started)).flatten result written b) := by
  obtain ⟨started, last, stopped, hstreamed, hfinish⟩ := streamed_of_run hrun
  exact ⟨started, last, stopped, hstreamed, (feed_of_streamed hopen hstreamed).1,
    accounted_of_streamed hopen hempty hstreamed hfinish⟩

end

/-- What has interrupted the streaming of samples, if there has been any. -/
def Ending.interruption? : Ending → Option Interruption
  | .streamed (.error interruption) _ => some interruption
  | _ => none

lemma Ending.streamed_of_interruption {ending : Ending} {interruption : Interruption}
    (h : ending.interruption? = some interruption) :
    ∃ written, ending = .streamed (.error interruption) written := by
  unfold interruption? at h
  split at h
  · cases h
    exact ⟨_, rfl⟩
  · cases h

/-- A script with one device, which agrees to be configured and started.  Of two transfers the
second completes first, with one byte more than it has room for; then the device is gone. -/
def losing : List HostStack.Cue :=
  [.device 1 2, .arrivals [⟨0, { status := 0 }⟩],
    .arrivals [⟨0, { status := 0, data := [64, 66, 15, 0, 0, 0, 0, 0, 0x82] }⟩],
    .arrivals [⟨0, { status := 0 }⟩],
    .arrivals [⟨1, { status := 0, data := [1, 2, 3] }⟩, ⟨0, { status := 0, data := [4] }⟩],
    .arrivals [⟨0, { status := 5 }⟩, ⟨0, { status := 0, data := [9] }⟩]]

/-- The link to that device, just opened. -/
def losingLink : DeviceLink (Handler StreamFormat) where
  stack := {
    devices := [(1, 2)]
    arrivals := [[⟨0, { status := 0 }⟩],
      [⟨0, { status := 0, data := [64, 66, 15, 0, 0, 0, 0, 0, 0x82] }⟩], [⟨0, { status := 0 }⟩],
      [⟨1, { status := 0, data := [1, 2, 3] }⟩, ⟨0, { status := 0, data := [4] }⟩],
      [⟨0, { status := 5 }⟩, ⟨0, { status := 0, data := [9] }⟩]]
    calls := DeviceLink.openCalls {} 1 2 }

lemma connect_losing :
    DeviceLink.connect (losing.foldl HostStack.cue {}) 1 2 = .ok losingLink := rfl

/-- A new analyzer with two transfers on this link; its samples go to an empty file. -/
def onLosing : Plugged (Option (FileSink FileContents)) :=
  .new losingLink { transferPoolSize := 2, transferBufferSize := 2 } (some { writer := {} })

/-- What arrives after the loss is not written. -/
theorem accounted_losing : ∃ written b,
    run tenths (.ofMillis 500) onLosing = some (.streamed (.error .ended) written, b) ∧
      Accounted [1, 2, 4] (.error .ended) written b := by
  have hends : (run tenths (.ofMillis 500) onLosing).bind (·.1.interruption?) = some .ended := by
    decide +kernel
  have hpieces : onLosing.allocateTransfers.2.acquire.map (fun r =>
      pieces (reported tenths (.ofMillis 500) r.2)) = some [[1, 2], [4]] := by decide +kernel
  obtain ⟨⟨ending, b⟩, hrun, hended⟩ := Option.bind_eq_some_iff.mp hends
  obtain ⟨written, rfl⟩ := Ending.streamed_of_interruption hended
  obtain ⟨started, last, stopped, hstreamed, -, -, haccounted⟩ :=
    accounted_of_run connect_losing rfl hrun
  obtain ⟨allocated, hallocate, hacquire⟩ := hstreamed.acquires
  have hallocated : onLosing.allocateTransfers.2 = allocated := congrArg Prod.snd hallocate
  rw [hallocated, hacquire] at hpieces
  have hpieces : pieces (reported tenths (.ofMillis 500) started) = [[1, 2], [4]] :=
    Option.some.inj hpieces
  rw [hpieces] at haccounted
  exact ⟨written, b, hrun, haccounted ⟨_, Writer.stores_fileContents _ _⟩⟩

end Capture

/-! ### The program -/

/-- **The output file of the program** holds the samples, and what is printed is their number. -/
theorem CommandLine.read_of_capture {s : Surroundings} {c : Configuration} {duration : Timespan}
    {path : Path} {script : List HostStack.Cue} {vendor product : UInt16} {link : Link}
    {created : Location × FileTree} {result : Except Capture.Interruption Unit}
    {written : Option (Except WriteError UInt64)} {b : Plugged (Option (FileSink FileContents))}
    (hopen : DeviceLink.connect (script.foldl HostStack.cue {}) vendor product = .ok link)
    (hcreate : s.files.create path = .ok created)
    (hrun : Capture.run s.clock duration (.new link c.acquisition (some { writer := {} })) =
      some (.streamed result written, b)) :
    ∃ started outcome, Capture.Acquires (.new link c.acquisition
        (some ({ writer := {} } : FileSink FileContents))) started ∧
      capture s c duration (some path) link = some outcome ∧
      outcome.files.read path =
        .ok (pieces (Capture.reported s.clock duration started)).flatten ∧
      outcome.output = s!"Wrote {(pieces (Capture.reported s.clock duration
        started)).flatten.length % UInt64.size} bytes of samples\n" := by
  obtain ⟨location, files⟩ := created
  obtain ⟨started, last, stopped, hstreamed, hfinish⟩ := Capture.streamed_of_run hrun
  obtain ⟨⟨sink, hsink, hcontents, -⟩, -, hprinted, -⟩ :=
    (Capture.accounted_of_streamed hopen rfl hstreamed hfinish).2
      ⟨_, Writer.stores_fileContents _ _⟩
  have hopened : openOutput s.files (some path) = .ok (some location, files) := by
    rw [openOutput, hcreate]
    rfl
  have hwritten : s.files.write path
      (pieces (Capture.reported s.clock duration started)).flatten =
        .ok (storeOutput files (some location) b.feed.sink) := by
    have hbytes : sink.writer.bytes = _ := hcontents
    rw [FileTree.write, hcreate, hsink, storeOutput, hbytes]
    rfl
  let outcome : Outcome := {
    conclusion := (conclude (.streamed result written)).1
    output := (conclude (.streamed result written)).2
    files := storeOutput files (some location) b.feed.sink
    stack := b.session.transport.close }
  have hcapture : capture s c duration (some path) link = some outcome := by
    rw [capture, hopened]
    dsimp only [Option.map_some]
    rw [hrun]
    rfl
  exact ⟨started, outcome, hstreamed.acquires, hcapture, FileTree.read_write hwritten, hprinted⟩

end LogicCapture
