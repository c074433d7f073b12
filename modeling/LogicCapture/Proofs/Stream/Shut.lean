/-
Feeds that do not run: what comes then is dropped.

* `Feed.Shut`: since it was halted, a feed has counted errors at most;
* `Session.shut_execute`, `Session.shut_events`: commands and event passes keep it shut;
* `Analyzer.opened_of_start`: a start finds the sink as it was before, and opens the feed;
* `Analyzer.shut_of_cancel`, `Analyzer.shut_teardown`: once an acquisition is cancelled, the sink is
  told of its end and of nothing else.
-/
import LogicCapture.Proofs.Analyzer.Run

namespace LogicCapture

variable {τ S : Type} [SampleSink S]

namespace Feed

omit [SampleSink S] in
/-- **The feed is shut**: it does not run, and since it was as `before` it has counted errors at
most. -/
def Shut (before feed : Feed S) : Prop :=
  ∃ errors, feed = ⟨false, { before.stats with errors }, before.sink⟩

omit [SampleSink S] in
lemma Shut.refl {feed : Feed S} (h : feed.running = false) : Shut feed feed :=
  ⟨feed.stats.errors, by rw [← h]⟩

omit [SampleSink S] in
lemma Shut.off {before feed : Feed S} (h : Shut before feed) : feed.running = false := by
  obtain ⟨errors, rfl⟩ := h
  rfl

omit [SampleSink S] in
lemma Shut.sink_eq {before feed : Feed S} (h : Shut before feed) : feed.sink = before.sink := by
  obtain ⟨errors, rfl⟩ := h
  rfl

omit [SampleSink S] in
lemma Shut.halt {before feed : Feed S} (h : Shut before feed) :
    Shut before { feed with running := false } := by
  obtain ⟨errors, rfl⟩ := h
  exact ⟨errors, rfl⟩

/-- **A shut feed drops what comes.** -/
theorem Shut.complete {before feed : Feed S} (h : Shut before feed) (format : StreamFormat)
    (c : Completion) : Shut before (feed.complete format c).2 := by
  obtain ⟨errors, rfl⟩ := h
  obtain ⟨status, data⟩ := c
  cases status <;> exact ⟨_, rfl⟩

/-- No handler call opens it. -/
lemma Shut.react {before : Feed S} (handler : Handler StreamFormat) (c : Completion)
    (host : Host (Feed S)) (h : Shut before host.shared) :
    Shut before (handler.react c host).2.2.shared := by
  cases handler with
  | control ticket => rwa [Handler.shared_react_control]
  | slot key format =>
      rw [Handler.shared_react_slot]
      exact h.complete format c

end Feed

open Feed (Shut)

variable [Transport τ (Handler StreamFormat)] {before : Feed S}

namespace Session

variable {s s' : Session τ (Feed S)}

/-- Commands leave a shut feed shut. -/
lemma shut_execute {packet : CommandPacket} {response : Option Bytes} {ms : Nat}
    {answer : CommandResult} (h : Shut before s.host.shared)
    (hrun : s.execute packet response ms = some (answer, s')) : Shut before s'.host.shared :=
  (Kept.ofHost (R := fun host : Host (Feed S) => Shut before host.shared) (fun _ h => h)
    Shut.react).execute h hrun

/-- So do event passes. -/
lemma shut_events (ms : Nat) (h : Shut before s.host.shared) :
    Shut before (s.events ms).2.host.shared :=
  events_of_react (R := fun host : Host (Feed S) => Shut before host.shared) Shut.react ms h

end Session

namespace Analyzer

variable {a b : Analyzer τ S}

/-! ### Before an acquisition -/

/-- A configure leaves a shut feed shut. -/
lemma shut_configure {result : Except CaptureError ConfigureResponse} (h : Shut before a.feed)
    (hrun : a.configure = some (result, b)) : Shut before b.feed := by
  have hasked {answer : CommandResult} {session : Session τ (Feed S)}
      (hasks : a.Asks answer session) : Shut before session.host.shared :=
    Session.shut_execute h hasks.sent
  cases configures_of_configure hrun with
  | refused _ => exact h
  | unasked _ => exact h
  | unanswered hasks _ => exact hasked hasks
  | unclaimed hasks _ _ => exact (hasked hasks :)
  | agreed hasks _ _ => exact (hasked hasks :)

omit [SampleSink S] in
/-- Arming a stream leaves its feed alone, whatever buffers are granted. -/
lemma feed_granting (granted : Pool.Slot → Bool) (a : Analyzer τ S) (format : StreamFormat) :
    (a.armStreamingBy (granting granted) format).2.feed = a.feed :=
  armStreamingBy_induction (I := fun b => b.feed = a.feed)
    (fun h => (congrArg Host.shared (Pool.host_allocate _ _ _)).trans h)
    (fun h => (Pool.shared_armGranted _ _ _ _ _).trans h) rfl

/-- **A launch opens the feed** towards the sink as it was before, whether or not the stream can be
armed then: the counters are fresh, and the sink is told of the format. -/
lemma opened_of_launch {granted : Pool.Slot → Bool} {format : StreamFormat} {answer : CommandResult}
    {session : Session τ (Feed S)} {armed : Except CaptureError Unit} (h : Shut before a.feed)
    (hlaunch : a.Launches format answer session)
    (harm : (({ a with session } : Analyzer τ S).openFeed format).armStreamingBy
      (granting granted) format = (armed, b)) :
    b.feed = ⟨true, {}, SampleSink.started before.sink format⟩ := by
  obtain ⟨errors, hshut⟩ := Session.shut_execute h hlaunch.sent
  have hfeed := feed_granting granted (({ a with session } : Analyzer τ S).openFeed format) format
  rw [harm] at hfeed
  refine hfeed.trans ?_
  rw [openFeed]
  simp only [feed, withFeed, hshut]

/-- A start that succeeds leaves the feed open. -/
theorem opened_of_start (h : Shut before a.feed) (hrun : a.start = some (.ok (), b)) :
    ∃ format, a.context.streamFormat = some format ∧
      b.feed = ⟨true, {}, SampleSink.started before.sink format⟩ := by
  rw [start_eq_granting] at hrun
  cases startsBy_of_startBy hrun with
  | armed hlaunch hok harm =>
      have hfeed := opened_of_launch h hlaunch harm
      exact ⟨_, hlaunch.known, hfeed⟩

/-! ### After it -/

/-- **Stopping** shuts the feed before anything can complete, and tells the sink. -/
lemma shut_of_stop {result : Except CaptureError Unit} (hrun : a.stop = some (result, b)) :
    Shut { a.feed with sink := SampleSink.stopped a.feed.sink } b.feed := by
  obtain ⟨answer, session, hsent, -, rfl⟩ := stop_eq_some.mp hrun
  have hhalted : Shut a.feed { a.feed with running := false } := ⟨a.feed.stats.errors, rfl⟩
  obtain ⟨errors, hshut⟩ := Session.shut_execute hhalted hsent
  exact ⟨errors, by simp only [notified, feed, withFeed, hshut]⟩

/-- So does cancelling. -/
theorem shut_of_cancel {result : Except CaptureError Unit} (hrun : a.cancel = some (result, b)) :
    Shut { a.feed with sink := SampleSink.stopped a.feed.sink } b.feed :=
  shut_of_stop (a := { a with session := (a.pool.cancelAll a.session).2 }) hrun

/-- **A teardown** leaves a shut feed shut. -/
theorem shut_teardown (h : Shut before a.feed) : Shut before a.teardown.feed := by
  rw [teardown]
  dsimp only
  split
  · exact h.halt
  · exact drain_induction (R := fun s => Shut before s.host.shared)
      (fun ms hs => Session.shut_events ms hs) drainPasses h.halt

end Analyzer

end LogicCapture
