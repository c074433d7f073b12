/-
The analyzer commands that the operations on the bench send.

* `Bench.analyzerCommands`: the commands seen that are for the logic analyzer;
* `Bench.spared_controlLog`: without a control transfer, nothing is added to them;
* `Analyzer.Grants`: a configure command that the device has answered validly;
* `Analyzer.Sends`: what an operation sends, and the phases before and after it
  (`Analyzer.sends_of_perform`).
-/
import LogicCapture.Proofs.Analyzer.Custody
import LogicCapture.Proofs.Analyzer.Spared
import LogicCapture.Proofs.Bench.Log

namespace LogicCapture

/-! ### What leaves the log alone -/

section
variable {κ ω H : Type}

/-- The commands for the logic analyzer that the device has seen, in order. -/
def Bench.analyzerCommands (b : Bench H) : List CommandPacket :=
  b.commands.filter fun p => p.classId = Protocol.classLogicAnalyzer

lemma Bench.analyzerCommands_congr {b b' : Bench H} (h : b'.controlLog = b.controlLog) :
    b'.analyzerCommands = b.analyzerCommands := by
  rw [analyzerCommands, analyzerCommands, commands, commands, h]

lemma Bench.analyzerCommands_concat {b b' : Bench H} {packet : CommandPacket}
    (h : b'.commands = b.commands ++ [packet]) : b'.analyzerCommands = b.analyzerCommands ++
      if packet.classId = Protocol.classLogicAnalyzer then [packet] else [] := by
  rw [analyzerCommands, analyzerCommands, h, List.filter_append]
  by_cases hclass : packet.classId = Protocol.classLogicAnalyzer <;> simp [hclass]

/-- **Without a control transfer** nothing is added to the log. -/
lemma Bench.spared_controlLog [Consumer κ ω] (log : List ControlRecord) :
    Transport.Spared ω fun b : Bench (Handler κ) => b.controlLog = log where
  alloc {b} h := by
    obtain ⟨-, -, hb⟩ | ⟨-, hb⟩ := alloc_cases (b := b) rfl
    · exact (congrArg controlLog hb).trans h
    · exact (congrArg controlLog hb).trans h
  submit h := (controlLog_submit_bulk _ _ _ _ _ _).trans h
  cancel {b} id h := by
    obtain ⟨inFlight, hb, -⟩ := b.cancel_frame id
    exact (congrArg controlLog hb).trans h
  free _ h := h
  events {s} ms h := by
    have hlog := congrArg controlLog (Session.passed_events s ms).frame
    exact hlog.trans h

namespace Session

variable [Consumer κ ω] {s s' : Session (Bench (Handler κ)) ω}

/-- A command of another class is none of the analyzer commands. -/
lemma analyzerCommands_of_other {packet : CommandPacket} {response : Option Bytes} {ms : Nat}
    {answer : CommandResult} (hclass : packet.classId ≠ Protocol.classLogicAnalyzer)
    (hrun : s.execute packet response ms = some (answer, s')) :
    s'.transport.analyzerCommands = s.transport.analyzerCommands := by
  rcases commands_of_execute_cases hrun with hsame | hadded
  · rw [Bench.analyzerCommands, hsame, Bench.analyzerCommands]
  · rw [Bench.analyzerCommands_concat hadded, if_neg hclass, List.append_nil]

/-- An analyzer command that succeeds is the next of them. -/
lemma analyzerCommands_of_ok {packet : CommandPacket} {response : Option Bytes} {ms n : Nat}
    {answer : CommandResult} (hclass : packet.classId = Protocol.classLogicAnalyzer)
    (hrun : s.execute packet response ms = some (answer, s')) (hok : answer.result = .ok n) :
    s'.transport.analyzerCommands = s.transport.analyzerCommands ++ [packet] := by
  rw [Bench.analyzerCommands_concat (commands_of_execute hrun hok), if_pos hclass]

/-- An analyzer command is the next of them, or it is not seen. -/
lemma analyzerCommands_of_execute {packet : CommandPacket} {response : Option Bytes} {ms : Nat}
    {answer : CommandResult} (hclass : packet.classId = Protocol.classLogicAnalyzer)
    (hrun : s.execute packet response ms = some (answer, s')) :
    ∃ sent, sent <+: [packet] ∧
      s'.transport.analyzerCommands = s.transport.analyzerCommands ++ sent := by
  rcases commands_of_execute_cases hrun with hsame | hadded
  · refine ⟨[], List.nil_prefix, ?_⟩
    rw [Bench.analyzerCommands, hsame, List.append_nil, Bench.analyzerCommands]
  · refine ⟨[packet], List.prefix_rfl, ?_⟩
    rw [Bench.analyzerCommands_concat hadded, if_pos hclass]

end Session

end

namespace Analyzer

variable {S : Type} [SampleSink S] {a b : Benched S}

/-! ### What operations send -/

/-- The analyzer commands that the device of an analyzer has seen. -/
def commandsSeen (a : Benched S) : List CommandPacket := a.session.transport.analyzerCommands

/-- The device answers a configure command, and its answer is valid. -/
structure Grants (a : Benched S) (packet : CommandPacket) (response : ConfigureResponse) :
    Prop where
  asked : packet = a.request.toPacket
  answered : ∃ answer session, a.session.execute packet (some (zeros ConfigureResponse.size))
    a.settings.commandTimeoutMs = some (answer, session) ∧ readResponse answer = .ok response
  valid : response.validate = .ok ()

/-- **What an operation sends**, acquiring apart. -/
inductive Sends (a : Benched S) : Op → Answer → Benched S → List CommandPacket → Prop where
  /-- Nothing is sent, and the phase stays as it is. -/
  | nothing {op answer} {b : Benched S} : b.phase = a.phase →
      (op = .start → answer ≠ .done (.ok ())) → Sends a op answer b []
  /-- The device agrees to a configure command. -/
  | agreed {packet response} {b : Benched S} : a.phase ≠ .streaming → b.phase = .configured →
      a.Grants packet response → Sends a .configure (.configured (.ok response)) b [packet]
  /-- A configure fails. -/
  | unagreed {error sent} {b : Benched S} : a.phase ≠ .streaming → b.phase = .idle →
      sent <+: [a.request.toPacket] → Sends a .configure (.configured (.error error)) b sent
  | started {b : Benched S} : a.phase = .configured → b.phase = .streaming →
      Sends a .start (.done (.ok ())) b [startPacket]
  /-- A start fails when the device has been asked. -/
  | unstarted {error sent} {b : Benched S} : a.phase = .configured → b.phase = .idle →
      sent <+: [startPacket, stopPacket] → Sends a .start (.done (.error error)) b sent
  | halted {op answer sent} {b : Benched S} : op = .stop ∨ op = .cancel → b.phase = .idle →
      sent <+: [stopPacket] → Sends a op answer b sent

/-- Interfaces have nothing to do with the commands. -/
lemma analyzerCommands_claim (b : Bench (Handler StreamFormat)) (interface : UInt8) :
    (b.claim interface).2.analyzerCommands = b.analyzerCommands := by
  have hlog := congrArg Bench.controlLog (b.claim_frame interface)
  exact Bench.analyzerCommands_congr hlog

omit [SampleSink S] in
lemma analyzerCommands_halted (a : Benched S) :
    a.halted.transport.analyzerCommands = a.commandsSeen := by
  have hlog := congrArg Bench.controlLog
    (a.session.transport.release_frame Protocol.streamingInterface)
  exact Bench.analyzerCommands_congr hlog

/-- A configure sends its command, or nothing. -/
lemma sends_of_configure {result : Except CaptureError ConfigureResponse}
    (h : a.configure = some (result, b)) : ∃ sent,
      a.Sends .configure (.configured result) b sent ∧ b.commandsSeen = a.commandsSeen ++ sent := by
  cases configures_of_configure h with
  | refused hphase => exact ⟨[], .nothing rfl (by simp), by simp⟩
  | unasked hphase => exact ⟨[], .unagreed hphase rfl List.nil_prefix, by simp [commandsSeen]⟩
  | unanswered hasks hread =>
      obtain ⟨sent, hbegins, hseen⟩ := Session.analyzerCommands_of_execute rfl hasks.sent
      exact ⟨sent, .unagreed hasks.notStreaming rfl hbegins, hseen⟩
  | unclaimed hasks hread hclaim =>
      obtain ⟨sent, hbegins, hseen⟩ := Session.analyzerCommands_of_execute rfl hasks.sent
      exact ⟨sent, .unagreed hasks.notStreaming rfl hbegins,
        (analyzerCommands_claim _ _).trans hseen⟩
  | agreed hasks hread hclaim =>
      obtain ⟨hvalid, n, hok⟩ := valid_of_readResponse hread
      have hseen := Session.analyzerCommands_of_ok rfl hasks.sent hok
      exact ⟨_, .agreed hasks.notStreaming rfl ⟨rfl, ⟨_, _, hasks.sent, hread⟩, hvalid⟩,
        (analyzerCommands_claim _ _).trans hseen⟩

/-- A stop sends its command, or nothing, and leaves the analyzer idle. -/
lemma sends_of_stop {result : Except CaptureError Unit} (h : a.stop = some (result, b)) :
    b.phase = .idle ∧ ∃ sent, sent <+: [stopPacket] ∧ b.commandsSeen = a.commandsSeen ++ sent := by
  obtain ⟨answer, session, hsent, -, rfl⟩ := stop_eq_some.mp h
  obtain ⟨sent, hbegins, hseen⟩ := Session.analyzerCommands_of_execute rfl hsent
  exact ⟨rfl, sent, hbegins, a.analyzerCommands_halted ▸ hseen⟩

/-- A start that is not refused sends its command, and a stop command if the stream cannot be
armed. -/
lemma sends_of_start {result : Except CaptureError Unit} (h : a.start = some (result, b)) :
    ∃ sent, a.Sends .start (.done result) b sent ∧ b.commandsSeen = a.commandsSeen ++ sent := by
  have harmed {session : Session (Bench (Handler StreamFormat)) (Feed S)} {format : StreamFormat}
      {armed : Except CaptureError Unit} {c : Benched S}
      (harm : (({ a with session } : Benched S).openFeed format).armStreaming format =
        (armed, c)) : c.commandsSeen = session.transport.analyzerCommands :=
    Bench.analyzerCommands_congr
      ((Bench.spared_controlLog session.transport.controlLog).armed harm rfl)
  cases starts_of_start h with
  | refused => exact ⟨[], .nothing rfl (by simp), by simp⟩
  | failed hlaunch =>
      obtain ⟨sent, hbegins, hseen⟩ := Session.analyzerCommands_of_execute rfl hlaunch.sent
      exact ⟨sent, .unstarted hlaunch.configured rfl
        (hbegins.trans (List.prefix_append [startPacket] [stopPacket])), hseen⟩
  | armed hlaunch harm hok =>
      have hseen := Session.analyzerCommands_of_ok rfl hlaunch.sent hok
      exact ⟨_, .started hlaunch.configured rfl, (harmed harm).trans hseen⟩
  | undone hlaunch harm hstop hok =>
      have hseen := Session.analyzerCommands_of_ok rfl hlaunch.sent hok
      obtain ⟨hphase, sent, hbegins, hafter⟩ := sends_of_stop hstop
      refine ⟨startPacket :: sent, .unstarted hlaunch.configured hphase
        ((List.prefix_cons_inj _).mpr hbegins), ?_⟩
      rw [hafter, harmed harm, hseen, List.append_assoc, List.singleton_append]
      rfl

/-- Reading an identity string sends no analyzer command. -/
lemma analyzerCommands_readCoreString {s s' : Session (Bench (Handler StreamFormat)) (Feed S)}
    {verb : UInt32} {ms : Nat} {text : Option String}
    (h : s.readCoreString verb ms = some (text, s')) :
    s'.transport.analyzerCommands = s.transport.analyzerCommands := by
  rw [Session.readCoreString] at h
  simp only [Option.bind_eq_bind, Option.bind_eq_some_iff, Prod.exists] at h
  obtain ⟨answer, s₁, hsent, hrest⟩ := h
  have hclass : Protocol.classCore ≠ Protocol.classLogicAnalyzer := by decide
  have hseen := Session.analyzerCommands_of_other hclass hsent
  split at hrest <;> cases hrest <;> exact hseen

/-- **Every operation sends so.** -/
theorem sends_of_perform {op : Op} {answer : Answer} (hop : op ≠ .acquire)
    (h : a.perform op = some (answer, b)) : ∃ sent,
      a.Sends op answer b sent ∧ b.commandsSeen = a.commandsSeen ++ sent := by
  have hspared : Transport.Spared (Feed S) fun b : Bench (Handler StreamFormat) =>
    b.controlLog = a.session.transport.controlLog := Bench.spared_controlLog _
  have hnothing (hop : op ≠ .start) (hphase : b.phase = a.phase)
      (hseen : b.commandsSeen = a.commandsSeen) : ∃ sent,
        a.Sends op answer b sent ∧ b.commandsSeen = a.commandsSeen ++ sent :=
    ⟨[], .nothing hphase fun hstart => absurd hstart hop, by rw [hseen, List.append_nil]⟩
  cases performs_of_perform h with
  | configure hconf => exact sends_of_configure hconf
  | start hstart => exact sends_of_start hstart
  | stop hstop =>
      obtain ⟨hphase, sent, hbegins, hseen⟩ := sends_of_stop hstop
      exact ⟨sent, .halted (Or.inl rfl) hphase hbegins, hseen⟩
  | cancel hcancel =>
      obtain ⟨hphase, sent, hbegins, hseen⟩ := sends_of_stop hcancel
      have hmarked : ({ a with session := (a.pool.cancelAll a.session).2 } :
          Benched S).commandsSeen = a.commandsSeen :=
        Bench.analyzerCommands_congr (hspared.cancelAll a.pool rfl)
      exact ⟨sent, .halted (Or.inr rfl) hphase hbegins, hmarked ▸ hseen⟩
  | acquire _ => exact absurd rfl hop
  | poll =>
      exact hnothing (by simp) (frame_poll a _).2
        (Bench.analyzerCommands_congr (hspared.poll _ rfl))
  | allocate =>
      exact hnothing (by simp) rfl (Bench.analyzerCommands_congr (hspared.allocateTransfers rfl))
  | free =>
      exact hnothing (by simp) rfl (Bench.analyzerCommands_congr (hspared.freeTransfers rfl))
  | teardown =>
      exact hnothing (by simp) (frame_teardown a).2
        (Bench.analyzerCommands_congr (hspared.teardown rfl))
  | setRate | setChannels => exact hnothing (by simp) rfl rfl
  | version hread | serialNumber hread =>
      exact hnothing (by simp) rfl (analyzerCommands_readCoreString hread)

end Analyzer

end LogicCapture
