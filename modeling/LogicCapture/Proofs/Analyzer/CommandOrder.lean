/-
The order in which the device on the bench sees the analyzer commands of a run.

* `Analyzer.issued`: the commands with the deeds that sent them;
* `Analyzer.Effective`: a configure command whose configure succeeded;
* `Analyzer.governed_commands`: in phase configured the last command is effective, and while a
  stream lasts the analyzer is streaming; every deed keeps this and the order of the commands with
  it;
* `Analyzer.start_follows_configure`: every start command stands right behind an effective configure
  command, and no configure command is sent while a stream lasts.
-/
import LogicCapture.Proofs.Analyzer.Deeds
import LogicCapture.Proofs.Analyzer.Sends
import LogicCapture.Proofs.Wire.Packet

namespace LogicCapture

namespace CommandPacket

/-- The command begins streaming. -/
def isStart (p : CommandPacket) : Bool :=
  p.classId = Protocol.classLogicAnalyzer ∧ p.verb = Protocol.verbStart

@[simp] lemma isStart_toPacket (payload : ConfigurePayload) : payload.toPacket.isStart = false :=
  rfl

@[simp] lemma isStart_stopPacket : stopPacket.isStart = false := rfl

end CommandPacket

namespace Analyzer

/-- A deed on the bench. -/
abbrev BenchDeed (S : Type) := Deed (Bench (Handler StreamFormat)) S

/-- The operations that halt the device. -/
def Op.halts : Op → Bool
  | stop | cancel => true
  | _ => false

variable {S : Type} {ds : List (BenchDeed S)} {d : BenchDeed S}

/-- The analyzer commands that the device saw in a deed. -/
def Deed.sent (d : BenchDeed S) : List CommandPacket :=
  d.after.commandsSeen.drop d.before.commandsSeen.length

/-- The deed is a start that succeeded. -/
def Deed.Starts (d : BenchDeed S) : Prop := d.op = .start ∧ d.answer = .done (.ok ())

/-- The analyzer commands of deeds in a row, each with its deed. -/
def issued (ds : List (BenchDeed S)) : List (CommandPacket × BenchDeed S) :=
  ds.flatMap fun d => d.sent.map fun p => (p, d)

lemma issued_concat (ds : List (BenchDeed S)) (d : BenchDeed S) :
    issued (ds ++ [d]) = issued ds ++ d.sent.map fun p => (p, d) := by
  simp [issued]

variable [SampleSink S]

/-- **A configure command has taken effect**: the exchange ended in a valid response, and the
configure succeeded. -/
def Effective (command : CommandPacket × BenchDeed S) : Prop :=
  command.1.isConfigure = true ∧ command.2.op = .configure ∧
    ∃ response, command.2.answer = .configured (.ok response) ∧
      command.2.before.Grants command.1 response

/-- The last command is a configure command that has taken effect. -/
def Ready (commands : List (CommandPacket × BenchDeed S)) : Prop :=
  ∃ earlier command, commands = earlier ++ [command] ∧ Effective command

omit [SampleSink S] in
/-- A stream has been started that no stop and no cancellation has ended. -/
def Streams (ds : List (BenchDeed S)) : Prop :=
  ∃ before s period, ds = before ++ s :: period ∧ s.Starts ∧ ∀ d ∈ period, d.op.halts = false

omit [SampleSink S] in
lemma streams_concat (h : Streams (ds ++ [d])) :
    d.Starts ∨ Streams ds ∧ d.op.halts = false := by
  obtain ⟨before, s, period, hsplit, hstarts, hperiod⟩ := h
  rcases List.eq_nil_or_concat period with rfl | ⟨period', last, rfl⟩
  · obtain ⟨-, hlast⟩ := List.append_inj' hsplit rfl
    exact Or.inl (List.head_eq_of_cons_eq hlast ▸ hstarts)
  · rw [List.concat_eq_append, ← List.cons_append, ← List.append_assoc] at hsplit
    obtain ⟨hds, hlast⟩ := List.append_inj' hsplit rfl
    rw [List.head_eq_of_cons_eq hlast]
    refine Or.inr ⟨⟨before, s, period', hds, hstarts, ?_⟩, hperiod last (by simp)⟩
    exact fun d hd => hperiod d (by simp [hd])

/-- **The order that a deed keeps**, after the deeds before it. -/
structure Ordered (ds : List (BenchDeed S)) (d : BenchDeed S) : Prop where
  /-- A start command is the first of the deed's, and the last before it is effective. -/
  start : ∀ earlier p later, d.sent = earlier ++ p :: later → p.isStart = true →
    earlier = [] ∧ Ready (issued ds)
  /-- If the deed leaves the analyzer configured, the last command is effective. -/
  configured : d.after.phase = .configured → Ready (issued (ds ++ [d]))
  /-- While a stream lasts, nothing is sent but to halt the device. -/
  silent : Streams ds → d.op.halts = false → d.sent = []

/-- The commands of the deeds are all that the device has seen, and the phase tells what may
follow. -/
structure Tracked (ds : List (BenchDeed S)) (a : Benched S) : Prop where
  seen : (issued ds).map Prod.fst = a.commandsSeen
  ready : a.phase = .configured → Ready (issued ds)
  streaming : Streams ds → a.phase = .streaming

/-! ### Single deeds -/

section
variable {a b : Benched S} {op : Op} {answer : Answer} {sent : List CommandPacket}

/-- Of these commands only the first begins streaming. -/
lemma eq_nil_of_begins {earlier later : List CommandPacket} {p : CommandPacket}
    (hbegins : earlier ++ p :: later <+: [startPacket, stopPacket]) (hp : p.isStart = true) :
    earlier = [] := by
  cases earlier with
  | nil => rfl
  | cons first rest =>
      have hrest : rest ++ p :: later <+: [stopPacket] := (List.cons_prefix_cons.mp hbegins).2
      have hstop : p = stopPacket := List.mem_singleton.mp (hrest.subset (by simp))
      rw [hstop, CommandPacket.isStart_stopPacket] at hp
      cases hp

/-- Only a configured analyzer sends the start command, and no other before it. -/
lemma Sends.start (h : a.Sends op answer b sent) {earlier later : List CommandPacket}
    {p : CommandPacket} (hsplit : sent = earlier ++ p :: later) (hp : p.isStart = true) :
    earlier = [] ∧ a.phase = .configured := by
  -- no other command is the start command
  have hother {packet : CommandPacket} (hbegins : sent <+: [packet])
      (hpacket : packet.isStart = false) : earlier = [] ∧ a.phase = .configured := by
    have hsame : p = packet := List.mem_singleton.mp (hbegins.subset (by simp [hsplit]))
    rw [hsame, hpacket] at hp
    cases hp
  cases h with
  | nothing _ _ => simp at hsplit
  | agreed _ _ hgrants => exact hother List.prefix_rfl (hgrants.asked ▸ rfl)
  | unagreed _ _ hbegins => exact hother hbegins rfl
  | started hphase _ =>
      have hbegins : earlier ++ p :: later <+: [startPacket, stopPacket] :=
        hsplit ▸ List.prefix_append [startPacket] [stopPacket]
      exact ⟨eq_nil_of_begins hbegins hp, hphase⟩
  | unstarted hphase _ hbegins => exact ⟨eq_nil_of_begins (hsplit ▸ hbegins) hp, hphase⟩
  | halted _ _ hbegins => exact hother hbegins rfl

/-- A deed leaves the analyzer configured if it was before and nothing is sent, or if the device
agrees to a configure command. -/
lemma Sends.configured (h : a.Sends op answer b sent) (hphase : b.phase = .configured) :
    (a.phase = .configured ∧ sent = []) ∨ ∃ packet response, op = .configure ∧
      answer = .configured (.ok response) ∧ sent = [packet] ∧ a.Grants packet response := by
  cases h with
  | nothing hsame _ => exact Or.inl ⟨hsame ▸ hphase, rfl⟩
  | agreed _ _ hgrants => exact Or.inr ⟨_, _, rfl, rfl, rfl, hgrants⟩
  | unagreed _ hidle _ => cases hidle.symm.trans hphase
  | started _ hstreaming => cases hstreaming.symm.trans hphase
  | unstarted _ hidle _ => cases hidle.symm.trans hphase
  | halted _ hidle _ => cases hidle.symm.trans hphase

/-- A streaming analyzer sends nothing and goes on streaming, until it halts the device. -/
lemma Sends.silent (h : a.Sends op answer b sent) (hphase : a.phase = .streaming)
    (hhalts : op.halts = false) : sent = [] ∧ b.phase = .streaming := by
  cases h with
  | nothing hsame _ => exact ⟨rfl, hsame.trans hphase⟩
  | agreed hno _ _ => exact absurd hphase hno
  | unagreed hno _ _ => exact absurd hphase hno
  | started hconfigured _ => cases hconfigured.symm.trans hphase
  | unstarted hconfigured _ _ => cases hconfigured.symm.trans hphase
  | halted hop _ _ => rcases hop with rfl | rfl <;> cases hhalts

/-- A start that succeeds leaves the analyzer streaming. -/
lemma Sends.streaming (h : a.Sends .start (.done (.ok ())) b sent) : b.phase = .streaming := by
  cases h with
  | nothing _ hno => exact absurd rfl (hno rfl)
  | started _ hstreaming => exact hstreaming
  | halted hop _ _ => rcases hop with hop | hop <;> cases hop

end

/-! ### Runs -/

/-- **Every deed keeps the order.** -/
theorem governed_commands : Governed (Tracked (S := S)) Ordered where
  each {ds a op answer b} hop h hrun := by
    obtain ⟨sent, hsends, hseen⟩ := sends_of_perform hop hrun
    have hsent : (⟨op, answer, a, b⟩ : BenchDeed S).sent = sent := by
      rw [Deed.sent, hseen, List.drop_left]
    have hissued : issued (ds ++ [⟨op, answer, a, b⟩]) =
        issued ds ++ sent.map fun p => (p, ⟨op, answer, a, b⟩) := by
      rw [issued_concat, hsent]
    have hready (hphase : b.phase = .configured) :
        Ready (issued (ds ++ [⟨op, answer, a, b⟩])) := by
      rcases hsends.configured hphase with
        ⟨hbefore, rfl⟩ | ⟨packet, response, rfl, rfl, rfl, hgrants⟩
      · rw [hissued, List.map_nil, List.append_nil]
        exact h.ready hbefore
      · exact ⟨issued ds, _, hissued, hgrants.asked ▸ rfl, rfl, response, rfl, hgrants⟩
    refine ⟨⟨?_, hready, ?_⟩, ⟨?_, hready, ?_⟩⟩
    · rw [hsent]
      intro earlier p later hsplit hp
      obtain ⟨hfirst, hphase⟩ := hsends.start hsplit hp
      exact ⟨hfirst, h.ready hphase⟩
    · intro hstreams hhalts
      rw [hsent]
      exact (hsends.silent (h.streaming hstreams) hhalts).1
    · rw [hissued, List.map_append, h.seen, List.map_map, hseen]
      simp [Function.comp_def]
    · intro hstreams
      rcases streams_concat hstreams with ⟨rfl, rfl⟩ | ⟨hstreams, hhalts⟩
      · exact hsends.streaming
      · exact (hsends.silent (h.streaming hstreams) hhalts).2

/-- **A start command stands right behind a configure command that has taken effect**, in every run
and under every script.  So it does if the start never returns: whenever a deed leaves the analyzer
configured, the last command is such a one.  Between a start that succeeds and the next call that
halts the device, no configure command is sent.  The commands of a run are all that the device has
seen. -/
theorem start_follows_configure (settings : AcquisitionSettings) (sink : S)
    (steps : List (Step Bench.Cue)) :
    Historic (fun earlier command => command.1.isStart = true → Ready earlier)
        (issued (deeds steps (onBench settings sink))) ∧
      (∀ before d after, deeds steps (onBench settings sink) = before ++ d :: after →
        d.after.phase = .configured → Ready (issued (before ++ [d]))) ∧
      (∀ before s period after, deeds steps (onBench settings sink) =
          before ++ s :: (period ++ after) → s.Starts → (∀ d ∈ period, d.op.halts = false) →
        ∀ command ∈ issued period, command.1.isConfigure = false) ∧
      ∀ a : Benched S, run steps (onBench settings sink) = some a →
        (issued (deeds steps (onBench settings sink))).map Prod.fst = a.commandsSeen := by
  have hfresh : Tracked [] (onBench settings sink) := by
    refine ⟨rfl, by simp [onBench, new], ?_⟩
    rintro ⟨before, s, period, hno, -⟩
    simp at hno
  have hcue {ds : List (BenchDeed S)} {a : Benched S} (cue : Bench.Cue) (h : Tracked ds a) :
      Tracked ds (a.cued cue) := by
    have hlog : (a.session.transport.cue cue).controlLog = a.session.transport.controlLog := by
      cases cue <;> rfl
    exact ⟨h.seen.trans (Bench.analyzerCommands_congr hlog).symm, h.ready, h.streaming⟩
  obtain ⟨hordered, hend⟩ := governed_commands.run hcue steps hfresh .nil
  rw [List.nil_append] at hordered hend
  refine ⟨?_, fun before d after hsplit => (hordered before d after hsplit).configured, ?_,
    fun a hrun => (hend a hrun).seen⟩
  · refine Historic.flatMap (hordered.mono ?_)
    intro before d hd earlier command later hsplit hstart
    obtain ⟨sentBefore, sentAfter, hsent, rfl, hlater⟩ := List.map_eq_append_iff.mp hsplit
    obtain ⟨p, rest, rfl, rfl, -⟩ := List.map_eq_cons_iff.mp hlater
    obtain ⟨rfl, hready⟩ := hd.start sentBefore p rest hsent hstart
    rwa [List.map_nil, List.append_nil]
  · intro before s period after hsplit hstarts hperiod command hcommand
    obtain ⟨d, hd, hsent⟩ := List.mem_flatMap.mp hcommand
    obtain ⟨earlier, later, rfl⟩ := List.append_of_mem hd
    have hstreams : Streams (before ++ s :: earlier) :=
      ⟨before, s, earlier, rfl, hstarts, fun d' hd' => hperiod d' (List.mem_append_left _ hd')⟩
    have hsilent := (hordered (before ++ s :: earlier) d (later ++ after) (by simp [hsplit])).silent
      hstreams (hperiod d hd)
    rw [hsilent] at hsent
    simp at hsent

/-- A configure that the device stalls, a start that it refuses, and a stream during which the host
asks in vain for another configure. -/
def restarted : List (Step Bench.Cue) :=
  [.cue (.reply (.status .stall)), .call .configure,
    .cue (.response [64, 66, 15, 0, 0, 0, 0, 0, 0x81]), .call .configure,
    .cue (.reply (.reject .pipe)), .call .start,
    .cue (.response [64, 66, 15, 0, 0, 0, 0, 0, 0x81]), .call .acquire, .call .configure,
    .call .stop]

theorem start_follows_configure_restarted :
    (issued (deeds restarted (onBench { transferPoolSize := 1 } (⟨⟩ : Discard)))).map
        (fun command => command.1.verb) =
      [Protocol.verbConfigure, Protocol.verbConfigure, Protocol.verbStart,
        Protocol.verbConfigure, Protocol.verbStart, Protocol.verbStop] ∧
      Historic (fun earlier command => command.1.isStart = true → Ready earlier)
        (issued (deeds restarted (onBench { transferPoolSize := 1 } (⟨⟩ : Discard)))) :=
  ⟨by decide +kernel, (start_follows_configure _ _ _).1⟩

end Analyzer

end LogicCapture
