/-
What the sink is told of an acquisition, against what the device was configured with.

* `Analyzer.Agrees`: the formats announced so far agree with the device, and so will the next one;
* `Analyzer.lasting_quiet`, `Analyzer.start_announces`: only a start tells the sink of an
  acquisition, and what it tells is the format that the context knows;
* `Analyzer.Agrees.step`, `Analyzer.Agrees.history`: steps and runs keep the agreement;
* `Analyzer.formats_agree`: the formats announced in every run agree with the device, and when
  they have the channels of the last configure.
-/
import LogicCapture.Proofs.Analyzer.History
import LogicCapture.Proofs.Bench.Log

namespace LogicCapture

namespace Analyzer

open SinkTrace Streaming

variable {entries : List Entry} {count : UInt8} {response : ConfigureResponse}
  {format : StreamFormat}

/-- **The state of an analyzer with a history**: the formats announced agree with the device, and
so will the next one. -/
structure Agrees (entries : List Entry) (a : Traced) : Prop where
  law : Agreement entries
  ready : a.phase = .configured → ∃ channels response since,
    LastConfigure entries channels response since ∧ a.context.negotiated = some response ∧
      a.context.numChannels = lastAsked channels since

/-! ### Announcements -/

/-- The sink has not been told of an acquisition since it knew of `earlier`. -/
def Quiet (earlier trace : List SinkEvent) : Prop :=
  ∃ since, trace = earlier ++ since ∧ ∀ format, .started format ∉ since

lemma Quiet.refl (trace : List SinkEvent) : Quiet trace trace := ⟨[], by simp, by simp⟩

lemma Quiet.concat {earlier trace : List SinkEvent} {event : SinkEvent} (h : Quiet earlier trace)
    (hevent : ∀ format, event ≠ .started format) : Quiet earlier (trace ++ [event]) := by
  obtain ⟨since, rfl, hsince⟩ := h
  refine ⟨since ++ [event], by simp, ?_⟩
  intro format hmem
  rcases List.mem_append.mp hmem with hmem | hmem
  · exact hsince format hmem
  · exact hevent format (List.mem_singleton.mp hmem).symm

lemma Quiet.trans {earlier trace later : List SinkEvent} (h : Quiet earlier trace)
    (h' : Quiet trace later) : Quiet earlier later := by
  obtain ⟨since, rfl, hsince⟩ := h
  obtain ⟨more, rfl, hmore⟩ := h'
  refine ⟨since ++ more, by simp, ?_⟩
  intro format hmem
  rcases List.mem_append.mp hmem with hmem | hmem
  · exact hsince format hmem
  · exact hmore format hmem

/-- No completion tells the sink of an acquisition. -/
lemma Quiet.react {earlier : List SinkEvent} (handler : Handler StreamFormat) (c : Completion)
    (host : Host (Feed SinkTrace)) (h : Quiet earlier (told host)) :
    Quiet earlier (told (handler.react c host).2.2) := by
  obtain ⟨-, hsame | ⟨-, key, format, -, hmore⟩⟩ := react_cases handler c host
  · rw [hsame]
    exact h
  · rw [hmore]
    exact h.concat (by simp)

/-- **Only a start tells the sink of an acquisition.** -/
lemma lasting_quiet (earlier : List SinkEvent) :
    Lasting fun a : Traced => Quiet earlier a.trace where
  exchange h hex :=
    (Session.Kept.ofHost (R := fun host => Quiet earlier (told host)) (fun _ h => h)
      Quiet.react).execute h hex
  pass ms h := Session.events_of_react (R := fun host => Quiet earlier (told host)) Quiet.react ms h
  context _ h := h
  allocate {a} h := by
    have htrace : a.allocateTransfers.2.trace = a.trace :=
      congrArg told (Pool.host_allocate a.pool a.settings.transferPoolSize a.session)
    rw [htrace]
    exact h
  free h := h
  claim _ h := h
  release _ h := h
  phase _ h := h
  halt h := h
  notify h _ := h.concat (by simp)
  cancelAll h := h

/-- Nothing is announced while the sink is not told of an acquisition. -/
lemma Quiet.startedFormats_drop {earlier trace : List SinkEvent} (h : Quiet earlier trace) :
    startedFormats (trace.drop earlier.length) = [] := by
  obtain ⟨since, rfl, hsince⟩ := h
  rw [List.drop_left]
  refine List.filterMap_eq_nil_iff.mpr ?_
  intro event hevent
  cases event with
  | started format => exact absurd hevent (hsince format)
  | deliver samples format => rfl
  | stopped => rfl

lemma announced_of_quiet {a b : Traced} (h : Quiet a.trace b.trace) : announced a b = [] := by
  rw [announced, h.startedFormats_drop, List.map_nil]

/-- One acquisition is announced if the sink is told of one. -/
lemma announced_of_started {a b : Traced} {middle : List SinkEvent} (h : Quiet a.trace middle)
    (h' : Quiet (middle ++ [.started format]) b.trace) :
    announced a b = [.announced format] := by
  obtain ⟨since, rfl, hsince⟩ := h
  have hnone := h'.startedFormats_drop
  obtain ⟨more, htrace, -⟩ := h'
  have hbefore : startedFormats since = [] := by
    have := (show Quiet [] since from ⟨since, rfl, hsince⟩).startedFormats_drop
    simpa using this
  rw [htrace, List.drop_left] at hnone
  rw [announced, htrace, List.append_assoc, List.append_assoc, List.drop_left,
    startedFormats_append, startedFormats_append, hbefore, hnone]
  rfl

/-! ### Configure and start -/

variable {a b : Traced}

/-- **A successful configure**: the device has seen the channels asked for, and the context knows
its response. -/
lemma configure_eq_ok (h : a.configure = some (.ok response, b)) :
    b.phase = .configured ∧ b.context = a.context.apply response ∧
      b.session.transport.channelsSeen = some a.context.numChannels := by
  cases configures_of_configure h with
  | @agreed answer session response hasks hread _ =>
      obtain ⟨-, n, hresult⟩ := valid_of_readResponse hread
      have hlast := Session.commands_of_execute hasks.sent hresult
      have hclaim := congrArg Bench.controlLog
        (Bench.claim_frame session.transport Protocol.streamingInterface)
      have hcommands : (Transport.claim session.transport
          Protocol.streamingInterface).2.commands = session.transport.commands := by
        rw [Bench.commands, Bench.commands]
        exact congrArg _ (congrArg _ hclaim)
      refine ⟨rfl, rfl, ?_⟩
      rw [Bench.channelsSeen, hcommands, hlast]
      simp [request, ConfigurePayload.channelsAsked_toPacket]

lemma phase_of_configure_error {error : CaptureError}
    (h : a.configure = some (.error error, b)) : b.phase ≠ .configured := by
  rcases phase_of_configure h with ⟨hphase, rfl, -⟩ | ⟨-, response, hno⟩ | ⟨hphase, -⟩
  · simp [hphase]
  · cases hno
  · simp [hphase]

/-- Arming a stream tells the sink nothing. -/
lemma quiet_of_armStreaming {format : StreamFormat} {result : Except CaptureError Unit}
    (h : a.armStreaming format = (result, b)) : Quiet a.trace b.trace := by
  have hquiet : Quiet a.trace (a.armStreaming format).2.trace :=
    armStreaming_induction (I := fun c : Traced => Quiet a.trace c.trace)
      (lasting_quiet a.trace).allocate
      (fun {c} hc => by
        have hshared := c.pool.shared_arm format.endpoint format c.session
        show Quiet a.trace (told (c.pool.arm format.endpoint format c.session).2.host)
        rw [told, hshared]
        exact hc) (.refl _)
  rwa [h] at hquiet

/-- **What a start announces**: nothing, or the format that the context knows, and then the
analyzer does not stay configured. -/
lemma start_announces {result : Except CaptureError Unit} (h : a.start = some (result, b)) :
    (Quiet a.trace b.trace ∧ (b.phase = .configured → b = a)) ∨
      ∃ format, a.phase = .configured ∧ a.context.streamFormat = some format ∧
        b.phase ≠ .configured ∧ ∃ middle, Quiet a.trace middle ∧
          Quiet (middle ++ [.started format]) b.trace := by
  have hsent {format : StreamFormat} {answer : CommandResult} {s : Session _ (Feed SinkTrace)}
      (hsent : a.Launches format answer s) : Quiet a.trace (told s.host) :=
    (lasting_quiet a.trace).exchange (.refl _) hsent.sent
  cases starts_of_start h with
  | refused => exact Or.inl ⟨.refl _, fun _ => rfl⟩
  | failed hlaunch => exact Or.inl ⟨hsent hlaunch, fun hno => by cases hno⟩
  | armed hlaunch harm =>
      exact Or.inr ⟨_, hlaunch.configured, hlaunch.known, by simp, _, hsent hlaunch,
        quiet_of_armStreaming harm⟩
  | undone hlaunch harm hstop =>
      refine Or.inr ⟨_, hlaunch.configured, hlaunch.known, ?_, _, hsent hlaunch,
        (lasting_quiet _).stop (quiet_of_armStreaming harm) hstop⟩
      rw [(phase_of_stop hstop).1]
      simp

/-! ### Steps and runs -/

/-- An analyzer that is not configured announces nothing by itself. -/
lemma Agrees.unconfigured (h : Agrees entries a) (hphase : b.phase ≠ .configured) :
    Agrees entries b :=
  ⟨h.law, fun hno => absurd hno hphase⟩

/-- What does not change the context leaves the next announcement as it was. -/
lemma Agrees.frame (h : Agrees entries a) (hcontext : b.context = a.context)
    (hphase : b.phase = a.phase ∨ b.phase = .idle) : Agrees entries b := by
  refine ⟨h.law, fun hb => hcontext ▸ h.ready ?_⟩
  rcases hphase with hsame | hidle
  · exact hsame ▸ hb
  · cases hidle.symm.trans hb

/-- A successful configure settles the next announcement. -/
lemma Agrees.configured (h : Agrees entries a) (hconf : a.configure = some (.ok response, b)) :
    Agrees (entries ++ [.configured b.session.transport.channelsSeen response]) b := by
  obtain ⟨-, hcontext, hseen⟩ := configure_eq_ok hconf
  refine ⟨h.law.concat (by simp), fun _ => ⟨a.context.numChannels, response, [], ⟨?_, ?_⟩, ?_, ?_⟩⟩
  · exact ⟨entries, by rw [hseen]⟩
  · simp
  · rw [hcontext]
    rfl
  · rw [hcontext]
    rfl

/-- Asking for channels changes the next announcement. -/
lemma Agrees.asked (h : Agrees entries a) (count : UInt8) :
    Agrees (entries ++ [.asked count]) (a.setNumChannels count) := by
  refine ⟨h.law.concat (by simp), ?_⟩
  intro hphase
  obtain ⟨channels, response, since, hlast, hresponse, -⟩ := h.ready hphase
  refine ⟨channels, response, since ++ [.asked count], hlast.append (by simp), hresponse, ?_⟩
  simp [lastAsked, setNumChannels]

/-- A start announces what is settled. -/
lemma Agrees.started {c : Traced} {result : Except CaptureError Unit} (h : Agrees entries a)
    (hquiet : Quiet c.trace a.trace) (hstart : a.start = some (result, b)) :
    Agrees (entries ++ announced c b) b := by
  rcases start_announces hstart with ⟨hsince, hphase⟩ | ⟨format, hphase, hformat, hend, middle,
    hbefore, hafter⟩
  · rw [announced_of_quiet (hquiet.trans hsince), List.append_nil]
    exact ⟨h.law, fun hb => hphase hb ▸ h.ready (hphase hb ▸ hb)⟩
  · rw [announced_of_started (hquiet.trans hbefore) hafter]
    refine ⟨h.law.concat ?_, fun hno => absurd hno hend⟩
    intro format' heq
    cases heq
    obtain ⟨channels, response, since, hlast, hresponse, hchannels⟩ := h.ready hphase
    refine ⟨channels, response, since, hlast, ?_⟩
    rw [DeviceContext.streamFormat, hresponse] at hformat
    rw [← hchannels]
    exact (Option.some.inj hformat).symm

/-- What a step settles is no announcement. -/
lemma Agrees.settled (h : Agrees entries a) (s : Step Bench.Cue) :
    Agreement (entries ++ a.settled s) := by
  unfold Analyzer.settled
  split
  · split
    · exact h.law.concat (by simp)
    · rw [List.append_nil]
      exact h.law
  · split
    · exact h.law.concat (by simp)
    · rw [List.append_nil]
      exact h.law
  · exact h.law.concat (by simp)
  · rw [List.append_nil]
    exact h.law

/-- **Every step that returns keeps the agreement.** -/
theorem Agrees.step {s : Step Bench.Cue} (h : Agrees entries a) (hstep : a.step s = some b) :
    Agrees (entries ++ (a.settled s ++ announced a b)) b := by
  rw [← List.append_assoc]
  cases s with
  | cue cue =>
      cases hstep
      have hquiet : Quiet a.trace (a.cued cue).trace := .refl _
      rw [announced_of_quiet hquiet, List.append_nil]
      exact (List.append_nil entries).symm ▸ h.frame rfl (Or.inl rfl)
  | call op =>
      obtain ⟨⟨answer, c⟩, hrun, rfl⟩ := Option.map_eq_some_iff.mp hstep
      have hquiet (hopens : op.opensStream = false) : Quiet a.trace c.trace :=
        (lasting_quiet a.trace).perform hopens (.refl _) hrun
      cases performs_of_perform hrun with
      | @configure result _ hconf =>
          rw [announced_of_quiet (hquiet rfl), List.append_nil, Analyzer.settled, hconf]
          cases result with
          | ok response => exact h.configured hconf
          | error error =>
              exact (List.append_nil entries).symm ▸ h.unconfigured (phase_of_configure_error hconf)
      | start hstart =>
          rw [show a.settled (.call .start) = [] from rfl, List.append_nil]
          exact h.started (.refl _) hstart
      | acquire hacquire =>
          have hconfigured {response : Except CaptureError ConfigureResponse} {b : Traced}
              (hconf : a.configure = some (response, b)) : Quiet a.trace b.trace :=
            (lasting_quiet a.trace).configure (.refl _) hconf
          rcases acquire_eq_some.mp hacquire with ⟨error, hconf, -⟩ | ⟨response, b', hconf, hstart⟩
          · rw [announced_of_quiet (hconfigured hconf), Analyzer.settled, hconf, List.append_nil]
            exact (List.append_nil entries).symm ▸ h.unconfigured (phase_of_configure_error hconf)
          · rw [Analyzer.settled, hconf]
            exact (h.configured hconf).started (hconfigured hconf) hstart
      | @setChannels count =>
          rw [announced_of_quiet (hquiet rfl), List.append_nil]
          exact h.asked count
      | @setRate hz =>
          rw [announced_of_quiet (hquiet rfl), show a.settled (.call (.setRate hz)) = [] from rfl,
            List.append_nil, List.append_nil]
          exact ⟨h.law, fun hphase => h.ready hphase⟩
      | stop _ | cancel _ | poll | allocate | free | teardown | version _ | serialNumber _ =>
          obtain ⟨hcontext, hphase⟩ := frame_of_perform rfl (by simp) (by simp) (by simp) hrun
          rw [announced_of_quiet (hquiet rfl), List.append_nil]
          exact (List.append_nil entries).symm ▸ h.frame hcontext hphase

/-- Every history that begins in agreement goes on in it, also if an operation never returns. -/
lemma Agrees.history (h : Agrees entries a) (steps : List (Step Bench.Cue)) :
    Agreement (entries ++ history steps a) := by
  induction steps generalizing entries a with
  | nil => exact (List.append_nil entries).symm ▸ h.law
  | cons s rest ih =>
      rw [Analyzer.history, recorded]
      cases hstep : a.step s with
      | none => simpa using h.settled s
      | some b =>
          have hrest := ih (h.step hstep)
          simpa [List.append_assoc] using hrest

lemma announcedFormats_settled (a : Traced) (s : Step Bench.Cue) :
    announcedFormats (a.settled s) = [] := by
  unfold settled
  split
  · split <;> rfl
  · split <;> rfl
  · rfl
  · rfl

lemma announcedFormats_announced (a b : Traced) :
    announcedFormats (announced a b) = startedFormats (b.trace.drop a.trace.length) := by
  simp [announcedFormats, announced, List.filterMap_map]

/-- A step only adds to what the sink has been told. -/
lemma trace_of_step {s : Step Bench.Cue} (hstep : a.step s = some b) :
    ∃ since, b.trace = a.trace ++ since := by
  have hstarted {a b c : Traced} {result : Except CaptureError Unit}
      (hquiet : Quiet c.trace a.trace) (hstart : a.start = some (result, b)) :
      ∃ since, b.trace = c.trace ++ since := by
    obtain ⟨before, htrace, -⟩ := hquiet
    rcases start_announces hstart with ⟨⟨since, hsince, -⟩, -⟩ | ⟨format, -, -, -, middle,
      ⟨since, hsince, -⟩, ⟨more, hmore, -⟩⟩
    · exact ⟨before ++ since, by rw [hsince, htrace, List.append_assoc]⟩
    · exact ⟨before ++ since ++ [.started format] ++ more, by simp [hmore, hsince, htrace]⟩
  cases s with
  | cue cue =>
      cases hstep
      exact ⟨[], (List.append_nil _).symm⟩
  | call op =>
      obtain ⟨⟨answer, c⟩, hrun, rfl⟩ := Option.map_eq_some_iff.mp hstep
      cases performs_of_perform hrun with
      | start hstart => exact hstarted (.refl _) hstart
      | acquire hacquire =>
          rcases acquire_eq_some.mp hacquire with ⟨error, hconf, -⟩ | ⟨response, b', hconf, hstart⟩
          · obtain ⟨since, htrace, -⟩ := (lasting_quiet a.trace).configure (.refl _) hconf
            exact ⟨since, htrace⟩
          · exact hstarted ((lasting_quiet a.trace).configure (.refl _) hconf) hstart
      | _ =>
          obtain ⟨since, htrace, -⟩ := (lasting_quiet a.trace).perform rfl (.refl _) hrun
          exact ⟨since, htrace⟩

/-- The history of a run announces what the sink is told. -/
lemma startedFormats_of_run {steps : List (Step Bench.Cue)} (hrun : run steps a = some b) :
    startedFormats b.trace = startedFormats a.trace ++ announcedFormats (history steps a) := by
  induction steps generalizing a with
  | nil =>
      cases hrun
      exact (List.append_nil _).symm
  | cons s rest ih =>
      obtain ⟨c, hstep, hrest⟩ := Option.bind_eq_some_iff.mp hrun
      obtain ⟨since, htrace⟩ := trace_of_step hstep
      have hnew : announcedFormats (a.recorded s) = startedFormats since := by
        rw [recorded, hstep, announcedFormats_append, announcedFormats_settled, List.nil_append]
        refine (announcedFormats_announced a c).trans ?_
        rw [htrace, List.drop_left]
      calc startedFormats b.trace
          = startedFormats c.trace ++ announcedFormats (history rest c) := ih hrest
        _ = startedFormats a.trace ++ startedFormats since ++
              announcedFormats (history rest c) := by rw [htrace, startedFormats_append]
        _ = startedFormats a.trace ++
              (announcedFormats (a.recorded s) ++ announcedFormats (history rest c)) := by
            rw [hnew, List.append_assoc]
        _ = startedFormats a.trace ++ announcedFormats (history (s :: rest) a) := by
            rw [history, hstep, announcedFormats_append]
            rfl

/-- **What the sink is told agrees with the device**, in every run.  The rate and the endpoint of
each acquisition announced are those of the response to the last configure before it.  Its
channels are those asked for last: they are the ones that the device has seen in that configure
exactly if no other number has been asked for since. -/
theorem formats_agree (settings : AcquisitionSettings) (steps : List (Step Bench.Cue)) :
    let entries := history steps (fresh settings)
    Agreement entries ∧
      (Faithful entries ↔ ∀ before format after,
        entries = before ++ .announced format :: after → ∀ channels response since,
          LastConfigure before channels response since → lastAsked channels since = channels) ∧
      ∀ a, run steps (fresh settings) = some a →
        startedFormats a.trace = announcedFormats entries := by
  have hagrees : Agrees [] (fresh settings) := ⟨.nil, fun hno => by cases hno⟩
  have hlaw : Agreement (history steps (fresh settings)) := hagrees.history steps
  exact ⟨hlaw, hlaw.faithful_iff, fun a hrun => startedFormats_of_run hrun⟩

/-- A number of channels asked for between configure and start. -/
def lateChannels : List (Step Bench.Cue) :=
  [.cue (.response [64, 66, 15, 0, 0, 0, 0, 0, 0x82]), .call .configure, .call (.setChannels 16),
    .call .start]

/-- The device has been configured with 8 channels, and the sink is told of 16. -/
theorem not_faithful_lateChannels : ¬ Faithful (history lateChannels
    (fresh { transferPoolSize := 1, transferBufferSize := 512 })) := by
  have hhistory : history lateChannels
      (fresh { transferPoolSize := 1, transferBufferSize := 512 }) =
        [.configured (some 8) ⟨1000000, 0, 0x82⟩, .asked 16, .announced ⟨1000000, 16, 0x82⟩] := by
    decide +kernel
  have hagrees : Agrees [] (fresh { transferPoolSize := 1, transferBufferSize := 512 }) :=
    ⟨.nil, fun hno => by cases hno⟩
  have hlaw : Agreement _ := hagrees.history lateChannels
  rw [List.nil_append] at hlaw
  intro hfaithful
  have hsame := hlaw.faithful_iff.mp hfaithful _ _ [] hhistory 8 ⟨1000000, 0, 0x82⟩ [.asked 16]
    ⟨⟨[], rfl⟩, by simp⟩
  exact absurd hsame (by decide)

end Analyzer

end LogicCapture
