/-
What a configure comes to on a bench.

* `Session.kept_resting`: commands leave a feed that does not run as it is, whatever completes
  meanwhile;
* `Analyzer.readResponse_of_controlTransfer`: which answers of the device are accepted;
* `Analyzer.Negotiates`: all that a configure needs of the device;
* `Analyzer.configure_of_reachable`: in every state of an analyzer it succeeds exactly with that,
  and else leaves nothing negotiated.
-/
import LogicCapture.Proofs.Analyzer.Starting
import LogicCapture.Proofs.Analyzer.Stopping

namespace LogicCapture

variable {τ κ H S : Type}

/-! ### Feeds that do not run -/

namespace Bench

/-- A bulk transfer ends with the chunk that it brings, or because it has been cancelled. -/
lemma status_of_settle {t : InFlight H} {queue : List Bytes} {e : InFlight H × Completion}
    (hbulk : t.kind.isBulk = true) (h : (settle t queue).1 = some e) :
    e.2.status = .completed ∨ e.2.status = .cancelled := by
  unfold settle at h
  split at h
  · cases h
    exact Or.inr rfl
  · split at h
    · rename_i hkind
      rw [hkind] at hbulk
      cases hbulk
    · split at h
      · cases h
      · cases h
        exact Or.inl rfl

end Bench

/-- **The completion is mild** to its handler: it answers a control transfer, or brings samples to
a slot, or ends the slot's transfer because that has been cancelled. -/
def Handler.Mild (handler : Handler κ) (c : Completion) : Prop :=
  (∃ ticket, handler = .control ticket) ∨ c.status = .completed ∨ c.status = .cancelled

namespace Feed

variable [SampleSink S]

/-- A feed that does not run neither takes samples nor minds a cancellation. -/
lemma complete_of_off {feed : Feed S} (hoff : feed.running = false) (format : StreamFormat)
    {c : Completion} (h : c.status = .completed ∨ c.status = .cancelled) :
    (feed.complete format c).2 = feed := by
  rcases h with hstatus | hstatus <;> simp [complete, hstatus, hoff]

/-- A feed that does not run ignores what is mild. -/
lemma shared_react {handler : Handler StreamFormat} {c : Completion} {host : Host (Feed S)}
    (hoff : host.shared.running = false) (h : handler.Mild c) :
    (handler.react c host).2.2.shared = host.shared := by
  cases handler with
  | control ticket => exact Handler.shared_react_control
  | slot key format =>
      rw [Handler.shared_react_slot]
      refine complete_of_off hoff format (h.resolve_left ?_)
      rintro ⟨_, ⟨⟩⟩

end Feed

/-- **The line rests** on a feed that does not run: nothing but what is mild is to come. -/
structure Line.Resting (feed : Feed S) (l : Line StreamFormat (Feed S)) : Prop where
  shared : l.host.shared = feed
  mild : ∀ e ∈ l.ready, e.1.handler.Mild e.2

section
variable [SampleSink S]

/-- No completion disturbs it. -/
lemma Line.Resting.step {feed : Feed S} {l l' : Line StreamFormat (Feed S)}
    (hoff : feed.running = false) (hstep : Line.Step l l') (h : l.Resting feed) :
    l'.Resting feed := by
  have hreleased {t c rest inFlight host}
      (hl : Line.Resting feed (⟨(t, c) :: rest, inFlight, host⟩ : Line StreamFormat (Feed S)))
      (hhon : (Line.call t c host).1.honoured c.status = true) : False := by
    have hrelease : (Line.call t c host).1 = .release :=
      Feed.release_react t.handler c (by rw [hl.shared]; exact hoff)
    rw [hrelease] at hhon
    cases hhon
  cases hstep with
  | @ended t c rest inFlight host _ =>
      have hsame := Feed.shared_react (by rw [h.shared]; exact hoff) (h.mild _ List.mem_cons_self)
      exact ⟨hsame.trans h.shared, fun e he => h.mild e (List.mem_cons_of_mem _ he)⟩
  | rearmed hhon => exact (hreleased h hhon).elim
  | refused hhon => exact (hreleased h hhon).elim

namespace Session

variable {p : Pool} {s s' : Session (Bench (Handler StreamFormat)) (Feed S)}

/-- A pass leaves a feed that does not run as it is: no slot's transfer fails on a bench. -/
lemma shared_of_passed {waiting : Option TransferId} (hheld : p.Held waiting s)
    (hoff : s.host.shared.running = false) (hpass : Passed s s') :
    s'.host.shared = s.host.shared := by
  rcases hpass.moves with ⟨hhost, -, -⟩ | ⟨ready, pending, hset, hsteps⟩
  · rw [hhost]
  · have hrest : Line.Resting s.host.shared
        (⟨ready, pending, s.host⟩ : Line StreamFormat (Feed S)) := by
      refine ⟨rfl, fun e he => ?_⟩
      obtain ⟨t, ht, queue, hsettle⟩ := (Bench.settling_of_settleAll hset).ready_settled e he
      obtain ⟨-, -, hhandler, -⟩ := Bench.InFlight.shape_inj (Bench.shape_of_settled hsettle)
      rcases hheld.custody.source t ht with ⟨slot, hc⟩ | ⟨id, -, hc⟩
      · exact Or.inr (Bench.status_of_settle hc.kind hsettle)
      · exact Or.inl (hhandler ▸ hc.handler)
    exact (hsteps.induction (Line.Resting.step hoff) hrest).shared

/-- **Commands leave a feed that does not run as it is**, whatever completes meanwhile. -/
lemma kept_resting (p : Pool) {feed : Feed S} (hoff : feed.running = false) :
    Kept (fun s : Session (Bench (Handler StreamFormat)) (Feed S) =>
        p.Held none s ∧ s.host.shared = feed)
      (fun id s => p.Held (some id) s ∧ s.host.shared = feed) where
  unallocated h halloc := ⟨(Pool.Held.kept p).unallocated h.1 halloc, h.2⟩
  refused h hattached halloc hkind hsubmit :=
    ⟨(Pool.Held.kept p).refused h.1 hattached halloc hkind hsubmit, h.2⟩
  submitted h hattached halloc hkind hsubmit :=
    ⟨(Pool.Held.kept p).submitted h.1 hattached halloc hkind hsubmit, h.2⟩
  passed {_ s _} h := ⟨(Pool.Held.kept p).passed h.1,
    (shared_of_passed h.1 (by rw [h.2]; exact hoff) (passed_events s _)).trans h.2⟩
  cancelled h := ⟨(Pool.Held.kept p).cancelled h.1, h.2⟩
  freed h := ⟨(Pool.Held.kept p).freed h.1, h.2⟩

end Session

end

/-! ### The answer to a configure command -/

namespace Analyzer

/-- **What is accepted of the device** is a response of nine bytes or more whose endpoint leads to
the host. -/
lemma readResponse_of_result {reply : Bench.Reply} {received : ControlResult} {m : Nat}
    {r : ConfigureResponse}
    (h : reply.result (.receive (zeros ConfigureResponse.size)) = some received)
    (hok : received.result = .ok m) :
    readResponse ⟨received.result, some received.bytes⟩ = .ok r ↔
      ∃ data, reply = .respond data ∧ ConfigureResponse.size ≤ data.length ∧
        isInEndpoint r.endpoint = true ∧ r = .spelled data := by
  cases reply with
  | respond data =>
      cases h
      have hbytes : (data.take (zeros ConfigureResponse.size).length ++
          (zeros ConfigureResponse.size).drop data.length).take
            (min data.length (zeros ConfigureResponse.size).length) =
          data.take ConfigureResponse.size := by
        rw [List.take_left' (by rw [List.length_take, Nat.min_comm]), length_zeros]
      rw [readResponse_eq_ok_iff, hbytes, ConfigureResponse.spelled_take, List.length_take,
        Nat.le_min]
      simp
  | status outcome =>
      cases h
      dsimp only at hok ⊢
      cases houtcome : outcome.toResult with
      | error error =>
          rw [houtcome] at hok
          cases hok
      | ok _ =>
          show readResponse ⟨.ok 0, some (zeros ConfigureResponse.size)⟩ = .ok r ↔ _
          rw [readResponse_eq_ok_iff]
          simp [ConfigureResponse.size]
  | reject error => cases h
  | hang => cases h

/-- Of the control transfer that reads the response, this is what the script says. -/
lemma readResponse_of_controlTransfer [SampleSink S] {p : Pool} {m ms : Nat} {r : ConfigureResponse}
    {s s' : Session (Bench (Handler StreamFormat)) (Feed S)} {received : ControlResult}
    (hheld : p.Held none s)
    (hrun : s.controlTransfer 0x65 0 0 (.receive (zeros 9)) ms = some (received, s'))
    (hok : received.result = .ok m) :
    readResponse ⟨received.result, some received.bytes⟩ = .ok r ↔
      ∃ data, s.transport.nextReply = .respond data ∧ ConfigureResponse.size ≤ data.length ∧
        isInEndpoint r.endpoint = true ∧ r = .spelled data :=
  readResponse_of_result (Session.result_of_controlTransfer (.of_held hheld) hrun hok) hok

/-! ### The configure -/

section
variable [Transport τ (Handler StreamFormat)] [SampleSink S]

/-- A configure whose rate does not fit the command fails. -/
lemma not_ok_of_rate {a b : Analyzer τ S} {response : ConfigureResponse}
    (hrate : UInt32.size ≤ a.context.sampleRateHz) :
    a.configure ≠ some (.ok response, b) := by
  by_cases hphase : a.phase = .streaming
  · rw [configure_of_streaming hphase]
    simp
  · rw [configure, if_neg hphase, negotiate, if_pos hrate]
    simp

end

variable [SampleSink S] {a b : Benched S}

/-- **All that a configure needs of the device**, which answers it with `data`: the rate fits the
command, both phases of the command succeed, the answer has nine bytes or more and names an endpoint
that leads to the host, and then the interface can be claimed. -/
structure Negotiates (a : Benched S) (data : Bytes)
    (session : Session (Bench (Handler StreamFormat)) (Feed S)) : Prop where
  rate : a.context.sampleRateHz < UInt32.size
  phases : ∃ sent n s received m,
    a.session.controlTransfer 0x65 0 0 (.send a.request.toPacket.encode)
      a.settings.commandTimeoutMs = some (sent, s) ∧ sent.result = .ok n ∧
    s.transport.nextReply = .respond data ∧
    s.controlTransfer 0x65 0 0 (.receive (zeros 9)) a.settings.commandTimeoutMs =
      some (received, session) ∧ received.result = .ok m
  long : 9 ≤ data.length
  endpoint : isInEndpoint (ConfigureResponse.spelled data).endpoint = true
  claimed : (session.transport.claim Protocol.streamingInterface).1 = .ok ()

/-- The analyzer that has come to an agreement in this session. -/
def agreed (a : Benched S) (session : Session (Bench (Handler StreamFormat)) (Feed S))
    (response : ConfigureResponse) : Benched S :=
  { a with
    session := { session with
      transport := (session.transport.claim Protocol.streamingInterface).2 }
    context := { a.context with negotiated := some response }
    phase := .configured }

/-- **Success**: a configure succeeds with all of this, and only with that. -/
lemma configure_eq_ok_iff (hheld : a.pool.Held none a.session) (hphase : a.phase ≠ .streaming)
    {response : ConfigureResponse} : a.configure = some (.ok response, b) ↔
      ∃ data session, a.Negotiates data session ∧ response = .spelled data ∧
        b = a.agreed session response := by
  constructor
  · intro hrun
    have hrate : a.context.sampleRateHz < UInt32.size :=
      Nat.not_le.mp fun hlarge => not_ok_of_rate hlarge hrun
    cases configures_of_configure hrun with
    | agreed hasks hread hclaim =>
        cases Session.executes_of_execute hasks.sent with
        | unsent => cases (valid_of_readResponse hread).2.choose_spec
        | sent _ _ hno => cases hno
        | @read sent n s buffer received _ hsend hsent hbuffer hreceive =>
            obtain rfl : zeros 9 = buffer := Option.some.inj hbuffer
            obtain ⟨-, m, hreceived⟩ := valid_of_readResponse hread
            obtain ⟨data, hanswer, hlong, hin, rfl⟩ := (readResponse_of_controlTransfer
              ((Pool.Held.kept a.pool).controlTransfer hheld hsend) hreceive hreceived).mp hread
            exact ⟨data, _, ⟨hrate, ⟨sent, n, s, received, m, hsend, hsent, hanswer, hreceive,
              hreceived⟩, hlong, hin, hclaim⟩, rfl, rfl⟩
  · rintro ⟨data, session, hneg, rfl, rfl⟩
    obtain ⟨sent, n, s, received, m, hsend, hsent, hanswer, hreceive, hreceived⟩ := hneg.phases
    have hread := (readResponse_of_controlTransfer
      ((Pool.Held.kept a.pool).controlTransfer hheld hsend) hreceive hreceived).mpr
        ⟨data, hanswer, hneg.long, hneg.endpoint, rfl⟩
    have hasks : a.Asks ⟨received.result, some received.bytes⟩ session :=
      ⟨hphase, Session.execute_read (by decide) hsend hsent hreceive⟩
    exact configure_of_asks hneg.rate hasks hread hneg.claimed

/-- **Failure**: whatever the reason, nothing is negotiated any more. -/
lemma forgotten_of_configure {error : CaptureError} (hphase : a.phase ≠ .streaming)
    (hrun : a.configure = some (.error error, b)) : ∃ session,
      b = { a with session, context := { a.context with negotiated := none }, phase := .idle } := by
  cases configures_of_configure hrun with
  | refused hno => exact absurd hno hphase
  | unasked | unanswered | unclaimed => exact ⟨_, rfl⟩

/-- A configure leaves a feed that does not run as it is. -/
lemma feed_of_configure {result : Except CaptureError ConfigureResponse}
    (hheld : a.pool.Held none a.session) (hoff : a.feed.running = false)
    (hrun : a.configure = some (result, b)) : b.feed = a.feed := by
  have hsent {answer session} (hasks : a.Asks answer session) : session.host.shared = a.feed :=
    ((Session.kept_resting a.pool hoff).execute ⟨hheld, rfl⟩ hasks.sent).2
  cases configures_of_configure hrun with
  | refused | unasked => rfl
  | unanswered hasks => exact hsent hasks
  | unclaimed hasks | agreed hasks =>
      have hsame := hsent hasks
      exact hsame

/-- **A configure in any state of an analyzer.**  While it streams, it is refused without a call to
the transport, and nothing changes.  Else it succeeds just with all that it needs of the device, and
with the response that the device's first nine bytes spell; and if it fails, the analyzer is idle,
nothing is negotiated, and pool, requested parameters and settings are as before.  The statistics
and the sink notice nothing of it. -/
theorem configure_of_reachable (h : Reachable a) :
    (a.phase = .streaming →
      a.configure = some (.error (.invalidPhase "configure" .streaming), a) ∧
      (a.transcribed []).configure =
        some (.error (.invalidPhase "configure" .streaming), a.transcribed [])) ∧
    (a.phase ≠ .streaming →
      (∀ response b, a.configure = some (.ok response, b) ↔ ∃ data session,
        a.Negotiates data session ∧ response = .spelled data ∧ b = a.agreed session response) ∧
      (∀ error b, a.configure = some (.error error, b) → ∃ session, b = { a with
        session, context := { a.context with negotiated := none }, phase := .idle }) ∧
      ∀ result b, a.configure = some (result, b) → b.feed = a.feed) := by
  obtain ⟨hheld, hsettled⟩ := h.kept
  refine ⟨fun hphase => ⟨configure_of_streaming hphase, configure_of_streaming hphase⟩,
    fun hphase => ⟨fun _ _ => configure_eq_ok_iff hheld hphase,
      fun _ _ hrun => forgotten_of_configure hphase hrun, fun _ _ hrun => ?_⟩⟩
  refine feed_of_configure hheld ?_ hrun
  by_contra hon
  exact hphase (hsettled (by simpa using hon))

/-- A stream that has been stopped with its transfers in flight and samples to come, on a device
that answers the next configure with two bytes more than it needs. -/
def lateSamples : List (Step Bench.Cue) :=
  [.cue (.response [64, 66, 15, 0, 0, 0, 0, 0, 0x82]), .call .acquire, .call .stop,
    .cue (.chunk [1, 2]), .cue (.response [64, 66, 15, 0, 0, 16, 0, 0, 0x81, 7, 7])]

theorem configure_lateSamples :
    ∃ a b c d : Benched SinkTrace, Reachable a ∧ a.phase ≠ .streaming ∧
      a.session.transport.inFlight.length = 2 ∧
      (∃ data session, a.Negotiates data session ∧ b = a.agreed session ⟨1000000, 4096, 0x81⟩) ∧
      b.session.transport.inFlight.length = 1 ∧ b.feed = a.feed ∧
      a.step (.cue (.claimError .busy)) = some c ∧ c.context.negotiated.isSome = true ∧
      c.configure = some (.error (.usb .busy), d) ∧ d.context.negotiated = none ∧
      d.phase = .idle ∧ d.session.transport.inFlight.length = 1 ∧ d.feed = c.feed := by
  have hend : (run lateSamples (onBench { transferPoolSize := 2, transferBufferSize := 2 }
      ({} : SinkTrace))).bind (fun a => (a.step (.cue (.claimError .busy))).bind fun c =>
        a.configure.bind fun r => c.configure.map fun r' =>
          decide ((a.phase ≠ .streaming ∧ a.session.transport.inFlight.length = 2) ∧
            (r.1 = .ok ⟨1000000, 4096, 0x81⟩ ∧ r.2.session.transport.inFlight.length = 1) ∧
            (c.phase ≠ .streaming ∧ c.context.negotiated.isSome = true) ∧
            r'.1 = .error (.usb .busy) ∧ r'.2.session.transport.inFlight.length = 1)) =
      some true := by
    decide +kernel
  obtain ⟨a, hrun, hend⟩ := Option.bind_eq_some_iff.mp hend
  obtain ⟨c, hcue, hend⟩ := Option.bind_eq_some_iff.mp hend
  obtain ⟨⟨result, b⟩, hok, hend⟩ := Option.bind_eq_some_iff.mp hend
  obtain ⟨⟨result', d⟩, hfail, hend⟩ := Option.map_eq_some_iff.mp hend
  obtain ⟨⟨hphase, htwo⟩, ⟨rfl, hone⟩, ⟨hphase', hsome⟩, rfl, hone'⟩ := of_decide_eq_true hend
  have hreach : Reachable a := (Reachable.new _ _).run hrun
  obtain ⟨-, hconfigure⟩ := configure_of_reachable hreach
  obtain ⟨hagreed, -, hfeed⟩ := hconfigure hphase
  obtain ⟨data, session, hneg, -, hb⟩ := (hagreed _ _).mp hok
  obtain ⟨-, hconfigure'⟩ := configure_of_reachable (hreach.step hcue)
  obtain ⟨-, hcleared, hfeed'⟩ := hconfigure' hphase'
  obtain ⟨session', rfl⟩ := hcleared _ _ hfail
  exact ⟨a, b, c, _, hreach, hphase, htwo, ⟨data, session, hneg, hb⟩, hone, hfeed _ _ hok, hcue,
    hsome, hfail, rfl, rfl, hone', hfeed' _ _ hfail⟩

end Analyzer

end LogicCapture
