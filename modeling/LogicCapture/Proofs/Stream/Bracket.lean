/-
The bracket law: samples reach the sink only between the start and the end of the acquisition
that asked for them, and in its format.

* `SinkTrace.Open`, `SinkTrace.Bracketed`: traces with an acquisition open, and traces that obey
  the law;
* `Streaming.Tuned`: an acquisition is open, and every slot in flight was armed with its format;
* `Streaming.Bracket`: the trace obeys the law, and a running stream is tuned;
* `Analyzer.stable_orderly`: together with custody of the pool, every operation keeps it;
* `Analyzer.bracketed_of_run`: the law for every run on the bench.
-/
import LogicCapture.Proofs.Analyzer.Run
import LogicCapture.Proofs.Pool.Held
import LogicCapture.Proofs.Trace

namespace LogicCapture

/-! ### Traces -/

namespace SinkTrace

/-- An acquisition with this format has started, and nothing but samples has come since. -/
def Open (format : StreamFormat) (trace : List SinkEvent) : Prop :=
  ∃ earlier since, trace = earlier ++ .started format :: since ∧
    ∀ event ∈ since, ∃ samples format', event = .deliver samples format'

/-- **The bracket law**: samples arrive while the acquisition of their format is open. -/
def Bracketed (trace : List SinkEvent) : Prop :=
  ∀ before samples format after, trace = before ++ .deliver samples format :: after →
    Open format before

variable {format format' : StreamFormat} {trace : List SinkEvent} {samples : Bytes}

lemma Open.started : Open format (trace ++ [.started format]) := ⟨trace, [], rfl, by simp⟩

lemma Open.deliver (h : Open format trace) : Open format (trace ++ [.deliver samples format']) := by
  obtain ⟨earlier, since, rfl, hsince⟩ := h
  refine ⟨earlier, since ++ [.deliver samples format'], by simp, ?_⟩
  intro event hevent
  rcases List.mem_append.mp hevent with hevent | hevent
  · exact hsince event hevent
  · exact ⟨samples, format', List.mem_singleton.mp hevent⟩

lemma Bracketed.nil : Bracketed [] := fun before samples format after h => by
  simp at h

/-- The law is decided by the events one at a time. -/
lemma Bracketed.concat {event : SinkEvent} (h : Bracketed trace)
    (hevent : ∀ samples format, event = .deliver samples format → Open format trace) :
    Bracketed (trace ++ [event]) := by
  intro before samples format after heq
  rcases split_of_concat_eq heq with ⟨rfl, hlast⟩ | ⟨after', hsplit⟩
  · exact hevent samples format hlast
  · exact h before samples format after' hsplit

end SinkTrace

namespace Streaming

open SinkTrace

/-- What the sink has been told. -/
abbrev told (host : Host (Feed SinkTrace)) : List SinkEvent := host.shared.sink.events

variable {l l' : Line StreamFormat (Feed SinkTrace)} {format : StreamFormat}

/-! ### Handler calls -/

/-- A stream's handler passes samples on in its own format, if the stream runs. -/
lemma complete_cases (f : Feed SinkTrace) (format : StreamFormat) (c : Completion) :
    (f.complete format c).2.sink = f.sink ∨ f.running = true ∧
      (f.complete format c).2.sink = f.sink.push (.deliver c.data format) := by
  obtain ⟨status, data⟩ := c
  -- only a normal completion can pass samples on
  cases status <;> try exact Or.inl rfl
  simp only [Feed.complete]
  split
  · rename_i hrunning
    simp only [Feed.accept]
    split
    · exact Or.inl rfl
    · exact Or.inr ⟨hrunning, rfl⟩
  · exact Or.inl rfl

/-- **A handler call** tells the sink nothing, or samples in the format of the slot while the
stream runs; the slot keeps its format. -/
lemma react_cases (handler : Handler StreamFormat) (c : Completion)
    (host : Host (Feed SinkTrace)) :
    (∀ key format, (handler.react c host).2.1 = .slot key format → handler = .slot key format) ∧
      (told (handler.react c host).2.2 = told host ∨
        host.shared.running = true ∧ ∃ key format, handler = .slot key format ∧
          told (handler.react c host).2.2 = told host ++ [.deliver c.data format]) := by
  cases handler with
  | control ticket =>
      have hsame : ((Handler.control (κ := StreamFormat) ticket).react c host).2.2.shared =
        host.shared := Handler.shared_react_control
      exact ⟨fun key format h => h, Or.inl (congrArg (·.sink.events) hsame)⟩
  | slot key format =>
      obtain ⟨rearm, format', shared, hconsume, hreact⟩ := Handler.react_slot key format c host
      rw [hreact]
      cases hconsume
      refine ⟨fun key' format' h => h, ?_⟩
      rcases complete_cases host.shared format c with hsame | ⟨hrunning, hpush⟩
      · exact Or.inl (congrArg SinkTrace.events hsame)
      · exact Or.inr ⟨hrunning, key, format, rfl, congrArg SinkTrace.events hpush⟩

/-! ### Completions -/

/-- An acquisition is open, and every slot that may still complete was armed with its format. -/
structure Tuned (format : StreamFormat) (l : Line StreamFormat (Feed SinkTrace)) : Prop where
  opened : Open format (told l.host)
  formats : ∀ t ∈ l.entries, ∀ key format', t.handler = .slot key format' → format' = format

/-- **The state of a stream**: the law has been kept so far, and it will be. -/
structure Bracket (l : Line StreamFormat (Feed SinkTrace)) : Prop where
  law : Bracketed (told l.host)
  tuned : l.host.shared.running = true → ∃ format, Tuned format l

/-- Only the handlers on the line and the shared state matter. -/
lemma Tuned.mono (h : Tuned format l) (htold : told l'.host = told l.host)
    (hhandlers : ∀ t' ∈ l'.entries, ∀ key format', t'.handler = .slot key format' →
      ∃ t ∈ l.entries, t.handler = .slot key format') : Tuned format l' := by
  refine ⟨htold ▸ h.opened, ?_⟩
  intro t' ht' key format' hslot
  obtain ⟨t, ht, hslot⟩ := hhandlers t' ht' key format' hslot
  exact h.formats t ht key format' hslot

lemma Bracket.mono (h : Bracket l) (hshared : l'.host.shared = l.host.shared)
    (hhandlers : ∀ t' ∈ l'.entries, ∀ key format', t'.handler = .slot key format' →
      ∃ t ∈ l.entries, t.handler = .slot key format') : Bracket l' := by
  have htold : told l'.host = told l.host := congrArg (fun feed => feed.sink.events) hshared
  refine ⟨htold ▸ h.law, ?_⟩
  intro hrunning
  obtain ⟨format, htuned⟩ := h.tuned (hshared ▸ hrunning)
  exact ⟨format, htuned.mono htold hhandlers⟩

/-- One handler call keeps the law, and leaves open what was open. -/
lemma call_bracket {handler : Handler StreamFormat} {c : Completion}
    {host : Host (Feed SinkTrace)} (hlaw : Bracketed (told host))
    (htuned : host.shared.running = true → ∀ key format, handler = .slot key format →
      Open format (told host)) :
    Bracketed (told (handler.react c host).2.2) ∧
      ∀ format, Open format (told host) → Open format (told (handler.react c host).2.2) := by
  obtain ⟨-, hsame | ⟨hrunning, key, format, hslot, hmore⟩⟩ := react_cases handler c host
  · rw [hsame]
    exact ⟨hlaw, fun format h => h⟩
  · rw [hmore]
    refine ⟨hlaw.concat ?_, fun format' h => h.deliver⟩
    intro samples format' heq
    cases heq
    exact htuned hrunning key format hslot

/-- **Every completion keeps the law.** -/
theorem Bracket.step (hstep : Line.Step l l') (h : Bracket l) : Bracket l' := by
  have hopen {t c rest inFlight host} (hl : Bracket ⟨(t, c) :: rest, inFlight, host⟩)
      (hrunning : host.shared.running = true) (key : Nat) (format : StreamFormat)
      (hslot : t.handler = .slot key format) : Open format (told host) := by
    obtain ⟨format', htuned⟩ := hl.tuned hrunning
    rw [htuned.formats t List.mem_cons_self key format hslot]
    exact htuned.opened
  cases hstep with
  | @ended t c rest inFlight host hhon =>
      obtain ⟨hlaw, hkeep⟩ := call_bracket (c := c) h.law (hopen h)
      refine ⟨hlaw, ?_⟩
      intro hrunning
      obtain ⟨format, htuned⟩ := h.tuned (Feed.running_react hrunning)
      exact ⟨format, hkeep format htuned.opened, fun t' ht' =>
        htuned.formats t' (List.mem_cons_of_mem _ ht')⟩
  | @rearmed t c rest inFlight host hhon =>
      obtain ⟨hlaw, hkeep⟩ := call_bracket (c := c) h.law (hopen h)
      refine ⟨hlaw, ?_⟩
      intro hrunning
      obtain ⟨format, htuned⟩ := h.tuned (Feed.running_react hrunning)
      refine ⟨format, hkeep format htuned.opened, ?_⟩
      intro t' ht' key format' hslot
      rw [Line.entries, ← List.append_assoc] at ht'
      rcases List.mem_append.mp ht' with ht' | ht'
      · exact htuned.formats t' (List.mem_cons_of_mem _ ht') key format' hslot
      · rw [List.mem_singleton.mp ht'] at hslot
        have hsame := (react_cases t.handler c host).1 key format' hslot
        exact htuned.formats t List.mem_cons_self key format' hsame
  | @refused t c rest inFlight host hhon =>
      obtain ⟨hlaw, hkeep⟩ := call_bracket (c := c) h.law (hopen h)
      -- the handler is called again, with the format that it has kept
      have hopen' (hrunning : (t.handler.react c host).2.2.shared.running = true) (key : Nat)
          (format : StreamFormat) (hslot : (t.handler.react c host).2.1 = .slot key format) :
          Open format (told (t.handler.react c host).2.2) :=
        hkeep format (hopen h (Feed.running_react hrunning) key format
          ((react_cases t.handler c host).1 key format hslot))
      obtain ⟨hlaw', hkeep'⟩ := call_bracket (c := .refused) hlaw hopen'
      refine ⟨hlaw', ?_⟩
      intro hrunning
      obtain ⟨format, htuned⟩ := h.tuned (Feed.running_react (Feed.running_react hrunning))
      exact ⟨format, hkeep' format (hkeep format htuned.opened), fun t' ht' =>
        htuned.formats t' (List.mem_cons_of_mem _ ht')⟩

/-! ### Event passes and control transfers -/

/-- An event pass keeps the law. -/
lemma Bracket.passed {s s' : Session (Bench (Handler StreamFormat)) (Feed SinkTrace)}
    (hpass : Session.Passed s s') (h : Bracket s.line) : Bracket s'.line := by
  refine hpass.line_induction (fun hset hl => hl.mono rfl ?_)
    (fun hstep hl => hl.step hstep) h
  intro t' ht' key format hslot
  obtain ⟨t, ht, hsame⟩ := Bench.exists_handler_of_settleAll hset ht'
  exact ⟨t, ht, hsame.trans hslot⟩

/-- **Control transfers keep the law**, whatever completes while they are waited for. -/
theorem Bracket.kept : Session.Kept (τ := Bench (Handler StreamFormat)) (ω := Feed SinkTrace)
    (fun s => Bracket s.line) (fun _ s => Bracket s.line) where
  unallocated h halloc := by
    obtain rfl := Bench.alloc_error halloc
    exact h
  refused h _ halloc _ hsubmit := by
    obtain ⟨-, rfl⟩ := Bench.alloc_ok halloc
    obtain ⟨controlLog, replies, rfl⟩ := Bench.submit_error hsubmit
    exact h.mono rfl fun t ht key format hslot => ⟨t, (List.mem_filter.mp ht).1, hslot⟩
  submitted h _ halloc _ hsubmit := by
    obtain ⟨-, rfl⟩ := Bench.alloc_ok halloc
    obtain ⟨-, controlLog, replies, reply, rfl⟩ := Bench.submit_ok hsubmit
    refine h.mono rfl ?_
    intro t ht key format hslot
    rcases List.mem_append.mp (show t ∈ _ ++ [_] from ht) with ht | ht
    · exact ⟨t, ht, hslot⟩
    · rw [List.mem_singleton.mp ht] at hslot
      cases hslot
  passed h := h.passed (Session.passed_events _ _)
  cancelled {id s} h := by
    rcases hcancel : s.transport.cancel id with ⟨result, b⟩
    obtain ⟨inFlight, rfl, hmarks⟩ := Bench.cancel_cases hcancel
    refine h.mono rfl ?_
    intro t' ht' key format hslot
    change t' ∈ (s.transport.cancel id).2.inFlight at ht'
    rw [hcancel] at ht'
    obtain ⟨t, ht, hsame⟩ := Bench.exists_handler_of_unmarked hmarks ht'
    exact ⟨t, ht, hsame.trans hslot⟩
  freed h := h.mono rfl fun t ht key format hslot => ⟨t, (List.mem_filter.mp ht).1, hslot⟩

/-! ### The operations of the pool -/

variable {p : Pool} {s : Session (Bench (Handler StreamFormat)) (Feed SinkTrace)}

lemma Bracket.cancelAll (h : Bracket s.line) : Bracket (p.cancelAll s).2.line := by
  refine h.mono rfl ?_
  intro t' ht' key format hslot
  obtain ⟨t, ht, hsame⟩ := Pool.exists_handler_of_cancelAll ht'
  exact ⟨t, ht, hsame.trans hslot⟩

lemma Bracket.freeAll (h : Bracket s.line) : Bracket (p.freeAll s).2.line :=
  h.mono rfl fun t ht _ _ hslot => ⟨t, Pool.mem_of_mem_freeAll ht, hslot⟩

lemma Bracket.allocate (h : Bracket s.line) (count : Nat) :
    Bracket (p.allocate count s).2.2.line :=
  h.mono (congrArg Host.shared (Pool.host_allocate p count s)) fun t ht _ _ hslot =>
    ⟨t, Pool.mem_of_mem_allocate ht, hslot⟩

lemma Tuned.allocate {format : StreamFormat} (h : Tuned format s.line) (count : Nat) :
    Tuned format (p.allocate count s).2.2.line :=
  h.mono (congrArg told (Pool.host_allocate p count s)) fun t ht _ _ hslot =>
    ⟨t, Pool.mem_of_mem_allocate ht, hslot⟩

/-- Arming slots with the format of the open acquisition leaves the stream tuned to it. -/
lemma Tuned.arm {format : StreamFormat} (h : Tuned format s.line) (endpoint : UInt8) :
    Tuned format (p.arm endpoint format s).2.line := by
  refine Pool.arm_induction (R := fun s => Tuned format s.line) h ?_ ?_
  · intro h
    refine Pool.submitSlots_induction (R := fun s => Tuned format s.line) ?_ ?_ h
    · intro slot s b _ hs hsubmit
      obtain ⟨-, controlLog, replies, reply, rfl⟩ := Bench.submit_ok hsubmit
      refine ⟨hs.opened, ?_⟩
      intro t ht key format' hslot
      rcases List.mem_append.mp (show t ∈ _ ++ [_] from ht) with ht | ht
      · exact hs.formats t ht key format' hslot
      · rw [List.mem_singleton.mp ht] at hslot
        cases hslot
        rfl
    · intro slot s error b _ hs hsubmit
      obtain ⟨controlLog, replies, rfl⟩ := Bench.submit_error hsubmit
      exact hs.mono rfl fun t ht key format hslot => ⟨t, ht, hslot⟩
  · intro s h
    refine h.mono rfl ?_
    intro t' ht' key format hslot
    obtain ⟨t, ht, hsame⟩ := Pool.exists_handler_of_cancelAll ht'
    exact ⟨t, ht, hsame.trans hslot⟩

end Streaming

/-! ### Runs -/

namespace Analyzer

open SinkTrace Streaming

/-- An analyzer on the bench that keeps a trace of what it tells its sink. -/
abbrev Traced := Analyzer (Bench (Handler StreamFormat)) SinkTrace

/-- What the sink has been told. -/
def trace (a : Traced) : List SinkEvent := a.feed.sink.events

/-- **Custody of the pool and the law of the trace**, together. -/
structure Orderly (a : Traced) : Prop where
  held : a.pool.Held none a.session
  bracket : Bracket a.session.line

/-- Nothing is in flight when an acquisition begins. -/
lemma Orderly.inFlight_eq_nil {a : Traced} (h : Orderly a) (hidle : a.armedCount = 0) :
    a.session.transport.inFlight = [] :=
  h.held.inFlight_eq_nil (armedCount_eq_zero.mp hidle)

lemma Orderly.reframe {a : Traced} {b : Bench (Handler StreamFormat)} (h : Orderly a)
    (hflight : b.inFlight = a.session.transport.inFlight)
    (halloc : b.allocated = a.session.transport.allocated) :
    Orderly { a with session := { a.session with transport := b } } :=
  ⟨h.held.congr (.of_eq (congrArg (List.map (·.badge)) hflight)) rfl halloc,
    h.bracket.mono rfl fun t ht _ _ hslot =>
      ⟨t, show t ∈ a.session.transport.inFlight from hflight ▸ ht, hslot⟩⟩

/-- Arming the stream with the format of the open acquisition keeps the law. -/
lemma Orderly.armStreaming {a : Traced} {format : StreamFormat} (h : Orderly a)
    (htuned : Tuned format a.session.line) : Orderly (a.armStreaming format).2 := by
  refine (armStreaming_induction (I := fun a : Traced => Orderly a ∧ Tuned format a.session.line)
    ?_ ?_ ⟨h, htuned⟩).1
  · intro b h
    exact ⟨⟨h.1.held.allocate _, h.1.bracket.allocate _⟩, h.2.allocate _⟩
  · intro b h
    have hstill := h.2.arm (p := b.pool) format.endpoint
    refine ⟨⟨h.1.held.arm format.endpoint format, ?_, fun _ => ⟨format, hstill⟩⟩, hstill⟩
    have hshared := b.pool.shared_arm format.endpoint format b.session
    show Bracketed (told (b.pool.arm format.endpoint format b.session).2.host)
    rw [told, hshared]
    exact h.1.bracket.law

/-- **Every operation keeps the law**: acquisitions are only begun when nothing of an earlier one
is in flight. -/
theorem stable_orderly : Stable Orderly where
  exchange h hex := ⟨(Pool.Held.kept _).execute h.held hex, Bracket.kept.execute h.bracket hex⟩
  pass ms h :=
    have hpass := Session.passed_events _ ms
    ⟨h.held.passed hpass, h.bracket.passed hpass⟩
  context _ h := ⟨h.held, h.bracket⟩
  allocate h := ⟨h.held.allocate _, h.bracket.allocate _⟩
  free h := ⟨h.held.freeAll, h.bracket.freeAll⟩
  claim {a} interface h :=
    have hframe := Bench.claim_frame a.session.transport interface
    have hflight := congrArg Bench.inFlight hframe
    have halloc := congrArg Bench.allocated hframe
    h.reframe hflight halloc
  release {a} interface h :=
    have hframe := Bench.release_frame a.session.transport interface
    have hflight := congrArg Bench.inFlight hframe
    have halloc := congrArg Bench.allocated hframe
    h.reframe hflight halloc
  phase _ h := ⟨h.held, h.bracket⟩
  halt h := ⟨h.held.congr (.refl _) rfl rfl, h.bracket.law, fun hno => by cases hno⟩
  notify {a} h hoff := by
    refine ⟨h.held.congr (.refl _) rfl rfl, ?_, ?_⟩
    · exact h.bracket.law.concat fun samples format hno => by cases hno
    · intro hon
      cases hoff.symm.trans hon
  cancelAll h := ⟨h.held.cancelAll, h.bracket.cancelAll⟩
  begin {a format answer s} h hidle hex := by
    have hheld := (Pool.Held.kept _).execute h.held hex
    have hbracket := Bracket.kept.execute h.bracket hex
    have hnone := h.held.inFlight_of_execute hidle hex
    have htuned : Tuned format
        (({ a with session := s } : Traced).openFeed format).session.line := by
      refine ⟨Open.started, ?_⟩
      intro t ht
      have hmem : t ∈ s.transport.inFlight := ht
      rw [hnone] at hmem
      cases hmem
    refine Orderly.armStreaming ⟨hheld.congr (.refl _) rfl rfl, ?_, fun _ => ⟨format, htuned⟩⟩
      htuned
    exact hbracket.law.concat fun samples format hno => by cases hno

/-- A new analyzer on a new bench. -/
abbrev fresh (settings : AcquisitionSettings) : Traced := new {} settings {}

lemma Orderly.fresh (settings : AcquisitionSettings) : Orderly (Analyzer.fresh settings) :=
  ⟨Pool.Held.start _ _ rfl _, Bracketed.nil, fun hno => by cases hno⟩

/-- The script of a bench says nothing about transfers in flight. -/
lemma Orderly.cued {a : Traced} (h : Orderly a) (cue : Bench.Cue) : Orderly (a.cued cue) := by
  obtain ⟨hflight, halloc, -⟩ := a.session.transport.cue_frame cue
  exact h.reframe hflight halloc

lemma orderly_of_run {settings : AcquisitionSettings} {steps : List (Step Bench.Cue)} {a : Traced}
    (hrun : run steps (fresh settings) = some a) : Orderly a :=
  stable_orderly.run (fun cue h => h.cued cue) (.fresh settings) hrun

/-- Nothing of an earlier acquisition is in flight when the sink is told of a new one. -/
lemma Orderly.inFlight_of_start {a b : Traced} {result : Except CaptureError Unit} (h : Orderly a)
    (hstart : a.start = some (result, b)) (htold : b.trace ≠ a.trace) :
    a.session.transport.inFlight = [] := by
  refine h.inFlight_eq_nil ?_
  cases starts_of_start hstart with
  | refused => exact absurd rfl htold
  | failed hsent => exact hsent.unarmed
  | armed hsent _ => exact hsent.unarmed
  | undone hsent _ _ => exact hsent.unarmed

/-- **The bracket law holds for every run.**  Samples reach the sink only after it has been told
of the start of an acquisition and before anything but samples of that acquisition, in its
format; and it is told of a start only when no bulk transfer is in flight. -/
theorem bracketed_of_run {settings : AcquisitionSettings} {steps : List (Step Bench.Cue)}
    {a : Traced} (hrun : run steps (fresh settings) = some a) :
    Bracketed a.trace ∧ ∀ result b, a.start = some (result, b) → b.trace ≠ a.trace →
      a.session.transport.bulkInFlight = 0 := by
  have h := orderly_of_run hrun
  refine ⟨h.bracket.law, ?_⟩
  intro result b hstart htold
  rw [Bench.bulkInFlight, h.inFlight_of_start hstart htold]
  rfl

/-- One acquisition, and chunks for two passes: one before the stop and one after it. -/
def twoChunks : List (Step Bench.Cue) :=
  [.cue (.response [64, 66, 15, 0, 0, 0, 0, 0, 0x82]), .call .acquire,
    .cue (.chunk [1, 2, 3]), .call (.poll 10), .call .stop, .cue (.chunk [4]), .call (.poll 10)]

theorem bracketed_twoChunks :
    ∃ a, run twoChunks (fresh { transferPoolSize := 2, transferBufferSize := 2 }) = some a ∧
      a.trace = [.started ⟨1000000, 8, 0x82⟩, .deliver [1, 2] ⟨1000000, 8, 0x82⟩, .stopped] ∧
      Bracketed a.trace := by
  have htrace : (run twoChunks (fresh { transferPoolSize := 2, transferBufferSize := 2 })).map
      trace = some [.started ⟨1000000, 8, 0x82⟩, .deliver [1, 2] ⟨1000000, 8, 0x82⟩, .stopped] := by
    decide +kernel
  obtain ⟨a, hrun, htrace⟩ := Option.map_eq_some_iff.mp htrace
  exact ⟨a, hrun, htrace, (bracketed_of_run hrun).1⟩

end Analyzer

end LogicCapture
