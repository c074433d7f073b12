/-
The slots that a stream loses while it goes on, on any transport.

* `Lost`: a completion that did not allow another submission has come for a slot;
* `Analyzer.armed_iff_of_period`: as long as the stream runs, the armed slots are those of its
  start that are not lost;
* `Analyzer.exists_opening`: a stream that goes on has been started, and nothing has ended it since;
* `Analyzer.starved_iff`: it has no armed slot left exactly if all slots of its pool are lost or
  have been allocated after the start.
-/
import LogicCapture.Proofs.Analyzer.Watch
import LogicCapture.Proofs.Pool.Upheld
import Mathlib.Data.List.Induction

namespace LogicCapture

variable {τ κ S C : Type}

/-- A slot is lost: a completion of it has not allowed another submission. -/
def Lost (calls : List (Handler κ × Completion)) (key : Nat) : Prop :=
  ∃ consumer c, (.slot key consumer, c) ∈ calls ∧ c.status.allowsResubmit = false

lemma not_lost_nil (key : Nat) : ¬ Lost ([] : List (Handler κ × Completion)) key := by
  rintro ⟨consumer, c, hcall, -⟩
  cases hcall

/-- A call loses the slot that it is about, if its completion forbids another submission. -/
lemma lost_concat {calls : List (Handler κ × Completion)} {handler : Handler κ} {c : Completion}
    {key : Nat} : Lost (calls ++ [(handler, c)]) key ↔
      Lost calls key ∨ (∃ consumer, handler = .slot key consumer) ∧
        c.status.allowsResubmit = false := by
  constructor
  · rintro ⟨consumer, c', hcall, hlost⟩
    rcases List.mem_append.mp hcall with hcall | hcall
    · exact Or.inl ⟨consumer, c', hcall, hlost⟩
    · cases List.mem_singleton.mp hcall
      exact Or.inr ⟨⟨consumer, rfl⟩, hlost⟩
  · rintro (⟨consumer, c', hcall, hlost⟩ | ⟨⟨consumer, rfl⟩, hlost⟩)
    · exact ⟨consumer, c', List.mem_append_left _ hcall, hlost⟩
    · exact ⟨consumer, c, by simp, hlost⟩

/-- While a stream runs, its verdict leaves it to the status whether a slot is armed again. -/
lemma Feed.honoured_complete [SampleSink S] {f : Feed S} {format : StreamFormat} {c : Completion}
    (h : (f.complete format c).2.running = true) :
    (f.complete format c).1.honoured c.status = c.status.allowsResubmit := by
  have hrunning := running_complete h
  obtain ⟨status, data⟩ := c
  cases status <;> simp [complete, verdict, hrunning, Rearm.honoured, TransferStatus.allowsResubmit]

/-- As long as the stream runs, the armed slots are those of before that the calls have not
lost. -/
def Host.Accounts (before : List Nat) (calls : List (Handler StreamFormat × Completion))
    (host : Host (Feed S)) : Prop :=
  host.shared.running = true → ∀ key, key ∈ host.armed ↔ key ∈ before ∧ ¬ Lost calls key

/-- A handler call keeps the account: a slot is idle after a call about it exactly if the
completion forbids another submission. -/
lemma Host.Accounts.react [SampleSink S] {before : List Nat}
    {calls : List (Handler StreamFormat × Completion)} {host : Host (Feed S)}
    (h : host.Accounts before calls) (handler : Handler StreamFormat) (c : Completion) :
    (handler.react c host).2.2.Accounts before (calls ++ [(handler, c)]) := by
  intro hrunning key
  have hkey := h (Feed.running_react hrunning) key
  cases handler with
  | control ticket =>
      rw [Handler.armed_react_control, lost_concat, hkey]
      simp
  | slot key' format =>
      obtain ⟨rearm, format', shared, hconsume, hreact⟩ :=
        Handler.react_slot key' format c host
      rw [hreact] at hrunning ⊢
      obtain ⟨rfl, -, rfl⟩ : (host.shared.complete format c).1 = rearm ∧ format = format' ∧
          (host.shared.complete format c).2 = shared := by simpa [Consumer.consume] using hconsume
      dsimp only at hrunning ⊢
      rw [Feed.honoured_complete hrunning, lost_concat]
      cases hstatus : c.status.allowsResubmit with
      | true => simp [hkey]
      | false =>
          by_cases hsame : key = key'
          · simp [hsame]
          · simp [hkey, hsame, Ne.symm hsame]

namespace Analyzer

variable [Transport τ (Handler StreamFormat)] [SampleSink S] [Scripted τ C]

/-- **As long as a stream runs**, the armed slots are those of before that have not been lost
since. -/
theorem armed_iff_of_period {a b : Analyzer (Watched τ (Handler StreamFormat)) S}
    {steps : List (Step C)} (hphase : a.phase = .streaming) (hcalls : a.calls = [])
    (hsteps : ∀ s ∈ steps, s.endsStream = false) (hrun : run steps a = some b)
    (hon : b.feed.running = true) (key : Nat) :
    key ∈ b.session.host.armed ↔ key ∈ a.session.host.armed ∧ ¬ Lost b.calls key := by
  have hstart : a.session.host.Accounts a.session.host.armed a.calls := by
    intro _ key
    simp [hcalls, not_lost_nil]
  have hsteady : Steady fun c : Analyzer (Watched τ (Handler StreamFormat)) S =>
      c.session.host.Accounts a.session.host.armed c.calls :=
    Steady.ofCalls (fun _ _ h => h) fun handler c _ _ h => h.react handler c
  exact (Steady.run [] (fun _ => hsteady) (fun _ h => h) hsteps hphase hstart hrun).2 hon key

/-! ### The slots that a stream has -/

/-- The pool has the slots of an earlier state, or only slots allocated since. -/
structure Renewed (earlier : Pool) (a : Analyzer τ S) : Prop where
  nextKey : earlier.nextKey ≤ a.pool.nextKey
  slots : a.pool.slots = earlier.slots ∨ ∀ slot ∈ a.pool.slots, earlier.nextKey ≤ slot.key

lemma steady_renewed (earlier : Pool) : Steady (Renewed earlier : Analyzer τ S → Prop) where
  exchange h _ := ⟨h.1, h.2⟩
  pass _ h := ⟨h.1, h.2⟩
  context _ h := ⟨h.1, h.2⟩
  allocate {a} h := by
    have hpool : a.allocateTransfers.2.pool =
      (a.pool.allocate a.settings.transferPoolSize a.session).2.1 := rfl
    rcases Pool.allocate_cases a.pool a.settings.transferPoolSize a.session with
      hsame | ⟨slots, hkeys, hnew⟩
    · exact ⟨by rw [hpool, hsame]; exact h.nextKey, by rw [hpool, hsame]; exact h.slots⟩
    · constructor
      case nextKey =>
        rw [hpool, hnew]
        exact Nat.le_add_right_of_le h.nextKey
      case slots =>
        rw [hpool, hnew]
        exact Or.inr fun slot hslot => Nat.le_trans h.nextKey (hkeys slot hslot).1
  free h := ⟨h.1, Or.inr (by simp [freeTransfers, Pool.freeAll])⟩

/-! ### The start of a stream -/

omit [Transport τ (Handler StreamFormat)] [SampleSink S] in
lemma isStreaming_iff {a : Analyzer τ S} :
    a.isStreaming = true ↔ a.phase = .streaming ∧ a.feed.running = true := by
  simp [isStreaming]

/-- Only the operations that begin a stream set one going. -/
lemma lasting_off : Lasting fun a : Analyzer τ S => a.feed.running ≠ true where
  exchange hoff hrun hon := hoff (running_execute hrun hon)
  pass ms hoff :=
    Session.events_of_react (R := fun host : Host (Feed S) => host.shared.running ≠ true)
      (fun _ _ _ hoff hon => hoff (Feed.running_react hon)) ms hoff
  context _ hoff := hoff
  allocate {a} hoff := by
    have hhost : a.allocateTransfers.2.session.host = a.session.host := Pool.host_allocate _ _ _
    rwa [feed, hhost]
  free hoff := hoff
  claim _ hoff := hoff
  release _ hoff := hoff
  phase _ hoff := hoff
  halt _ := Bool.false_ne_true
  notify hoff _ := hoff
  cancelAll hoff := hoff

/-- An operation after which a stream goes on has begun it, or has left it alone. -/
lemma isStreaming_of_perform {a b : Analyzer τ S} {op : Op} {answer : Answer}
    (hrun : a.perform op = some (answer, b)) (hstreaming : b.isStreaming = true) :
    (op.opensStream = true ∧ answer = .done (.ok ())) ∨
      (op.endsStream = false ∧ a.isStreaming = true) := by
  obtain ⟨hphase, hon⟩ := isStreaming_iff.mp hstreaming
  have hidle : b.phase ≠ .idle := by simp [hphase]
  have hconfigured : b.phase ≠ .configured := by simp [hphase]
  have hbefore (hop : op.opensStream = false) : a.feed.running = true := by
    by_contra hoff
    exact lasting_off.perform hop hoff hrun hon
  cases performs_of_perform hrun with
  | start hstart =>
      rcases phase_of_start hstart with rfl | ⟨-, rfl⟩ | hend
      · exact Or.inr ⟨rfl, hstreaming⟩
      · exact Or.inl ⟨rfl, rfl⟩
      · exact absurd hend hidle
  | acquire hacquire =>
      rcases acquire_eq_some.mp hacquire with ⟨error, hconf, -⟩ | ⟨response, d, hconf, hstart⟩
      · rcases phase_of_configure hconf with ⟨-, rfl, -⟩ | ⟨hend, -⟩ | ⟨hend, -⟩
        · exact Or.inr ⟨rfl, hstreaming⟩
        · exact absurd hend hconfigured
        · exact absurd hend hidle
      · have hd : d.phase = .configured := by
          rcases phase_of_configure hconf with ⟨-, -, hno⟩ | ⟨hd, -⟩ | ⟨-, error, hno⟩
          · cases hno
          · exact hd
          · cases hno
        rcases phase_of_start hstart with rfl | ⟨-, rfl⟩ | hend
        · exact absurd hd hconfigured
        · exact Or.inl ⟨rfl, rfl⟩
        · exact absurd hend hidle
  | configure hconf =>
      rcases phase_of_configure hconf with ⟨-, rfl, -⟩ | ⟨hend, -⟩ | ⟨hend, -⟩
      · exact Or.inr ⟨rfl, hstreaming⟩
      · exact absurd hend hconfigured
      · exact absurd hend hidle
  | stop hstop => exact absurd (phase_of_stop hstop).1 hidle
  | cancel hcancel => exact absurd (phase_of_stop hcancel).1 hidle
  | teardown =>
      -- A teardown sets out by halting the feed, and a second halt would change nothing.
      exact absurd hon (lasting_off.teardown (a := a.withFeed { a.feed with running := false })
        Bool.false_ne_true)
  | setRate | setChannels => exact Or.inr ⟨rfl, hstreaming⟩
  | poll | allocate | free | version _ | serialNumber _ =>
      refine Or.inr ⟨rfl, isStreaming_iff.mpr ⟨?_, hbefore rfl⟩⟩
      obtain ⟨-, hsame | hend⟩ := frame_of_perform rfl (by simp) (by simp) (by simp) hrun
      · rw [← hsame, hphase]
      · exact absurd hend hidle

/-- How steps from `a` have led to the stream of `b`: an operation has begun it, and none since has
ended it. -/
structure Opening (a : Analyzer τ S) (steps : List (Step C)) (b : Analyzer τ S) where
  before : List (Step C)
  op : Op
  period : List (Step C)
  found : Analyzer τ S
  begun : Analyzer τ S
  steps_eq : steps = before ++ .call op :: period
  opens : op.opensStream = true
  lasts : ∀ s ∈ period, s.endsStream = false
  run_before : run before a = some found
  performed : found.perform op = some (.done (.ok ()), begun)
  run_period : run period begun = some b

/-- A stream that goes on after one more step has the same opening. -/
def Opening.longer {a b c : Analyzer τ S} {steps : List (Step C)} {s : Step C}
    (o : Opening a steps b) (hs : s.endsStream = false) (hstep : b.step s = some c) :
    Opening a (steps ++ [s]) c :=
  { o with
    period := o.period ++ [s]
    steps_eq := by simp [o.steps_eq]
    lasts := by
      intro s' hs'
      rcases List.mem_append.mp hs' with hs' | hs'
      · exact o.lasts s' hs'
      · rwa [List.mem_singleton.mp hs']
    run_period := run_concat_eq_some.mpr ⟨b, o.run_period, hstep⟩ }

/-- **A stream that goes on has been started**, and nothing has ended it since. -/
theorem exists_opening {a b : Analyzer τ S} {steps : List (Step C)} (hidle : a.isStreaming = false)
    (hrun : run steps a = some b) (hstreaming : b.isStreaming = true) :
    Nonempty (Opening a steps b) := by
  induction steps using List.reverseRecOn generalizing b with
  | nil =>
      cases hrun
      rw [hidle] at hstreaming
      cases hstreaming
  | append_singleton steps s ih =>
      obtain ⟨c, hbefore, hstep⟩ := run_concat_eq_some.mp hrun
      cases s with
      | cue cue =>
          have hc : c.isStreaming = true := by
            cases hstep
            exact hstreaming
          obtain ⟨o⟩ := ih hbefore hc
          exact ⟨o.longer rfl hstep⟩
      | call op =>
          obtain ⟨⟨answer, b'⟩, hperform, rfl⟩ := Option.map_eq_some_iff.mp hstep
          rcases isStreaming_of_perform hperform hstreaming with ⟨hop, rfl⟩ | ⟨hop, hc⟩
          · exact ⟨⟨steps, op, [], c, b', rfl, hop, by simp, hbefore, hperform, rfl⟩⟩
          · obtain ⟨o⟩ := ih hbefore hc
            exact ⟨o.longer hop hstep⟩

/-- What begins a stream leaves it streaming, with all slots of its pool armed. -/
lemma opened_of_perform {a b : Analyzer τ S} {op : Op} (hop : op.opensStream = true)
    (hrun : a.perform op = some (.done (.ok ()), b)) :
    b.phase = .streaming ∧ ∀ slot ∈ b.pool.slots, slot.key ∈ b.session.host.armed := by
  obtain ⟨c, -, hstart⟩ := start_of_perform hop hrun
  refine ⟨?_, armed_of_start hstart⟩
  obtain ⟨format, answer, session, d, -, -, -, -, -, rfl⟩ := start_eq_ok hstart
  rfl

/-- **A stream that goes on has no armed slot left** exactly if every slot of its pool is lost or
has been allocated since the stream began. -/
theorem starved_iff {t : τ} {settings : AcquisitionSettings} {sink : S} {steps : List (Step C)}
    {a : Analyzer τ S} (hrun : run steps (new t settings sink) = some a)
    (hstreaming : a.isStreaming = true) :
    ∃ (o : Opening (new t settings sink) steps a) (w : Analyzer (Watched τ _) S),
      run o.period o.begun.watched = some w ∧ w.unwatched = a ∧ (a.armedCount = 0 ↔
        ∀ slot ∈ a.pool.slots, slot ∉ o.begun.pool.slots ∨ Lost w.calls slot.key) := by
  obtain ⟨o⟩ := exists_opening rfl hrun hstreaming
  obtain ⟨hphase, harmed⟩ := opened_of_perform o.opens o.performed
  have hstable : Stable fun a : Analyzer τ S => a.pool.Numbered a.session :=
    Pool.upheld_numbered.stable (C := C) fun _ h => ⟨h.slots, h.armed⟩
  have hfound : o.found.pool.Numbered o.found.session :=
    hstable.run (fun _ h => ⟨h.slots, h.armed⟩)
      ⟨by simp [new, Pool.empty], by simp [new, Session.start]⟩ o.run_before
  have hbegun : o.begun.pool.Numbered o.begun.session := hstable.perform hfound o.performed
  have hwatch : run o.period o.begun = (run o.period o.begun.watched).map unwatched :=
    run_mapTransport Watched.covers (fun _ _ => rfl) o.period o.begun.watched
  rw [o.run_period] at hwatch
  obtain ⟨w, hwatched, hsame⟩ := Option.map_eq_some_iff.mp hwatch.symm
  refine ⟨o, w, hwatched, hsame, ?_⟩
  have hrenewed : Renewed o.begun.pool a :=
    (Steady.run [] (fun _ => steady_renewed o.begun.pool) (fun _ h => ⟨h.1, h.2⟩)
      o.lasts hphase ⟨Nat.le_refl _, Or.inl rfl⟩ o.run_period).2
  have hkeys (key : Nat) : key ∈ a.session.host.armed ↔
      key ∈ o.begun.session.host.armed ∧ ¬ Lost w.calls key := by
    subst hsame
    exact armed_iff_of_period (a := o.begun.watched) hphase rfl o.lasts hwatched
      (isStreaming_iff.mp hstreaming).2 key
  rw [armedCount_eq_zero]
  refine forall₂_congr ?_
  intro slot hslot
  rw [hkeys]
  rcases hrenewed.slots with hold | hnew
  · have hslot' : slot ∈ o.begun.pool.slots := hold ▸ hslot
    simp [harmed slot hslot', hslot']
  · have hidle : slot.key ∉ o.begun.session.host.armed := fun hkey =>
      absurd (hbegun.armed _ hkey) (Nat.not_lt.mpr (hnew slot hslot))
    have hlate : slot ∉ o.begun.pool.slots := fun hslot' => hidle (harmed slot hslot')
    simp [hidle, hlate]

/-- One acquisition on a USB stack, and a bulk transfer that stalls. -/
def oneStall : List (Step HostStack.Cue) :=
  [.cue (.control (some { status := 0 })),
    .cue (.control (some { status := 0, data := [64, 66, 15, 0, 0, 0, 0, 0, 0x82] })),
    .cue (.control (some { status := 0 })), .call .acquire, .cue (.bulk { status := 4 }),
    .call (.poll 10)]

/-- One acquisition on a bench, and a bulk transfer that completes but cannot be armed again. -/
def oneRefusal : List (Step Bench.Cue) :=
  [.cue (.response [64, 66, 15, 0, 0, 0, 0, 0, 0x82]), .call .acquire,
    .cue (.failSubmit 4 .io), .cue (.chunk [1, 2]), .call (.poll 10)]

/-- An analyzer with a single transfer on a USB stack. -/
def singleLink : Analyzer (DeviceLink (Handler StreamFormat)) SinkTrace :=
  new { stack := {} } { transferPoolSize := 1, transferBufferSize := 2 } {}

/-- An analyzer with a single transfer on a bench. -/
def singleBench : Analyzer (Bench (Handler StreamFormat)) SinkTrace :=
  new {} { transferPoolSize := 1, transferBufferSize := 2 } {}

theorem starved_oneStall : ∃ a, run oneStall singleLink = some a ∧
    a.isStreaming = true ∧ a.armedCount = 0 ∧
    ∃ (o : Opening singleLink oneStall a) (w : Analyzer (Watched _ _) SinkTrace),
      run o.period o.begun.watched = some w ∧ w.unwatched = a ∧
        ∀ slot ∈ a.pool.slots, slot ∉ o.begun.pool.slots ∨ Lost w.calls slot.key := by
  have hend : (run oneStall singleLink).map
      (fun a => (a.isStreaming, a.armedCount)) = some (true, 0) := by decide +kernel
  obtain ⟨a, hrun, hend⟩ := Option.map_eq_some_iff.mp hend
  obtain ⟨hstreaming, hidle⟩ := Prod.mk.inj hend
  obtain ⟨o, w, hwatched, hsame, hiff⟩ := starved_iff hrun hstreaming
  exact ⟨a, hrun, hstreaming, hidle, o, w, hwatched, hsame, hiff.mp hidle⟩

/-- A transfer that cannot be armed again starves a stream, too. -/
theorem starved_oneRefusal : ∃ a, run oneRefusal singleBench = some a ∧
    a.isStreaming = true ∧ a.armedCount = 0 := by
  have hend : (run oneRefusal singleBench).map
      (fun a => (a.isStreaming, a.armedCount)) = some (true, 0) := by decide +kernel
  obtain ⟨a, hrun, hend⟩ := Option.map_eq_some_iff.mp hend
  exact ⟨a, hrun, (Prod.mk.inj hend).1, (Prod.mk.inj hend).2⟩

end Analyzer

end LogicCapture
