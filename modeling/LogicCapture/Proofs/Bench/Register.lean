/-
A bench that keeps a register of the transfers submitted to it.

* `Registered`: a bench with its register, in which refused submissions and resubmissions count;
* `Registered.covers`: apart from the register, it is the bench;
* `Registered.enters_events`: what a pass enters;
* `Registered.upheld_counted`: the register is as long as the bench's own count.
-/
import LogicCapture.Proofs.Bench.Moves
import LogicCapture.Proofs.Pool.Upheld
import LogicCapture.Proofs.Session.Cover
import LogicCapture.Proofs.Stream.Verdicts

namespace LogicCapture

variable {κ ω H S : Type}

/-- A bench that registers what is submitted to it. -/
structure Registered (H : Type) where
  bench : Bench H
  /-- The kinds of the transfers submitted so far. -/
  submitted : List TransferKind := []

namespace Registered

/-- The register after a call that answers something. -/
def after {α : Type} (r : Registered H) (done : α × Bench H) : α × Registered H :=
  (done.1, { r with bench := done.2 })

/-- The register with one more submission. -/
def enter (r : Registered H) (kind : TransferKind) : Registered H :=
  { r with submitted := r.submitted ++ [kind] }

/-- The handler calls of a pass, with the resubmissions entered. -/
def deliver : List (Bench.InFlight H × Completion) → Registered H → Pass (Registered H) H
  | [], r => .done (.ok ()) r
  | (t, completion) :: rest, r =>
    .call t.handler completion fun rearm handler =>
      if rearm.honoured completion.status then
        let refused := r.bench.refusal
        let b := { r.bench with submissions := r.bench.submissions + 1 }
        match refused with
        | some _ => .call handler .refused fun _ _ =>
          deliver rest { r.enter t.kind with bench := b }
        | none => deliver rest { r.enter t.kind with
          bench := b.arm { t with handler, reply := none, cancelled := false } }
      else deliver rest r

/-- One event pass. -/
def events (r : Registered H) : Pass (Registered H) H :=
  let event := r.bench.script.head?.getD .dispatch
  let b := { r.bench with
    eventsHandled := r.bench.eventsHandled + 1, script := r.bench.script.tail }
  match event with
  | .fail error => .done (.error error) { r with bench := b }
  | .detach => .done (.ok ()) { r with bench := { b with attached := false } }
  | .dispatch =>
    let (ready, pending, chunks) := Bench.settleAll b.inFlight b.chunks
    deliver ready { r with bench := { b with inFlight := pending, chunks } }

instance : Transport (Registered H) H where
  attached r := r.bench.attached
  alloc r := r.after r.bench.alloc
  submit r id request handler :=
    (r.enter request.kind).after (r.bench.submit id request handler)
  cancel r id := r.after (r.bench.cancel id)
  free r id := { r with bench := r.bench.free id }
  events r _ := r.events
  claim r interface := r.after (r.bench.claim interface)
  release r interface := r.after (r.bench.release interface)
  handlers r := Transport.handlers r.bench
  patience r := Transport.patience r.bench

instance : Scripted (Registered H) Bench.Cue := ⟨fun r cue => { r with bench := r.bench.cue cue }⟩

/-! ### Apart from the register -/

/-- Entering resubmissions changes nothing of a pass. -/
lemma run_deliver {σ : Type} (react : Reaction H σ) (ready : List (Bench.InFlight H × Completion))
    (r : Registered H) (s : σ) : (Bench.deliver ready r.bench).run react s =
      Prod.map id (Prod.map bench id) ((deliver ready r).run react s) := by
  induction ready generalizing r s with
  | nil => rfl
  | cons head rest ih =>
      obtain ⟨t, c⟩ := head
      rw [Bench.deliver, deliver, Pass.run, Pass.run]
      rcases react t.handler c s with ⟨rearm, handler, s₁⟩
      dsimp only
      split
      · cases r.bench.refusal with
        | some error =>
            exact ih { r.enter t.kind with
              bench := { r.bench with submissions := r.bench.submissions + 1 } }
                (react handler .refused s₁).2.2
        | none =>
            exact ih { r.enter t.kind with
              bench := { r.bench with submissions := r.bench.submissions + 1 }.arm
                { t with handler, reply := none, cancelled := false } } s₁
      · exact ih r s₁

/-- **Apart from the register**, it is the bench. -/
theorem covers : Transport.Covers (bench : Registered H → Bench H) where
  attached _ := rfl
  alloc _ := rfl
  submit _ _ _ _ := rfl
  cancel _ _ := rfl
  free _ _ := rfl
  claim _ _ := rfl
  release _ _ := rfl
  events react r ms s := by
    have hbench : Transport.events r.bench ms = r.bench.events := rfl
    have hregistered : Transport.events r ms = r.events := rfl
    rw [hbench, hregistered, Bench.events, events]
    dsimp only
    cases r.bench.script.head?.getD .dispatch with
    | fail error => rfl
    | detach => rfl
    | dispatch =>
        let settled := Bench.settleAll r.bench.inFlight r.bench.chunks
        exact run_deliver react settled.1 { r with bench := { r.bench with
          eventsHandled := r.bench.eventsHandled + 1, script := r.bench.script.tail
          inFlight := settled.2.1, chunks := settled.2.2 } } s
  handlers _ := rfl
  patience _ := rfl

/-! ### What is entered -/

section
variable [SampleSink S]

/-- **What the handler calls of a pass enter**: transfers that have completed while the feed ran. -/
structure Enters (ready : List (Bench.InFlight (Handler StreamFormat) × Completion))
    (s s' : Session (Registered (Handler StreamFormat)) (Feed S)) : Prop where
  running : s'.host.shared.running = true → s.host.shared.running = true
  entered : ∃ since, s'.transport.submitted = s.transport.submitted ++ since ∧
    s'.transport.bench.submissions = s.transport.bench.submissions + since.length ∧
    ∀ kind ∈ since, s.host.shared.running = true ∧ ∃ e ∈ ready, e.1.kind = kind
  inFlight : ∀ t ∈ s'.transport.bench.inFlight,
    t ∈ s.transport.bench.inFlight ∨ ∃ e ∈ ready, e.1.kind = t.kind

omit [SampleSink S] in
/-- The calls for one transfer, and then those for the rest. -/
lemma Enters.cons {e : Bench.InFlight (Handler StreamFormat) × Completion}
    {rest : List (Bench.InFlight (Handler StreamFormat) × Completion)}
    {s s₁ s' : Session (Registered (Handler StreamFormat)) (Feed S)} (h : Enters rest s₁ s')
    (hrunning : s₁.host.shared.running = true → s.host.shared.running = true)
    (hentered : ∃ first, s₁.transport.submitted = s.transport.submitted ++ first ∧
      s₁.transport.bench.submissions = s.transport.bench.submissions + first.length ∧
      ∀ kind ∈ first, s.host.shared.running = true ∧ e.1.kind = kind)
    (hflight : ∀ t ∈ s₁.transport.bench.inFlight,
      t ∈ s.transport.bench.inFlight ∨ e.1.kind = t.kind) : Enters (e :: rest) s s' := by
  obtain ⟨first, hsubmitted, hcount, hfirst⟩ := hentered
  obtain ⟨since, hsubmitted', hcount', hsince⟩ := h.entered
  refine ⟨fun hon => hrunning (h.running hon), ⟨first ++ since, ?_, ?_, ?_⟩, ?_⟩
  · rw [hsubmitted', hsubmitted, List.append_assoc]
  · rw [hcount', hcount, List.length_append, Nat.add_assoc]
  · intro kind hkind
    rcases List.mem_append.mp hkind with hkind | hkind
    · exact ⟨(hfirst kind hkind).1, e, List.mem_cons_self, (hfirst kind hkind).2⟩
    · obtain ⟨hon, e', he', hsame⟩ := hsince kind hkind
      exact ⟨hrunning hon, e', List.mem_cons_of_mem _ he', hsame⟩
  · intro t ht
    rcases h.inFlight t ht with ht | ⟨e', he', hsame⟩
    · exact (hflight t ht).imp id fun hsame => ⟨e, List.mem_cons_self, hsame⟩
    · exact Or.inr ⟨e', List.mem_cons_of_mem _ he', hsame⟩

lemma enters_deliver (ready : List (Bench.InFlight (Handler StreamFormat) × Completion))
    (r : Registered (Handler StreamFormat)) (host : Host (Feed S)) :
    Enters ready ⟨r, host⟩ ⟨((deliver ready r).run Handler.react host).2.1,
      ((deliver ready r).run Handler.react host).2.2⟩ := by
  induction ready generalizing r host with
  | nil => exact ⟨id, ⟨[], by simp [deliver, Pass.run], rfl, by simp⟩, fun t ht => Or.inl ht⟩
  | cons head rest ih =>
      obtain ⟨t, c⟩ := head
      have hrunning : (t.handler.react c host).2.2.shared.running = true →
        host.shared.running = true := Feed.running_react
      have hhonoured := t.handler.honoured_react c host
      rw [deliver, Pass.run]
      rcases hcall : t.handler.react c host with ⟨rearm, handler, host₁⟩
      rw [hcall] at hrunning hhonoured
      dsimp only at hrunning hhonoured ⊢
      split
      · rename_i hhon
        -- only a feed that runs has a transfer armed again
        have hon : host.shared.running = true :=
          (Bool.and_eq_true_iff.mp (hhonoured.symm.trans hhon)).1
        cases r.bench.refusal with
        | some error =>
            exact (ih _ _).cons (fun _ => hon) ⟨[t.kind], rfl, rfl, by simp [hon]⟩
              fun t' ht' => Or.inl ht'
        | none =>
            refine (ih _ _).cons (fun _ => hon) ⟨[t.kind], rfl, rfl, by simp [hon]⟩ ?_
            intro t' ht'
            rcases List.mem_append.mp ht' with ht' | ht'
            · exact Or.inl ht'
            · exact Or.inr (by rw [List.mem_singleton.mp ht'])
      · exact (ih r host₁).cons hrunning ⟨[], by simp, rfl, by simp⟩ fun t' ht' => Or.inl ht'

/-- **What an event pass enters**: transfers that were in flight while the feed ran. -/
theorem enters_events (s : Session (Registered (Handler StreamFormat)) (Feed S)) (ms : Nat) :
    ((s.events ms).2.host.shared.running = true → s.host.shared.running = true) ∧
      (∃ since, (s.events ms).2.transport.submitted = s.transport.submitted ++ since ∧
        (s.events ms).2.transport.bench.submissions =
          s.transport.bench.submissions + since.length ∧
        ∀ kind ∈ since, s.host.shared.running = true ∧
          ∃ t ∈ s.transport.bench.inFlight, t.kind = kind) ∧
      ∀ t' ∈ (s.events ms).2.transport.bench.inFlight,
        ∃ t ∈ s.transport.bench.inFlight, t.kind = t'.kind := by
  obtain ⟨r, host⟩ := s
  have hevents : Transport.events r ms = r.events := rfl
  rw [Session.events, hevents, events]
  dsimp only
  split
  · exact ⟨id, ⟨[], by simp [Pass.run], rfl, by simp⟩, fun t ht => ⟨t, ht, rfl⟩⟩
  · exact ⟨id, ⟨[], by simp [Pass.run], rfl, by simp⟩, fun t ht => ⟨t, ht, rfl⟩⟩
  · rcases hsettle : Bench.settleAll r.bench.inFlight r.bench.chunks with ⟨ready, pending, chunks⟩
    -- settling leaves every transfer its kind
    have hkind {t' : Bench.InFlight (Handler StreamFormat)}
        (ht' : t' ∈ ready.map (·.1) ++ pending) : ∃ t ∈ r.bench.inFlight, t.kind = t'.kind := by
      obtain ⟨t, ht, hsame⟩ := List.mem_map.mp ((Bench.settleAll_perm hsettle).subset
        (List.mem_map_of_mem (f := Bench.InFlight.shape) ht'))
      exact ⟨t, ht, (Bench.InFlight.shape_inj hsame.symm).2.1.symm⟩
    have hpass := enters_deliver ready { r with bench := { r.bench with
      eventsHandled := r.bench.eventsHandled + 1, script := r.bench.script.tail
      inFlight := pending, chunks } } host
    obtain ⟨since, hsubmitted, hcount, hsince⟩ := hpass.entered
    refine ⟨hpass.running, ⟨since, hsubmitted, hcount, ?_⟩, ?_⟩
    · intro kind hkind'
      obtain ⟨hon, e, he, hsame⟩ := hsince kind hkind'
      obtain ⟨t, ht, hsame'⟩ := hkind (List.mem_append_left _ (List.mem_map_of_mem he))
      exact ⟨hon, t, ht, hsame'.trans hsame⟩
    · intro t' ht'
      rcases hpass.inFlight t' ht' with ht' | ⟨e, he, hsame⟩
      · exact hkind (List.mem_append_right _ ht')
      · obtain ⟨t, ht, hsame'⟩ := hkind (List.mem_append_left _ (List.mem_map_of_mem he))
        exact ⟨t, ht, hsame'.trans hsame⟩

omit [SampleSink S] in
/-- A submission is entered and counted, whether it is refused or not. -/
lemma submissions_submit {b b' : Bench H} {id : TransferId} {request : TransferRequest}
    {handler : H} {result : Except UsbError Unit} (h : b.submit id request handler = (result, b')) :
    b'.submissions = b.submissions + 1 := by
  obtain ⟨controlLog, replies, ⟨error, -, rfl⟩ | ⟨-, -, reply, rfl⟩⟩ := Bench.submit_cases h <;> rfl

/-- The register is as long as the bench's own count of submissions. -/
def Counted (r : Registered H) : Prop := r.submitted.length = r.bench.submissions

omit [SampleSink S] in
lemma counted_submit {r r' : Registered H} {id : TransferId} {request : TransferRequest}
    {handler : H} {result : Except UsbError Unit} (hr : r.Counted)
    (h : Transport.submit r id request handler = (result, r')) : r'.Counted := by
  obtain ⟨-, rfl⟩ := Prod.mk.inj h
  have hcount : (r.bench.submit id request handler).2.submissions = r.bench.submissions + 1 :=
    submissions_submit rfl
  calc (r.submitted ++ [request.kind]).length
      = r.bench.submissions + 1 := by rw [List.length_append, hr, List.length_singleton]
    _ = (r.bench.submit id request handler).2.submissions := hcount.symm

omit [SampleSink S] in
lemma counted_alloc {r : Registered H} (hr : r.Counted) :
    (Transport.alloc r : Except UsbError TransferId × Registered H).2.Counted := by
  obtain ⟨-, -, hb⟩ | ⟨-, hb⟩ := Bench.alloc_cases (b := r.bench) rfl
  · exact hr.trans (congrArg Bench.submissions hb).symm
  · exact hr.trans (congrArg Bench.submissions hb).symm

/-- **The register misses nothing.** -/
theorem upheld_counted :
    Pool.Upheld fun _ (s : Session (Registered (Handler StreamFormat)) (Feed S)) =>
      s.transport.Counted where
  pass {p s} ms hs := by
    obtain ⟨-, ⟨since, hsubmitted, hcount, -⟩, -⟩ := enters_events s ms
    rw [Counted, hsubmitted, hcount, List.length_append, hs]
  alloc hs := counted_alloc hs
  command hs _ halloc _ hsubmit := by
    have hout := counted_alloc hs
    rw [halloc] at hout
    exact counted_submit hout hsubmit
  submit hs _ hsubmit := counted_submit hs hsubmit
  reject hs _ hsubmit := counted_submit hs hsubmit
  cancel {p s} id hs := by
    obtain ⟨inFlight, hb, -⟩ := s.transport.bench.cancel_frame id
    exact hs.trans (congrArg Bench.submissions hb).symm
  free _ hs := hs
  fill _ _ _ hafter := hafter
  empty hs := hs
  claim {p s} interface hs :=
    have hframe := congrArg Bench.submissions (s.transport.bench.claim_frame interface)
    hs.trans hframe.symm
  release {p s} interface hs :=
    have hframe := congrArg Bench.submissions (s.transport.bench.release_frame interface)
    hs.trans hframe.symm
  shared _ hs := hs

end

end Registered

end LogicCapture
