/-
Where the bulk transfers of an analyzer go.

* `Registered.Aimed`: while the feed runs, the transfers in flight are of certain kinds, and only
  transfers of these kinds are entered in the register;
* `Analyzer.lasting_aimed`, `Analyzer.aimed_of_start`: operations keep this, and a start if the
  stream that it knows is of such a kind;
* `Analyzer.governed_aimed`: every bulk transfer goes to the endpoint of the last response.
-/
import LogicCapture.Proofs.Analyzer.Phases
import LogicCapture.Proofs.Bench.Register

namespace LogicCapture

variable {S : Type} [SampleSink S]

namespace Registered

/-- **While the feed runs, the transfers in flight are of kinds that `P` admits**, and only such
have been entered since the register was `before`. -/
structure Aimed (P : TransferKind → Prop) (before : List TransferKind)
    (s : Session (Registered (Handler StreamFormat)) (Feed S)) : Prop where
  inFlight : s.host.shared.running = true → ∀ t ∈ s.transport.bench.inFlight, P t.kind
  entered : ∃ since, s.transport.submitted = before ++ since ∧ ∀ kind ∈ since, P kind

namespace Aimed

variable {P : TransferKind → Prop} {before : List TransferKind}
  {s s' : Session (Registered (Handler StreamFormat)) (Feed S)}

omit [SampleSink S] in
/-- Transfers may be taken out of flight, and the feed may stop. -/
lemma fewer (h : Aimed P before s)
    (hrunning : s'.host.shared.running = true → s.host.shared.running = true)
    (hflight : ∀ t' ∈ s'.transport.bench.inFlight,
      ∃ t ∈ s.transport.bench.inFlight, t.kind = t'.kind)
    (hsubmitted : s'.transport.submitted = s.transport.submitted) : Aimed P before s' := by
  refine ⟨fun hon t' ht' => ?_, hsubmitted ▸ h.entered⟩
  obtain ⟨t, ht, hkind⟩ := hflight t' ht'
  exact hkind ▸ h.inFlight (hrunning hon) t ht

omit [SampleSink S] in
/-- A transfer of such a kind may be submitted. -/
lemma submit {id : TransferId} {request : TransferRequest} {handler : Handler StreamFormat}
    {result : Except UsbError Unit} {r : Registered (Handler StreamFormat)} {host : Host (Feed S)}
    (h : Aimed P before s) (hhost : host.shared = s.host.shared) (hkind : P request.kind)
    (hsubmit : Transport.submit s.transport id request handler = (result, r)) :
    Aimed P before ⟨r, host⟩ := by
  obtain ⟨-, rfl⟩ := Prod.mk.inj hsubmit
  obtain ⟨since, hsince, hadmitted⟩ := h.entered
  refine ⟨fun hon t ht => ?_, since ++ [request.kind], ?_, ?_⟩
  · rcases Bench.mem_of_mem_submit ht with ht | ⟨-, hsame, -⟩
    · exact h.inFlight (hhost ▸ hon) t ht
    · exact hsame ▸ hkind
  · rw [← List.append_assoc, ← hsince]
    rfl
  · intro kind hnew
    rcases List.mem_append.mp hnew with hnew | hnew
    · exact hadmitted kind hnew
    · exact List.mem_singleton.mp hnew ▸ hkind

omit [SampleSink S] in
lemma alloc (h : Aimed P before s) :
    Aimed P before { s with transport := (Transport.alloc s.transport).2 } := by
  refine h.fewer id (fun t ht => ⟨t, ?_, rfl⟩) rfl
  obtain ⟨-, -, hb⟩ | ⟨-, hb⟩ := Bench.alloc_cases (b := s.transport.bench) rfl
  · exact congrArg Bench.inFlight hb ▸ ht
  · exact congrArg Bench.inFlight hb ▸ ht

omit [SampleSink S] in
lemma cancel (h : Aimed P before s) (id : TransferId) :
    Aimed P before { s with transport := (Transport.cancel s.transport id).2 } := by
  refine h.fewer (fun hon => hon) (fun t' ht' => ?_) rfl
  rcases Bench.mem_of_mem_cancel ht' with ht | ⟨-, t, ht, -, hkind, -⟩
  · exact ⟨t', ht, rfl⟩
  · exact ⟨t, ht, hkind⟩

omit [SampleSink S] in
lemma free (h : Aimed P before s) (id : TransferId) :
    Aimed P before { s with transport := Transport.free s.transport id } :=
  h.fewer (fun hon => hon) (fun t ht => ⟨t, (List.mem_filter.mp ht).1, rfl⟩) rfl

lemma events (h : Aimed P before s) (ms : Nat) : Aimed P before (s.events ms).2 := by
  obtain ⟨hrunning, ⟨since', hsubmitted, -, hsince'⟩, hflight⟩ := enters_events s ms
  obtain ⟨since, hsince, hadmitted⟩ := h.entered
  refine ⟨fun hon t' ht' => ?_, since ++ since', ?_, ?_⟩
  · obtain ⟨t, ht, hkind⟩ := hflight t' ht'
    exact hkind ▸ h.inFlight (hrunning hon) t ht
  · rw [hsubmitted, hsince, List.append_assoc]
  · intro kind hnew
    rcases List.mem_append.mp hnew with hnew | hnew
    · exact hadmitted kind hnew
    · obtain ⟨hon, t, ht, rfl⟩ := hsince' kind hnew
      exact h.inFlight hon t ht

/-- Control transfers keep it. -/
lemma kept (hcontrol : P .control) : Session.Kept (Aimed (S := S) P before)
    (fun _ => Aimed P before) where
  unallocated h halloc := by
    have hafter := h.alloc
    rwa [halloc] at hafter
  refused {s id t request error t'} h _ halloc hkind hsubmit := by
    have hout := h.alloc
    rw [halloc] at hout
    have hsent : Aimed P before ⟨t', s.host.expect⟩ := hout.submit rfl (hkind ▸ hcontrol) hsubmit
    exact hsent.free id
  submitted h _ halloc hkind hsubmit := by
    have hout := h.alloc
    rw [halloc] at hout
    exact hout.submit rfl (hkind ▸ hcontrol) hsubmit
  passed h := h.events _
  cancelled h := h.cancel _
  freed h := h.free _

omit [SampleSink S] in
lemma allocate (h : Aimed P before s) (p : Pool) (count : Nat) :
    Aimed P before (p.allocate count s).2.2 := by
  have hafter : Aimed P before ⟨(p.allocate count s).2.2.transport, s.host⟩ :=
    Pool.allocate_induction (R := fun t => Aimed P before ⟨t, s.host⟩) (fun ht => ht.alloc)
      (fun id ht => ht.free id) p count h
  rwa [← p.host_allocate count s] at hafter

omit [SampleSink S] in
lemma cancelAll (h : Aimed P before s) (p : Pool) : Aimed P before (p.cancelAll s).2 :=
  Pool.cancelSlots_induction (R := fun t => Aimed P before ⟨t, s.host⟩) (fun id ht => ht.cancel id)
    s.host p.slots (.ok ()) h

omit [SampleSink S] in
lemma freeAll (h : Aimed P before s) (p : Pool) : Aimed P before (p.freeAll s).2 :=
  Pool.freeSlots_induction (R := fun t => Aimed P before ⟨t, s.host⟩) (fun id ht => ht.free id)
    p.slots h

omit [SampleSink S] in
lemma arm (h : Aimed P before s) (p : Pool) {endpoint : UInt8} (hbulk : P (.bulkIn endpoint))
    (format : StreamFormat) : Aimed P before (p.arm endpoint format s).2 :=
  Pool.arm_induction h (Pool.submitSlots_induction (fun _ hs hsubmit => hs.submit rfl hbulk hsubmit)
    fun _ hs hsubmit => hs.submit rfl hbulk hsubmit) fun hs => hs.cancelAll p

end Aimed

end Registered

namespace Analyzer

open Registered (Aimed)

/-- An analyzer on a bench with a register. -/
abbrev Entered (S : Type) := Analyzer (Registered (Handler StreamFormat)) S

variable {P : TransferKind → Prop} {before : List TransferKind} {a b : Entered S}

/-- **The operations that begin no stream** enter only what suits the stream that runs. -/
theorem lasting_aimed (hcontrol : P .control) :
    Lasting fun a : Entered S => Aimed P before a.session where
  exchange h hrun := (Aimed.kept hcontrol).execute h hrun
  pass ms h := h.events ms
  context _ h := h
  allocate {a} h := h.allocate a.pool a.settings.transferPoolSize
  free {a} h := h.freeAll a.pool
  claim {a} interface h := by
    have hframe := congrArg Bench.inFlight (a.session.transport.bench.claim_frame interface)
    exact h.fewer id (fun t ht => ⟨t, hframe ▸ ht, rfl⟩) rfl
  release {a} interface h := by
    have hframe := congrArg Bench.inFlight (a.session.transport.bench.release_frame interface)
    exact h.fewer id (fun t ht => ⟨t, hframe ▸ ht, rfl⟩) rfl
  phase _ h := h
  halt h := h.fewer (fun hno => absurd hno (by simp [withFeed])) (fun t ht => ⟨t, ht, rfl⟩) rfl
  notify h _ := h.fewer id (fun t ht => ⟨t, ht, rfl⟩) rfl
  cancelAll {a} h := h.cancelAll a.pool

/-- **A start** enters only what suits the stream that runs, if the stream it begins is of that
kind: nothing else is in flight then. -/
lemma aimed_of_start (hcontrol : P .control) {result : Except CaptureError Unit}
    (h : Aimed P before a.session)
    (hheld : a.pool.Held none (a.session.mapTransport Registered.bench))
    (hformat : ∀ format, a.phase = .configured → a.context.streamFormat = some format →
      P (.bulkIn format.endpoint)) (hrun : a.start = some (result, b)) :
    Aimed P before b.session := by
  have hlasting : Lasting fun a : Entered S => Aimed P before a.session := lasting_aimed hcontrol
  have harmed {format : StreamFormat} {answer : CommandResult}
      {session : Session (Registered (Handler StreamFormat)) (Feed S)}
      {armed : Except CaptureError Unit} {c : Entered S}
      (hlaunch : a.Launches format answer session)
      (harm : (({ a with session } : Entered S).openFeed format).armStreaming format =
        (armed, c)) : Aimed P before c.session := by
    have hsent : Aimed P before session := hlasting.exchange h hlaunch.sent
    have hbare := Session.execute_mapTransport Registered.covers a.session startPacket none
      a.settings.commandTimeoutMs
    rw [hlaunch.sent] at hbare
    have hidle : session.transport.bench.inFlight = [] :=
      hheld.inFlight_of_execute hlaunch.unarmed hbare
    have hopened : Aimed P before (({ a with session } : Entered S).openFeed format).session :=
      ⟨fun _ t ht => absurd (hidle ▸ ht) List.not_mem_nil, hsent.entered⟩
    have hbulk := hformat format hlaunch.configured hlaunch.known
    have hafter := armStreaming_induction (I := fun a : Entered S => Aimed P before a.session)
      hlasting.allocate (fun {b} hb => hb.arm b.pool hbulk format) hopened
    rwa [harm] at hafter
  cases starts_of_start hrun with
  | refused => exact h
  | failed hlaunch => exact hlasting.exchange h hlaunch.sent
  | armed hlaunch harm =>
      have hafter := harmed hlaunch harm
      exact ⟨hafter.inFlight, hafter.entered⟩
  | undone hlaunch harm hstop => exact hlasting.stop (harmed hlaunch harm) hstop

/-! ### Deeds -/

/-- The transfers that were submitted in a deed. -/
def Deed.entered (d : Deed (Registered (Handler StreamFormat)) S) : List TransferKind :=
  d.after.session.transport.submitted.drop d.before.session.transport.submitted.length

/-- **A bulk transfer goes to the IN endpoint of the last response.** -/
def Target {τ : Type} (ds : List (Deed τ S)) (kind : TransferKind) : Prop :=
  ∀ endpoint, kind = .bulkIn endpoint → ∃ r, lastResponse ds = some r ∧ r.endpoint = endpoint ∧
    isInEndpoint endpoint = true

/-- Every transfer submitted in a deed goes where the response of the deeds before it says. -/
def OnTarget (ds : List (Deed (Registered (Handler StreamFormat)) S))
    (d : Deed (Registered (Handler StreamFormat)) S) : Prop := ∀ kind ∈ d.entered, Target ds kind

/-- While the feed runs, the transfers in flight go where the last response says. -/
structure Steered (ds : List (Deed (Registered (Handler StreamFormat)) S)) (a : Entered S) :
    Prop where
  negotiated : Negotiated ds a
  settled : a.Settled
  held : a.pool.Held none (a.session.mapTransport Registered.bench)
  inFlight : a.feed.running = true → ∀ t ∈ a.session.transport.bench.inFlight, Target ds t.kind
  entered : ds.flatMap Deed.entered = a.session.transport.submitted

/-- Whatever an operation submits goes where the last response says. -/
lemma Steered.aimed {ds : List (Deed (Registered (Handler StreamFormat)) S)} {op : Op}
    {answer : Answer} (h : Steered ds a) (hop : op ≠ .acquire)
    (hrun : a.perform op = some (answer, b)) :
    Aimed (Target ds) a.session.transport.submitted b.session := by
  have hcontrol : Target ds .control := fun endpoint hno => by cases hno
  have hbefore : Aimed (Target ds) a.session.transport.submitted a.session :=
    ⟨h.inFlight, [], (List.append_nil _).symm, by simp⟩
  cases performs_of_perform hrun with
  | start hstart =>
      refine aimed_of_start hcontrol hbefore h.held ?_ hstart
      intro format hphase hformat endpoint hendpoint
      obtain ⟨r, hlast, hknown, hin⟩ := h.negotiated.response (by rw [hphase]; simp)
      rw [DeviceContext.streamFormat, hknown] at hformat
      cases hformat
      cases hendpoint
      exact ⟨r, hlast, rfl, hin⟩
  | acquire _ => exact absurd rfl hop
  | _ => exact (lasting_aimed hcontrol).perform rfl hbefore hrun

/-- **Every deed submits to the endpoint of the last response**, and leaves the analyzer so. -/
theorem governed_aimed : Governed (Steered (S := S)) OnTarget where
  each {ds a op answer b} hop h hrun := by
    have hnegotiated := governed_negotiated.each hop h.negotiated hrun
    have hsettled := h.settled.perform hrun
    have hbare := perform_mapTransport Registered.covers a op
    rw [hrun] at hbare
    have hheld := stable_held.perform h.held hbare
    have haimed := h.aimed hop hrun
    obtain ⟨since, hsince, hadmitted⟩ := haimed.entered
    have hentered : (⟨op, answer, a, b⟩ : Deed _ S).entered = since := by
      rw [Deed.entered, hsince, List.drop_left]
    refine ⟨fun kind hkind => hadmitted kind (hentered ▸ hkind), hnegotiated.2, hsettled, hheld,
      ?_, ?_⟩
    · intro hon t ht endpoint hendpoint
      obtain ⟨r, hlast, hsame, hin⟩ := haimed.inFlight hon t ht endpoint hendpoint
      refine ⟨r, ?_, hsame, hin⟩
      rw [lastResponse_concat]
      -- a configure that succeeds leaves no feed running
      cases hresponse : (⟨op, answer, a, b⟩ : Deed _ S).response? with
      | none => exact hlast
      | some response =>
          have hconf : op = .configure := by
            by_contra hno
            cases hresponse.symm.trans (response?_of_perform hno hrun)
          subst hconf
          obtain ⟨hconf⟩ := performs_of_perform hrun
          rcases phase_of_configure hconf with ⟨-, -, rfl⟩ | ⟨hphase, -⟩ | ⟨-, error, rfl⟩
          · cases hresponse
          · cases hphase.symm.trans (hsettled hon)
          · cases hresponse
    · rw [List.flatMap_append, h.entered, List.flatMap_singleton, hentered, hsince]

end Analyzer

end LogicCapture
