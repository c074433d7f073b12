/-
What an analyzer knows, holds and does agrees between its operations.

* `Analyzer.Coherent`: phase, context, feed and interfaces fit together;
* `Bench.spared_claimed`, `Session.kept_claimed`: interfaces stay claimed through transfers;
* `Analyzer.coherent_of_run`: every run leaves the analyzer coherent, a configured analyzer is never
  refused a start for want of a format, and all bulk transfers go to the IN endpoint of the last
  response.
-/
import LogicCapture.Proofs.Analyzer.Aim
import LogicCapture.Proofs.Analyzer.Spared

namespace LogicCapture

/-! ### Interfaces stay claimed -/

section
variable {κ ω H : Type} {interface : UInt8}

lemma Bench.claimed_alloc {b b' : Bench H} {result : Except UsbError TransferId}
    (h : b.alloc = (result, b')) : b'.claimed = b.claimed := by
  obtain ⟨error, -, rfl⟩ | ⟨-, rfl⟩ := alloc_cases h <;> rfl

lemma Bench.claimed_submit {b b' : Bench H} {id : TransferId} {request : TransferRequest}
    {handler : H} {result : Except UsbError Unit} (h : b.submit id request handler = (result, b')) :
    b'.claimed = b.claimed := by
  obtain ⟨controlLog, replies, ⟨error, -, rfl⟩ | ⟨-, -, reply, rfl⟩⟩ := submit_cases h <;> rfl

lemma Bench.claimed_cancel (b : Bench H) (id : TransferId) :
    (b.cancel id).2.claimed = b.claimed := by
  obtain ⟨inFlight, hb, -⟩ := b.cancel_frame id
  rw [hb]

/-- A claim that succeeds leaves the interface claimed. -/
lemma Bench.mem_claimed_of_claim {b : Bench H} (h : (b.claim interface).1 = .ok ()) :
    interface ∈ (b.claim interface).2.claimed := by
  rw [claim] at h ⊢
  split at h
  · cases h
  · split
    · rename_i hheld
      simpa using hheld
    · simp

variable [Consumer κ ω]

lemma Session.claimed_events (s : Session (Bench (Handler κ)) ω) (ms : Nat) :
    (s.events ms).2.transport.claimed = s.transport.claimed := by
  have hclaimed := congrArg Bench.claimed (passed_events s ms).frame
  exact hclaimed

/-- Transfers of a pool and event passes leave an interface claimed. -/
lemma Bench.spared_claimed (interface : UInt8) :
    Transport.Spared ω fun b : Bench (Handler κ) => interface ∈ b.claimed where
  alloc {b} h := by
    have hrun : b.alloc = (b.alloc.1, b.alloc.2) := rfl
    exact (claimed_alloc hrun).symm ▸ h
  submit {b id endpoint buffer ms handler} h := by
    rcases hrun : b.submit id ⟨.bulkIn endpoint, buffer, ms⟩ handler with ⟨result, b'⟩
    have hclaimed := (claimed_submit hrun).symm ▸ h
    exact congrArg (fun r => r.2.claimed) hrun ▸ hclaimed
  cancel {b} id h := (b.claimed_cancel id).symm ▸ h
  free _ h := h
  events {s} ms h := (s.claimed_events ms).symm ▸ h

/-- Control transfers do as well. -/
lemma Session.kept_claimed (interface : UInt8) :
    Kept (fun s : Session (Bench (Handler κ)) ω => interface ∈ s.transport.claimed)
      (fun _ s => interface ∈ s.transport.claimed) where
  unallocated h halloc := (Bench.claimed_alloc halloc).symm ▸ h
  refused h _ halloc _ hsubmit :=
    ((Bench.claimed_submit hsubmit).trans (Bench.claimed_alloc halloc)).symm ▸ h
  submitted h _ halloc _ hsubmit :=
    ((Bench.claimed_submit hsubmit).trans (Bench.claimed_alloc halloc)).symm ▸ h
  passed {_ s ms} h := (s.claimed_events ms).symm ▸ h
  cancelled {id s} h := (s.transport.claimed_cancel id).symm ▸ h
  freed h := h

end

namespace Analyzer

variable {S : Type} [SampleSink S] {a b : Benched S}

/-- Unless it is idle, the analyzer holds the streaming interface. -/
def Claims (a : Benched S) : Prop :=
  a.phase ≠ .idle → Protocol.streamingInterface ∈ a.session.transport.claimed

omit [SampleSink S] in
lemma Claims.ofIdle (h : a.phase = .idle) : a.Claims := fun hno => absurd h hno

/-- The operations that leave the phase alone, but for a teardown, keep the interface. -/
lemma steady_claims : Steady fun a : Benched S => a.Claims where
  exchange h hrun hactive := (Session.kept_claimed _).execute (h hactive) hrun
  pass ms h hactive := (Bench.spared_claimed _).events ms (h hactive)
  context _ h := h
  allocate h hactive := (Bench.spared_claimed _).allocateTransfers (h hactive)
  free h hactive := (Bench.spared_claimed _).freeTransfers (h hactive)

lemma claims_of_start {result : Except CaptureError Unit} (h : a.Claims)
    (hstart : a.start = some (result, b)) : b.Claims := by
  cases starts_of_start hstart with
  | refused => exact h
  | failed _ => exact .ofIdle rfl
  | undone _ _ hstop => exact .ofIdle (phase_of_stop hstop).1
  | armed hlaunch harm =>
      have hheld := steady_claims.exchange h hlaunch.sent (by simp [hlaunch.configured])
      have harmed := (Bench.spared_claimed Protocol.streamingInterface).armed harm hheld
      exact fun _ => harmed

/-- **Every operation keeps the interface** as long as the analyzer does not become idle. -/
lemma governed_claims : Governed (fun _ a => Claims (S := S) a) (fun _ _ => True) where
  each {ds a op answer b} hop h hrun := by
    refine ⟨trivial, ?_⟩
    cases performs_of_perform hrun with
    | configure hconf =>
        cases configures_of_configure hconf with
        | refused _ => exact h
        | unasked _ => exact .ofIdle rfl
        | unanswered _ _ => exact .ofIdle rfl
        | unclaimed _ _ _ => exact .ofIdle rfl
        | agreed _ _ hclaim => exact fun _ => Bench.mem_claimed_of_claim hclaim
    | start hstart => exact claims_of_start h hstart
    | stop hstop => exact .ofIdle (phase_of_stop hstop).1
    | cancel hcancel => exact .ofIdle (phase_of_stop hcancel).1
    | acquire _ => exact absurd rfl hop
    | poll => exact steady_claims.poll _ h
    | allocate => exact steady_claims.allocate h
    | free => exact steady_claims.free h
    | teardown =>
        intro hactive
        rw [(frame_teardown a).2] at hactive
        exact (Bench.spared_claimed _).teardown (h hactive)
    | setRate | setChannels => exact h
    | version hread | serialNumber hread => exact steady_claims.readCoreString h hread

/-! ### Runs -/

/-- **Between operations everything fits together**: the phase is no passing one; unless it is idle,
the analyzer knows the response of a configure, with an IN endpoint, and holds the streaming
interface; and the feed runs only if the analyzer is streaming. -/
structure Coherent (a : Benched S) : Prop where
  phase : a.phase = .idle ∨ a.phase = .configured ∨ a.phase = .streaming
  response : a.phase ≠ .idle → ∃ r, a.context.negotiated = some r ∧
    isInEndpoint r.endpoint = true
  claimed : a.phase ≠ .idle → Protocol.streamingInterface ∈ a.session.transport.claimed
  running : a.feed.running = true → a.phase = .streaming

/-- A fresh analyzer is idle, and each deed of a run keeps what makes it coherent. -/
lemma negotiated_of_run {settings : AcquisitionSettings} {sink : S} {steps : List (Step Bench.Cue)}
    (hrun : run steps (onBench settings sink) = some a) :
    Negotiated (deeds steps (onBench settings sink)) a ∧ a.Claims := by
  have hgoverned : Governed (fun ds a => Negotiated ds a ∧ Claims (S := S) a) _ :=
    governed_negotiated.and governed_claims
  have hcue {ds : List (Deed (Bench (Handler StreamFormat)) S)} {a : Benched S} (cue : Bench.Cue)
      (h : Negotiated ds a ∧ a.Claims) : Negotiated ds (a.cued cue) ∧ (a.cued cue).Claims := by
    have hclaimed : (a.session.transport.cue cue).claimed = a.session.transport.claimed := by
      cases cue <;> rfl
    exact ⟨⟨h.1.phase, h.1.response⟩, fun hactive => hclaimed.symm ▸ h.2 hactive⟩
  exact (hgoverned.run hcue steps ⟨.ofIdle rfl, .ofIdle rfl⟩ .nil).2 a hrun

/-- An analyzer on a new bench with a register. -/
def inRegister (settings : AcquisitionSettings) (sink : S) : Entered S :=
  new { bench := {} } settings sink

/-- Runs on the bench are runs on a bench with a register. -/
lemma run_onBench (settings : AcquisitionSettings) (sink : S) (steps : List (Step Bench.Cue)) :
    run steps (onBench settings sink) =
      (run steps (inRegister settings sink)).map (mapTransport Registered.bench) :=
  run_mapTransport (C := Bench.Cue) Registered.covers (fun _ _ => rfl) steps
    (inRegister settings sink)

/-- The deeds of a run with a register go where the last response says. -/
lemma steered_of_run (settings : AcquisitionSettings) (sink : S) (steps : List (Step Bench.Cue)) :
    Historic OnTarget (deeds steps (inRegister settings sink)) ∧
      ∀ r, run steps (inRegister settings sink) = some r →
        Steered (deeds steps (inRegister settings sink)) r := by
  have hcue {ds : List (Deed (Registered (Handler StreamFormat)) S)} {r : Entered S}
      (cue : Bench.Cue) (h : Steered ds r) : Steered ds (r.cued cue) := by
    obtain ⟨hflight, halloc, -⟩ := r.session.transport.bench.cue_frame cue
    exact ⟨⟨h.negotiated.phase, h.negotiated.response⟩, h.settled, h.held.reframe hflight halloc,
      fun hon t ht => h.inFlight hon t (hflight ▸ ht), h.entered⟩
  have hfresh : Steered [] (inRegister settings sink) :=
    ⟨.ofIdle rfl, .of_off rfl, Pool.Held.start _ {} rfl _, (fun hno => by cases hno), rfl⟩
  exact governed_aimed.run hcue steps hfresh .nil

/-- **What an analyzer knows, holds and does agrees** after every operation of every run, under
every script.  A configured analyzer is never refused a start for its phase, so it never lacks a
format.  Every bulk transfer goes to the IN endpoint of the last configure that succeeded, refused
submissions and resubmissions included: a register of the submissions shows so of each deed, and it
is as long as the bench's own count. -/
theorem coherent_of_run (settings : AcquisitionSettings) (sink : S)
    (steps : List (Step Bench.Cue)) :
    (∀ a, run steps (onBench settings sink) = some a → a.Coherent) ∧
      (∀ a b name phase, run steps (onBench settings sink) = some a → a.phase = .configured →
        a.start ≠ some (.error (.invalidPhase name phase), b)) ∧
      Historic OnTarget (deeds steps (inRegister settings sink)) ∧
      ∀ a, run steps (onBench settings sink) = some a →
        ∃ r, run steps (inRegister settings sink) = some r ∧ r.mapTransport Registered.bench = a ∧
          (deeds steps (inRegister settings sink)).flatMap Deed.entered =
            r.session.transport.submitted ∧
          r.session.transport.submitted.length = a.session.transport.submissions := by
  obtain ⟨hhistoric, hend⟩ := steered_of_run settings sink steps
  refine ⟨fun a hrun => ?_, fun a b name phase hrun hphase => ?_, hhistoric, fun a hrun => ?_⟩
  · obtain ⟨hnegotiated, hclaims⟩ := negotiated_of_run hrun
    rw [run_onBench] at hrun
    obtain ⟨r, hr, rfl⟩ := Option.map_eq_some_iff.mp hrun
    refine ⟨hnegotiated.phase, fun hactive => ?_, hclaims, (hend r hr).settled⟩
    obtain ⟨response, -, hknown, hin⟩ := hnegotiated.response hactive
    exact ⟨response, hknown, hin⟩
  · obtain ⟨response, -, hknown, -⟩ := (negotiated_of_run hrun).1.response (by simp [hphase])
    exact start_ne_invalidPhase hphase (by rw [DeviceContext.streamFormat, hknown]; rfl)
  · rw [run_onBench] at hrun
    obtain ⟨r, hr, rfl⟩ := Option.map_eq_some_iff.mp hrun
    have hcue {b : Registered (Handler StreamFormat)} (cue : Bench.Cue) (h : b.Counted) :
        (Scripted.cue b cue).Counted := by
      cases cue <;> exact h
    have hstable : Stable fun a : Entered S => a.session.transport.Counted :=
      Registered.upheld_counted.stable hcue
    have hcounted := hstable.run hcue
      (show (inRegister settings sink).session.transport.Counted from rfl) hr
    exact ⟨r, hr, rfl, (hend r hr).entered, hcounted⟩

end Analyzer

end LogicCapture
