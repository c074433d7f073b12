/-
The phases of an analyzer and what it knows of the stream in each of them, on any transport.

* `Analyzer.Negotiated`: between operations the phase is settled, and out of phase idle the analyzer
  knows the response of the last configure that succeeded, with an IN endpoint;
* `Analyzer.start_ne_invalidPhase`: a configured analyzer that knows its format is never refused a
  start for its phase;
* `Analyzer.governed_negotiated`: every deed keeps this.
-/
import LogicCapture.Proofs.Analyzer.Deeds

namespace LogicCapture

namespace Analyzer

variable {τ S C : Type} [Transport τ (Handler StreamFormat)]

/-! ### Arming and starting -/

/-- Arming the stream leaves the context alone. -/
lemma context_armStreaming (a : Analyzer τ S) (format : StreamFormat) :
    (a.armStreaming format).2.context = a.context :=
  armStreaming_induction (I := fun b : Analyzer τ S => b.context = a.context) (fun h => h)
    (fun h => h) rfl

variable [SampleSink S]

/-- **A configured analyzer that knows its format** is never refused a start for its phase. -/
lemma start_ne_invalidPhase {a b : Analyzer τ S} {format : StreamFormat} {name : String}
    {phase : Phase} (hphase : a.phase = .configured)
    (hformat : a.context.streamFormat = some format) :
    a.start ≠ some (.error (.invalidPhase name phase), b) := by
  intro h
  rw [start, if_neg (not_not.mpr hphase), hformat] at h
  split at h
  · cases h
  · simp only [Option.bind_eq_bind, Option.bind_eq_some_iff, Prod.exists] at h
    obtain ⟨answer, session, -, hrest⟩ := h
    split at hrest
    · cases hrest
    · split at hrest
      · cases hrest
      · rename_i harm
        simp only [Option.bind_eq_some_iff, Prod.exists] at hrest
        obtain ⟨ended, c, -, hend⟩ := hrest
        cases hend
        obtain ⟨cause, hno⟩ := error_of_armStreaming harm
        cases hno

/-! ### What the analyzer knows -/

/-- **Between operations**, the analyzer is in no passing phase, and unless it is idle it knows the
response of the last configure that succeeded, which names an IN endpoint. -/
structure Negotiated (ds : List (Deed τ S)) (a : Analyzer τ S) : Prop where
  phase : a.phase = .idle ∨ a.phase = .configured ∨ a.phase = .streaming
  response : a.phase ≠ .idle → ∃ r, lastResponse ds = some r ∧ a.context.negotiated = some r ∧
    isInEndpoint r.endpoint = true

/-- A configured analyzer can be started, as far as its phase goes. -/
def Startable (_ : List (Deed τ S)) (d : Deed τ S) : Prop :=
  d.op = .start → d.before.phase = .configured → ∀ name phase,
    d.answer ≠ .done (.error (.invalidPhase name phase))

namespace Negotiated

variable {ds : List (Deed τ S)} {a b : Analyzer τ S} {d : Deed τ S}

omit [Transport τ (Handler StreamFormat)] [SampleSink S]

lemma ofIdle (h : b.phase = .idle) : Negotiated ds b := ⟨Or.inl h, fun hno => absurd h hno⟩

/-- A deed that is no successful configure leaves the last response as it was. -/
lemma frame (h : Negotiated ds a) (hd : d.response? = none) (hphase : b.phase = a.phase)
    (hcontext : b.context.negotiated = a.context.negotiated) : Negotiated (ds ++ [d]) b := by
  refine ⟨hphase ▸ h.phase, fun hactive => ?_⟩
  obtain ⟨r, hlast, hknown, hin⟩ := h.response (hphase ▸ hactive)
  exact ⟨r, by rw [lastResponse_concat, hd]; exact hlast, hcontext.trans hknown, hin⟩

end Negotiated

/-- A configure that succeeds brings a response with an IN endpoint. -/
lemma negotiated_of_configure {ds : List (Deed τ S)} {a b : Analyzer τ S}
    {result : Except CaptureError ConfigureResponse} (h : Negotiated ds a)
    (hconf : a.configure = some (result, b)) :
    Negotiated (ds ++ [⟨.configure, .configured result, a, b⟩]) b := by
  cases configures_of_configure hconf with
  | refused _ => exact h.frame rfl rfl rfl
  | unasked _ => exact .ofIdle rfl
  | unanswered _ _ => exact .ofIdle rfl
  | unclaimed _ _ _ => exact .ofIdle rfl
  | agreed hasks hread hclaim =>
      have hvalid := (valid_of_readResponse hread).1
      refine ⟨Or.inr (Or.inl rfl), fun _ => ⟨_, ?_, rfl, ?_⟩⟩
      · rw [lastResponse_concat]
        rfl
      · rw [ConfigureResponse.validate] at hvalid
        split at hvalid
        · assumption
        · cases hvalid

/-- A start goes by the response that the analyzer knows, and leaves it alone. -/
lemma negotiated_of_start {ds : List (Deed τ S)} {a b : Analyzer τ S}
    {result : Except CaptureError Unit} (h : Negotiated ds a)
    (hstart : a.start = some (result, b)) :
    Negotiated (ds ++ [⟨.start, .done result, a, b⟩]) b := by
  cases starts_of_start hstart with
  | refused => exact h.frame rfl rfl rfl
  | failed _ => exact .ofIdle rfl
  | undone _ _ hstop => exact .ofIdle (phase_of_stop hstop).1
  | armed hlaunch harm =>
      have hcontext := congrArg (fun r => r.2.context) harm
      rw [context_armStreaming] at hcontext
      obtain ⟨r, hlast, hknown, hin⟩ := h.response (by rw [hlaunch.configured]; simp)
      refine ⟨Or.inr (Or.inr rfl), fun _ => ⟨r, ?_, ?_, hin⟩⟩
      · rw [lastResponse_concat]
        exact hlast
      · exact (congrArg DeviceContext.negotiated hcontext).symm.trans hknown

/-- **Every deed keeps what the analyzer knows**, and no start is refused to a configured analyzer
for its phase. -/
theorem governed_negotiated :
    Governed (Negotiated : List (Deed τ S) → Analyzer τ S → Prop) Startable where
  each {ds a op answer b} hop h hrun := by
    have hkept (hopens : op.opensStream = false) (hconf : op ≠ .configure)
        (hrate : ∀ hz, op ≠ .setRate hz) (hchannels : ∀ count, op ≠ .setChannels count) :
        Negotiated (ds ++ [⟨op, answer, a, b⟩]) b := by
      obtain ⟨hcontext, hphase | hidle⟩ := frame_of_perform hopens hconf hrate hchannels hrun
      · exact h.frame (response?_of_perform hconf hrun) hphase
          (congrArg DeviceContext.negotiated hcontext)
      · exact .ofIdle hidle
    refine ⟨?_, ?_⟩
    · rintro rfl hphase name phase rfl
      obtain ⟨r, -, hknown, -⟩ := h.response (by rw [hphase]; simp)
      cases performs_of_perform hrun with
      | start hstart =>
          exact start_ne_invalidPhase hphase (by rw [DeviceContext.streamFormat, hknown]; rfl)
            hstart
    · cases performs_of_perform hrun with
      | configure hconf => exact negotiated_of_configure h hconf
      | start hstart => exact negotiated_of_start h hstart
      | acquire _ => exact absurd rfl hop
      | setRate | setChannels => exact h.frame rfl rfl rfl
      | _ => exact hkept rfl nofun nofun nofun

end Analyzer

end LogicCapture
