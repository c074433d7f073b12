/-
The program goes by the configuration that its command line and the files come to.

* `CommandLine.Effective`: this configuration;
* `CommandLine.Proceeds`: it is one that the program turns to the device with;
* `CommandLine.Blameless`: the program has failed neither for its rate nor for want of slots;
* `CommandLine.Heeds`: nor has it submitted anything that does not go by the settings;
* `CommandLine.heeds_of_run`: the program uses the USB stack exactly if it proceeds with a
  configuration, and then it heeds it.
-/
import LogicCapture.Proofs.Capture.Settings

namespace LogicCapture

open Analyzer (Plugged)
open HostStack (Call)

/-! ### Links that come and go -/

/-- Interfaces are given back without a submission. -/
lemma HostStack.releases_isSubmission (interfaces : List UInt8) (stack : HostStack) : ∃ more,
    (interfaces.foldl (fun stack interface => (stack.release interface).2) stack).calls =
      stack.calls ++ more ∧ ∀ call ∈ more, call.isSubmission = false := by
  induction interfaces generalizing stack with
  | nil => exact ⟨[], by simp, by simp⟩
  | cons interface rest ih =>
      rcases hrelease : stack.release interface with ⟨code, stack'⟩
      obtain ⟨hcalls, -⟩ := release_cases hrelease
      obtain ⟨more, hmore, hnone⟩ := ih stack'
      refine ⟨.release interface code :: more, ?_, ?_⟩
      · rw [List.foldl_cons, hrelease, hmore, hcalls, List.append_assoc, List.singleton_append]
      · simpa [Call.isSubmission] using hnone

namespace DeviceLink

/-- A link is closed without a submission. -/
lemma close_isSubmission {H : Type} (l : DeviceLink H) : ∃ more,
    l.close.calls = l.stack.calls ++ more ∧ ∀ call ∈ more, call.isSubmission = false := by
  obtain ⟨more, hmore, hnone⟩ := HostStack.releases_isSubmission l.claimed l.stack
  refine ⟨more ++ [.close, .exit], ?_, ?_⟩
  · rw [close, HostStack.exit, HostStack.close, HostStack.note, HostStack.note]
    dsimp only
    rw [hmore]
    simp
  · simp only [List.mem_append, or_imp, forall_and]
    exact ⟨hnone, by simp [Call.isSubmission]⟩

/-- The stack is told of it. -/
lemma calls_close_ne_nil {H : Type} (l : DeviceLink H) : l.close.calls ≠ [] := by
  rw [close, HostStack.exit, HostStack.note]
  simp

/-- Nor is there a submission to a device that cannot be opened, though the stack has been asked. -/
lemma connect_isSubmission {H : Type} {script : List HostStack.Cue} {vendor product : UInt16}
    {error : UsbError} {stack : HostStack}
    (h : (connect (script.foldl HostStack.cue {}) vendor product :
      Except (UsbError × HostStack) (DeviceLink H)) = .error (error, stack)) :
    stack.calls ≠ [] ∧ ∀ call ∈ stack.calls, call.isSubmission = false := by
  obtain ⟨hcalls, -⟩ := HostStack.script_cases script
  rw [connect, HostStack.init] at h
  dsimp only at h
  split at h
  · cases h
    simp [HostStack.note, hcalls, Call.isSubmission]
  · split at h
    · rename_i hopen
      obtain ⟨-, rfl⟩ := Prod.mk.inj hopen
      cases h
      simp [HostStack.note, HostStack.exit, hcalls, Call.isSubmission]
    · cases h

end DeviceLink

/-! ### The program -/

/-- The error of the analyzer for which the program gives up. -/
def Conclusion.cause? : Conclusion → Option CaptureError
  | failure (.allocate error) | failure (.start error) | failure (.stream (.events error)) =>
    some error
  | _ => none

namespace CommandLine

/-- **The configuration that a command line comes to**: that of the file it names, else that of the
file in a usual place or else the default one, with the rate and the number of channels replaced if
it gives them. -/
def Effective (places : ConfigurationPlaces) (files : FileTree) (a : Arguments)
    (c : Configuration) : Prop :=
  ∃ base : Configuration,
    a.config.elim (.ok (Configuration.loadOrDefault files places))
      (Configuration.loadExpanded files places) = .ok base ∧
    c = { base with acquisition := { base.acquisition with
      sampleRateHz := a.sampleRate.getD base.acquisition.sampleRateHz
      numChannels := a.channels.getD base.acquisition.numChannels } }

lemma configuration_eq_ok {s : Surroundings} {a : Arguments} {c : Configuration} :
    configuration s a = .ok c ↔ Effective s.places s.files a c := by
  rw [configuration, Effective]
  cases a.config with
  | none => simp [bind, Except.bind, pure, Except.pure, eq_comm]
  | some path =>
      simp only [Option.elim_some]
      cases Configuration.loadExpanded s.files s.places path with
      | error error => simp [bind, Except.bind]
      | ok base => simp [bind, Except.bind, pure, Except.pure, eq_comm]

/-- After a step whose errors are reported as others, all goes well if the step and the rest do. -/
lemma mapError_bind_eq_ok {ε ε' α β : Type} {step : Except ε α} {report : ε → ε'}
    {rest : α → Except ε' β} {b : β} :
    (step.mapError report >>= rest) = .ok b ↔ ∃ a, step = .ok a ∧ rest a = .ok b := by
  cases step <;> simp [Except.mapError, bind, Except.bind]

/-- The program goes on with the configuration exactly if it is valid, and logging can be set up. -/
lemma prepare_eq_ok {s : Surroundings} {a : Arguments} {c : Configuration} :
    prepare s a = .ok c ↔ Effective s.places s.files a c ∧ c.acquisition.validate = .ok () ∧
      setupLogging (a.logLevel.getD c.logLevel) = .ok () := by
  have hlogged (c' : Configuration) :
      (setupLogging (a.logLevel.getD c'.logLevel) >>= fun _ => pure c') = .ok c ↔
        setupLogging (a.logLevel.getD c'.logLevel) = .ok () ∧ c' = c := by
    cases setupLogging (a.logLevel.getD c'.logLevel) <;>
      simp [bind, Except.bind, pure, Except.pure]
  simp only [prepare, mapError_bind_eq_ok, configuration_eq_ok, hlogged]
  constructor
  · rintro ⟨c', heffective, _, hvalid, hlog, rfl⟩
    exact ⟨heffective, hvalid, hlog⟩
  · rintro ⟨heffective, hvalid, hlog⟩
    exact ⟨c, heffective, (), hvalid, hlog, rfl⟩

/-- **The program turns to the device** with this configuration: the command line is one, and asks
for more than to save a configuration; the settings are valid; and logging can be set up. -/
structure Proceeds (places : ConfigurationPlaces) (files : FileTree) (words : List String)
    (a : Arguments) (c : Configuration) : Prop where
  parsed : Arguments.parse words = .ok a
  unsaved : a.saveConfig = false
  effective : Effective places files a c
  valid : c.acquisition.validate = .ok ()
  logged : setupLogging (a.logLevel.getD c.logLevel) = .ok ()

/-- **The program has failed neither for its rate nor for want of slots**: if a parameter was
invalid, the stack has said so of a claim. -/
structure Blameless (conclusion : Conclusion) (calls : List Call) : Prop where
  valid : ∀ reason, conclusion.cause? ≠ some (.invalidSettings reason)
  allocated : ∀ error, conclusion = .failure (.allocate error) → error = .usb .noMemory
  claimed : conclusion = .failure (.start (.usb .invalidParam)) → ∃ code,
    .claim Protocol.streamingInterface code ∈ calls ∧ UsbError.ofStackCode code = .invalidParam

/-- **The program has gone by the settings**: what it has submitted does, a configure command only
with a pool that does, and it has failed for neither. -/
structure Heeds (settings : AcquisitionSettings) (stack : HostStack) (vendor product : UInt16)
    (conclusion : Conclusion) (calls : List Call) : Prop
    extends Blameless conclusion calls where
  obeys : ∀ call ∈ calls, call.Obeys settings.Allows settings.Admits
  pooled : ∀ t code packet, .submit t code ∈ calls → t.Sends packet → packet.isConfigure = true →
    ∃ (link : Link) (sink : Option (FileSink FileContents)) (a : Plugged _),
      DeviceLink.connect stack vendor product = .ok link ∧
        Analyzer.allocateTransfers (.new link settings sink) = (.ok (), a) ∧
        a.Pooled settings link.stack.calls ∧ a.session.transport.stack.calls <+: calls

/-- The call submits neither a configure command nor a bulk transfer. -/
def Unconfigured (call : Call) : Prop := call.Obeys (·.isConfigure = false) fun _ _ => False

/-- A program that is not failed by an analyzer is blameless. -/
lemma Blameless.of_none {conclusion : Conclusion} {calls : List Call}
    (h : conclusion.cause? = none) : Blameless conclusion calls := by
  refine ⟨by simp [h], ?_, ?_⟩
  · rintro error rfl
    cases h
  · rintro rfl
    cases h

/-- So is one that has captured samples. -/
lemma Blameless.of_causes {ending : Capture.Ending} {calls : List Call}
    (h : Capture.Causes ending calls) : Blameless (conclude ending).1 calls := by
  cases ending with
  | unallocated error =>
      cases h.unallocated error rfl
      exact ⟨by simp [conclude, Conclusion.cause?], by simp [conclude], by simp [conclude]⟩
  | unstarted error =>
      refine ⟨?_, by simp [conclude], ?_⟩
      · intro reason hreason
        exact h.valid error reason rfl (Option.some.inj hreason)
      · rintro ⟨⟩
        exact h.claimed rfl
  | deadlineBeyondClock => exact .of_none rfl
  | streamed result written =>
      rcases written with _ | error | bytes
      case some.error => exact .of_none rfl
      -- otherwise an interruption of the stream is what is reported
      all_goals
        rcases result with ⟨_ | error⟩ | _
        · exact .of_none rfl
        · obtain ⟨cause, rfl⟩ := h.events error _ rfl
          exact ⟨by simp [conclude, Conclusion.cause?], by simp [conclude], by simp [conclude]⟩
        · exact .of_none rfl

namespace Heeds

variable {settings : AcquisitionSettings} {stack : HostStack} {vendor product : UInt16}
  {conclusion : Conclusion} {calls : List Call}

/-- **Without a configure command and bulk transfers**, any settings have been gone by. -/
lemma of_unconfigured (hblameless : Blameless conclusion calls)
    (h : ∀ call ∈ calls, Unconfigured call) :
    Heeds settings stack vendor product conclusion calls := by
  refine ⟨hblameless, fun call hcall => (h call hcall).mono ?_ fun _ _ hno => hno.elim, ?_⟩
  · intro packet hpacket hconf
    rw [hpacket] at hconf
    cases hconf
  · intro t code packet hcall hsends hconf
    have hobeys : t.Obeys (·.isConfigure = false) fun _ _ => False := h _ hcall
    have hpacket := hobeys.of_sends hsends
    rw [hpacket] at hconf
    cases hconf

/-- More calls that submit nothing change nothing of it. -/
lemma append (h : Heeds settings stack vendor product conclusion calls) {more : List Call}
    (hmore : ∀ call ∈ more, call.isSubmission = false) :
    Heeds settings stack vendor product conclusion (calls ++ more) := by
  refine ⟨⟨h.valid, h.allocated, fun hfails => ?_⟩, ?_, ?_⟩
  · obtain ⟨code, hcode, hinvalid⟩ := h.claimed hfails
    exact ⟨code, List.mem_append_left _ hcode, hinvalid⟩
  · intro call hcall
    rcases List.mem_append.mp hcall with hcall | hcall
    · exact h.obeys call hcall
    · exact Call.obeys_of_not_isSubmission (hmore call hcall)
  · intro t code packet hcall hsends hconf
    rcases List.mem_append.mp hcall with hcall | hcall
    · obtain ⟨link, sink, a, hopen, hallocate, hpool, hbegins⟩ :=
        h.pooled t code packet hcall hsends hconf
      exact ⟨link, sink, a, hopen, hallocate, hpool, hbegins.trans (List.prefix_append _ _)⟩
    · cases hmore _ hcall

/-- Nor does the end of a link. -/
lemma close {H : Type} {l : DeviceLink H}
    (h : Heeds settings stack vendor product conclusion l.stack.calls) :
    Heeds settings stack vendor product conclusion l.close.calls := by
  obtain ⟨more, hmore, hnone⟩ := l.close_isSubmission
  rw [hmore]
  exact h.append hnone

end Heeds

/-! ### What the program does with a device -/

section
variable {script : List HostStack.Cue} {vendor product : UInt16} {link : Link} {s : Surroundings}
  {c : Configuration}

/-- Nothing has been submitted to a device that has just been opened. -/
lemma unconfigured_of_connect
    (hopen : DeviceLink.connect (script.foldl HostStack.cue {}) vendor product = .ok link) :
    link.Abides Unconfigured [] :=
  DeviceLink.abides_opened hopen _ _

/-- Opening a device goes by any settings. -/
lemma heeds_of_connect
    (hopen : DeviceLink.connect (script.foldl HostStack.cue {}) vendor product = .ok link)
    {conclusion : Conclusion} (hnone : conclusion.cause? = none) :
    Heeds c.acquisition (script.foldl HostStack.cue {}) vendor product conclusion
      link.stack.calls :=
  .of_unconfigured (.of_none hnone) (unconfigured_of_connect hopen).all

/-- **Printing what the device says of itself** goes by any settings. -/
lemma heeds_of_printInfo
    (hopen : DeviceLink.connect (script.foldl HostStack.cue {}) vendor product = .ok link) :
    ∃ outcome, printInfo s c link = some outcome ∧
      outcome.stack.calls ≠ [] ∧ Heeds c.acquisition (script.foldl HostStack.cue {}) vendor
        product outcome.conclusion outcome.stack.calls := by
  have hvetted : Transport.Vetted (Feed (Option (FileSink FileContents)))
      (·.isConfigure = false) (fun _ _ => False)
      (DeviceLink.Abides Unconfigured [] : Link → Prop) := DeviceLink.vetted_obeys _ _ []
  have hnew := Analyzer.alert_new c.acquisition (none : Option (FileSink FileContents)) hopen
  obtain ⟨⟨version, a⟩, hversion⟩ := Option.isSome_iff_exists.mp (Analyzer.version_isSome hnew)
  have hasked := Analyzer.stable_alert.version hnew hversion
  obtain ⟨⟨serial, b⟩, hserial⟩ :=
    Option.isSome_iff_exists.mp (Analyzer.serialNumber_isSome hasked)
  have hquiet := hvetted.commanded.serialNumber rfl
    (hvetted.commanded.version rfl (unconfigured_of_connect hopen) hversion) hserial
  have hheeds : Heeds c.acquisition (script.foldl HostStack.cue {}) vendor product .success
      b.teardown.session.transport.stack.calls :=
    .of_unconfigured (.of_none rfl) (hvetted.toPassive.teardown hquiet).all
  rw [printInfo, hversion]
  dsimp only [Option.bind_eq_bind, Option.bind_some]
  rw [hserial]
  exact ⟨_, rfl, DeviceLink.calls_close_ne_nil _, hheeds.close⟩

/-- **A capture** goes by its settings. -/
lemma heeds_of_capture (hvalid : c.acquisition.validate = .ok ())
    (hopen : DeviceLink.connect (script.foldl HostStack.cue {}) vendor product = .ok link)
    (duration : Timespan) (output : Option Path) :
    ∃ outcome, capture s c duration output link = some outcome ∧
      outcome.stack.calls ≠ [] ∧ Heeds c.acquisition (script.foldl HostStack.cue {}) vendor
        product outcome.conclusion outcome.stack.calls := by
  rw [capture]
  cases houtput : openOutput s.files output with
  | error error =>
      exact ⟨_, rfl, DeviceLink.calls_close_ne_nil _, (heeds_of_connect hopen rfl).close⟩
  | ok opened =>
      obtain ⟨location, files⟩ := opened
      let sink := location.map fun _ => ({ writer := {} } : FileSink FileContents)
      obtain ⟨⟨ending, b⟩, hrun⟩ := Option.isSome_iff_exists.mp (Capture.run_isSome
        (Analyzer.alert_new c.acquisition sink hopen) s.clock duration)
      have hblameless := Blameless.of_causes (Capture.causes_of_run hopen hvalid hrun)
      have hheeds : Heeds c.acquisition (script.foldl HostStack.cue {}) vendor product
          (conclude ending).1 b.session.transport.stack.calls := by
        rcases Capture.governed_of_run hopen hvalid hrun with
          ⟨-, hquiet⟩ | ⟨allocated, hallocate, hgoverned⟩
        · exact .of_unconfigured hblameless (hquiet _ _).all
        · exact ⟨hblameless, hgoverned.abides.all, fun _ _ _ _ _ _ => ⟨link, sink, allocated,
            hopen, hallocate, Analyzer.pooled_of_allocate hopen hallocate, hgoverned.begins⟩⟩
      dsimp only
      rw [hrun]
      exact ⟨_, rfl, DeviceLink.calls_close_ne_nil _, hheeds.close⟩

/-- **Whatever is done with an open device** goes by valid settings. -/
lemma heeds_of_use (hvalid : c.acquisition.validate = .ok ())
    (hopen : DeviceLink.connect (script.foldl HostStack.cue {}) vendor product = .ok link)
    (a : Arguments) : ∃ outcome, use s a c link = some outcome ∧
      outcome.stack.calls ≠ [] ∧ Heeds c.acquisition (script.foldl HostStack.cue {}) vendor
        product outcome.conclusion outcome.stack.calls := by
  rw [use]
  split
  · exact heeds_of_printInfo hopen
  · split
    · exact ⟨_, rfl, DeviceLink.calls_close_ne_nil _, (heeds_of_connect hopen rfl).close⟩
    · exact heeds_of_capture hvalid hopen _ _

/-- Saving the default configuration is no matter of the USB stack. -/
lemma stack_saveConfiguration (s : Surroundings) : (saveConfiguration s).stack = s.stack := by
  unfold saveConfiguration
  dsimp only
  -- whatever comes of saving it; what is saved is not to be evaluated
  generalize Configuration.save s.files {} s.places.file = saved
  obtain ⟨_ | _, files⟩ := saved <;> rfl

/-- **Whatever a command line asks for** is done by the configuration that it comes to, or without
the stack. -/
lemma heeds_of_perform (hstack : s.stack = script.foldl HostStack.cue {}) (a : Arguments) :
    ∃ outcome, perform s a = some outcome ∧
      (outcome.stack.calls = [] ∧ (a.saveConfig = false → ∀ c, prepare s a ≠ .ok c) ∨
        ∃ c, a.saveConfig = false ∧ prepare s a = .ok c ∧ outcome.stack.calls ≠ [] ∧
          Heeds c.acquisition (script.foldl HostStack.cue {}) c.vendorId c.productId
            outcome.conclusion outcome.stack.calls) := by
  have huntouched : s.stack.calls = [] := hstack ▸ (HostStack.script_cases script).1
  rw [perform]
  split
  · rename_i hsave
    exact ⟨_, rfl, Or.inl ⟨(stack_saveConfiguration s).symm ▸ huntouched, by simp [hsave]⟩⟩
  · rename_i hunsaved
    split
    · rename_i hprepare
      exact ⟨_, rfl, Or.inl ⟨huntouched, by simp [hprepare]⟩⟩
    · rename_i c hprepare
      have hvalid := (prepare_eq_ok.mp hprepare).2.1
      rw [hstack]
      split
      · rename_i hopen
        obtain ⟨hasked, hnone⟩ := DeviceLink.connect_isSubmission hopen
        refine ⟨_, rfl, Or.inr ⟨c, by simpa using hunsaved, hprepare, hasked,
          .of_unconfigured (.of_none rfl) ?_⟩⟩
        exact fun call hcall => Call.obeys_of_not_isSubmission (hnone call hcall)
      · rename_i hopen
        obtain ⟨outcome, huse, hasked, hheeds⟩ := heeds_of_use hvalid hopen a
        exact ⟨outcome, huse, Or.inr ⟨c, by simpa using hunsaved, hprepare, hasked, hheeds⟩⟩

end

/-- **The program goes by its configuration.**  For every command line, all files and every script
of a USB stack the program comes to an end.  It makes calls on the stack exactly if it proceeds with
the configuration that the command line and the files come to, whose settings are valid then.  If it
does, it has gone by them: every configure command asks for their rate and their number of channels,
and is sent only once a pool of their size with buffers of their size has been allocated; every bulk
transfer is one of this pool; and the program has failed neither because the rate does not fit nor
because the pool is empty. -/
theorem heeds_of_run (places : ConfigurationPlaces) (files : FileTree) (script : List HostStack.Cue)
    (clock : Clock) (words : List String) :
    ∃ outcome, run ⟨places, files, script.foldl HostStack.cue {}, clock⟩ words = some outcome ∧
      (outcome.stack.calls = [] ∧ (¬ ∃ a c, Proceeds places files words a c) ∨
        ∃ a c, Proceeds places files words a c ∧ outcome.stack.calls ≠ [] ∧
          Heeds c.acquisition (script.foldl HostStack.cue {}) c.vendorId c.productId
            outcome.conclusion outcome.stack.calls) := by
  have huntouched := (HostStack.script_cases script).1
  rw [run]
  cases hparse : Arguments.parse words with
  | error stop =>
      have hnone : ¬ ∃ a c, Proceeds places files words a c := by
        rintro ⟨a, c, h⟩
        cases hparse.symm.trans h.parsed
      cases stop <;> exact ⟨_, rfl, Or.inl ⟨huntouched, hnone⟩⟩
  | ok a =>
      obtain ⟨outcome, hperform, ⟨hcalls, hnone⟩ | ⟨c, hunsaved, hprepare, hasked, hheeds⟩⟩ :=
        heeds_of_perform (s := ⟨places, files, script.foldl HostStack.cue {}, clock⟩) rfl a
      · refine ⟨outcome, hperform, Or.inl ⟨hcalls, ?_⟩⟩
        rintro ⟨a', c, h⟩
        cases hparse.symm.trans h.parsed
        exact hnone h.unsaved c (prepare_eq_ok.mpr ⟨h.effective, h.valid, h.logged⟩)
      · obtain ⟨heffective, hvalid, hlogged⟩ := prepare_eq_ok.mp hprepare
        exact ⟨outcome, hperform, Or.inr ⟨a, c, ⟨hparse, hunsaved, heffective, hvalid, hlogged⟩,
          hasked, hheeds⟩⟩

end CommandLine

end LogicCapture
