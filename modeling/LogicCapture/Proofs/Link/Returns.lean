/-
Every operation of an analyzer over a link returns, and so does every run of them.

* `Analyzer.stable_alert`: over a link that has been opened from a script, the pool stays alert;
* `Analyzer.configure_isSome`, `Analyzer.start_isSome`, `Analyzer.stop_isSome`, …: the operations
  return;
* `Analyzer.slack_poll`: event passes that succeed use something up;
* `Analyzer.run_isSome`: whole runs return, whatever the device does;
* `Pool.run_isSome`: so does the life of a pool.
-/
import LogicCapture.Proofs.Link.Patience

namespace LogicCapture

namespace Analyzer

variable {S : Type} [SampleSink S]

/-- The link is alert and keeps the transfers of the analyzer's pool. -/
abbrev Alert (a : Plugged S) : Prop := a.pool.Alert a.session

lemma stable_alert : Stable fun a : Plugged S => a.Alert :=
  Pool.upheld_alert.stable Pool.alert_cue

omit [SampleSink S] in
/-- An analyzer on a link that has just been opened is alert. -/
lemma alert_new {script : List HostStack.Cue} {vendor product : UInt16}
    {link : DeviceLink (Handler StreamFormat)} (settings : AcquisitionSettings) (sink : S)
    (hopen : DeviceLink.connect (script.foldl HostStack.cue {}) vendor product = .ok link) :
    (new link settings sink : Plugged S).Alert :=
  ⟨Pool.Linked.start settings.transferBufferSize _ hopen, DeviceLink.Alert.opened hopen⟩

variable {a : Plugged S}

/-! ### The operations -/

/-- Reading an identity string returns. -/
lemma readCoreString_isSome (h : a.Alert) (verb : UInt32) (ms : Nat) :
    (a.session.readCoreString verb ms).isSome = true := by
  obtain ⟨⟨answer, s⟩, hsent⟩ := Option.isSome_iff_exists.mp (Session.execute_isSome h
    (.headerOnly Protocol.classCore verb) (some (zeros Protocol.maxStringLength)) ms)
  rw [Session.readCoreString, hsent, Option.bind_eq_bind, Option.bind_some]
  dsimp only
  split <;> rfl

lemma version_isSome (h : a.Alert) : a.version.isSome = true := by
  rw [version_eq_map, Option.isSome_map]
  exact readCoreString_isSome h _ _

lemma serialNumber_isSome (h : a.Alert) : a.serialNumber.isSome = true := by
  rw [serialNumber_eq_map, Option.isSome_map]
  exact readCoreString_isSome h _ _

lemma configure_isSome (h : a.Alert) : a.configure.isSome = true := by
  have hnegotiate : ({ a with phase := .configuring } : Plugged S).negotiate.isSome = true := by
    rw [negotiate]
    split
    · rfl
    · obtain ⟨⟨answer, s⟩, hsent⟩ := Option.isSome_iff_exists.mp (Session.execute_isSome h
        a.request.toPacket (some (zeros ConfigureResponse.size)) a.settings.commandTimeoutMs)
      have hsent' : a.session.execute (ConfigurePayload.toPacket
          ⟨UInt32.ofNat a.context.sampleRateHz, a.context.numChannels⟩)
          (some (zeros ConfigureResponse.size)) a.settings.commandTimeoutMs =
            some (answer, s) := hsent
      dsimp only
      rw [hsent', Option.bind_eq_bind, Option.bind_some]
      dsimp only
      split
      · rfl
      · split <;> rfl
  obtain ⟨⟨result, b⟩, hneg⟩ := Option.isSome_iff_exists.mp hnegotiate
  rw [configure]
  split
  · rfl
  · rw [hneg, Option.bind_eq_bind, Option.bind_some]
    cases result <;> rfl

/-- Stopping returns: whatever has become of the device, the stop command comes to an end. -/
lemma stop_isSome (h : a.Alert) : a.stop.isSome = true := by
  have hhalted : a.pool.Alert a.halted :=
    Pool.upheld_alert.shared _ (Pool.upheld_alert.release Protocol.streamingInterface h)
  rw [stop_eq_map, Option.isSome_map]
  exact Session.execute_isSome hhalted stopPacket none a.settings.stopTimeoutMs

lemma cancel_isSome (h : a.Alert) : a.cancel.isSome = true :=
  stop_isSome (a := { a with session := (a.pool.cancelAll a.session).2 })
    (Pool.upheld_alert.cancelAll h)

lemma start_isSome (h : a.Alert) : a.start.isSome = true := by
  rw [start]
  split
  · rfl
  · split
    · rfl
    · rename_i hidle
      split
      · rfl
      · rename_i format _
        have hidle : a.armedCount = 0 := Nat.eq_zero_of_not_pos hidle
        obtain ⟨⟨answer, s⟩, hsent⟩ := Option.isSome_iff_exists.mp
          (Session.execute_isSome h startPacket none a.settings.commandTimeoutMs)
        have hbegun : ((({ a with session := s } : Plugged S).openFeed format).armStreaming
          format).2.Alert := stable_alert.begin h hidle hsent
        rw [hsent, Option.bind_eq_bind, Option.bind_some]
        dsimp only
        split
        · rfl
        · split
          · rfl
          · rename_i harm
            rw [harm] at hbegun
            obtain ⟨⟨ended, c⟩, hstop⟩ := Option.isSome_iff_exists.mp (stop_isSome hbegun)
            rw [hstop]
            rfl

lemma acquire_isSome (h : a.Alert) : a.acquire.isSome = true := by
  obtain ⟨⟨result, b⟩, hconf⟩ := Option.isSome_iff_exists.mp (configure_isSome h)
  rw [acquire, hconf, Option.bind_eq_bind, Option.bind_some]
  cases result with
  | error error => rfl
  | ok response => exact start_isSome (stable_alert.toLasting.configure h hconf)

/-- An event pass that succeeds leaves fewer of them. -/
lemma slack_poll {b : Plugged S} (h : a.Alert) {ms : Nat} (hpoll : a.poll ms = (.ok (), b)) :
    b.session.transport.stack.slack < a.session.transport.stack.slack := by
  rw [poll] at hpoll
  rcases hrun : a.session.events ms with ⟨result, session⟩
  rw [hrun] at hpoll
  cases result with
  | ok _ =>
      cases hpoll
      exact Session.slack_lt_of_events h hrun (by simp)
  | error error =>
      dsimp only at hpoll
      split at hpoll
      · rename_i htransient
        cases hpoll
        exact Session.slack_lt_of_events h hrun (by simpa using htransient)
      · cases hpoll

/-! ### Runs -/

/-- **Every operation returns.** -/
theorem perform_isSome (h : a.Alert) (op : Op) : (a.perform op).isSome = true := by
  cases op <;> simp only [perform, Option.isSome_map, Option.isSome_some]
  case configure => exact configure_isSome h
  case start => exact start_isSome h
  case stop => exact stop_isSome h
  case cancel => exact cancel_isSome h
  case acquire => exact acquire_isSome h
  case version => exact version_isSome h
  case serialNumber => exact serialNumber_isSome h

/-- **Every run over a link returns**, whatever the device does and the script adds. -/
theorem run_isSome (h : a.Alert) (steps : List (Step HostStack.Cue)) :
    (run steps a).isSome = true := by
  induction steps generalizing a with
  | nil => rfl
  | cons s rest ih =>
      cases s with
      | call op =>
          obtain ⟨⟨answer, b⟩, hop⟩ := Option.isSome_iff_exists.mp (perform_isSome h op)
          rw [run, step, hop]
          exact ih (stable_alert.perform h hop)
      | cue cue => exact ih (Pool.alert_cue cue h)

end Analyzer

namespace Pool

variable {κ ω : Type} [Consumer κ ω] {p : Pool} {s : Session (DeviceLink (Handler κ)) ω}

/-- Every step in the life of a pool returns. -/
lemma step_isSome (h : p.Alert s) (step : Step κ HostStack.Cue) :
    (p.step s step).isSome = true := by
  cases step with
  | transfer request value index data ms =>
      rw [Pool.step, Option.isSome_map]
      exact Session.controlTransfer_isSome h request value index data ms
  | _ => rfl

/-- **The life of a pool over a link goes on**, whatever the device does and the script adds. -/
theorem run_isSome (h : p.Alert s) (steps : List (Step κ HostStack.Cue)) :
    (run steps p s).isSome = true := by
  induction steps generalizing p s with
  | nil => rfl
  | cons step rest ih =>
      obtain ⟨⟨p₁, s₁⟩, hstep⟩ := Option.isSome_iff_exists.mp (step_isSome h step)
      rw [run, hstep]
      exact ih ((upheld_alert.enduring alert_cue).step h hstep)

end Pool

end LogicCapture
