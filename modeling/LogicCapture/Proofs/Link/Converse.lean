/-
Control transfers in a row over one link, with event passes between them and a script that goes on.

* `Session.converse`: the calls of a run, each as an `Exchange`;
* `Exchange.Own`: a call comes to what its own occurrences tell;
* `Session.own_replies_of_run`: so do all calls of a run, also if some are given up and their
  transfers complete later, at any time, in any order and with any answer.
-/
import LogicCapture.Proofs.Link.Replies

namespace LogicCapture

open HostStack (Settled Submission)

variable {κ ω H τ τ' : Type}

/-- A call that has returned. -/
structure Exchange (τ ω : Type) where
  call : ControlCall
  result : ControlResult
  before : Session τ ω
  after : Session τ ω

/-- What there is to do over a link. -/
inductive Exchange.Step where
  | call (call : ControlCall)
  | pass (timeoutMs : Nat)
  /-- An entry for the script of the stack. -/
  | cue (cue : HostStack.Cue)

namespace Session

variable [Transport τ (Handler κ)] [Consumer κ ω] [Scripted τ HostStack.Cue]

/-- The calls of a run, each with its result; `none` if one of them waits forever. -/
def converse : List Exchange.Step → Session τ ω → Option (List (Exchange τ ω) × Session τ ω)
  | [], s => some ([], s)
  | .call c :: rest, s => do
    let (result, s') ← s.controlTransfer c.request c.value c.index c.data c.timeoutMs
    let (later, last) ← converse rest s'
    return (⟨c, result, s, s'⟩ :: later, last)
  | .pass ms :: rest, s => converse rest (s.events ms).2
  | .cue cue :: rest, s => converse rest { s with transport := Scripted.cue s.transport cue }

end Session

namespace Exchange

/-- The exchange with its transport changed. -/
def mapTransport (f : τ' → τ) (e : Exchange τ' ω) : Exchange τ ω :=
  ⟨e.call, e.result, e.before.mapTransport f, e.after.mapTransport f⟩

/-- What has occurred during the call. -/
def occurrences (e : Exchange (Attested H) ω) : List Occurrence :=
  e.after.transport.occurrences.drop e.before.transport.occurrences.length

/-- **A call comes to what its own occurrences tell**: it has submitted its own transfer; if it
succeeds, its bytes are those of the completion of this transfer; and if it fails, the caller's
bytes are as they were. -/
structure Own (e : Exchange (Attested H) ω) : Prop where
  told : e.call.report e.occurrences = some e.result
  sent : ∀ t, .taken t ∈ e.occurrences → t = DeviceLink.submission t.id e.call.transfer
  answered : ∀ n, e.result.result = .ok n → ∃ t settled, .taken t ∈ e.occurrences ∧
    .ended t settled ∈ e.occurrences ∧
    e.result = Session.conclude e.call.data (.ok (t.completion settled))
  untouched : ∀ error, e.result.result = .error error → e.result.bytes = e.call.data.bytes

end Exchange

/-- **A call that comes to what its own occurrences tell** has its bytes from its own transfer. -/
lemma Exchange.own_of_report {e : Exchange (Attested H) ω}
    (htold : e.call.report e.occurrences = some e.result)
    (hsent : ∀ t, .taken t ∈ e.occurrences → t = DeviceLink.submission t.id e.call.transfer) :
    e.Own := by
  refine ⟨htold, hsent, fun n hok => ?_, fun error herror => ?_⟩
  · obtain ⟨error, hresult⟩ | ⟨t, rest, out, hoccurred, hout, hresult⟩ :=
      ControlCall.report_cases htold
    · rw [hresult] at hok
      cases hok
    · rw [hresult] at hok ⊢
      obtain ⟨completion, rfl, hstatus⟩ := Session.status_of_conclude hok
      obtain hno | hseen | rfl := mem_of_outcome hout
      · cases hno
      · obtain ⟨occurrence, hmem, hsight⟩ := List.mem_filterMap.mp hseen
        obtain ⟨settled, rfl, rfl⟩ := Occurrence.ended_of_answered hsight
        rw [hoccurred]
        exact ⟨t, settled, List.mem_cons_self, List.mem_cons_of_mem _ hmem, rfl⟩
      · cases hstatus
  · obtain ⟨_, hresult⟩ | ⟨t, rest, out, -, -, hresult⟩ := ControlCall.report_cases htold
    · rw [hresult]
    · rw [hresult] at herror ⊢
      exact Session.bytes_of_conclude herror

/-! ### Runs -/

namespace Session

variable [Consumer κ ω] {s s' : Session (Attested (Handler κ)) ω}

/-- Control transfers return. -/
lemma controlTransfer_isSome_of_conversant (h : s.Conversant) (c : ControlCall) :
    (s.controlTransfer c.request c.value c.index c.data c.timeoutMs).isSome = true := by
  have hreturns := controlTransfer_isSome h.alert c.request c.value c.index c.data c.timeoutMs
  rwa [onLink, controlTransfer_mapTransport Attested.covers, Option.isSome_map] at hreturns

omit [Consumer κ ω] in
lemma Conversant.cue (h : s.Conversant) (cue : HostStack.Cue) :
    Conversant { s with transport := Scripted.cue s.transport cue } :=
  ⟨Pool.alert_cue cue h.alert, h.controls, h.faithful.cue cue⟩

omit [Consumer κ ω] in
lemma Conversant.start {script : List HostStack.Cue} {vendor product : UInt16}
    {link : DeviceLink (Handler κ)}
    (hopen : DeviceLink.connect (script.foldl HostStack.cue {}) vendor product = .ok link)
    (shared : ω) : Conversant (.start ({ link } : Attested (Handler κ)) shared) := by
  refine ⟨⟨.start 0 shared hopen, .opened hopen⟩, fun o ho => ?_, .start hopen⟩
  rw [Session.start, (DeviceLink.opened hopen).1] at ho
  cases ho

/-- Calls and passes in a row, from a link in order. -/
lemma converse_of_conversant (steps : List Exchange.Step) (h : s.Conversant) :
    ∃ exchanges last more, converse steps s = some (exchanges, last) ∧
      converse steps s.onLink =
        some (exchanges.map (Exchange.mapTransport Attested.link), last.onLink) ∧
      (∀ e ∈ exchanges, e.Own) ∧ last.Conversant ∧
      last.transport.occurrences = s.transport.occurrences ++ more ∧
      (exchanges.flatMap Exchange.occurrences).Sublist more := by
  induction steps generalizing s with
  | nil => exact ⟨[], s, [], rfl, rfl, by simp, h, (List.append_nil _).symm, .slnil⟩
  | cons step rest ih =>
      cases step with
      | call c =>
          obtain ⟨⟨result, s₁⟩, hrun⟩ :=
            Option.isSome_iff_exists.mp (controlTransfer_isSome_of_conversant h c)
          have h₁ := kept_conversant.controlTransfer h hrun
          obtain ⟨during, hduring, htold, hsent⟩ := report_of_controlTransfer h hrun
          obtain ⟨exchanges, last, more, hlater, hbare, hown, hlast, hmore, hsub⟩ := ih h₁
          have hfirst : (⟨c, result, s, s₁⟩ : Exchange _ ω).occurrences = during := by
            rw [Exchange.occurrences, hduring, List.drop_left]
          refine ⟨⟨c, result, s, s₁⟩ :: exchanges, last, during ++ more, ?_, ?_, ?_, hlast, ?_, ?_⟩
          · rw [converse, hrun]
            simp only [Option.bind_eq_bind, Option.bind_some, hlater]
            rfl
          · rw [converse, onLink, controlTransfer_mapTransport Attested.covers, hrun]
            simp only [Option.bind_eq_bind, Option.map_some, Option.bind_some, Prod.map, id]
            rw [onLink] at hbare
            rw [hbare]
            rfl
          · intro e he
            rcases List.mem_cons.mp he with rfl | he
            · exact Exchange.own_of_report (hfirst.symm ▸ htold) (hfirst.symm ▸ hsent)
            · exact hown e he
          · rw [hmore, hduring, List.append_assoc]
          · rw [List.flatMap_cons, hfirst]
            exact (List.Sublist.refl _).append hsub
      | pass ms =>
          obtain ⟨exchanges, last, more, hlater, hbare, hown, hlast, hmore, hsub⟩ :=
            ih (h.events ms)
          obtain ⟨added, hadded⟩ : ∃ added,
              (s.events ms).2.transport.occurrences = s.transport.occurrences ++ added :=
            ⟨_, by rw [Attested.events_eq]; rfl⟩
          refine ⟨exchanges, last, added ++ more, hlater, ?_, hown, hlast, ?_,
            hsub.trans (List.sublist_append_right _ _)⟩
          · rw [converse, onLink, events_mapTransport Attested.covers]
            exact hbare
          · rw [hmore, hadded, List.append_assoc]
      | cue cue =>
          obtain ⟨exchanges, last, more, hlater, hbare, hown, hlast, hmore, hsub⟩ := ih (h.cue cue)
          exact ⟨exchanges, last, more, hlater, hbare, hown, hlast, hmore, hsub⟩

/-- **Every call gets its own reply.**  Over a link that has just been opened, under every script
and whatever else completes when and how, all control transfers return, and each of them

* comes to what its own transfer has come to; of the completions of other transfers it only sees
  that the device is gone;
* has the bytes of its own transfer's completion if it succeeds, and leaves the caller's bytes as
  they are if it fails.

The occurrences by which this is told are noted beside a link that does all the same, they are the
completions that the stack has made, and no two calls submit the same transfer. -/
theorem own_replies_of_run {script : List HostStack.Cue} {vendor product : UInt16}
    {link : DeviceLink (Handler κ)}
    (hopen : DeviceLink.connect (script.foldl HostStack.cue {}) vendor product = .ok link)
    (shared : ω) (steps : List Exchange.Step) :
    ∃ exchanges last,
      converse steps (.start ({ link } : Attested (Handler κ)) shared) = some (exchanges, last) ∧
      converse steps (.start link shared) =
        some (exchanges.map (Exchange.mapTransport Attested.link), last.onLink) ∧
      (∀ e ∈ exchanges, e.Own) ∧
      (exchanges.flatMap Exchange.occurrences).Sublist last.transport.occurrences ∧
      last.transport.Faithful := by
  obtain ⟨exchanges, last, more, hrun, hbare, hown, hlast, hmore, hsub⟩ :=
    converse_of_conversant steps (Conversant.start hopen shared)
  have hall : last.transport.occurrences = more := hmore.trans (List.nil_append _)
  exact ⟨exchanges, last, hrun, hbare, hown, hall ▸ hsub, hlast.faithful⟩

/-- A call is given up as an event pass fails; its transfer completes while the next call waits, and
before the transfer of that call. -/
def lateReply : List Exchange.Step :=
  let read : ControlCall := ⟨0, 0, 0, .receive (zeros 2), 10⟩
  [.cue (.codes .event [-1]), .call read,
    .cue (.arrivals [⟨0, { status := 0, data := [9, 9] }⟩, ⟨0, { status := 0, data := [1, 2] }⟩]),
    .call read]

theorem own_replies_lateReply : ∃ exchanges last,
    converse lateReply (.start ({ link := DeviceLink.onePluggedLink (Handler Recorder) } :
      Attested (Handler Recorder)) ([] : List Recorder.Call)) = some (exchanges, last) ∧
    exchanges.map (fun e => (e.result.result.toOption, e.result.bytes)) =
      [(none, [0, 0]), (some 2, [1, 2])] ∧
    ∀ e ∈ exchanges, e.Own := by
  obtain ⟨exchanges, last, hrun, -, hown, -⟩ := own_replies_of_run
    (DeviceLink.connect_onePlugged (Handler Recorder)) ([] : List Recorder.Call) lateReply
  have hresults : (converse lateReply (.start
      ({ link := DeviceLink.onePluggedLink (Handler Recorder) } : Attested (Handler Recorder))
        ([] : List Recorder.Call))).map
      (fun r => r.1.map fun e => (e.result.result.toOption, e.result.bytes)) =
        some [(none, [0, 0]), (some 2, [1, 2])] := by decide +kernel
  rw [hrun] at hresults
  exact ⟨exchanges, last, hrun, Option.some.inj hresults, hown⟩

end Session

end LogicCapture
