/-
When the handlers of a stream have their transfers armed again.

* `Handler.honoured_react`, `Handler.running_react`: one handler call, from the flag of the feed;
* `Streaming.Ruled`, `Streaming.Idle`: the calls of a stream that goes on, up to the one that tells
  of the loss of the device, and those of a feed that does not run;
* `Analyzer.settled_of_run`: between operations only a streaming analyzer has a running feed;
* `Analyzer.idle_of_perform`: an operation that finds no stream, or ends it, has no transfer armed
  again;
* `Analyzer.honoured_iff_of_step`: in a step, transfers are armed again exactly while a stream goes
  on.
-/
import LogicCapture.Proofs.Analyzer.Handled
import LogicCapture.Proofs.Link.Released
import LogicCapture.Proofs.Stream.Loss

namespace LogicCapture

variable {τ κ S C : Type}

namespace HandlerCall

/-- The call tells a stream that the device is gone. -/
def losesStream (c : HandlerCall (Handler κ)) : Bool :=
  c.handler.key.isSome && c.completion.status = .noDevice

/-- The call is about a transfer of a stream that may be armed again. -/
def mayResubmit (c : HandlerCall (Handler κ)) : Bool :=
  c.handler.key.isSome && c.completion.status.allowsResubmit

end HandlerCall

open HandlerCall

namespace Handler

variable [SampleSink S]

/-- **A transfer of a stream is armed again** exactly if the feed runs and the completion allows
it. -/
lemma honoured_react (handler : Handler StreamFormat) (c : Completion) (host : Host (Feed S)) :
    (handler.react c host).1.honoured c.status =
      (host.shared.running && (handler.key.isSome && c.status.allowsResubmit)) := by
  cases handler with
  | control ticket => simp [react, Rearm.honoured, key]
  | slot slotKey format =>
      obtain ⟨rearm, format', shared, hconsume, hreact⟩ := react_slot slotKey format c host
      cases hconsume
      rw [hreact]
      obtain ⟨status, data⟩ := c
      cases hrunning : host.shared.running <;> cases status <;>
        simp [Feed.verdict, Rearm.honoured, TransferStatus.allowsResubmit, key,
          hrunning]

/-- **A feed runs on** unless a slot is told that the device is gone. -/
lemma running_react (handler : Handler StreamFormat) (c : Completion) (host : Host (Feed S)) :
    (handler.react c host).2.2.shared.running =
      (host.shared.running && !(handler.key.isSome && c.status = .noDevice)) := by
  cases handler with
  | control ticket =>
      rw [shared_react_control]
      simp [key]
  | slot slotKey format =>
      rw [shared_react_slot]
      obtain ⟨status, data⟩ := c
      cases hrunning : host.shared.running <;> cases status <;>
        simp [Consumer.consume, Feed.complete, Feed.accept, Feed.reject, key, hrunning]

end Handler

/-! ### Calls and the flag of the feed -/

namespace Streaming

variable [SampleSink S] {before : List (HandlerCall (Handler StreamFormat))}

/-- **The calls of a stream that goes on**: the feed runs until one tells of the loss of the device,
and up to there every transfer is armed again that may be. -/
def Ruled (before handled : List (HandlerCall (Handler StreamFormat))) (feed : Feed S) : Prop :=
  ∃ since, handled = before ++ since ∧ feed.running = !since.any losesStream ∧
    Historic (fun earlier c => c.isHonoured = (!earlier.any losesStream && c.mayResubmit)) since

/-- None of the calls since has had a transfer armed again. -/
def Mute (before handled : List (HandlerCall (Handler StreamFormat))) : Prop :=
  ∃ since, handled = before ++ since ∧ ∀ c ∈ since, c.isHonoured = false

/-- **The calls of a feed that does not run.** -/
def Idle (before handled : List (HandlerCall (Handler StreamFormat))) (feed : Feed S) : Prop :=
  feed.running = false ∧ Mute before handled

lemma answering_ruled : Analyzer.Answering (Ruled before : _ → Feed S → Prop) := by
  rintro handler c handled host ⟨since, rfl, hrunning, hlaw⟩
  refine ⟨since ++ [⟨handler, c, _⟩], List.append_assoc _ _ _, ?_, hlaw.concat ?_⟩
  · rw [handler.running_react, hrunning]
    simp [losesStream]
  · rw [HandlerCall.isHonoured, handler.honoured_react, hrunning, mayResubmit]

lemma answering_idle : Analyzer.Answering (Idle before : _ → Feed S → Prop) := by
  rintro handler c handled host ⟨hoff, since, rfl, hmute⟩
  refine ⟨by rw [handler.running_react, hoff, Bool.false_and], since ++ [⟨handler, c, _⟩],
    List.append_assoc _ _ _, ?_⟩
  intro call hcall
  rcases List.mem_append.mp hcall with hcall | hcall
  · exact hmute call hcall
  · rw [List.mem_singleton.mp hcall, HandlerCall.isHonoured, handler.honoured_react, hoff,
      Bool.false_and]

end Streaming

/-! ### Operations -/

namespace Analyzer

open Streaming

variable [Transport τ (Handler StreamFormat)] [SampleSink S]

/-- Between operations, only a streaming analyzer has a running feed. -/
def Settled (a : Analyzer τ S) : Prop := a.feed.running = true → a.phase = .streaming

omit [Transport τ (Handler StreamFormat)] [SampleSink S] in
lemma Settled.of_off {a : Analyzer τ S} (h : a.feed.running = false) : a.Settled := fun hon =>
  absurd (h.symm.trans hon) Bool.false_ne_true

section

variable {before : List (HandlerCall (Handler StreamFormat))} {a b : Logged τ S}

lemma lasting_idle (before : List (HandlerCall (Handler StreamFormat))) :
    Lasting fun a : Logged τ S => Idle before a.handled a.feed :=
  .ofHandled answering_idle (fun h => ⟨rfl, h.2⟩) fun h _ => h

/-- A stop halts the feed before anything can complete. -/
lemma idle_of_stop {result : Except CaptureError Unit} (h : Mute before a.handled)
    (hrun : a.stop = some (result, b)) : Idle before b.handled b.feed :=
  (lasting_idle before).stop (a := a.withFeed { a.feed with running := false }) ⟨rfl, h⟩ hrun

/-- **An operation that ends a stream** has no transfer armed again. -/
lemma idle_of_ending {op : Op} {answer : Answer} (hop : op.endsStream = true)
    (h : Mute before a.handled) (hrun : a.perform op = some (answer, b)) :
    Idle before b.handled b.feed := by
  cases performs_of_perform hrun with
  | stop hstop => exact idle_of_stop h hstop
  | cancel hcancel =>
      refine idle_of_stop (a := { a with session := (a.pool.cancelAll a.session).2 }) ?_ hcancel
      rw [show handled { a with session := (a.pool.cancelAll a.session).2 } = a.handled from
        Journaled.notes.cancelAll _ _]
      exact h
  | teardown =>
      -- A teardown sets out by halting the feed, and a second halt would change nothing.
      exact (lasting_idle before).teardown (a := a.withFeed { a.feed with running := false })
        ⟨rfl, h⟩
  | _ => cases hop

/-- **A start** that finds no stream has no transfer armed again, and leaves the analyzer settled.
-/
lemma mute_of_start {result : Except CaptureError Unit} (h : Idle before a.handled a.feed)
    (hrun : a.start = some (result, b)) : Mute before b.handled ∧ b.Settled := by
  have hsent {format : StreamFormat} {answer : CommandResult} {s : Session _ (Feed S)}
      (hlaunch : a.Launches format answer s) : Idle before s.transport.handled s.host.shared :=
    (lasting_idle before).exchange h hlaunch.sent
  have hmute {format : StreamFormat} {answer : CommandResult} {s : Session _ (Feed S)}
      {armed : Except CaptureError Unit} {c : Logged τ S} (hlaunch : a.Launches format answer s)
      (harm : (({ a with session := s } : Logged τ S).openFeed format).armStreaming format =
        (armed, c)) : Mute before c.handled := by
    have hframe :=
      (frame_armStreaming (({ a with session := s } : Logged τ S).openFeed format) format).1
    rw [harm] at hframe
    rw [hframe]
    exact (hsent hlaunch).2
  cases starts_of_start hrun with
  | refused => exact ⟨h.2, .of_off h.1⟩
  | failed hlaunch => exact ⟨(hsent hlaunch).2, .of_off (hsent hlaunch).1⟩
  | armed hlaunch harm =>
      have hquiet := hmute hlaunch harm
      exact ⟨hquiet, fun _ => rfl⟩
  | undone hlaunch harm hstop =>
      have hidle := idle_of_stop (hmute hlaunch harm) hstop
      exact ⟨hidle.2, .of_off hidle.1⟩

/-- **An operation that finds no stream** has no transfer armed again, and leaves the analyzer
settled. -/
lemma mute_of_perform {op : Op} {answer : Answer} (h : Idle before a.handled a.feed)
    (hrun : a.perform op = some (answer, b)) : Mute before b.handled ∧ b.Settled := by
  have hlasting (hop : op.opensStream = false) : Mute before b.handled ∧ b.Settled := by
    have hidle := (lasting_idle before).perform hop h hrun
    exact ⟨hidle.2, .of_off hidle.1⟩
  cases performs_of_perform hrun with
  | start hstart => exact mute_of_start h hstart
  | acquire hacquire =>
      rcases acquire_eq_some.mp hacquire with ⟨error, hconf, -⟩ | ⟨response, d, hconf, hstart⟩
      · have hidle := (lasting_idle before).configure h hconf
        exact ⟨hidle.2, .of_off hidle.1⟩
      · exact mute_of_start ((lasting_idle before).configure h hconf) hstart
  | _ => exact hlasting rfl

omit [Transport τ (Handler StreamFormat)] [SampleSink S] in
lemma mute_self (a : Logged τ S) : Mute a.handled a.handled := ⟨[], by simp, by simp⟩

/-- Every operation leaves the analyzer settled. -/
lemma settled_of_perform {op : Op} {answer : Answer} (h : a.Settled)
    (hrun : a.perform op = some (answer, b)) : b.Settled := by
  by_cases hop : op.endsStream = true
  · exact .of_off (idle_of_ending hop (mute_self a) hrun).1
  · by_cases hphase : a.phase = .streaming
    · have htrue : Steady fun _ : Logged τ S => True :=
        ⟨fun _ _ => trivial, fun _ _ => trivial, fun _ _ => trivial, fun _ => trivial,
          fun _ => trivial⟩
      exact fun _ => (perform_streaming htrue (by simpa using hop) hphase trivial hrun).1
    · have hoff : a.feed.running = false := by
        by_contra hon
        exact hphase (h (by simpa using hon))
      exact (mute_of_perform ⟨hoff, mute_self a⟩ hrun).2

/-- So it does without a journal. -/
lemma Settled.perform {a b : Analyzer τ S} {op : Op} {answer : Answer} (h : a.Settled)
    (hrun : a.perform op = some (answer, b)) : b.Settled := by
  have hsame := perform_mapTransport Journaled.covers a.journaled op
  rw [show a.journaled.mapTransport Journaled.transport = a from rfl, hrun] at hsame
  obtain ⟨⟨answer', b'⟩, hrun', hend⟩ := Option.map_eq_some_iff.mp hsame.symm
  obtain ⟨-, rfl⟩ := Prod.mk.inj hend
  have hjournaled : a.journaled.Settled := h
  exact settled_of_perform hjournaled hrun'

variable [Scripted τ C]

/-- **Every run** leaves the analyzer settled. -/
theorem settled_of_run {steps : List (Step C)} (h : a.Settled) (hrun : run steps a = some b) :
    b.Settled := by
  refine run_induction (fun s _ hbefore hstep => ?_) h hrun
  cases s with
  | cue cue =>
      cases hstep
      exact hbefore
  | call op =>
      obtain ⟨⟨answer, c⟩, hperform, rfl⟩ := Option.map_eq_some_iff.mp hstep
      exact settled_of_perform hbefore hperform

/-- **In a step**, the transfers of a stream that goes on are armed again as the law says, and no
others. -/
theorem rules_of_step {s : Step C} (h : a.Settled) (hstep : a.step s = some b) :
    ∃ since, b.handled = a.handled ++ since ∧
      if a.isStreaming = true ∧ s.endsStream = false then
        Historic (fun earlier c => c.isHonoured = (!earlier.any losesStream && c.mayResubmit)) since
      else ∀ c ∈ since, c.isHonoured = false := by
  cases s with
  | cue cue =>
      cases hstep
      refine ⟨[], (List.append_nil _).symm, ?_⟩
      split
      · exact .nil
      · simp
  | call op =>
      obtain ⟨⟨answer, c⟩, hrun, hend⟩ := Option.map_eq_some_iff.mp hstep
      cases hend
      by_cases hgoes : a.isStreaming = true ∧ (Step.call (C := C) op).endsStream = false
      · obtain ⟨hphase, hon⟩ := isStreaming_iff.mp hgoes.1
        have hruled : Ruled a.handled a.handled a.feed := ⟨[], by simp, by simp [hon], .nil⟩
        obtain ⟨-, since, hsince, -, hlaw⟩ :=
          perform_streaming (.ofHandled answering_ruled) hgoes.2 hphase hruled hrun
        refine ⟨since, hsince, ?_⟩
        rwa [if_pos hgoes]
      · have hmute : Mute a.handled c.handled := by
          by_cases hop : op.endsStream = true
          · exact (idle_of_ending hop (mute_self a) hrun).2
          · have hoff : a.feed.running = false := by
              by_contra hon
              have hon : a.feed.running = true := by simpa using hon
              exact hgoes ⟨isStreaming_iff.mpr ⟨h hon, hon⟩, Bool.eq_false_iff.mpr hop⟩
            exact (mute_of_perform ⟨hoff, mute_self a⟩ hrun).1
        obtain ⟨since, hsince, hquiet⟩ := hmute
        refine ⟨since, hsince, ?_⟩
        rwa [if_neg hgoes]

/-! ### Late completions -/

/-- **A completion comes while the stream goes on**: in this step, the handler of a slot is told of
one that allows another submission, and no slot has been told before that the device is gone. -/
def Heard (a : Logged τ S) (s : Step C) (b : Logged τ S) (key : Nat) : Prop :=
  a.isStreaming = true ∧ s.endsStream = false ∧ ∃ first call rest,
    b.handled = a.handled ++ first ++ call :: rest ∧ call.handler.key = some key ∧
      call.completion.status.allowsResubmit = true ∧ ∀ c ∈ first, c.losesStream = false

/-- A completion of the slot comes while a stream goes on, in one of the steps. -/
def HeardIn (a : Logged τ S) (steps : List (Step C)) (key : Nat) : Prop :=
  ∃ earlier s later b c, steps = earlier ++ s :: later ∧ run earlier a = some b ∧
    b.step s = some c ∧ Heard b s c key

/-- **The transfer of a slot is armed again** exactly if such a completion comes. -/
lemma rearmed_iff_of_step {s : Step C} {key : Nat} (h : a.Settled) (hstep : a.step s = some b) :
    key ∈ rearmedKeys b.handled ↔ key ∈ rearmedKeys a.handled ∨ Heard a s b key := by
  obtain ⟨since, hsince, hrules⟩ := rules_of_step h hstep
  rw [hsince, rearmedKeys_append, List.mem_append]
  refine or_congr_right ?_
  rw [mem_rearmedKeys]
  split at hrules
  · rename_i hgoes
    constructor
    · rintro ⟨call, hcall, hkey, hhon⟩
      obtain ⟨first, rest, rfl⟩ := List.append_of_mem hcall
      rw [hrules first call rest rfl, Bool.and_eq_true] at hhon
      refine ⟨hgoes.1, hgoes.2, first, call, rest, by rw [hsince, List.append_assoc], hkey, ?_, ?_⟩
      · simpa [mayResubmit, hkey] using hhon.2
      · simpa using hhon.1
    · rintro ⟨-, -, first, call, rest, hhandled, hkey, hallows, hfirst⟩
      rw [hsince, List.append_assoc] at hhandled
      obtain rfl := List.append_cancel_left hhandled
      refine ⟨call, by simp, hkey, ?_⟩
      rw [hrules first call rest rfl]
      simpa [mayResubmit, hkey, hallows] using hfirst
  · rename_i hgoes
    refine iff_of_false ?_ fun hheard => hgoes ⟨hheard.1, hheard.2.1⟩
    rintro ⟨call, hcall, -, hhon⟩
    rw [hrules call hcall] at hhon
    cases hhon

/-- **Over a run**, the transfers of a slot are armed again exactly if completions come while a
stream goes on. -/
theorem rearmed_iff_of_run {steps : List (Step C)} {key : Nat} (h : a.Settled)
    (hrun : run steps a = some b) :
    key ∈ rearmedKeys b.handled ↔ key ∈ rearmedKeys a.handled ∨ HeardIn a steps key := by
  induction steps using List.reverseRecOn generalizing b with
  | nil =>
      cases hrun
      refine (or_iff_left ?_).symm
      rintro ⟨earlier, s, later, b, c, hno, -⟩
      simp at hno
  | append_singleton steps s ih =>
      obtain ⟨c, hbefore, hstep⟩ := run_concat_eq_some.mp hrun
      rw [rearmed_iff_of_step (settled_of_run h hbefore) hstep, ih hbefore, or_assoc]
      refine or_congr_right ⟨?_, ?_⟩
      · rintro (⟨earlier, s', later, d, e, rfl, hheard⟩ | hheard)
        · exact ⟨earlier, s', later ++ [s], d, e, by simp, hheard⟩
        · exact ⟨steps, s, [], c, b, rfl, hbefore, hstep, hheard⟩
      · rintro ⟨earlier, s', later, d, e, hsplit, hd, he, hheard⟩
        rcases split_of_concat_eq hsplit with ⟨rfl, rfl⟩ | ⟨later', rfl⟩
        · obtain rfl := Option.some.inj (hbefore.symm.trans hd)
          obtain rfl := Option.some.inj (hstep.symm.trans he)
          exact Or.inr hheard
        · exact Or.inl ⟨earlier, s', later', d, e, rfl, hd, he, hheard⟩

end

end Analyzer

end LogicCapture
