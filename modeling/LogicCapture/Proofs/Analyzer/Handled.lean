/-
What the handler calls of a journal and the feed of its analyzer have to do with each other.

* `Analyzer.handled`: the handler calls in the journal of an analyzer;
* `Analyzer.Steady.ofHandled`, `Analyzer.Lasting.ofHandled`, `Analyzer.Stable.ofHandled`: what
  single handler calls keep of them, the operations that leave a stream alone keep, those that begin
  none if halting the feed and notifying the sink keep it, and all operations if opening the feed
  does, too.
-/
import LogicCapture.Proofs.Session.Journal
import LogicCapture.Proofs.Session.Notes

namespace LogicCapture

variable {τ H σ S : Type}

/-- What every handler call keeps of the calls and the host's state, a pass in a journal keeps. -/
lemma Pass.run_journal_induction {react : Reaction H σ} {R : List (HandlerCall H) → σ → Prop}
    (hreact : ∀ handler c handled s, R handled s →
      R (handled ++ [⟨handler, c, (react handler c s).1⟩]) (react handler c s).2.2)
    (pass : Pass τ H) (moments : List τ) {handled : List (HandlerCall H)} {s : σ}
    (h : R handled s) : R ((pass.journal moments handled).run react s).2.1.handled
      ((pass.journal moments handled).run react s).2.2 := by
  induction pass generalizing handled s with
  | done result t => exact h
  | call handler c resume ih => exact ih _ _ (hreact handler c handled s h)

/-- The calls are noted in event passes. -/
lemma Journaled.notes [Transport τ H] :
    Transport.Notes (Journaled.handled : Journaled τ H → _) where
  alloc _ := rfl
  submit _ _ _ _ := rfl
  cancel _ _ := rfl
  free _ _ := rfl

/-! ### Analyzers -/

namespace Analyzer

variable [Transport τ (Handler StreamFormat)]

/-- The handler calls in the journal. -/
def handled (a : Logged τ S) : List (HandlerCall (Handler StreamFormat)) :=
  a.session.transport.handled

/-- Arming a stream calls no handler, and leaves the feed alone. -/
lemma frame_armStreaming (a : Logged τ S) (format : StreamFormat) :
    (a.armStreaming format).2.handled = a.handled ∧ (a.armStreaming format).2.feed = a.feed := by
  refine armStreaming_induction
    (I := fun b : Logged τ S => b.handled = a.handled ∧ b.feed = a.feed) ?_ ?_ ⟨rfl, rfl⟩
  · intro b h
    exact ⟨(Journaled.notes.allocate _ _ _).trans h.1,
      (congrArg Host.shared (Pool.host_allocate _ _ _)).trans h.2⟩
  · intro b h
    exact ⟨(Journaled.notes.arm _ _ _ _).trans h.1, (Pool.shared_arm _ _ _ _).trans h.2⟩

variable [SampleSink S] {R : List (HandlerCall (Handler StreamFormat)) → Feed S → Prop}

/-- Every handler call keeps a relation between the calls and the feed. -/
def Answering (R : List (HandlerCall (Handler StreamFormat)) → Feed S → Prop) : Prop :=
  ∀ (handler : Handler StreamFormat) c handled (host : Host (Feed S)), R handled host.shared →
    R (handled ++ [⟨handler, c, (handler.react c host).1⟩]) (handler.react c host).2.2.shared

lemma Steady.ofHandled (h : Answering R) : Steady fun a : Logged τ S => R a.handled a.feed := by
  let Kept (handled : List (HandlerCall (Handler StreamFormat))) (host : Host (Feed S)) : Prop :=
    R handled host.shared
  exact Journaled.notes.steady (R := Kept) (fun _ _ hkept => hkept) fun _ hkept =>
    Pass.run_journal_induction (R := Kept) h _ _ hkept

lemma Lasting.ofHandled (h : Answering R)
    (hhalt : ∀ {handled feed}, R handled feed → R handled { feed with running := false })
    (hnotify : ∀ {handled feed}, R handled feed → feed.running = false →
      R handled { feed with sink := SampleSink.stopped feed.sink }) :
    Lasting fun a : Logged τ S => R a.handled a.feed where
  toSteady := .ofHandled h
  claim _ ha := ha
  release _ ha := ha
  phase _ ha := ha
  halt ha := hhalt ha
  notify ha hoff := hnotify ha hoff
  cancelAll {a} ha := by
    have hhandled : handled { a with session := (a.pool.cancelAll a.session).2 } = a.handled :=
      Journaled.notes.cancelAll _ _
    rw [hhandled]
    exact ha

lemma Stable.ofHandled (h : Answering R)
    (hhalt : ∀ {handled feed}, R handled feed → R handled { feed with running := false })
    (hnotify : ∀ {handled feed}, R handled feed → feed.running = false →
      R handled { feed with sink := SampleSink.stopped feed.sink })
    (hopen : ∀ {handled feed} format, R handled feed →
      R handled { running := true, stats := {}, sink := SampleSink.started feed.sink format }) :
    Stable fun a : Logged τ S => R a.handled a.feed where
  toLasting := .ofHandled h hhalt hnotify
  begin {a format answer s} ha _ hrun := by
    have hexchanged : R s.transport.handled s.host.shared := (Steady.ofHandled h).exchange ha hrun
    obtain ⟨hhandled, hfeed⟩ :=
      frame_armStreaming (({ a with session := s } : Logged τ S).openFeed format) format
    rw [hhandled, hfeed]
    exact hopen format hexchanged

end Analyzer

end LogicCapture
