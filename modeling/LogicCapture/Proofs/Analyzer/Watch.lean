/-
Transports under watch: every handler call is recorded, and nothing else changes.

* `Watched`: a transport with the calls that have been made through it;
* `Watched.covers`: apart from the calls, it does what the transport does;
* `Analyzer.Steady.ofCalls`: what single handler calls keep of their record and the host's state, a
  stream keeps.
-/
import LogicCapture.Proofs.Session.Cover
import LogicCapture.Proofs.Session.Notes

namespace LogicCapture

variable {τ H σ S C : Type}

/-- A transport under watch, with the handler calls that have been made. -/
structure Watched (τ H : Type) where
  transport : τ
  calls : List (H × Completion) := []

/-- The watch after the transport has done something. -/
def Watched.after {α : Type} (w : Watched τ H) (done : α × τ) : α × Watched τ H :=
  (done.1, { w with transport := done.2 })

/-- A pass under watch. -/
def Pass.watch : Pass τ H → List (H × Completion) → Pass (Watched τ H) H
  | done result transport, calls => .done result { transport, calls }
  | call handler completion resume, calls =>
    .call handler completion fun rearm handler' =>
      (resume rearm handler').watch (calls ++ [(handler, completion)])

instance [Transport τ H] : Transport (Watched τ H) H where
  attached w := Transport.attached w.transport
  alloc w := w.after (Transport.alloc w.transport)
  submit w id request handler := w.after (Transport.submit w.transport id request handler)
  cancel w id := w.after (Transport.cancel w.transport id)
  free w id := { w with transport := Transport.free w.transport id }
  events w ms := (Transport.events w.transport ms).watch w.calls
  claim w interface := w.after (Transport.claim w.transport interface)
  release w interface := w.after (Transport.release w.transport interface)
  handlers w := Transport.handlers w.transport
  patience w := Transport.patience w.transport

instance [Scripted τ C] : Scripted (Watched τ H) C :=
  ⟨fun w cue => { w with transport := Scripted.cue w.transport cue }⟩

/-- Watching a pass changes nothing of what it does. -/
lemma Pass.run_watch (react : Reaction H σ) (pass : Pass τ H) (calls : List (H × Completion))
    (s : σ) : ∃ calls', (pass.watch calls).run react s =
      ((pass.run react s).1, ⟨(pass.run react s).2.1, calls'⟩, (pass.run react s).2.2) := by
  induction pass generalizing calls s with
  | done result transport => exact ⟨calls, rfl⟩
  | call handler c resume ih => exact ih _ _ _ _

/-- **Apart from the calls**, a transport under watch does what the transport does. -/
theorem Watched.covers [Transport τ H] :
    Transport.Covers (Watched.transport : Watched τ H → τ) where
  attached _ := rfl
  alloc _ := rfl
  submit _ _ _ _ := rfl
  cancel _ _ := rfl
  free _ _ := rfl
  claim _ _ := rfl
  release _ _ := rfl
  events react w ms s := by
    obtain ⟨calls, hrun⟩ := Pass.run_watch react (Transport.events w.transport ms) w.calls s
    have hwatch : Transport.events w ms = (Transport.events w.transport ms).watch w.calls := rfl
    rw [hwatch, hrun]
    rfl
  handlers _ := rfl
  patience _ := rfl

/-- The calls are noted in event passes. -/
lemma Watched.notes [Transport τ H] : Transport.Notes (Watched.calls : Watched τ H → _) where
  alloc _ := rfl
  submit _ _ _ _ := rfl
  cancel _ _ := rfl
  free _ _ := rfl

/-- What every handler call keeps of the record and the host's state, a pass under watch keeps. -/
lemma Pass.run_watch_induction {react : Reaction H σ} {R : List (H × Completion) → σ → Prop}
    (hreact : ∀ handler c calls s, R calls s → R (calls ++ [(handler, c)]) (react handler c s).2.2)
    (pass : Pass τ H) {calls : List (H × Completion)} {s : σ} (h : R calls s) :
    R ((pass.watch calls).run react s).2.1.calls ((pass.watch calls).run react s).2.2 := by
  induction pass generalizing calls s with
  | done result transport => exact h
  | call handler c resume ih => exact ih _ _ (hreact handler c calls s h)

/-! ### Streams -/

namespace Analyzer

variable [Transport τ (Handler StreamFormat)] [SampleSink S]

/-- The analyzer without the watch. -/
abbrev unwatched (a : Analyzer (Watched τ (Handler StreamFormat)) S) : Analyzer τ S :=
  a.mapTransport Watched.transport

/-- The analyzer under watch, from now on. -/
def watched (a : Analyzer τ S) : Analyzer (Watched τ (Handler StreamFormat)) S :=
  { a with session := ⟨{ transport := a.session.transport }, a.session.host⟩ }

/-- The handler calls since the watch began. -/
def calls (a : Analyzer (Watched τ (Handler StreamFormat)) S) :
    List (Handler StreamFormat × Completion) :=
  a.session.transport.calls

/-- What handler calls and new control transfers keep of the record and the host's state, the
pieces of the operations that leave a stream alone keep. -/
lemma Steady.ofCalls {R : List (Handler StreamFormat × Completion) → Host (Feed S) → Prop}
    (hexpect : ∀ calls host, R calls host → R calls host.expect)
    (hreact : ∀ (handler : Handler StreamFormat) c calls host, R calls host →
      R (calls ++ [(handler, c)]) (handler.react c host).2.2) :
    Steady fun b : Analyzer (Watched τ (Handler StreamFormat)) S =>
      R b.calls b.session.host :=
  Watched.notes.steady hexpect fun _ h => Pass.run_watch_induction hreact _ h

end Analyzer

end LogicCapture
