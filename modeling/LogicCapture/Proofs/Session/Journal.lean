/-
Transports that keep a journal: what has become of them with every call, and which handlers have
been called.

* `Journaled`: a transport with its moments, one for every call on it, and with the handler calls
  that have been made;
* `Journaled.covers`: apart from the journal, it does what the transport does;
* `noting`, `Journaled.run_events`: a pass in a journal is a pass whose handlers note their calls;
* `Pool.Upheld.cover`: what every call keeps, calls on a covering transport keep;
* `Transport.Evolves`, `Pool.Upheld.journal`: what calls make of a transport and what holds after
  each of them, a journal shows of all its moments;
* `Analyzer.journaled`, `Analyzer.run_journaled`: every run can be made in a journal.
-/
import LogicCapture.Proofs.Pool.Upheld
import LogicCapture.Proofs.Session.Cover

namespace LogicCapture

variable {τ τ' κ ω H σ S C : Type}

/-- A handler call with its verdict. -/
structure HandlerCall (H : Type) where
  handler : H
  completion : Completion
  rearm : Rearm

/-- A transport in a journal. -/
structure Journaled (τ H : Type) where
  transport : τ
  /-- What the transport was after each call on it. -/
  moments : List τ := []
  handled : List (HandlerCall H) := []

namespace Journaled

/-- The journal after a call. -/
def record (j : Journaled τ H) (t : τ) : Journaled τ H :=
  { j with transport := t, moments := j.moments ++ [t] }

/-- The journal after a call that answers something. -/
def after {α : Type} (j : Journaled τ H) (done : α × τ) : α × Journaled τ H :=
  (done.1, j.record done.2)

end Journaled

/-- A pass in a journal. -/
def Pass.journal (moments : List τ) : Pass τ H → List (HandlerCall H) → Pass (Journaled τ H) H
  | done result t, handled => .done result ⟨t, moments ++ [t], handled⟩
  | call handler completion resume, handled =>
    .call handler completion fun rearm next =>
      (resume rearm next).journal moments (handled ++ [⟨handler, completion, rearm⟩])

instance [Transport τ H] : Transport (Journaled τ H) H where
  attached j := Transport.attached j.transport
  alloc j := j.after (Transport.alloc j.transport)
  submit j id request handler := j.after (Transport.submit j.transport id request handler)
  cancel j id := j.after (Transport.cancel j.transport id)
  free j id := j.record (Transport.free j.transport id)
  events j ms := (Transport.events j.transport ms).journal j.moments j.handled
  claim j interface := j.after (Transport.claim j.transport interface)
  release j interface := j.after (Transport.release j.transport interface)
  handlers j := Transport.handlers j.transport
  patience j := Transport.patience j.transport

instance [Scripted τ C] : Scripted (Journaled τ H) C :=
  ⟨fun j cue => { j with transport := Scripted.cue j.transport cue }⟩

/-- Handlers that note their calls. -/
def noting (react : Reaction H σ) : Reaction H (σ × List (HandlerCall H)) :=
  fun handler completion s =>
    let (rearm, next, state) := react handler completion s.1
    (rearm, next, state, s.2 ++ [⟨handler, completion, rearm⟩])

/-- **A pass in a journal** does what it does with handlers that note their calls. -/
lemma Pass.run_journal (react : Reaction H σ) (moments : List τ) (pass : Pass τ H)
    (handled : List (HandlerCall H)) (s : σ) : (pass.journal moments handled).run react s =
      (((pass.run (noting react) (s, handled)).1,
        ⟨(pass.run (noting react) (s, handled)).2.1,
          moments ++ [(pass.run (noting react) (s, handled)).2.1],
          (pass.run (noting react) (s, handled)).2.2.2⟩,
        (pass.run (noting react) (s, handled)).2.2.1)) := by
  induction pass generalizing handled s with
  | done result t => rfl
  | call handler c resume ih => exact ih _ _ _ _

/-- Noting calls changes nothing of a pass. -/
lemma Pass.run_noting (react : Reaction H σ) (pass : Pass τ H) (handled : List (HandlerCall H))
    (s : σ) : pass.run react s = ((pass.run (noting react) (s, handled)).1,
      (pass.run (noting react) (s, handled)).2.1,
      (pass.run (noting react) (s, handled)).2.2.1) := by
  induction pass generalizing handled s with
  | done result t => rfl
  | call handler c resume ih => exact ih _ _ _ _

namespace Journaled

/-- **Apart from the journal**, a transport in a journal does what the transport does. -/
theorem covers [Transport τ H] :
    Transport.Covers (Journaled.transport : Journaled τ H → τ) where
  attached _ := rfl
  alloc _ := rfl
  submit _ _ _ _ := rfl
  cancel _ _ := rfl
  free _ _ := rfl
  claim _ _ := rfl
  release _ _ := rfl
  events react j ms s := by
    have hjournal : Transport.events j ms =
      (Transport.events j.transport ms).journal j.moments j.handled := rfl
    rw [hjournal, Pass.run_journal, Pass.run_noting react _ j.handled]
    rfl
  handlers _ := rfl
  patience _ := rfl

/-- **An event pass in a journal** is one whose handlers note their calls. -/
lemma run_events [Transport τ (Handler κ)] [Consumer κ ω]
    (s : Session (Journaled τ (Handler κ)) ω) (ms : Nat) :
    let run := (Transport.events s.transport.transport ms).run (noting Handler.react)
      (s.host, s.transport.handled)
    (s.events ms).2 = ⟨⟨run.2.1, s.transport.moments ++ [run.2.1], run.2.2.2⟩, run.2.2.1⟩ := by
  have hjournal : Transport.events s.transport ms =
    (Transport.events s.transport.transport ms).journal s.transport.moments s.transport.handled :=
      rfl
  rw [Session.events, hjournal, Pass.run_journal]

end Journaled

/-! ### Properties of the transport in the journal -/

/-- **Every call relates** what the transport is before it to what it is after it. -/
structure Transport.Evolves [Transport τ H] (R : τ → τ → Prop) : Prop where
  alloc : ∀ t : τ, R t (Transport.alloc t).2
  submit : ∀ (t : τ) id request handler, R t (Transport.submit t id request handler).2
  cancel : ∀ (t : τ) id, R t (Transport.cancel t id).2
  free : ∀ (t : τ) id, R t (Transport.free t id)
  claim : ∀ (t : τ) interface, R t (Transport.claim t interface).2
  release : ∀ (t : τ) interface, R t (Transport.release t interface).2
  events : ∀ {σ : Type} (react : Reaction H σ) (t : τ) ms state,
    R t ((Transport.events t ms).run react state).2.1

/-- What such changes keep of a transport, a pool keeps. -/
lemma Transport.Evolves.upheld [Transport τ (Handler κ)] [Consumer κ ω] {R : τ → τ → Prop}
    (hR : Transport.Evolves R) {W : τ → Prop} (hkept : ∀ {t t'}, R t t' → W t → W t') :
    Pool.Upheld fun (_ : Pool) (s : Session τ ω) => W s.transport := by
  have hsubmit {t t' : τ} {id : TransferId} {request : TransferRequest} {handler : Handler κ}
      {result : Except UsbError Unit} (hrun : Transport.submit t id request handler = (result, t'))
      (h : W t) : W t' := by
    have hafter := hkept (hR.submit t id request handler) h
    rwa [hrun] at hafter
  exact {
    pass := fun ms h => hkept (hR.events Handler.react _ ms _) h
    alloc := fun h => hkept (hR.alloc _) h
    command := fun {p s id t request result t'} h _ halloc _ hrun => by
      have hafter := hkept (hR.alloc _) h
      rw [halloc] at hafter
      exact hsubmit hrun hafter
    submit := fun h _ hrun => hsubmit hrun h
    reject := fun h _ hrun => hsubmit hrun h
    cancel := fun id h => hkept (hR.cancel _ id) h
    free := fun id h => hkept (hR.free _ id) h
    fill := fun _ _ _ h => h
    empty := fun h => h
    claim := fun interface h => hkept (hR.claim _ interface) h
    release := fun interface h => hkept (hR.release _ interface) h
    shared := fun _ h => h }

namespace Pool

variable [Transport τ (Handler κ)] [Transport τ' (Handler κ)] [Consumer κ ω]

/-- **What every call keeps**, calls on a covering transport keep. -/
theorem Upheld.cover {bare : τ' → τ} (hcover : Transport.Covers bare)
    {P : Pool → Session τ ω → Prop} (h : Upheld P) :
    Upheld fun p (s : Session τ' ω) => P p (s.mapTransport bare) where
  pass {p s} ms hs := by
    have hafter := h.pass ms hs
    rwa [Session.events_mapTransport hcover] at hafter
  alloc {p s} hs := by
    have hafter := h.alloc hs
    rwa [show (s.mapTransport bare).transport = bare s.transport from rfl,
      hcover.alloc] at hafter
  command {p s id t request result t'} hs hattached halloc hkind hsubmit := by
    have hgone : Transport.attached (bare s.transport) = true :=
      (hcover.attached s.transport).trans hattached
    have halloc' : Transport.alloc (bare s.transport) = (.ok id, bare t) := by
      rw [hcover.alloc, halloc]
      rfl
    have hsubmit' : Transport.submit (bare t) id request (.control s.host.expect.ticket) =
        (result, bare t') := by
      rw [hcover.submit, hsubmit]
      rfl
    exact h.command hs hgone halloc' hkind hsubmit'
  submit {p s slot endpoint buffer ms consumer t} hs hslot hsubmit := by
    have hsubmit' : Transport.submit (bare s.transport) slot.transfer
        ⟨.bulkIn endpoint, buffer, ms⟩ (.slot slot.key consumer) = (.ok (), bare t) := by
      rw [hcover.submit, hsubmit]
      rfl
    exact h.submit hs hslot hsubmit'
  reject {p s slot endpoint buffer ms consumer error t} hs hslot hsubmit := by
    have hsubmit' : Transport.submit (bare s.transport) slot.transfer
        ⟨.bulkIn endpoint, buffer, ms⟩ (.slot slot.key consumer) = (.error error, bare t) := by
      rw [hcover.submit, hsubmit]
      rfl
    exact h.reject hs hslot hsubmit'
  cancel {p s} id hs := by
    have hafter := h.cancel id hs
    rwa [show (s.mapTransport bare).transport = bare s.transport from rfl,
      hcover.cancel] at hafter
  free {p s} id hs := by
    have hafter := h.free id hs
    rwa [show (s.mapTransport bare).transport = bare s.transport from rfl, hcover.free] at hafter
  fill {p s count slots t} hs hslots hobtain hafter := by
    have hobtain' : obtain count p.nextKey [] (bare s.transport) = (.ok slots, bare t) := by
      rw [obtain_mapTransport hcover, hobtain]
      rfl
    exact h.fill hs hslots hobtain' hafter
  empty hs := h.empty hs
  claim {p s} interface hs := by
    have hafter := h.claim interface hs
    rwa [show (s.mapTransport bare).transport = bare s.transport from rfl,
      hcover.claim] at hafter
  release {p s} interface hs := by
    have hafter := h.release interface hs
    rwa [show (s.mapTransport bare).transport = bare s.transport from rfl,
      hcover.release] at hafter
  shared shared hs := h.shared shared hs

/-- **What a journal tells of its moments**, if it goes on as calls do and as the transport is after
each of them. -/
theorem Upheld.journal {P : Pool → Session τ ω → Prop} (h : Upheld P) {W : τ → Prop}
    (hW : ∀ {p s}, P p s → W s.transport) {R : τ → τ → Prop} (hR : Transport.Evolves R)
    {J : List τ → τ → Prop}
    (hnext : ∀ {moments t t'}, J moments t → R t t' → W t' → J (moments ++ [t']) t') :
    Upheld fun p (s : Session (Journaled τ (Handler κ)) ω) =>
      P p (s.mapTransport Journaled.transport) ∧ J s.transport.moments s.transport.transport := by
  have hbare : Upheld fun p (s : Session (Journaled τ (Handler κ)) ω) =>
    P p (s.mapTransport Journaled.transport) := h.cover Journaled.covers
  constructor
  case pass =>
    intro p s ms hs
    have hafter := hbare.pass ms hs.1
    refine ⟨hafter, ?_⟩
    rw [Journaled.run_events] at hafter ⊢
    exact hnext hs.2 (hR.events _ _ _ _) (hW hafter)
  case alloc =>
    intro p s hs
    have hafter := hbare.alloc hs.1
    exact ⟨hafter, hnext hs.2 (hR.alloc _) (hW hafter)⟩
  case command =>
    intro p s id t request result t' hs hattached halloc hkind hsubmit
    have hbetween := hbare.alloc hs.1
    have hafter := hbare.command hs.1 hattached halloc hkind hsubmit
    refine ⟨hafter, ?_⟩
    rw [halloc] at hbetween
    have hW' := hW hafter
    obtain ⟨-, rfl⟩ := Prod.mk.inj halloc
    obtain ⟨-, rfl⟩ := Prod.mk.inj hsubmit
    exact hnext (hnext hs.2 (hR.alloc _) (hW hbetween)) (hR.submit _ _ _ _) hW'
  case submit =>
    intro p s slot endpoint buffer ms consumer t hs hslot hsubmit
    have hafter := hbare.submit hs.1 hslot hsubmit
    refine ⟨hafter, ?_⟩
    have hW' := hW hafter
    obtain ⟨-, rfl⟩ := Prod.mk.inj hsubmit
    exact hnext hs.2 (hR.submit _ _ _ _) hW'
  case reject =>
    intro p s slot endpoint buffer ms consumer error t hs hslot hsubmit
    have hafter := hbare.reject hs.1 hslot hsubmit
    refine ⟨hafter, ?_⟩
    have hW' := hW hafter
    obtain ⟨-, rfl⟩ := Prod.mk.inj hsubmit
    exact hnext hs.2 (hR.submit _ _ _ _) hW'
  case cancel =>
    intro p s id hs
    have hafter := hbare.cancel id hs.1
    exact ⟨hafter, hnext hs.2 (hR.cancel _ _) (hW hafter)⟩
  case free =>
    intro p s id hs
    have hafter := hbare.free id hs.1
    exact ⟨hafter, hnext hs.2 (hR.free _ _) (hW hafter)⟩
  case fill =>
    intro p s count slots t hs hslots hobtain hafter
    exact ⟨hbare.fill hs.1 hslots hobtain hafter.1, hafter.2⟩
  case empty => exact fun hs => ⟨hbare.empty hs.1, hs.2⟩
  case claim =>
    intro p s interface hs
    have hafter := hbare.claim interface hs.1
    exact ⟨hafter, hnext hs.2 (hR.claim _ _) (hW hafter)⟩
  case release =>
    intro p s interface hs
    have hafter := hbare.release interface hs.1
    exact ⟨hafter, hnext hs.2 (hR.release _ _) (hW hafter)⟩
  case shared => exact fun shared hs => ⟨hbare.shared shared hs.1, hs.2⟩

end Pool

namespace Analyzer

/-- An analyzer on a link. -/
abbrev Plugged (S : Type) := Analyzer (DeviceLink (Handler StreamFormat)) S

/-- An analyzer in a journal. -/
abbrev Logged (τ S : Type) := Analyzer (Journaled τ (Handler StreamFormat)) S

variable [Transport τ (Handler StreamFormat)] [SampleSink S]

/-- The analyzer with an empty journal. -/
def journaled (a : Analyzer τ S) : Logged τ S :=
  { a with session := ⟨{ transport := a.session.transport }, a.session.host⟩ }

/-- The analyzer without its journal. -/
abbrev bare (a : Logged τ S) : Analyzer τ S := a.mapTransport Journaled.transport

/-- **Every run can be made in a journal**, and comes to the same. -/
theorem run_journaled [Scripted τ C] {steps : List (Step C)} {a b : Analyzer τ S}
    (hrun : run steps a = some b) :
    ∃ b' : Logged τ S, run steps a.journaled = some b' ∧ b'.bare = b := by
  have hsame := run_mapTransport (C := C) Journaled.covers (fun _ _ => rfl) steps
    (journaled a)
  rw [show a.journaled.mapTransport Journaled.transport = a from rfl, hrun] at hsame
  exact Option.map_eq_some_iff.mp hsame.symm

end Analyzer

end LogicCapture
