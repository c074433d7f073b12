/-
The deeds of a run: what its operations have done, one at a time and in order.

* `Analyzer.Deed`: an operation with its answer and the analyzer before and after it;
* `Analyzer.deeds`: the deeds of a run.  Acquiring counts as a configure and, if that succeeds, a
  start; a run ends with the last deed that is done, also if the operation after it never returns;
* `Analyzer.Governed`: single deeds keep a law about a deed and those before it; then every run
  keeps it (`Analyzer.Governed.run`);
* `Analyzer.lastResponse`: what the device agreed to in the last configure that succeeded.
-/
import LogicCapture.Proofs.Analyzer.Run
import LogicCapture.Proofs.Trace

namespace LogicCapture

namespace Analyzer

variable {τ S C : Type}

/-- An operation that has been performed. -/
structure Deed (τ S : Type) where
  op : Op
  answer : Answer
  before : Analyzer τ S
  after : Analyzer τ S

/-- What the device agreed to, if the operation is a configure that succeeded. -/
def Deed.response? (d : Deed τ S) : Option ConfigureResponse :=
  match d.answer with
  | .configured (.ok response) => some response
  | _ => none

/-- What the device agreed to in the last configure that succeeded. -/
def lastResponse (ds : List (Deed τ S)) : Option ConfigureResponse :=
  (ds.filterMap Deed.response?).getLast?

variable [Transport τ (Handler StreamFormat)] [SampleSink S]

/-- The deed that an operation other than acquiring is, if it returns. -/
def deed (op : Op) (a : Analyzer τ S) : Option (Deed τ S) :=
  (a.perform op).map fun r => ⟨op, r.1, a, r.2⟩

/-- The deeds of an operation. -/
def deedsOf (a : Analyzer τ S) : Op → List (Deed τ S)
  | .acquire =>
    match a.deed .configure with
    | none => []
    | some d => if d.response?.isSome then d :: (d.after.deed .start).toList else [d]
  | op => (a.deed op).toList

/-- Only a configure brings a response. -/
lemma response?_of_perform {op : Op} {answer : Answer} {a b : Analyzer τ S} (hop : op ≠ .configure)
    (h : a.perform op = some (answer, b)) : (⟨op, answer, a, b⟩ : Deed τ S).response? = none := by
  cases performs_of_perform h with
  | configure _ => exact absurd rfl hop
  | _ => rfl

variable [Scripted τ C]

/-- **The deeds of a run**, as far as its operations return. -/
def deeds : List (Step C) → Analyzer τ S → List (Deed τ S)
  | [], _ => []
  | .call op :: rest, a =>
    a.deedsOf op ++ ((a.step (.call op : Step C)).map (deeds rest)).getD []
  | .cue cue :: rest, a => deeds rest (a.cued cue)

omit [Transport τ (Handler StreamFormat)] [SampleSink S] in
lemma lastResponse_concat (ds : List (Deed τ S)) (d : Deed τ S) :
    lastResponse (ds ++ [d]) = d.response?.or (lastResponse ds) := by
  rw [lastResponse, lastResponse, List.filterMap_append]
  cases hresponse : d.response? <;> simp [hresponse]

omit [Scripted τ C] in
/-- **Acquiring is configuring and, if that succeeds, starting**, deed by deed. -/
lemma deedsOf_acquire (a : Analyzer τ S) : a.deedsOf .acquire =
    match a.configure with
    | none => []
    | some (.error error, b) => [⟨.configure, .configured (.error error), a, b⟩]
    | some (.ok response, b) =>
      ⟨.configure, .configured (.ok response), a, b⟩ :: (b.deed .start).toList := by
  rw [deedsOf, deed, perform]
  rcases a.configure with - | ⟨result, b⟩
  · rfl
  · cases result <;> rfl

/-- **Deeds are governed by a law** about a deed and those before it, as long as a property of the
analyzer holds, which deeds keep. -/
structure Governed (I : List (Deed τ S) → Analyzer τ S → Prop)
    (law : List (Deed τ S) → Deed τ S → Prop) : Prop where
  each : ∀ {ds a op answer b}, op ≠ .acquire → I ds a → a.perform op = some (answer, b) →
    law ds ⟨op, answer, a, b⟩ ∧ I (ds ++ [⟨op, answer, a, b⟩]) b

namespace Governed

variable {I : List (Deed τ S) → Analyzer τ S → Prop} {law : List (Deed τ S) → Deed τ S → Prop}
  {ds : List (Deed τ S)} {a b : Analyzer τ S}

omit [Scripted τ C] in
/-- A deed adds itself to the history. -/
lemma concat (h : Governed I law) (op : Op) (answer : Answer) (hop : op ≠ .acquire)
    (ha : I ds a) (hds : Historic law ds) (hrun : a.perform op = some (answer, b)) :
    Historic law (ds ++ [⟨op, answer, a, b⟩]) ∧ I (ds ++ [⟨op, answer, a, b⟩]) b :=
  have hdeed := h.each hop ha hrun
  ⟨hds.concat hdeed.1, hdeed.2⟩

omit [Scripted τ C] in
/-- The deeds of an operation keep the law, also if it does not return in the end. -/
lemma deedsOf (h : Governed I law) (op : Op) (ha : I ds a) (hds : Historic law ds) :
    Historic law (ds ++ a.deedsOf op) ∧
      ∀ answer b, a.perform op = some (answer, b) → I (ds ++ a.deedsOf op) b := by
  by_cases hop : op = .acquire
  · subst hop
    rw [deedsOf_acquire]
    simp only [perform, Option.map_eq_some_iff, Prod.exists, Prod.mk.injEq]
    have hpiece {result : Except CaptureError ConfigureResponse} {c : Analyzer τ S}
        (hconf : a.configure = some (result, c)) :=
      h.concat .configure (.configured result) (by simp) ha hds
        (by rw [perform, hconf]; rfl : a.perform .configure = some (.configured result, c))
    rcases hconf : a.configure with - | ⟨result, c⟩
    · refine ⟨by simpa using hds, ?_⟩
      rintro answer b ⟨r, d, hacquire, -, -⟩
      rw [acquire, hconf] at hacquire
      cases hacquire
    · cases result with
      | error error =>
          refine ⟨(hpiece hconf).1, ?_⟩
          rintro answer b ⟨r, d, hacquire, -, rfl⟩
          rcases acquire_eq_some.mp hacquire with ⟨e, hsame, -⟩ | ⟨response, d', hsame, -⟩
          · cases hconf.symm.trans hsame
            exact (hpiece hconf).2
          · cases hconf.symm.trans hsame
      | ok response =>
          have hstart {r : Except CaptureError Unit} {d : Analyzer τ S}
              (hrun : c.start = some (r, d)) :=
            h.concat .start (.done r) (by simp) (hpiece hconf).2 (hpiece hconf).1
              (by rw [perform, hrun]; rfl : c.perform .start = some (.done r, d))
          dsimp only
          rw [Analyzer.deed, perform]
          rcases hrun : c.start with - | ⟨r, d⟩
          · refine ⟨(hpiece hconf).1, ?_⟩
            rintro answer b ⟨r, d, hacquire, -, -⟩
            rcases acquire_eq_some.mp hacquire with ⟨e, hsame, -⟩ | ⟨response', d', hsame, hno⟩
            · cases hconf.symm.trans hsame
            · cases hconf.symm.trans hsame
              cases hrun.symm.trans hno
          · have hboth := hstart hrun
            rw [List.append_assoc] at hboth
            refine ⟨hboth.1, ?_⟩
            rintro answer b ⟨r', d', hacquire, -, rfl⟩
            rcases acquire_eq_some.mp hacquire with ⟨e, hsame, -⟩ | ⟨response', e, hsame, hend⟩
            · cases hconf.symm.trans hsame
            · cases hconf.symm.trans hsame
              cases hrun.symm.trans hend
              exact hboth.2
  · have hsingle : a.deedsOf op = (a.deed op).toList := by
      cases op <;> first | rfl | exact absurd rfl hop
    rw [hsingle, Analyzer.deed]
    rcases hrun : a.perform op with - | ⟨answer, b⟩
    · refine ⟨by simpa using hds, ?_⟩
      rintro answer b hno
      cases hno
    · have hboth := h.concat op answer hop ha hds hrun
      refine ⟨hboth.1, ?_⟩
      rintro answer' b' hsame
      cases hsame
      exact hboth.2

omit [Scripted τ C] in
/-- Two laws at once. -/
lemma and {I' : List (Deed τ S) → Analyzer τ S → Prop}
    {law' : List (Deed τ S) → Deed τ S → Prop} (h : Governed I law) (h' : Governed I' law') :
    Governed (fun ds a => I ds a ∧ I' ds a) (fun ds d => law ds d ∧ law' ds d) where
  each hop ha hrun :=
    have hfirst := h.each hop ha.1 hrun
    have hsecond := h'.each hop ha.2 hrun
    ⟨⟨hfirst.1, hsecond.1⟩, hfirst.2, hsecond.2⟩

/-- **The law holds in every run**, and so does the property when it returns. -/
theorem run (h : Governed I law) (hcue : ∀ {ds a} (cue : C), I ds a → I ds (a.cued cue))
    (steps : List (Step C)) (ha : I ds a) (hds : Historic law ds) :
    Historic law (ds ++ deeds steps a) ∧
      ∀ b, Analyzer.run steps a = some b → I (ds ++ deeds steps a) b := by
  induction steps generalizing ds a with
  | nil =>
      rw [deeds, List.append_nil]
      refine ⟨hds, ?_⟩
      rintro b hsame
      cases hsame
      exact ha
  | cons s rest ih =>
      cases s with
      | cue cue => exact ih (hcue cue ha) hds
      | call op =>
          rw [deeds, ← List.append_assoc]
          have hop := h.deedsOf op ha hds
          rcases hstep : a.step (.call op : Step C) with - | b
          · rw [Option.map_none, Option.getD_none, List.append_nil]
            refine ⟨hop.1, ?_⟩
            rintro b hno
            rw [Analyzer.run, hstep] at hno
            cases hno
          · obtain ⟨⟨answer, b'⟩, hrun, rfl⟩ := Option.map_eq_some_iff.mp hstep
            have hrest := ih (hop.2 answer b' hrun) hop.1
            rw [Option.map_some, Option.getD_some]
            refine ⟨hrest.1, ?_⟩
            intro c hc
            rw [Analyzer.run, hstep] at hc
            exact hrest.2 c hc

end Governed

end Analyzer

end LogicCapture
