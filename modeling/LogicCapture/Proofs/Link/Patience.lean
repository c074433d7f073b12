/-
Waiting on a link comes to an end: the stack cannot go on for ever without a transfer completing,
and every completion uses something up.

* `HostStack.slack`: the event passes that a stack may still take before it gives up;
* `HostStack.poll_slack`, `DeviceLink.slack_events`: every pass leaves fewer, or the stack gives up;
* `Session.await_isSome`, `Session.controlTransfer_isSome`, `Session.execute_isSome`: control
  transfers and commands over a link return.
-/
import LogicCapture.Proofs.Link.Loss

namespace LogicCapture

variable {κ ω : Type}

namespace HostStack

/-! ### What is left to happen on a stack -/

/-- What completions use up: replies and arrivals laid down, and transfers in flight. -/
def load (s : HostStack) : Nat := s.bulkReplies.length + s.arrivals.length + s.inFlight.length

/-- The passes that the stack may still take: one for every scripted code, the idle ones until it
gives up, and as many again for everything that a completion uses up. -/
def slack (s : HostStack) : Nat :=
  s.eventCodes.length + s.load * (idleLimit + 1) + (idleLimit - s.idlePasses)

variable {s s' : HostStack} {code : Int}

/-- A submission adds one transfer at most. -/
lemma slack_submit {t : Submission} (h : s.submit t = (code, s')) :
    s'.slack ≤ s.slack + (idleLimit + 1) ∧ (code ≠ 0 → s'.slack = s.slack) := by
  rw [submit] at h
  dsimp only at h
  split at h
  · cases h
    exact ⟨Nat.le_add_right _ _, fun _ => rfl⟩
  · rename_i hcode
    split at h
    all_goals
      cases h
      refine ⟨?_, fun hno => absurd hno hcode⟩
      simp only [slack, load, note, List.length_append, List.length_singleton, idleLimit]
      omega

/-- A completion that may lead to another submission: `bulk` tells for which transfers. -/
def mayReturn (bulk : TransferId → Bool) (settled : Settled) : Bool :=
  bulk settled.id && (TransferStatus.ofCode settled.status).allowsResubmit

variable {bulk : TransferId → Bool}

/-- Only the completion of a bulk transfer that has a reply may lead to another submission. -/
lemma settle_countP {t : InFlight} {replies replies' : List Reply} {ending : Option Settled}
    (h : settle t replies = (ending, replies'))
    (hbulk : bulk t.submission.id = true → t.submission.kind.isBulk = true) :
    ending.toList.countP (mayReturn bulk) + replies'.length ≤ replies.length := by
  rw [settle] at h
  split at h
  · cases h
    simp [mayReturn, TransferStatus.ofCode, TransferStatus.allowsResubmit]
  · split at h
    · rename_i hkind
      cases h
      cases hreply : t.reply with
      | none => simp
      | some reply =>
          have hno : bulk t.submission.id = false := by
            rw [← Bool.not_eq_true]
            intro hyes
            have hisBulk := hbulk hyes
            simp [hkind, TransferKind.isBulk] at hisBulk
          simp [mayReturn, Submission.settle, hno]
    · cases h
      cases replies with
      | nil => simp
      | cons reply rest =>
          have hone := List.countP_le_length (p := mayReturn bulk)
            (l := [t.submission.settle reply])
          simp only [List.head?_cons, Option.map_some, Option.toList_some, List.tail_cons,
            List.length_cons, List.length_nil] at hone ⊢
          omega

/-- So it is for all transfers together. -/
lemma settleAll_countP {ts staying : List InFlight} {replies replies' : List Reply}
    {settled : List Settled} (h : settleAll ts replies = (settled, staying, replies'))
    (hbulk : ∀ t ∈ ts, bulk t.submission.id = true → t.submission.kind.isBulk = true) :
    settled.countP (mayReturn bulk) + replies'.length ≤ replies.length := by
  replace h := settling_of_settleAll h
  induction h with
  | nil => simp
  | ended hsettle _ ih =>
      have hfirst := settle_countP hsettle (hbulk _ List.mem_cons_self)
      have hrest := ih fun t ht => hbulk t (List.mem_cons_of_mem _ ht)
      rw [Option.toList_some, List.countP_singleton] at hfirst
      rw [List.countP_cons]
      omega
  | stays hsettle _ ih =>
      have hfirst := settle_countP hsettle (hbulk _ List.mem_cons_self)
      have hrest := ih fun t ht => hbulk t (List.mem_cons_of_mem _ ht)
      rw [Option.toList_none, List.countP_nil] at hfirst
      omega

/-- **What a pass settles is used up**, even if all that may return does return. -/
lemma settleNext_load {staying : List InFlight} {replies : List Reply} {settled : List Settled}
    (h : s.settleNext = (settled, staying, replies))
    (hbulk : ∀ t ∈ s.inFlight, bulk t.submission.id = true → t.submission.kind.isBulk = true) :
    settled.countP (mayReturn bulk) + replies.length + s.arrivals.tail.length + staying.length ≤
        s.load ∧
      (settled ≠ [] → settled.countP (mayReturn bulk) + replies.length + s.arrivals.tail.length +
        staying.length < s.load) := by
  have hlengths := (settleNext_perm h).1.length_eq
  simp only [List.length_append, List.length_map] at hlengths
  have hcount := List.countP_le_length (p := mayReturn bulk) (l := settled)
  have hsome : settled ≠ [] → 0 < settled.length := List.length_pos_iff.mpr
  rw [settleNext] at h
  cases harrivals : s.arrivals with
  | nil =>
      rw [harrivals] at h
      have hreplies := settleAll_countP h hbulk
      simp only [load, harrivals, List.tail_nil, List.length_nil]
      exact ⟨by omega, fun hne => by have := hsome hne; omega⟩
  | cons arrivals rest =>
      rw [harrivals] at h
      obtain ⟨-, hrest⟩ := Prod.mk.inj h
      obtain ⟨-, rfl⟩ := Prod.mk.inj hrest
      simp only [load, harrivals, List.tail_cons, List.length_cons]
      exact ⟨by omega, fun hne => by have := hsome hne; omega⟩

/-- **A pass leaves fewer passes**, even if all that may return does return, or the stack gives
up. -/
theorem poll_slack {ms : Nat} {settled : List Settled} (h : s.poll ms = (code, settled, s'))
    (hbulk : ∀ t ∈ s.inFlight, bulk t.submission.id = true → t.submission.kind.isBulk = true) :
    code = idleCode ∨
      s'.slack + settled.countP (mayReturn bulk) * (idleLimit + 1) < s.slack := by
  rw [poll] at h
  dsimp only at h
  split at h
  · rename_i hscripted
    cases h
    right
    have hcodes : s.eventCodes.tail.length < s.eventCodes.length := by
      cases hqueue : s.eventCodes with
      | nil => exact absurd (by rw [hqueue]; rfl) hscripted
      | cons code rest => exact Nat.lt_succ_self _
    simp only [slack, load, note, List.countP_nil]
    omega
  · rcases hset : ({ s with eventCodes := s.eventCodes.tail } : HostStack).settleNext with
      ⟨settled₁, staying, replies⟩
    rw [hset] at h
    cases h
    obtain ⟨hload, hless⟩ := settleNext_load hset hbulk
    have hcodes := List.length_tail (l := s.eventCodes)
    simp only [slack, load, note, idleLimit, idleCode] at hload hless ⊢
    cases settled₁ with
    | nil =>
        simp only [List.isEmpty_nil, if_true]
        split
        · exact Or.inl rfl
        · rename_i hidle
          right
          simp only [List.countP_nil] at hload ⊢
          omega
    | cons ended rest =>
        right
        have hstrict := hless (List.cons_ne_nil _ _)
        simp only [List.isEmpty_cons]
        omega

end HostStack

open HostStack (mayReturn)

/-! ### Completions on the link -/

namespace DeviceLink

/-- The transfers whose handlers are those of slots. -/
def slotted (l : DeviceLink (Handler κ)) (id : TransferId) : Bool :=
  l.owned.any fun o => o.submission.id = id && o.handler.key.isSome

lemma slotted_of_mem {l : DeviceLink (Handler κ)} {o : Owned (Handler κ)} (ho : o ∈ l.owned)
    (hkey : o.handler.key.isSome = true) : l.slotted o.submission.id = true :=
  List.any_eq_true.mpr ⟨o, ho, by simp [hkey]⟩

/-- On an exact and alert link, the stack carries bulk transfers for slots. -/
lemma isBulk_of_slotted {l : DeviceLink (Handler κ)} (hexact : l.Exact []) (halert : l.Alert)
    {t : HostStack.InFlight} (ht : t ∈ l.stack.inFlight)
    (hslot : l.slotted t.submission.id = true) : t.submission.kind.isBulk = true := by
  obtain ⟨o, ho, hsame⟩ := hexact.alive t.submission (List.mem_map_of_mem ht)
  obtain ⟨o', ho', hid⟩ := List.any_eq_true.mp hslot
  obtain ⟨hid, hkey⟩ := by simpa using hid
  have heq : o' = o := List.inj_on_of_nodup_map hexact.ids ho' ho (hid.trans (hsame ▸ rfl))
  subst heq
  exact hsame ▸ halert.bulk o' ho hkey

end DeviceLink

namespace Course

variable [Consumer κ ω] {c c' : Course (Handler κ) (Host ω)}

/-- The passes that the stack may still take, if every completion that may lead to another
submission does so. -/
def slack (bulk : TransferId → Bool) (c : Course (Handler κ) (Host ω)) : Nat :=
  c.link.stack.slack + c.queue.countP (mayReturn bulk) * (HostStack.idleLimit + 1)

/-- The transfers whose handlers are those of slots are among these. -/
def Ranked (bulk : TransferId → Bool) (c : Course (Handler κ) (Host ω)) : Prop :=
  ∀ o ∈ c.link.owned, o.handler.key.isSome = true → bulk o.submission.id = true

/-- **No completion adds to the passes.** -/
theorem slack_step {bulk : TransferId → Bool} (hstep : Step Handler.react c c')
    (h : c.Ranked bulk) : c'.Ranked bulk ∧ c'.slack bulk ≤ c.slack bulk := by
  have htold (l : DeviceLink (Handler κ)) (settled : HostStack.Settled) :
      (l.told settled).stack.slack = l.stack.slack := by
    rw [DeviceLink.stack_told]
    rfl
  have hforget (l : DeviceLink (Handler κ)) (settled : HostStack.Settled)
      {o : DeviceLink.Owned (Handler κ)} (ho : o ∈ ((l.told settled).forget settled.id).owned) :
      o ∈ l.owned := by
    rw [DeviceLink.owned_forget_told] at ho
    exact (List.mem_filter.mp ho).1
  have hqueue (settled : HostStack.Settled) (rest : List HostStack.Settled) :
      rest.countP (mayReturn bulk) ≤ (settled :: rest).countP (mayReturn bulk) := by
    rw [List.countP_cons]
    exact Nat.le_add_right _ _
  cases hstep with
  | @strayed settled rest l s _ =>
      exact ⟨h, Nat.add_le_add_left (Nat.mul_le_mul_right _ (hqueue settled rest)) _⟩
  | @ended settled rest l s t rearm handler s' _ _ _ =>
      refine ⟨fun o ho => h o (hforget l settled ho), ?_⟩
      have hstack : ((l.told settled).forget settled.id).stack.slack = l.stack.slack :=
        htold l settled
      rw [slack, slack, hstack]
      exact Nat.add_le_add_left (Nat.mul_le_mul_right _ (hqueue settled rest)) _
  | @rearmed settled rest l s t rearm handler s' stack hfind hreact hhon hsubmit =>
      obtain ⟨ht, hid⟩ := DeviceLink.mem_of_awaiting hfind
      have hkey := Handler.key_react t.handler (t.completion settled) s
      rw [hreact] at hkey
      have hhon' : (t.handler.react (t.completion settled) s).1.honoured
          (t.completion settled).status = true := by rwa [hreact]
      obtain ⟨key, hslot⟩ := Handler.key_of_honoured hhon'
      have hslot : t.handler.key.isSome = true := by rw [hslot]; rfl
      have hmem {o : DeviceLink.Owned (Handler κ)}
          (ho : o ∈ ((l.told settled).forget settled.id).owned ++ [⟨t.filled settled, handler⟩]) :
          o ∈ l.owned ∨ o = ⟨t.filled settled, handler⟩ := by
        rcases List.mem_append.mp ho with ho | ho
        · exact Or.inl (hforget l settled ho)
        · exact Or.inr (List.mem_singleton.mp ho)
      refine ⟨fun o ho hsome => ?_, ?_⟩
      · rcases hmem ho with ho | rfl
        · exact h o ho hsome
        · exact h t ht hslot
      · have hreturn : mayReturn bulk settled = true := by
          have hallowed : (TransferStatus.ofCode settled.status).allowsResubmit = true := by
            simp only [Rearm.honoured, Bool.and_eq_true] at hhon
            exact hhon.2
          rw [mayReturn, hallowed, ← hid, h t ht hslot]
          rfl
        obtain ⟨hadd, -⟩ := HostStack.slack_submit hsubmit
        rw [htold l settled] at hadd
        show stack.slack + _ ≤ _
        rw [slack, List.countP_cons, if_pos hreturn, Nat.add_mul]
        simp only [HostStack.idleLimit] at hadd ⊢
        omega
  | @refused settled rest l s t rearm handler s' code stack _ _ _ _ _ _ hsubmit hcode _ =>
      have howned : (({ (l.told settled).forget settled.id with stack } :
          DeviceLink (Handler κ)).noteError (.ofCode code)).owned =
            ((l.told settled).forget settled.id).owned := DeviceLink.owned_noteError _ _
      refine ⟨fun o ho => h o (hforget l settled (howned ▸ ho)), ?_⟩
      have hsame := (HostStack.slack_submit hsubmit).2 hcode
      rw [slack, slack, DeviceLink.stack_noteError, hsame, htold l settled]
      exact Nat.add_le_add_left (Nat.mul_le_mul_right _ (hqueue settled rest)) _

end Course

namespace DeviceLink

variable [Consumer κ ω] {l : DeviceLink (Handler κ)}

/-- What a pass of a stack that gives up comes to. -/
def givenUp : UsbError := .ofStackCode HostStack.idleCode

/-- **Every event pass leaves fewer passes**, or the stack gives up in it. -/
theorem slack_events (hexact : l.Exact []) (halert : l.Alert) (ms : Nat) (host : Host ω) :
    let run := (l.events ms).run Handler.react host
    run.1 = .error givenUp ∨ run.2.1.stack.slack < l.stack.slack := by
  rcases hpoll : l.stack.poll ms with ⟨code, settled, stack⟩
  obtain ⟨l', host', hsteps, hrun⟩ := run_events Handler.react l ms host
  have hstart : l.polled ms host = ⟨settled, { l with stack }, host⟩ := by rw [polled, hpoll]
  have hranked : (l.polled ms host).Ranked l.slotted := by
    rw [hstart]
    exact fun o ho => slotted_of_mem ho
  obtain ⟨-, hslack⟩ := hsteps.induction
    (R := fun c => c.Ranked l.slotted ∧ c.slack l.slotted ≤ (l.polled ms host).slack l.slotted)
    (fun hstep hc => ⟨(Course.slack_step hstep hc.1).1,
      Nat.le_trans (Course.slack_step hstep hc.1).2 hc.2⟩) ⟨hranked, Nat.le_refl _⟩
  rw [hstart] at hslack
  simp only [hrun, hpoll, stack_closed]
  obtain hidle | hless := HostStack.poll_slack hpoll fun t ht => isBulk_of_slotted hexact halert ht
  · left
    rw [hidle]
    rfl
  · right
    simp only [Course.slack, List.countP_nil, Nat.zero_mul, Nat.add_zero] at hslack
    exact Nat.lt_of_le_of_lt hslack hless

/-- A caller is patient enough. -/
lemma slack_lt_patience (l : DeviceLink (Handler κ)) : l.stack.slack < l.patience := by
  simp only [HostStack.slack, HostStack.load, patience, HostStack.idleLimit]
  omega

end DeviceLink

/-! ### Waiting -/

namespace Session

variable [Consumer κ ω] {p : Pool} {s : Session (DeviceLink (Handler κ)) ω}

/-- Every event pass leaves fewer passes, or the stack gives up in it. -/
lemma slack_events (h : p.Alert s) (ms : Nat) : (s.events ms).1 = .error DeviceLink.givenUp ∨
    (s.events ms).2.transport.stack.slack < s.transport.stack.slack :=
  DeviceLink.slack_events h.linked.exact h.alert ms s.host

/-- A pass that does not fail for good leaves fewer passes: the stack has not given up in it. -/
lemma slack_lt_of_events {ms : Nat} {result : Except UsbError Unit}
    {s' : Session (DeviceLink (Handler κ)) ω} (h : p.Alert s) (hrun : s.events ms = (result, s'))
    (hgoes : ∀ error, result = .error error → error.isTransient = true) :
    s'.transport.stack.slack < s.transport.stack.slack := by
  have hslack := slack_events h ms
  rw [hrun] at hslack
  exact hslack.resolve_left fun hgiven => absurd (hgoes _ hgiven) (by decide)

/-- **Waiting for a transfer comes to an end.** -/
theorem await_isSome (h : p.Alert s) (id : TransferId) {passes : Nat}
    (hpasses : s.transport.stack.slack < passes) : (s.await id passes).isSome = true := by
  induction passes generalizing s with
  | zero => exact absurd hpasses (Nat.not_lt_zero _)
  | succ passes ih =>
      have hafter := Pool.upheld_alert.pass waitPassMs h
      rw [await]
      split
      · rfl
      · split
        · rfl
        · split
          · rfl
          · rcases hrun : s.events waitPassMs with ⟨result, s'⟩
            rw [hrun] at hafter
            have hrest (hgoes : ∀ error, result = .error error → error.isTransient = true) :
                (s'.await id passes).isSome = true :=
              ih hafter (Nat.lt_of_lt_of_le (slack_lt_of_events h hrun hgoes)
                (Nat.le_of_lt_succ hpasses))
            cases result with
            | ok _ => exact hrest (by simp)
            | error error =>
                dsimp only
                split
                · rename_i htransient
                  exact hrest (by simpa using htransient)
                · rfl

/-- **Control transfers over a link return.** -/
theorem controlTransfer_isSome (h : p.Alert s) (request : UInt8) (value index : UInt16)
    (data : ControlData) (ms : Nat) :
    (s.controlTransfer request value index data ms).isSome = true := by
  rw [controlTransfer]
  split
  · rfl
  · rename_i hfit
    split
    · rfl
    · rename_i id l halloc
      dsimp only
      split
      · rfl
      · rename_i l' hsubmit
        have hattached : Transport.attached s.transport = true := by
          rw [not_or] at hfit
          simpa using hfit.1
        have hsubmitted := Pool.upheld_alert.command h hattached halloc rfl hsubmit
        have hreturns := await_isSome hsubmitted id
          (Nat.lt_succ_of_lt (DeviceLink.slack_lt_patience l'))
        obtain ⟨⟨outcome, s'⟩, hwait⟩ := Option.isSome_iff_exists.mp hreturns
        have hwait' : Session.await id (Transport.patience l' + 1) ⟨l', s.host.expect⟩ =
          some (outcome, s') := hwait
        rw [hwait']
        rfl

/-- **Commands over a link return.** -/
theorem execute_isSome (h : p.Alert s) (packet : CommandPacket) (response : Option Bytes)
    (ms : Nat) : (s.execute packet response ms).isSome = true := by
  rw [execute]
  dsimp only
  generalize (response.filter fun buffer => !buffer.isEmpty) = wanted
  obtain ⟨⟨sent, s₁⟩, hsend⟩ := Option.isSome_iff_exists.mp
    (controlTransfer_isSome h Protocol.requestNumber Protocol.valueExecute
      (if wanted.isSome then 0 else Protocol.skipResponse) (.send packet.encode) ms)
  have h₁ : p.Alert s₁ := (Pool.upheld_alert.kept p).controlTransfer h hsend
  rw [hsend, Option.bind_eq_bind, Option.bind_some]
  dsimp only
  split
  · rfl
  · rfl
  · rename_i buffer _
    obtain ⟨⟨received, s₂⟩, hread⟩ := Option.isSome_iff_exists.mp
      (controlTransfer_isSome h₁ Protocol.requestNumber Protocol.valueExecute 0
        (.receive buffer) ms)
    rw [hread]
    rfl

end Session

end LogicCapture
