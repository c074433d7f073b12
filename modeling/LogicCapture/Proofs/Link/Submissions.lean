/-
What the calls on a link have in common, and what is submitted.

* `HostStack.Call.isPassive`: calls that submit nothing, and neither claim an interface nor give one
  back;
* `DeviceLink.Abides`: the calls since then keep a law, and so will the resubmissions of what the
  link keeps for slots;
* `DeviceLink.passive_abides`: what submits nothing keeps a law that all passive calls keep;
* `HostStack.Submission.Obeys`: submissions of certain commands, and of certain bulk transfers;
* `DeviceLink.vetted_obeys`: a link on which nothing else is to be submitted has submitted nothing
  else.
-/
import LogicCapture.Proofs.Analyzer.Vetted
import LogicCapture.Proofs.Link.Custody
import LogicCapture.Proofs.Wire.Packet

namespace LogicCapture

variable {κ ω H S : Type}

/-- The call neither submits anything nor claims an interface or gives one back. -/
def HostStack.Call.isPassive : HostStack.Call → Bool
  | alloc _ | free _ | cancel _ _ | events _ _ | complete _ _ => true
  | _ => false

open HostStack (Call Submission)

/-! ### Laws of calls -/

namespace DeviceLink

/-- **The calls keep a law** since they were these, and whatever their buffers are then, the
transfers of slots may be submitted again. -/
structure Abides (law : Call → Prop) (base : List Call) (l : DeviceLink (Handler κ)) : Prop where
  renewable : ∀ o ∈ l.owned, o.handler.key.isSome = true →
    ∀ buffer code, law (.submit { o.submission with buffer } code)
  since : ∃ more, l.stack.calls = base ++ more ∧ ∀ call ∈ more, law call

namespace Abides

variable {law : Call → Prop} {base : List Call} {l l' : DeviceLink (Handler κ)}

/-- If the law has been kept from the beginning, all calls keep it. -/
lemma all (h : l.Abides law []) : ∀ call ∈ l.stack.calls, law call := by
  obtain ⟨calls, hcalls, hlawful⟩ := h.since
  rwa [hcalls, List.nil_append]

/-- Only the calls and the transfers matter to it. -/
lemma congr (h : l.Abides law base) (hcalls : l'.stack.calls = l.stack.calls)
    (howned : l'.owned = l.owned) : l'.Abides law base := by
  obtain ⟨hrenewable, hsince⟩ := h
  exact ⟨by rwa [howned], by rwa [hcalls]⟩

/-- More calls that keep the law leave it so. -/
lemma extend (h : l.Abides law base) {more : List Call}
    (hcalls : l'.stack.calls = l.stack.calls ++ more) (hmore : ∀ call ∈ more, law call)
    (howned : ∀ o ∈ l'.owned, o ∈ l.owned ∨ (o.handler.key.isSome = true →
      ∀ buffer code, law (.submit { o.submission with buffer } code))) : l'.Abides law base := by
  obtain ⟨before, hbefore, hlawful⟩ := h.since
  refine ⟨fun o ho => (howned o ho).elim (h.renewable o) id, before ++ more, ?_, ?_⟩
  · rw [hcalls, hbefore, List.append_assoc]
  · exact fun call hcall => (List.mem_append.mp hcall).elim (hlawful call) (hmore call)

/-- So does a single one that changes nothing of the transfers. -/
lemma note (h : l.Abides law base) {call : Call} {stack : HostStack}
    (hcalls : stack.calls = l.stack.calls ++ [call]) (hcall : law call) :
    Abides law base { l with stack } :=
  h.extend hcalls (by simpa using hcall) fun _ ho => Or.inl ho

/-- So does a submission that keeps the law, if it is no slot's or may be repeated. -/
lemma submit (h : l.Abides law base) {id : TransferId} {request : TransferRequest}
    {handler : Handler κ} (hlaw : ∀ code, law (.submit (submission id request) code))
    (hagain : handler.key.isSome = true →
      ∀ buffer code, law (.submit { submission id request with buffer } code)) :
    (l.submit id request handler).2.Abides law base := by
  rcases hsubmit : l.submit id request handler with ⟨result, l'⟩
  obtain ⟨-, rfl⟩ | ⟨code, stack, -, hstack, ⟨-, -, rfl⟩ | ⟨-, -, rfl⟩⟩ := submit_cases hsubmit
  · exact h
  · exact (h.note (HostStack.submit_cases hstack).1 (hlaw code)).congr
      (congrArg HostStack.calls (stack_noteError _ _)) (owned_noteError _ _)
  · refine h.extend (HostStack.submit_cases hstack).1 (by simpa using hlaw code) ?_
    intro o ho
    rcases List.mem_append.mp ho with ho | ho
    · exact Or.inl ho
    · rw [List.mem_singleton.mp ho]
      exact Or.inr hagain

lemma claim (h : l.Abides law base) {interface : UInt8}
    (hlaw : ∀ code, law (.claim interface code)) : (l.claim interface).2.Abides law base := by
  obtain ⟨code, stack, hclaim, hstack, howned, -⟩ := claim_cases l interface
  refine (h.note (HostStack.claim_cases hclaim).1 (hlaw code)).congr ?_ howned
  rw [hstack]

lemma release (h : l.Abides law base) {interface : UInt8}
    (hlaw : ∀ code, law (.release interface code)) : (l.release interface).2.Abides law base := by
  obtain ⟨code, stack, hrelease, hstack, howned, -⟩ := release_cases l interface
  refine (h.note (HostStack.release_cases hrelease).1 (hlaw code)).congr ?_ howned
  rw [hstack]

end Abides

end DeviceLink

/-- **Completions keep a law** that is kept by passive calls. -/
lemma Course.abides_step [Consumer κ ω] {c c' : Course (Handler κ) (Host ω)} {law : Call → Prop}
    {base : List Call} (hpassive : ∀ call : Call, call.isPassive = true → law call)
    (hstep : Step Handler.react c c') (h : c.link.Abides law base) : c'.link.Abides law base := by
  have hforget (l : DeviceLink (Handler κ)) (settled : HostStack.Settled)
      (h : l.Abides law base) : ((l.told settled).forget settled.id).Abides law base := by
    refine h.extend (DeviceLink.calls_told l settled) (by simpa using hpassive _ rfl) ?_
    intro o ho
    rw [DeviceLink.owned_forget_told] at ho
    exact Or.inl (List.mem_filter.mp ho).1
  -- only transfers of slots are armed again
  have hrenewed {l : DeviceLink (Handler κ)} {settled : HostStack.Settled}
      {t : DeviceLink.Owned (Handler κ)} {s s' : Host ω} {rearm : Rearm} {handler : Handler κ}
      (h : l.Abides law base) (hfind : l.awaiting settled.id = some t)
      (hreact : t.handler.react (t.completion settled) s = (rearm, handler, s'))
      (hhon : rearm.honoured (.ofCode settled.status) = true) (buffer : Bytes) (code : Int) :
      law (.submit { t.filled settled with buffer } code) := by
    have hhon' : (t.handler.react (t.completion settled) s).1.honoured
        (t.completion settled).status = true := by rwa [hreact]
    obtain ⟨key, hkey⟩ := Handler.key_of_honoured hhon'
    exact h.renewable t (DeviceLink.mem_of_awaiting hfind).1 (by simp [hkey]) buffer code
  cases hstep with
  | @strayed settled rest l s _ =>
      show (l.heard settled).Abides law base
      exact h.note rfl (hpassive _ rfl)
  | @ended settled rest l s => exact hforget l settled h
  | @rearmed settled rest l s t rearm handler s' stack hfind hreact hhon hsubmit =>
      have hlaw := hrenewed h hfind hreact hhon
      refine (hforget l settled h).extend (HostStack.submit_cases hsubmit).1
        (by simpa using hlaw (t.filled settled).buffer 0) ?_
      intro o ho
      rcases List.mem_append.mp ho with ho | ho
      · exact Or.inl ho
      · rw [List.mem_singleton.mp ho]
        exact Or.inr fun _ => hlaw
  | @refused settled rest l s t rearm handler s' code stack _ _ _ hfind hreact hhon hsubmit =>
      have hlaw := hrenewed h hfind hreact hhon (t.filled settled).buffer code
      exact ((hforget l settled h).note (HostStack.submit_cases hsubmit).1 hlaw).congr
        (congrArg HostStack.calls (DeviceLink.stack_noteError _ _)) (DeviceLink.owned_noteError _ _)

/-- **What submits nothing keeps a law** that is kept by passive calls. -/
theorem DeviceLink.passive_abides [Consumer κ ω] {law : Call → Prop} (base : List Call)
    (hpassive : ∀ call : Call, call.isPassive = true → law call) :
    Transport.Passive ω (Abides law base : DeviceLink (Handler κ) → Prop) where
  alloc {l} h := by
    rcases halloc : l.alloc with ⟨result, l'⟩
    obtain ⟨answer, stack, hstack, rfl, -⟩ := alloc_cases halloc
    have hafter := h.note (HostStack.alloc_cases hstack).1 (hpassive _ rfl)
    exact congrArg Prod.snd halloc ▸ hafter
  cancel {l} id h := by
    rcases hcancel : l.cancel id with ⟨result, l'⟩
    have hafter : l'.Abides law base := by
      obtain rfl | ⟨code, stack, -, hstack, rfl⟩ := cancel_cases hcancel
      · exact h
      · exact h.note (HostStack.cancel_cases hstack).1 (hpassive _ rfl)
    exact congrArg Prod.snd hcancel ▸ hafter
  free {l} id h := by
    have hafter : (l.free id).Abides law base := by
      obtain ⟨-, hfree⟩ | ⟨-, hfree⟩ := l.free_cases id
      · rwa [hfree]
      · rw [hfree]
        exact h.note rfl (hpassive _ rfl)
    exact hafter
  events {s} ms h := by
    refine events_induction ms ?_ (Course.abides_step hpassive) fun code h => ?_
    · rcases hpoll : s.transport.stack.poll ms with ⟨code, settled, stack⟩
      rw [polled, hpoll]
      exact h.note (HostStack.poll_cases hpoll).1 (hpassive _ rfl)
    · exact h.congr (congrArg HostStack.calls (stack_closed _ code)) (owned_closed _ code)

/-! ### What is submitted -/

/-- The call submits a transfer. -/
def HostStack.Call.isSubmission : Call → Bool
  | submit _ _ => true
  | _ => false

/-- The submission sends the device a command. -/
structure HostStack.Submission.Sends (t : Submission) (packet : CommandPacket) : Prop where
  control : t.kind = .control
  toDevice : t.direction = .toDevice
  decoded : CommandPacket.decode (t.buffer.drop SetupHeader.size) = .ok packet

/-- **The submission is one of these**: what it sends is such a command, or it is a bulk transfer
with such an id and length. -/
def HostStack.Submission.Obeys (packets : CommandPacket → Prop) (bulk : TransferId → Nat → Prop)
    (t : Submission) : Prop :=
  match t.kind with
  | .bulkIn _ => bulk t.id t.length
  | .control => t.direction = .toDevice → ∃ packet, t.Sends packet ∧ packets packet

/-- What the call submits, if it submits anything, is one of these. -/
def HostStack.Call.Obeys (packets : CommandPacket → Prop) (bulk : TransferId → Nat → Prop) :
    Call → Prop
  | submit t _ => t.Obeys packets bulk
  | _ => True

section
variable {packets packets' : CommandPacket → Prop} {bulk bulk' : TransferId → Nat → Prop}

lemma HostStack.Submission.Sends.unique {t : Submission} {packet packet' : CommandPacket}
    (h : t.Sends packet) (h' : t.Sends packet') : packet' = packet :=
  Except.ok.inj (h'.decoded.symm.trans h.decoded)

/-- Whatever is sent by such a submission is such a command. -/
lemma HostStack.Submission.Obeys.of_sends {t : Submission} {packet : CommandPacket}
    (h : t.Obeys packets bulk) (hsends : t.Sends packet) : packets packet := by
  rw [Obeys, hsends.control] at h
  obtain ⟨sent, hsent, hpacket⟩ := h hsends.toDevice
  exact hsends.unique hsent ▸ hpacket

lemma HostStack.Call.Obeys.mono {call : Call} (h : call.Obeys packets bulk)
    (hpackets : ∀ packet, packets packet → packets' packet)
    (hbulk : ∀ id length, bulk id length → bulk' id length) : call.Obeys packets' bulk' := by
  cases call with
  | submit t code =>
      rw [Obeys, Submission.Obeys] at h ⊢
      split at h
      · exact hbulk _ _ h
      · intro hsent
        obtain ⟨packet, hsends, hpacket⟩ := h hsent
        exact ⟨packet, hsends, hpackets packet hpacket⟩
  | _ => trivial

/-- Calls that submit nothing are not concerned. -/
lemma HostStack.Call.obeys_of_not_isSubmission {call : Call} (h : call.isSubmission = false) :
    call.Obeys packets bulk := by
  cases call with
  | submit t code => cases h
  | _ => trivial

end

/-- The direction of a control transfer is that of its data stage. -/
lemma HostStack.Submission.direction_command (id : TransferId) (request : UInt8)
    (value index : UInt16) (data : ControlData) (ms : Nat) :
    (DeviceLink.submission id ⟨.control, Session.controlBuffer
      (Session.vendorSetup request value index data) data, ms⟩).direction = data.direction := by
  have hhead : (Session.controlBuffer (Session.vendorSetup request value index data) data).headD 0 =
      data.direction.vendorRequestType := by
    cases data <;> rfl
  rw [direction, DeviceLink.submission]
  dsimp only
  rw [hhead, Direction.ofRequestType_vendorRequestType]

/-- A control transfer whose data stage is a packet sends the packet. -/
lemma HostStack.Submission.sends_command (id : TransferId) (request : UInt8) (value index : UInt16)
    (packet : CommandPacket) (ms : Nat) : (DeviceLink.submission id ⟨.control,
      Session.controlBuffer (Session.vendorSetup request value index (.send packet.encode))
        (.send packet.encode), ms⟩).Sends packet where
  control := rfl
  toDevice := direction_command id request value index (.send packet.encode) ms
  decoded := by
    have hbuffer : (DeviceLink.submission id ⟨.control, Session.controlBuffer
        (Session.vendorSetup request value index (.send packet.encode)) (.send packet.encode),
          ms⟩).buffer.drop SetupHeader.size = packet.encode := List.drop_left' (by simp)
    rw [hbuffer, CommandPacket.decode_encode]

/-- **If nothing else is to be submitted than such commands and bulk transfers**, nothing else has
been. -/
theorem DeviceLink.vetted_obeys [Consumer κ ω] (packets : CommandPacket → Prop)
    (bulk : TransferId → Nat → Prop) (base : List Call) :
    Transport.Vetted ω packets bulk
      (Abides (Call.Obeys packets bulk) base : DeviceLink (Handler κ) → Prop) where
  toPassive := passive_abides base fun call hcall => by
    cases call <;> trivial
  send h hpacket :=
    Abides.submit h (fun _ _ => ⟨_, Submission.sends_command _ _ _ _ _ _, hpacket⟩)
      fun hno => by cases hno
  receive {l id request value index buffer ms ticket} h := by
    refine Abides.submit h (fun code hsent => ?_) fun hno => by cases hno
    rw [Submission.direction_command] at hsent
    cases hsent
  slot h hbulk := Abides.submit h (fun _ => hbulk) fun _ _ _ => hbulk
  claim _ h := h.claim fun _ => trivial
  release _ h := h.release fun _ => trivial

end LogicCapture
