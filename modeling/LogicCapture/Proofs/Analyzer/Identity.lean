/-
The identity strings of a device on a bench.

* `Spells`: the text that a device's answer to a core command stands for; `existsUnique_spells`:
  each answer stands for one text;
* `spells_encode`: the bytes of a text, followed by a zero byte and anything, stand for that text;
* `Analyzer.Tells`: what the two control transfers of a core command come to;
* `Analyzer.identity_of_reachable`: version and serial number are read in just this way, and leave
  the analyzer as it is.
-/
import LogicCapture.Proofs.Analyzer.Starting
import LogicCapture.Proofs.Session.Calm
import LogicCapture.Proofs.Text.Utf8

namespace LogicCapture

variable {τ κ ω S : Type}

/-! ### Answers and their texts -/

/-- The bytes that an answer of the device brings. -/
def Bench.Reply.bytes : Reply → Bytes
  | respond data => data
  | status _ | reject _ | hang => []

/-- A read that succeeds has as many of them as fit into its buffer. -/
lemma Bench.Reply.take_of_result {reply : Reply} {buffer : Bytes} {received : ControlResult}
    {n : Nat} (h : reply.result (.receive buffer) = some received) (hok : received.result = .ok n) :
    received.bytes.take n = reply.bytes.take buffer.length := by
  cases reply with
  | respond data =>
      cases h
      cases hok
      have hlength : (data.take buffer.length).length = min data.length buffer.length := by
        rw [List.length_take, Nat.min_comm]
      exact List.take_left' hlength
  | status outcome =>
      cases h
      cases houtcome : outcome.toResult with
      | error error =>
          rw [houtcome] at hok
          cases hok
      | ok _ =>
          rw [houtcome] at hok
          cases hok
          show buffer.take 0 = [].take buffer.length
          rw [List.take_zero, List.take_nil]
  | reject error => cases h
  | hang => cases h

/-- **The text that an answer stands for**: what comes before the first zero byte among the first
128 bytes, read as UTF-8 with U+FFFD for each gap. -/
def Spells (answer : Bytes) (text : String) : Prop :=
  ∃ named rest, answer.take 128 = named ++ rest ∧ 0 ∉ named ∧ (rest = [] ∨ rest.head? = some 0) ∧
    text = Utf8.decodeLossy named

/-- A string goes on up to its first zero byte. -/
lemma takeWhile_eq_of_stops {named rest : Bytes} (hnamed : 0 ∉ named)
    (hstops : rest = [] ∨ rest.head? = some 0) : (named ++ rest).takeWhile (· ≠ 0) = named := by
  have hall : ∀ b ∈ named, decide (b ≠ 0) = true := fun b hb =>
    decide_eq_true fun hzero => hnamed (hzero ▸ hb)
  have hrest : rest.takeWhile (· ≠ 0) = [] := by
    cases rest with
    | nil => rfl
    | cons b rest =>
        obtain rfl : b = 0 := by simpa using hstops
        rfl
  rw [List.takeWhile_append_of_pos hall, hrest, List.append_nil]

lemma spells_iff {answer : Bytes} {text : String} :
    Spells answer text ↔ text = identityText (answer.take Protocol.maxStringLength) := by
  constructor
  · rintro ⟨named, rest, hanswer, hnamed, hstops, rfl⟩
    rw [identityText, Protocol.maxStringLength, hanswer, takeWhile_eq_of_stops hnamed hstops]
  · rintro rfl
    refine ⟨_, (answer.take 128).dropWhile (· ≠ 0), List.takeWhile_append_dropWhile.symm,
      fun hzero => ?_, ?_, rfl⟩
    · simpa using List.all_eq_true.mp List.all_takeWhile _ hzero
    · cases hrest : (answer.take 128).dropWhile (· ≠ 0) with
      | nil => exact Or.inl rfl
      | cons b rest =>
          have hb := List.head?_dropWhile_not (fun b : UInt8 => decide (b ≠ 0)) (answer.take 128)
          rw [hrest] at hb
          exact Or.inr (congrArg some (by simpa using hb))

/-- **Every answer stands for one text.** -/
lemma existsUnique_spells (answer : Bytes) : ∃! text, Spells answer text :=
  ⟨_, spells_iff.mpr rfl, fun _ h => spells_iff.mp h⟩

/-- **The bytes of a text stand for it**, whatever comes after a zero byte. -/
lemma spells_encode {text : String} {tail : Bytes} (hzero : '\x00' ∉ text.toList)
    (hlength : (Utf8.encode text).length ≤ 128) (htail : tail = [] ∨ tail.head? = some 0) :
    Spells (Utf8.encode text ++ tail) text := by
  obtain ⟨chars, rfl⟩ : ∃ chars, text = String.ofList chars := ⟨text.toList, by simp⟩
  rw [String.toList_ofList] at hzero
  refine ⟨_, tail.take (128 - (Utf8.encode (String.ofList chars)).length), ?_,
    Utf8.zero_notMem_encode hzero, ?_, (Utf8.decodeLossy_encode chars).symm⟩
  · rw [List.take_append, List.take_of_length_le hlength]
  · rw [List.head?_take]
    rcases htail with rfl | hhead
    · exact Or.inl List.take_nil
    · split
      · rename_i hfull
        rw [hfull]
        exact Or.inl List.take_zero
      · exact Or.inr hhead

/-! ### Core commands -/

namespace Session

variable [Transport τ (Handler κ)] [Consumer κ ω]

/-- **A core command** is one control transfer, and if that succeeds another. -/
lemma readCoreString_eq (s : Session τ ω) (verb : UInt32) (ms : Nat) :
    s.readCoreString verb ms =
      (s.controlTransfer 0x65 0 0 (.send (CommandPacket.headerOnly 0 verb).encode) ms).bind
        fun sent => match sent.1.result with
          | .error _ => some (none, sent.2)
          | .ok _ => (sent.2.controlTransfer 0x65 0 0 (.receive (zeros 128)) ms).map fun received =>
              (received.1.result.toOption.map fun n => identityText (received.1.bytes.take n),
                received.2) := by
  have hwanted : (some (zeros Protocol.maxStringLength)).filter (fun buffer => !buffer.isEmpty) =
    some (zeros Protocol.maxStringLength) := rfl
  rw [readCoreString, execute]
  simp only [hwanted, Option.isSome_some, if_true, Option.bind_eq_bind, Option.bind_assoc]
  refine congrArg _ (funext fun sent => ?_)
  cases sent.1.result with
  | error error => rfl
  | ok n =>
      dsimp only
      rw [Option.map_eq_bind, Option.bind_assoc]
      refine congrArg _ (funext fun received => ?_)
      cases hreceived : received.1.result <;> simp [hreceived, Except.toOption]

end Session

namespace Analyzer

variable [SampleSink S] {a b : Benched S}

/-- **What a core command comes to**: no text, if its packet cannot be sent or its answer cannot be
read, and else the text that the answer stands for. -/
inductive Tells (a : Benched S) (verb : UInt32) :
    Option String → Session (Bench (Handler StreamFormat)) (Feed S) → Prop where
  | unsent {sent error session} :
      a.session.controlTransfer 0x65 0 0 (.send (CommandPacket.headerOnly 0 verb).encode)
        a.settings.commandTimeoutMs = some (sent, session) →
      sent.result = .error error → Tells a verb none session
  | unread {sent n s received error session} :
      a.session.controlTransfer 0x65 0 0 (.send (CommandPacket.headerOnly 0 verb).encode)
        a.settings.commandTimeoutMs = some (sent, s) →
      sent.result = .ok n →
      s.controlTransfer 0x65 0 0 (.receive (zeros 128)) a.settings.commandTimeoutMs =
        some (received, session) →
      received.result = .error error → Tells a verb none session
  | read {sent n s received m text session} :
      a.session.controlTransfer 0x65 0 0 (.send (CommandPacket.headerOnly 0 verb).encode)
        a.settings.commandTimeoutMs = some (sent, s) →
      sent.result = .ok n →
      s.controlTransfer 0x65 0 0 (.receive (zeros 128)) a.settings.commandTimeoutMs =
        some (received, session) →
      received.result = .ok m → Spells s.transport.nextReply.bytes text →
      Tells a verb (some text) session

variable {verb : UInt32} {text : Option String}
  {session : Session (Bench (Handler StreamFormat)) (Feed S)}

/-- Of a read that succeeds, the caller takes the text of the device's next answer. -/
lemma identityText_of_received {s : Session (Bench (Handler StreamFormat)) (Feed S)} {m ms : Nat}
    {received : ControlResult} (hheld : a.pool.Held none s)
    (hread : s.controlTransfer 0x65 0 0 (.receive (zeros 128)) ms = some (received, session))
    (hreceived : received.result = .ok m) {text : String} :
    Spells s.transport.nextReply.bytes text ↔ text = identityText (received.bytes.take m) := by
  rw [spells_iff, Bench.Reply.take_of_result
    (Session.result_of_controlTransfer (.of_held hheld) hread hreceived) hreceived, length_zeros,
    Protocol.maxStringLength]

/-- **A core command comes to just that.** -/
lemma readCoreString_eq_some_iff (hheld : a.pool.Held none a.session) :
    a.session.readCoreString verb a.settings.commandTimeoutMs = some (text, session) ↔
      a.Tells verb text session := by
  rw [Session.readCoreString_eq]
  constructor
  · intro hrun
    obtain ⟨⟨sent, s⟩, hsend, hrest⟩ := Option.bind_eq_some_iff.mp hrun
    dsimp only at hrest
    cases hsent : sent.result with
    | error error =>
        rw [hsent] at hrest
        cases hrest
        exact .unsent hsend hsent
    | ok n =>
        rw [hsent] at hrest
        obtain ⟨⟨received, s₁⟩, hread, hdone⟩ := Option.map_eq_some_iff.mp hrest
        cases hdone
        cases hreceived : received.result with
        | error error => exact .unread hsend hsent hread hreceived
        | ok m =>
            have hheld' := (Pool.Held.kept a.pool).controlTransfer hheld hsend
            exact .read hsend hsent hread hreceived
              ((identityText_of_received hheld' hread hreceived).mpr rfl)
  · intro htells
    cases htells with
    | unsent hsend hsent => simp only [hsend, hsent, Option.bind_some]
    | unread hsend hsent hread hreceived =>
        simp only [hsend, hsent, hread, hreceived, Option.bind_some, Option.map_some]
        rfl
    | read hsend hsent hread hreceived hspells =>
        have hheld' := (Pool.Held.kept a.pool).controlTransfer hheld hsend
        simp only [hsend, hsent, hread, hreceived, Option.bind_some, Option.map_some,
          (identityText_of_received hheld' hread hreceived).mp hspells]
        rfl

/-- An analyzer that gives a core command keeps all but its session. -/
lemma told_iff (hheld : a.pool.Held none a.session) :
    (a.session.readCoreString verb a.settings.commandTimeoutMs).map
        (fun told => (told.1, { a with session := told.2 })) = some (text, b) ↔
      ∃ session, a.Tells verb text session ∧ b = { a with session } := by
  rw [Option.map_eq_some_iff]
  constructor
  · rintro ⟨⟨text', session⟩, hread, hend⟩
    obtain ⟨rfl, rfl⟩ := Prod.mk.inj hend
    exact ⟨session, (readCoreString_eq_some_iff hheld).mp hread, rfl⟩
  · rintro ⟨session, htells, rfl⟩
    exact ⟨_, (readCoreString_eq_some_iff hheld).mpr htells, rfl⟩

/-- **On a bench on which nothing fails** a core command brings the text that the device's answer
stands for. -/
lemma tells_of_calm {ack answer : Bytes} {rest : List Bench.Reply}
    (hheld : a.pool.Held none a.session) (hcalm : a.session.transport.Calm)
    (hreplies : a.session.transport.replies = .respond ack :: .respond answer :: rest)
    (verb : UInt32) : ∃ text session, Spells answer text ∧ a.Tells verb (some text) session := by
  have hack : a.session.transport.nextReply = .respond ack := by rw [Bench.nextReply, hreplies]; rfl
  obtain ⟨s, hsend, hreplies'⟩ := Session.controlTransfer_of_calm
    (.send (CommandPacket.headerOnly 0 verb).encode) hcalm hheld hack (Session.length_encode_lt _)
    (fun hno => by cases hno) 0x65 0 0 a.settings.commandTimeoutMs
  rw [hreplies, List.tail_cons] at hreplies'
  have hanswer : s.transport.nextReply = .respond answer := by
    rw [Bench.nextReply, hreplies']
    rfl
  have hfits : (ControlData.receive (zeros 128)).length < UInt16.size := by
    rw [ControlData.length, ControlData.bytes, length_zeros]
    decide
  have hroom : (ControlData.receive (zeros 128)).isEmpty = false := by
    simp [ControlData.isEmpty, ControlData.length, ControlData.bytes, length_zeros]
  obtain ⟨session, hread, -⟩ := Session.controlTransfer_of_calm (.receive (zeros 128))
    (Bench.Calm.kept.controlTransfer hcalm hsend)
    ((Pool.Held.kept a.pool).controlTransfer hheld hsend) hanswer hfits (fun _ => hroom)
    0x65 0 0 a.settings.commandTimeoutMs
  obtain ⟨text, hspells, -⟩ := existsUnique_spells answer
  exact ⟨text, session, hspells, .read hsend rfl hread rfl (by rwa [hanswer])⟩

/-- **Version and serial number in any state of an analyzer**, whatever the bench's script: they
come to what their core commands come to, so there is no text exactly if one of the two control
transfers fails, and the analyzer keeps all but its session.  The text is the one that the device's
answer stands for; if that begins with the bytes of a text without zero characters, of 128 bytes or
fewer, and ends there or goes on with a zero byte, it is that text.  If the device answers and
nothing fails, there is a text. -/
theorem identity_of_reachable (h : Reachable a) :
    (∀ text b, a.version = some (text, b) ↔
      ∃ session, a.Tells Protocol.verbReadVersion text session ∧ b = { a with session }) ∧
    (∀ text b, a.serialNumber = some (text, b) ↔
      ∃ session, a.Tells Protocol.verbReadSerial text session ∧ b = { a with session }) ∧
    (∀ answer, ∃! text, Spells answer text) ∧
    (∀ (text : String) tail, '\x00' ∉ text.toList → (Utf8.encode text).length ≤ 128 →
      (tail = [] ∨ tail.head? = some 0) → Spells (Utf8.encode text ++ tail) text) ∧
    ∀ ack answer rest, a.session.transport.Calm →
      a.session.transport.replies = .respond ack :: .respond answer :: rest →
      ∀ verb, ∃ text session, Spells answer text ∧ a.Tells verb (some text) session := by
  obtain ⟨hheld, -⟩ := h.kept
  refine ⟨fun text b => ?_, fun text b => ?_, existsUnique_spells,
    fun text tail hzero hlength htail => spells_encode hzero hlength htail,
    fun ack answer rest hcalm hreplies verb => tells_of_calm hheld hcalm hreplies verb⟩
  · rw [version_eq_map]
    exact told_iff hheld
  · rw [serialNumber_eq_map]
    exact told_iff hheld

/-- A stream on a device whose answer is longer than the buffer, with a character of two bytes
across the buffer's end, and which then stalls. -/
def longName : List (Step Bench.Cue) :=
  [.cue (.response [64, 66, 15, 0, 0, 0, 0, 0, 0x82]), .call .acquire,
    .cue (.response (List.replicate 127 0x61 ++ [0xC3, 0xA9, 0x62])),
    .cue (.reply (.respond [])), .cue (.reply (.status .stall))]

theorem identity_longName : ∃ a b c : Benched SinkTrace,
    Reachable a ∧ a.phase = .streaming ∧
    (∃ session, a.Tells Protocol.verbReadVersion
      (some (String.ofList (List.replicate 127 'a' ++ ['\uFFFD']))) session ∧
      b = { a with session }) ∧
    ∃ session, b.Tells Protocol.verbReadSerial none session ∧ c = { b with session } := by
  have hend : (run longName (onBench { transferPoolSize := 2, transferBufferSize := 2 }
      ({} : SinkTrace))).bind (fun a => a.version.bind fun r => r.2.serialNumber.map fun r' =>
        decide (a.phase = .streaming ∧
          r.1 = some (String.ofList (List.replicate 127 'a' ++ ['\uFFFD'])) ∧ r'.1 = none)) =
      some true := by
    decide +kernel
  obtain ⟨a, hrun, hend⟩ := Option.bind_eq_some_iff.mp hend
  obtain ⟨⟨version, b⟩, hversion, hend⟩ := Option.bind_eq_some_iff.mp hend
  obtain ⟨⟨serial, c⟩, hserial, hend⟩ := Option.map_eq_some_iff.mp hend
  obtain ⟨hphase, rfl, rfl⟩ := of_decide_eq_true hend
  have hreach : Reachable a := (Reachable.new _ _).run hrun
  have hreach' : Reachable b := hreach.step (show a.step (.call .version) = some b by
    simp [step, perform, hversion])
  obtain ⟨hnamed, -⟩ := identity_of_reachable hreach
  obtain ⟨-, hnumbered, -⟩ := identity_of_reachable hreach'
  exact ⟨a, b, c, hreach, hphase, (hnamed _ _).mp hversion, (hnumbered _ _).mp hserial⟩

end Analyzer

end LogicCapture
