/-
Histories: the configures, the channels asked for and the formats announced in a run, in order.

* `Bench.channelsSeen`: the channels in the last configure command that the device has seen;
* `Analyzer.Entry`, `Analyzer.history`: the history of a run;
* `Analyzer.Agreement`: a format announced has rate and endpoint of the last configure's response,
  and the channels asked for last, by that configure or since;
* `Analyzer.Faithful`: it has the channels of the last configure; `Analyzer.Agreement.faithful_iff`
  says when.
-/
import LogicCapture.Proofs.Stream.Bracket
import LogicCapture.Proofs.Wire.Packet

namespace LogicCapture

/-- The channels in the last configure command that the device has seen. -/
def Bench.channelsSeen {H : Type} (b : Bench H) : Option UInt8 :=
  (b.commands.filterMap (·.channelsAsked)).getLast?

namespace Analyzer

open SinkTrace Streaming

/-! ### Histories -/

/-- An entry of a run's history. -/
inductive Entry where
  /-- A configure has succeeded; the device has seen these channels and sent this response. -/
  | configured (channels : Option UInt8) (response : ConfigureResponse)
  /-- A number of channels has been asked for. -/
  | asked (count : UInt8)
  /-- The sink has been told of an acquisition in this format. -/
  | announced (format : StreamFormat)
  deriving DecidableEq

/-- The formats of which a trace tells the start. -/
def startedFormats (trace : List SinkEvent) : List StreamFormat :=
  trace.filterMap fun
    | .started format => some format
    | _ => none

lemma startedFormats_append (trace more : List SinkEvent) :
    startedFormats (trace ++ more) = startedFormats trace ++ startedFormats more :=
  List.filterMap_append

/-- The acquisitions of which the sink has been told between two states. -/
def announced (a b : Traced) : List Entry :=
  (startedFormats (b.trace.drop a.trace.length)).map .announced

/-- What a step settles about the next acquisition. -/
def settled (a : Traced) : Step Bench.Cue → List Entry
  | .call .configure | .call .acquire =>
    match a.configure with
    | some (.ok response, b) => [.configured b.session.transport.channelsSeen response]
    | _ => []
  | .call (.setChannels count) => [.asked count]
  | _ => []

/-- What a step adds to the history. -/
def recorded (a : Traced) (s : Step Bench.Cue) : List Entry :=
  a.settled s ++ ((a.step s).map (announced a)).getD []

/-- **The history of a run**, as far as its operations return. -/
def history : List (Step Bench.Cue) → Traced → List Entry
  | [], _ => []
  | s :: rest, a => a.recorded s ++ ((a.step s).map (history rest)).getD []

/-- The formats that a history announces. -/
def announcedFormats (entries : List Entry) : List StreamFormat :=
  entries.filterMap fun
    | .announced format => some format
    | _ => none

lemma announcedFormats_append (entries more : List Entry) :
    announcedFormats (entries ++ more) = announcedFormats entries ++ announcedFormats more :=
  List.filterMap_append

/-! ### Agreement -/

/-- The channels asked for last: by a configure for `channels`, or since. -/
def lastAsked (channels : UInt8) (since : List Entry) : UInt8 :=
  since.foldl (fun last entry =>
    match entry with
    | .asked count => count
    | _ => last) channels

/-- The last configure in a history, and what has come since. -/
def LastConfigure (entries : List Entry) (channels : UInt8) (response : ConfigureResponse)
    (since : List Entry) : Prop :=
  (∃ earlier, entries = earlier ++ .configured (some channels) response :: since) ∧
    ∀ channels response, .configured channels response ∉ since

/-- **Formats agree with the device**: each has rate and endpoint of the response to the last
configure before it, and the channels asked for last, by that configure or since. -/
def Agreement (entries : List Entry) : Prop :=
  ∀ before format after, entries = before ++ .announced format :: after →
    ∃ channels response since, LastConfigure before channels response since ∧
      format = ⟨response.achievedRateHz, lastAsked channels since, response.endpoint⟩

/-- What the sink would have to be told: the channels of the last configure, whatever has been
asked for since. -/
def Faithful (entries : List Entry) : Prop :=
  ∀ before format after, entries = before ++ .announced format :: after →
    ∃ channels response since, LastConfigure before channels response since ∧
      format = ⟨response.achievedRateHz, channels, response.endpoint⟩

variable {entries more : List Entry} {channels count : UInt8} {response : ConfigureResponse}
  {format : StreamFormat} {since : List Entry}

/-- What is not a configure comes after the last one. -/
lemma LastConfigure.append (h : LastConfigure entries channels response since)
    (hmore : ∀ channels response, .configured channels response ∉ more) :
    LastConfigure (entries ++ more) channels response (since ++ more) := by
  obtain ⟨⟨earlier, rfl⟩, hsince⟩ := h
  refine ⟨⟨earlier, by simp⟩, ?_⟩
  intro channels response hmem
  rcases List.mem_append.mp hmem with hmem | hmem
  · exact hsince channels response hmem
  · exact hmore channels response hmem

/-- There is one last configure at most. -/
lemma LastConfigure.unique {channels' : UInt8} {response' : ConfigureResponse}
    {since' : List Entry} (h : LastConfigure entries channels response since)
    (h' : LastConfigure entries channels' response' since') :
    channels = channels' ∧ response = response' ∧ since = since' := by
  obtain ⟨⟨earlier, rfl⟩, hsince⟩ := h
  obtain ⟨⟨earlier', heq⟩, hsince'⟩ := h'
  rcases List.append_eq_append_iff.mp heq with ⟨between, -, hrest⟩ | ⟨between, -, hrest⟩
  · cases between with
    | nil =>
        cases hrest
        exact ⟨rfl, rfl, rfl⟩
    | cons entry between =>
        cases hrest
        exact absurd (by simp) (hsince channels' response')
  · cases between with
    | nil =>
        cases hrest
        exact ⟨rfl, rfl, rfl⟩
    | cons entry between =>
        cases hrest
        exact absurd (by simp) (hsince' channels response)

/-- **Formats have the channels of the last configure** exactly if no other number has been asked
for between it and the announcement. -/
lemma Agreement.faithful_iff (h : Agreement entries) :
    Faithful entries ↔ ∀ before format after, entries = before ++ .announced format :: after →
      ∀ channels response since, LastConfigure before channels response since →
        lastAsked channels since = channels := by
  constructor
  · intro hfaithful before format after heq channels response since hlast
    obtain ⟨channels₁, response₁, since₁, hlast₁, hformat₁⟩ := h before format after heq
    obtain ⟨channels₂, response₂, since₂, hlast₂, hformat₂⟩ := hfaithful before format after heq
    obtain ⟨rfl, rfl, rfl⟩ := hlast.unique hlast₁
    obtain ⟨rfl, rfl, rfl⟩ := hlast.unique hlast₂
    exact congrArg StreamFormat.numChannels (hformat₁.symm.trans hformat₂)
  · intro hasked before format after heq
    obtain ⟨channels, response, since, hlast, hformat⟩ := h before format after heq
    refine ⟨channels, response, since, hlast, ?_⟩
    rw [hformat, hasked before format after heq channels response since hlast]

lemma Agreement.nil : Agreement [] := fun before format after h => by
  simp at h

/-- The law is decided by the entries one at a time. -/
lemma Agreement.concat {entry : Entry} (h : Agreement entries)
    (hentry : ∀ format, entry = .announced format → ∃ channels response since,
      LastConfigure entries channels response since ∧
        format = ⟨response.achievedRateHz, lastAsked channels since, response.endpoint⟩) :
    Agreement (entries ++ [entry]) := by
  intro before format after heq
  rcases split_of_concat_eq heq with ⟨rfl, hlast⟩ | ⟨after', hsplit⟩
  · exact hentry format hlast
  · exact h before format after' hsplit

end Analyzer

end LogicCapture
