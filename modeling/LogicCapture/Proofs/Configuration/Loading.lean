/-
What a configuration file does to the defaults.

* `Configuration.checked`: a configuration, if it keeps the rules;
* `loadFrom_of_text`: a file is loaded as what it is read as, if that keeps the rules;
* `validate_of_loadFrom` and the like: whatever has been loaded keeps the rules;
* `loadOrDefault_of_error`: a file that cannot be loaded leaves nothing behind;
* `Configuration.load_over_defaults`: the fields of a file replace the defaults, and only
  together.
-/
import LogicCapture.Configuration.Store
import LogicCapture.Proofs.Configuration.Given
import LogicCapture.Proofs.Text.Utf8
import LogicCapture.Proofs.Toml.Layout

namespace LogicCapture

namespace Configuration

variable {c : Configuration} {files : FileTree} {path : Path} {places : ConfigurationPlaces}

/-- The configuration, if it keeps the rules. -/
def checked (c : Configuration) : Except ConfigurationError Configuration :=
  match c.validate with
  | .ok () => .ok c
  | .error fault => .error (.invalid fault)

lemma checked_of_validate (h : c.validate = .ok ()) : c.checked = .ok c := by
  rw [checked, h]

lemma checked_eq_ok {c' : Configuration} : c.checked = .ok c' ↔ c' = c ∧ c.validate = .ok () := by
  cases h : c.validate with
  | ok _ => simp [checked, h, eq_comm]
  | error fault => simp [checked, h]

/-- A file is loaded by reading it as a text, and the text as a configuration. -/
lemma loadFrom_eq {bytes : Bytes} (read : files.read path = .ok bytes) :
    loadFrom files path =
      match Utf8.decode? bytes with
      | none => .error (.unreadable path)
      | some text =>
        match ofText? text with
        | none => .error (.malformed path)
        | some c => c.checked := by
  simp only [loadFrom, read, Except.mapError, bind, Except.bind]
  cases Utf8.decode? bytes with
  | none => rfl
  | some text =>
    cases htext : ofText? text with
    | none => simp [htext, throw, throwThe, MonadExceptOf.throw]
    | some c =>
      cases h : c.validate <;> simp [htext, checked, h, pure, Except.pure]

/-- **A file is loaded as what it is read as**, if that keeps the rules. -/
lemma loadFrom_of_text {text : List Char}
    (read : files.read path = .ok (Utf8.encode (String.ofList text)))
    (h : ofText? text = some c) : loadFrom files path = c.checked := by
  rw [loadFrom_eq read, Utf8.decode?_encode]
  simp only [h]

/-! ### What has been loaded -/

/-- **Whatever has been loaded keeps the rules.** -/
lemma validate_of_loadFrom (h : loadFrom files path = .ok c) : c.validate = .ok () := by
  cases read : files.read path with
  | error e => simp [loadFrom, read, Except.mapError, bind, Except.bind] at h
  | ok bytes =>
    rw [loadFrom_eq read] at h
    split at h
    · cases h
    · split at h
      · cases h
      · obtain ⟨rfl, hvalid⟩ := checked_eq_ok.mp h
        exact hvalid

lemma validate_of_load (h : load files places = .ok c) : c.validate = .ok () := by
  rw [load] at h
  split at h
  · cases h
  · exact validate_of_loadFrom h

lemma validate_default : ({} : Configuration).validate = .ok () := by
  decide

lemma validate_loadOrDefault : (loadOrDefault files places).validate = .ok () := by
  rw [loadOrDefault]
  split
  · exact validate_of_load ‹_›
  · exact validate_default

/-- **A file that cannot be loaded leaves nothing behind.** -/
lemma loadOrDefault_of_error (first : places.candidates.find? files.holds = some path)
    {error : ConfigurationError} (h : loadFrom files path = .error error) :
    loadOrDefault files places = {} := by
  simp only [loadOrDefault, load, first, h]

/-- A file that is not read as a configuration that keeps the rules cannot be loaded. -/
lemma loadFrom_eq_error {bytes : Bytes} (read : files.read path = .ok bytes)
    (bad : ∀ c, (Utf8.decode? bytes).bind ofText? = some c → ∃ fault, c.validate = .error fault) :
    ∃ error, loadFrom files path = .error error := by
  cases h : loadFrom files path with
  | error error => exact ⟨error, rfl⟩
  | ok c =>
    rw [loadFrom_eq read] at h
    split at h
    · cases h
    next text htext =>
      split at h
      · cases h
      next c' hc =>
        obtain ⟨rfl, hvalid⟩ := checked_eq_ok.mp h
        obtain ⟨fault, hfault⟩ := bad c (by rw [htext]; exact hc)
        rw [hvalid] at hfault
        cases hfault

/-! ### The fields of a file -/

/-- **The fields of a file replace the defaults.**  A document that gives some of the fields, in
any order, with others of which nothing is known and with tables left out, is loaded as the
default configuration in which just these fields are replaced, or not at all if that breaks a
rule; and so is every document laid out in tables, since it is read as them.  Whatever has been
loaded keeps the rules, and if the first file there is malformed or invalid, then the default
configuration is used without any of its fields. -/
theorem load_over_defaults (files : FileTree) (path : Path) (places : ConfigurationPlaces)
    (g : Given) :
    (∀ text entries, files.read path = .ok (Utf8.encode (String.ofList text)) →
      Toml.parse? text = some entries → g.In entries →
      loadFrom files path = (g.filledBy {}).checked) ∧
    (∀ blocks : List Toml.Block, (∀ b ∈ blocks, b.WellFormed) →
      (blocks.map Toml.Block.name).Nodup → g.In (blocks.map Toml.Block.entry) →
      files.read path = .ok (Utf8.encode (String.ofList (Toml.layout blocks))) →
      loadFrom files path = (g.filledBy {}).checked) ∧
    (∀ c, loadFrom files path = .ok c ∨ load files places = .ok c ∨
      loadExpanded files places path = .ok c ∨ loadOrDefault files places = c →
      c.validate = .ok ()) ∧
    (∀ bytes, places.candidates.find? files.holds = some path → files.read path = .ok bytes →
      (∀ c, (Utf8.decode? bytes).bind ofText? = some c → ∃ fault, c.validate = .error fault) →
      loadOrDefault files places = {}) := by
  have hentries (text : List Char) (entries : List (String × Toml.Value))
      (read : files.read path = .ok (Utf8.encode (String.ofList text)))
      (parsed : Toml.parse? text = some entries) (given : g.In entries) :
      loadFrom files path = (g.filledBy {}).checked := by
    refine loadFrom_of_text read ?_
    rw [ofText?, parsed]
    exact ofTable?_of_given given
  refine ⟨hentries, ?blocks, ?valid, ?default⟩
  case blocks =>
    intro blocks well distinct given read
    exact hentries _ _ read (Toml.parse?_layout well distinct) given
  case valid =>
    rintro c (h | h | h | rfl)
    · exact validate_of_loadFrom h
    · exact validate_of_load h
    · exact validate_of_loadFrom h
    · exact validate_loadOrDefault
  case default =>
    intro bytes first read bad
    obtain ⟨error, h⟩ := loadFrom_eq_error read bad
    exact loadOrDefault_of_error first h

/-- A document that gives nothing but the number of channels. -/
def channelsOnly (n : Nat) : List Toml.Block :=
  [⟨"acquisition", [⟨"num_channels", Nat.toDigits 10 n, .integer n⟩]⟩]

/-- The file of the whole system, with nothing else around. -/
def systemOnly (contents : Bytes) : FileTree where
  entries := [(["etc", "greatfet-logic", "config.toml"], .file contents),
    (["etc", "greatfet-logic"], .directory), (["etc"], .directory)]

lemma wellFormed_channelsOnly {n : Nat} (h : n ≤ Toml.maxInteger) :
    ∀ b ∈ channelsOnly n, b.WellFormed := by
  rw [channelsOnly, List.forall_mem_singleton]
  have hkey : Toml.Bare "num_channels" := by decide
  exact ⟨(by decide : Toml.Bare "acquisition"), by simpa using hkey, by simp,
    by simpa using Toml.spelt_integer h⟩

lemma in_channelsOnly (n : UInt8) :
    Given.In { numChannels := some n } ((channelsOnly n.toNat).map Toml.Block.entry) where
  logging := .absent rfl (by simp [Given.logging, loggingKeys])
  device := .absent rfl (by simp [Given.device, deviceKeys])
  acquisition := .table [("num_channels", .integer n.toNat)] rfl (by
    simp [Given.acquisition, AcquisitionSettings.keys, Toml.Value.get?, List.lookup_cons,
      Given.natural])

/-- A file that gives four channels and nothing else is loaded; of one that gives forty, nothing
is used. -/
theorem load_over_defaults_channels :
    let written (n : Nat) : FileTree :=
      systemOnly (Utf8.encode (String.ofList (Toml.layout (channelsOnly n))))
    loadFrom (written 4) ConfigurationPlaces.systemFile =
        .ok { acquisition := { numChannels := 4 } } ∧
      loadOrDefault (written 40) { home := "/home" } = {} := by
  intro written
  constructor
  · exact (load_over_defaults (written 4) ConfigurationPlaces.systemFile { home := "/home" }
      { numChannels := some 4 }).2.1 (channelsOnly 4) (wellFormed_channelsOnly (by decide))
      (by decide) (in_channelsOnly 4) rfl
  · refine (load_over_defaults (written 40) ConfigurationPlaces.systemFile { home := "/home" }
      { numChannels := some 40 }).2.2.2 _ rfl rfl ?_
    have hread : ofText? (Toml.layout (channelsOnly 40)) =
        some { acquisition := { numChannels := 40 } } := by
      rw [ofText?, Toml.parse?_layout (wellFormed_channelsOnly (by decide)) (by decide)]
      exact ofTable?_of_given (in_channelsOnly 40)
    intro c hc
    rw [Utf8.decode?_encode, Option.bind_some, hread, Option.some.injEq] at hc
    exact ⟨.acquisition (.channels 40), by rw [← hc]; decide⟩

end Configuration

end LogicCapture
