/-
A configuration that has been saved is loaded again.

* `FileTree.Writable`: a path at which a file can be written;
* `Configuration.Expressible`: the configurations that a document can hold;
* `Configuration.text?_of_expressible`, `text?_eq_none`: which configurations have a document;
* `Configuration.allGiven`: a configuration as fields that are all given;
* `Configuration.ofText?_layout`: the document of a configuration is read as that configuration;
* `Configuration.save_of_expressible`, `save_of_inexpressible`: what saving does;
* `Configuration.round_trip`: saving and loading together.
-/
import LogicCapture.Proofs.Configuration.Loading
import LogicCapture.Proofs.Files.ReadBack

namespace LogicCapture

/-- A file can be written at a path: the directories that are missing on the way to it can be
made, and then the file. -/
def FileTree.Writable (files : FileTree) (path : Path) : Prop :=
  ∃ files₁, files.createDirectories ((Path.parent? path).getD "") = (.ok (), files₁) ∧
    ∃ made, files₁.create path = .ok made

namespace Configuration

open Toml (maxInteger)

variable {c : Configuration}

/-! ### The document of a configuration -/

/-- The integers of a configuration. -/
def integers (c : Configuration) : List Nat :=
  [c.vendorId.toNat, c.productId.toNat, c.acquisition.sampleRateHz, c.acquisition.numChannels.toNat,
    c.acquisition.transferPoolSize, c.acquisition.transferBufferSize,
    c.acquisition.commandTimeoutMs, c.acquisition.stopTimeoutMs]

/-- A document can hold all the integers of the configuration. -/
def Expressible (c : Configuration) : Prop := ∀ n ∈ c.integers, n ≤ maxInteger

instance (c : Configuration) : Decidable c.Expressible := List.decidableBAll _ _

lemma fits_sections : (∀ s ∈ c.sections, s.Fits) ↔ c.Expressible := by
  simp (disch := simp [loggingKeys, deviceKeys, AcquisitionSettings.keys]) only [sections,
    List.forall_mem_cons, Toml.Section.fits_zip, Toml.Scalar.Fits, Expressible, integers,
    List.not_mem_nil, false_imp_iff, implies_true, true_and, and_true, and_assoc]

/-- Names, keys and log levels stand in a document as they are. -/
lemma plain_sections (h : c.logLevel ∈ logLevels) : ∀ s ∈ c.sections, s.Plain := by
  have hlevel : (Toml.Scalar.string c.logLevel).Plain := by
    have hlevels : ∀ level ∈ logLevels, Toml.Plain level.toList := by decide
    exact hlevels c.logLevel h
  have hinteger (n : Nat) : (Toml.Scalar.integer n).Plain := trivial
  simp only [sections, List.forall_mem_cons]
  refine ⟨?logging, ?device, ?acquisition, List.forall_mem_nil _⟩
  case logging =>
    exact Toml.Section.plain_zip (by decide) (by decide) (by decide) rfl (by simpa using hlevel)
  case device =>
    exact Toml.Section.plain_zip (by decide) (by decide) (by decide) rfl (by simp [hinteger])
  case acquisition =>
    exact Toml.Section.plain_zip (by decide) (by decide) (by decide) rfl (by simp [hinteger])

/-- The document of an expressible configuration. -/
lemma text?_of_expressible (h : c.Expressible) :
    c.text? = some (String.ofList (Toml.layout (c.sections.map Toml.Section.block))) := by
  rw [text?, Toml.render?_of_fits (fits_sections.mpr h), Option.map_some]

/-- A configuration with larger integers has no document. -/
lemma text?_eq_none (h : ¬ c.Expressible) : c.text? = none := by
  rw [← fits_sections] at h
  simp only [not_forall] at h
  obtain ⟨s, hs, large⟩ := h
  rw [text?, Toml.render?_eq_none hs large, Option.map_none]

/-- All fields of a configuration. -/
def allGiven (c : Configuration) : Given where
  logLevel := some c.logLevel
  vendorId := some c.vendorId
  productId := some c.productId
  sampleRateHz := some (.ofNat c.acquisition.sampleRateHz)
  numChannels := some c.acquisition.numChannels
  transferPoolSize := some (.ofNat c.acquisition.transferPoolSize)
  transferBufferSize := some (.ofNat c.acquisition.transferBufferSize)
  commandTimeoutMs := some (.ofNat c.acquisition.commandTimeoutMs)
  stopTimeoutMs := some (.ofNat c.acquisition.stopTimeoutMs)

/-- The integers of a document fit the words of 64 bits that they are read into. -/
lemma toNat_ofNat_of_expressible (h : c.Expressible) :
    ∀ n ∈ c.integers, (UInt64.ofNat n).toNat = n := fun n hn =>
  UInt64.toNat_ofNat_of_lt' (Nat.lt_of_le_of_lt (h n hn) (by decide))

/-- A configuration is any other with all fields replaced by its own. -/
lemma filledBy_allGiven (h : c.Expressible) (other : Configuration) :
    c.allGiven.filledBy other = c := by
  have hwords := toNat_ofNat_of_expressible h
  simp only [integers, List.forall_mem_cons] at hwords
  obtain ⟨-, -, hrate, -, hpool, hbuffer, hcommand, hstop, -⟩ := hwords
  simp only [Given.filledBy, allGiven, Option.getD_some, Option.map_some, hrate, hpool, hbuffer,
    hcommand, hstop]

/-- The tables of a configuration give all its fields. -/
lemma allGiven_in (h : c.Expressible) : c.allGiven.In (c.sections.map Toml.Section.entry) := by
  have hwords := toNat_ofNat_of_expressible h
  simp only [integers, List.forall_mem_cons] at hwords
  obtain ⟨-, -, hrate, -, hpool, hbuffer, hcommand, hstop, -⟩ := hwords
  constructor
  case logging =>
    refine .table [("level", .string c.logLevel)] ?_ ?_
    · simp [sections, Toml.Value.get?, Toml.Section.entry, loggingKeys, Toml.Scalar.value]
    · simp [Given.logging, allGiven, loggingKeys, Toml.Value.get?, List.lookup_cons]
  case device =>
    refine .table [("vendor_id", Given.natural c.vendorId.toNat),
      ("product_id", Given.natural c.productId.toNat)] ?_ ?_
    · simp [sections, Toml.Value.get?, List.lookup_cons, Toml.Section.entry, deviceKeys,
        Toml.Scalar.value, Given.natural]
    · simp [Given.device, allGiven, deviceKeys, Toml.Value.get?, List.lookup_cons]
  case acquisition =>
    let s := c.acquisition
    refine .table [("sample_rate_hz", Given.natural s.sampleRateHz),
      ("num_channels", Given.natural s.numChannels.toNat),
      ("transfer_pool_size", Given.natural s.transferPoolSize),
      ("transfer_buffer_size", Given.natural s.transferBufferSize),
      ("command_timeout_ms", Given.natural s.commandTimeoutMs),
      ("stop_timeout_ms", Given.natural s.stopTimeoutMs)] ?_ ?_
    · simp [sections, Toml.Value.get?, List.lookup_cons, Toml.Section.entry,
        AcquisitionSettings.keys, Toml.Scalar.value, Given.natural, s]
    · simp [Given.acquisition, allGiven, AcquisitionSettings.keys, Toml.Value.get?,
        List.lookup_cons, s, hrate, hpool, hbuffer, hcommand, hstop]

/-- **The document of a configuration is read as that configuration.** -/
theorem ofText?_layout (level : c.logLevel ∈ logLevels) (h : c.Expressible) :
    ofText? (Toml.layout (c.sections.map Toml.Section.block)) = some c := by
  have hread := Toml.parse?_render (fits_sections.mpr h) (plain_sections level)
    (by simp [sections])
  rw [ofText?, hread]
  exact (ofTable?_of_given (allGiven_in h)).trans (congrArg some (filledBy_allGiven h _))

/-! ### Saving and loading -/

/-- A validated configuration names one of the log levels. -/
lemma level_of_validate (h : c.validate = .ok ()) : c.logLevel ∈ logLevels := by
  by_contra level
  rw [validate, if_pos level] at h
  cases h

/-- **An expressible configuration is saved at every path that can be written**, and loaded from
there. -/
lemma save_of_expressible (valid : c.validate = .ok ()) (h : c.Expressible) {files : FileTree}
    {path : Path} (writable : files.Writable path) :
    ∃ files', save files c path = (.ok (), files') ∧ loadFrom files' path = .ok c := by
  obtain ⟨files₁, hdirectories, ⟨location, files₂⟩, made⟩ := writable
  let text := String.ofList (Toml.layout (c.sections.map Toml.Section.block))
  let files₃ := files₂.put location (.file (Utf8.encode text))
  have written : files₁.write path (Utf8.encode text) = .ok files₃ := by
    simp [FileTree.write, made, bind, Except.bind, pure, Except.pure, files₃]
  refine ⟨files₃, ?saved, ?loaded⟩
  case saved =>
    simp only [save, text?_of_expressible h, hdirectories]
    rw [written]
  case loaded =>
    rw [loadFrom_of_text (FileTree.read_write written)
      (ofText?_layout (level_of_validate valid) h), checked_of_validate valid]

/-- **Any other configuration is not saved**, and nothing is touched. -/
lemma save_of_inexpressible (h : ¬ c.Expressible) (files : FileTree) (path : Path) :
    save files c path = (.error .inexpressible, files) := by
  simp only [save, text?_eq_none h]

/-- **A configuration that keeps the rules survives being saved.**  If a document can hold all its
integers, those of 63 bits, then it is saved at every path at which a file can be written, and
loading that path gives the very same configuration; else saving fails because it cannot be written
down, and all files and directories are as before. -/
theorem round_trip (c : Configuration) (valid : c.validate = .ok ()) (files : FileTree)
    (path : Path) :
    (c.Expressible → files.Writable path →
      ∃ files', save files c path = (.ok (), files') ∧ loadFrom files' path = .ok c) ∧
    (¬ c.Expressible → save files c path = (.error .inexpressible, files)) :=
  ⟨fun h => save_of_expressible valid h, fun h => save_of_inexpressible h files path⟩

/-- The default configuration is saved below directories that have to be made, and loaded again;
with a stop timeout of sixty-four bits it is not saved. -/
theorem round_trip_default :
    (∃ files', save {} {} "/home/logic/config.toml" = (.ok (), files') ∧
      loadFrom files' "/home/logic/config.toml" = .ok {}) ∧
    save {} { acquisition := { stopTimeoutMs := maxInteger + 1 } } "/home/logic/config.toml" =
      (.error .inexpressible, {}) := by
  constructor
  · exact (round_trip {} validate_default {} "/home/logic/config.toml").1 (by decide)
      ⟨_, rfl, _, rfl⟩
  · exact (round_trip { acquisition := { stopTimeoutMs := maxInteger + 1 } } (by decide) {}
      "/home/logic/config.toml").2 (by decide)

end Configuration

end LogicCapture
