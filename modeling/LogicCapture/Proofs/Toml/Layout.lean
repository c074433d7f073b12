/-
Documents that are laid out as tables, each a header with lines of keys and values.

* `Block`: a table of a document as it is written, and `Block.WellFormed`;
* `Block.fold_lines`: reading a block adds its table to the document;
* `parse?_layout`: a document of blocks is read as their tables, in the same order;
* `Section.block`, `render?_of_fits`: sections are written as such documents;
* `parse?_render`: and read back.
-/
import LogicCapture.Proofs.Toml.Spelling

namespace LogicCapture.Toml

/-! ### Blocks -/

/-- A line of a table: a key and its value, as it is written and what it is. -/
structure Line where
  key : String
  text : List Char
  value : Value

/-- A table with its header, as it is written. -/
structure Block where
  name : String
  lines : List Line

/-- The characters of a line. -/
def Line.chars (l : Line) : List Char := l.key.toList ++ [' ', '=', ' '] ++ l.text ++ ['\n']

/-- The key and the value of a line. -/
def Line.entry (l : Line) : String × Value := (l.key, l.value)

namespace Block

/-- The table of a block. -/
def entry (b : Block) : String × Value := (b.name, .table (b.lines.map Line.entry))

/-- The characters of a block. -/
def chars (b : Block) : List Char :=
  '[' :: b.name.toList ++ [']', '\n'] ++ (b.lines.map Line.chars).flatten

/-- Names and keys are bare, no key is there twice, and every value is spelt by its text. -/
structure WellFormed (b : Block) : Prop where
  bare : Bare b.name
  bare_key : ∀ l ∈ b.lines, Bare l.key
  distinct : (b.lines.map Line.key).Nodup
  spelt : ∀ l ∈ b.lines, l.value.Spelt l.text

/-- The lines of a block with what they say. -/
def expressions (b : Block) : List (List Char × Expression) :=
  ('[' :: b.name.toList ++ [']', '\n'], .header [b.name]) ::
    b.lines.map fun l => (l.chars, .keyValue [l.key] l.value)

variable {b : Block}

lemma chars_expressions : (b.expressions.map Prod.fst).flatten = b.chars := by
  simp [expressions, chars, List.map_map, Function.comp_def]

lemma WellFormed.spelt_expressions (h : b.WellFormed) :
    ∀ line ∈ b.expressions, Expression.Spelt line.1 line.2 := by
  intro line hline
  rcases List.mem_cons.mp hline with rfl | hline
  · exact spelt_header h.bare
  · obtain ⟨l, hl, rfl⟩ := List.mem_map.mp hline
    exact spelt_keyValue (h.bare_key l hl) (h.spelt l hl)

end Block

/-! ### Tables under construction -/

section Fold

variable {name : String} {before inner : Entries}

lemma lookup_of_fresh {key : String} {entries : Entries} (fresh : key ∉ entries.map Prod.fst) :
    entries.lookup key = none := by
  rw [List.lookup_eq_none_iff]
  intro entry hentry
  rw [bne_iff_ne]
  rintro rfl
  exact fresh (List.mem_map_of_mem hentry)

lemma lookup_last (fresh : name ∉ before.map Prod.fst) (node : Node) :
    (before ++ [(name, node)]).lookup name = some node := by
  simp [List.lookup_append, lookup_of_fresh fresh]

/-- Only the last entry is replaced. -/
lemma replace_last (fresh : name ∉ before.map Prod.fst) (old node : Node) :
    replace name node (before ++ [(name, old)]) = before ++ [(name, node)] := by
  have hbefore : before.map (fun entry => if entry.1 = name then (name, node) else entry) =
      before := by
    refine (List.map_congr_left fun entry hentry => ?_).trans (List.map_id before)
    refine if_neg ?_
    rintro rfl
    exact fresh (List.mem_map_of_mem hentry)
  simp [replace, hbefore]

/-- A header of a new name opens a table. -/
lemma add_header {d : Document} (fresh : name ∉ d.root.map Prod.fst) :
    d.add (.header [name]) = some ⟨d.root ++ [(name, .table .defined [])], [name]⟩ := by
  simp [Document.add, within, openTable, lookup_of_fresh fresh]

/-- A line of a new key goes to the open table. -/
lemma add_keyValue {key : String} {v : Value} (fresh : name ∉ before.map Prod.fst)
    (freshKey : key ∉ inner.map Prod.fst) :
    Document.add ⟨before ++ [(name, .table .defined inner)], [name]⟩ (.keyValue [key] v) =
      some ⟨before ++ [(name, .table .defined (inner ++ [(key, .value v)]))], [name]⟩ := by
  simp [Document.add, within, assign, lookup_last fresh, lookup_of_fresh freshKey,
    replace_last fresh]

/-- A line as an entry of a table under construction. -/
def Line.node (l : Line) : String × Node := (l.key, .value l.value)

/-- Lines of new keys go to the open table one after the other. -/
lemma fold_keyValues (fresh : name ∉ before.map Prod.fst) (lines : List Line)
    (distinct : (inner.map Prod.fst ++ lines.map Line.key).Nodup) :
    (lines.map fun l => Expression.keyValue [l.key] l.value).foldlM Document.add
      ⟨before ++ [(name, .table .defined inner)], [name]⟩ =
    some ⟨before ++ [(name, .table .defined (inner ++ lines.map Line.node))], [name]⟩ := by
  induction lines generalizing inner with
  | nil => simp
  | cons l lines ih =>
    have freshKey : l.key ∉ inner.map Prod.fst := fun h =>
      (List.nodup_append.mp distinct).2.2 l.key h l.key List.mem_cons_self rfl
    have hrest : ((inner ++ [l.node]).map Prod.fst ++ lines.map Line.key).Nodup := by
      simpa [Line.node] using distinct
    rw [List.map_cons, List.foldlM_cons, add_keyValue fresh freshKey]
    simpa [Line.node] using ih hrest

/-- The table of a block as an entry under construction. -/
def Block.node (b : Block) : String × Node := (b.name, .table .defined (b.lines.map Line.node))

/-- **Reading a block of a new name adds its table.** -/
lemma Block.fold_lines {b : Block} (h : b.WellFormed) {d : Document}
    (fresh : b.name ∉ d.root.map Prod.fst) :
    (b.expressions.map Prod.snd).foldlM Document.add d =
      some ⟨d.root ++ [b.node], [b.name]⟩ := by
  have hlines := @fold_keyValues _ _ [] fresh b.lines (by simpa using h.distinct)
  simp only [expressions, List.map_cons, List.map_map, Function.comp_def, List.foldlM_cons,
    add_header fresh, Option.bind_eq_bind, Option.bind_some]
  exact hlines

end Fold

/-! ### Whole documents -/

/-- The lines of blocks with an empty one between any two. -/
def spread : List Block → List (List Char × Expression)
  | [] => []
  | [b] => b.expressions
  | b :: rest => b.expressions ++ (['\n'], .blank) :: spread rest

/-- A document of blocks with empty lines between them. -/
def layout (blocks : List Block) : List Char := List.intercalate ['\n'] (blocks.map Block.chars)

lemma chars_spread (blocks : List Block) :
    ((spread blocks).map Prod.fst).flatten = layout blocks := by
  induction blocks using spread.induct with
  | case1 => rfl
  | case2 b => simp [spread, layout, Block.chars_expressions]
  | case3 b rest hrest ih =>
    obtain ⟨c, rest, rfl⟩ := List.exists_cons_of_ne_nil hrest
    simp only [spread, List.map_append, List.flatten_append, Block.chars_expressions,
      List.map_cons, List.flatten_cons, ih, layout, List.intercalate_cons_cons]
    simp

lemma spelt_spread {blocks : List Block} (h : ∀ b ∈ blocks, b.WellFormed) :
    ∀ line ∈ spread blocks, Expression.Spelt line.1 line.2 := by
  induction blocks using spread.induct with
  | case1 => simp [spread]
  | case2 b => exact (h b List.mem_cons_self).spelt_expressions
  | case3 b rest hrest ih =>
    obtain ⟨c, rest, rfl⟩ := List.exists_cons_of_ne_nil hrest
    intro line hline
    simp only [spread, List.mem_append, List.mem_cons] at hline
    rcases hline with hline | rfl | hline
    · exact (h b List.mem_cons_self).spelt_expressions line hline
    · exact spelt_blank
    · exact ih (fun b hb => h b (List.mem_cons_of_mem _ hb)) line hline

/-- Reading blocks of new names adds their tables. -/
lemma fold_spread {blocks : List Block} (h : ∀ b ∈ blocks, b.WellFormed) {d : Document}
    (distinct : (d.root.map Prod.fst ++ blocks.map Block.name).Nodup) :
    ∃ d', ((spread blocks).map Prod.snd).foldlM Document.add d = some d' ∧
      d'.root = d.root ++ blocks.map Block.node := by
  induction blocks using spread.induct generalizing d with
  | case1 => exact ⟨d, rfl, by simp⟩
  | case2 b =>
    have fresh : b.name ∉ d.root.map Prod.fst := fun hb =>
      (List.nodup_append.mp distinct).2.2 _ hb _ List.mem_cons_self rfl
    exact ⟨_, Block.fold_lines (h b List.mem_cons_self) fresh, rfl⟩
  | case3 b rest hrest ih =>
    obtain ⟨c, rest, rfl⟩ := List.exists_cons_of_ne_nil hrest
    have fresh : b.name ∉ d.root.map Prod.fst := fun hb =>
      (List.nodup_append.mp distinct).2.2 _ hb _ List.mem_cons_self rfl
    have hread := Block.fold_lines (h b List.mem_cons_self) fresh
    obtain ⟨d', hd', hroot⟩ := ih (fun b hb => h b (List.mem_cons_of_mem _ hb))
      (d := ⟨d.root ++ [b.node], [b.name]⟩) (by simpa [Block.node] using distinct)
    refine ⟨d', ?_, by simpa using hroot⟩
    simp only [spread, List.map_append, List.foldlM_append, hread, Option.bind_eq_bind,
      Option.bind_some, List.map_cons, List.foldlM_cons, Document.add]
    exact hd'

lemma finishEntries_lines (lines : List Line) :
    finishEntries (lines.map Line.node) = lines.map Line.entry := by
  induction lines with
  | nil => rfl
  | cons l lines ih => simp [finishEntries, Line.node, Line.entry, Node.finish, ih]

lemma finishEntries_blocks (blocks : List Block) :
    finishEntries (blocks.map Block.node) = blocks.map Block.entry := by
  induction blocks with
  | nil => rfl
  | cons b blocks ih =>
    simp [finishEntries, Block.node, Block.entry, Node.finish, finishEntries_lines, ih]

/-- Nothing is passed over where a text begins with neither blanks nor a mark of byte order. -/
lemma parse?_of_front {text : List Char}
    (front : ∀ c ∈ text.head?, c ≠ '\ufeff' ∧ isBlank c = false) :
    parse? text = (document text.length {} text).map fun d => finishEntries d.root := by
  cases text with
  | nil => rfl
  | cons c rest =>
    obtain ⟨hmark, hblank⟩ := front c rfl
    have hstart : (c :: rest).dropWhile isBlank = c :: rest := by simp [hblank]
    rw [parse?, hstart]
    · cases document (c :: rest).length {} (c :: rest) <;> rfl
    · exact fun more h => hmark (List.cons.inj h).1

/-- **A document of blocks is read as their tables.** -/
theorem parse?_layout {blocks : List Block} (h : ∀ b ∈ blocks, b.WellFormed)
    (distinct : (blocks.map Block.name).Nodup) :
    parse? (layout blocks) = some (blocks.map Block.entry) := by
  obtain ⟨d, hd, hroot⟩ := fold_spread h (d := {}) (by simpa using distinct)
  have hread (n : Nat) (room : (layout blocks).length ≤ n) :
      document n {} (layout blocks) = some d := by
    rw [← chars_spread] at room ⊢
    rw [document_lines (spelt_spread h) {} room, hd]
  have hfront : ∀ c ∈ (layout blocks).head?, c = '[' := by
    cases blocks with
    | nil => simp [layout]
    | cons b rest => cases rest <;> simp [layout, Block.chars, List.intercalate_cons_cons]
  have hstart : ∀ c ∈ (layout blocks).head?, c ≠ '\ufeff' ∧ isBlank c = false := by
    intro c hc
    rw [hfront c hc]
    decide
  rw [parse?_of_front hstart, hread _ (Nat.le_refl _), Option.map_some, hroot]
  simpa using finishEntries_blocks blocks

/-! ### Sections -/

/-- What a scalar is read as. -/
def Scalar.value : Scalar → Value
  | string text => .string text
  | integer n => .integer n

/-- A document can hold the scalar. -/
def Scalar.Fits : Scalar → Prop
  | string _ => True
  | integer n => n ≤ maxInteger

/-- Nothing in the scalar has to be escaped. -/
def Scalar.Plain : Scalar → Prop
  | string text => Toml.Plain text.toList
  | integer _ => True

/-- The text of a scalar. -/
def Scalar.text : Scalar → List Char
  | string text => quote text.toList
  | integer n => Nat.toDigits 10 n

lemma Scalar.render?_of_fits {s : Scalar} (fits : s.Fits) : s.render? = some s.text := by
  cases s with
  | string text => rfl
  | integer n => exact if_pos fits

lemma Scalar.render?_eq_none {s : Scalar} (large : ¬ s.Fits) : s.render? = none := by
  cases s with
  | string text => exact absurd trivial large
  | integer n => exact if_neg large

/-- **A plain scalar is spelt by its text.** -/
lemma Scalar.spelt {s : Scalar} (fits : s.Fits) (plain : s.Plain) : s.value.Spelt s.text := by
  cases s with
  | string written => simpa [value, text] using spelt_string plain
  | integer n => exact spelt_integer fits

namespace Section

/-- A line of a section as it is written. -/
def line (l : String × Scalar) : Line := ⟨l.1, l.2.text, l.2.value⟩

/-- A section as it is written. -/
def block (s : Section) : Block := ⟨s.name, s.lines.map line⟩

/-- The table of a section. -/
def entry (s : Section) : String × Value := (s.name, .table (s.lines.map fun l => (l.1, l.2.value)))

/-- A document can hold the section. -/
def Fits (s : Section) : Prop := ∀ l ∈ s.lines, l.2.Fits

/-- Names and keys need no quotes, no key is there twice, and nothing has to be escaped. -/
structure Plain (s : Section) : Prop where
  bare : Bare s.name
  bare_key : ∀ l ∈ s.lines, Bare l.1
  distinct : (s.lines.map Prod.fst).Nodup
  plain : ∀ l ∈ s.lines, l.2.Plain

lemma entry_block (s : Section) : s.block.entry = s.entry := by
  simp [block, Block.entry, entry, Line.entry, line, Function.comp_def]

lemma Plain.wellFormed {s : Section} (plain : s.Plain) (fits : s.Fits) : s.block.WellFormed where
  bare := plain.bare
  bare_key l hl := by
    obtain ⟨m, hm, rfl⟩ := List.mem_map.mp hl
    exact plain.bare_key m hm
  distinct := by simpa [block, line, Function.comp_def] using plain.distinct
  spelt l hl := by
    obtain ⟨m, hm, rfl⟩ := List.mem_map.mp hl
    exact Scalar.spelt (fits m hm) (plain.plain m hm)

section Zip

variable {name : String} {keys : List String} {values : List Scalar}

/-- A section of these keys fits if the values do. -/
lemma fits_zip (h : keys.length = values.length) :
    (⟨name, keys.zip values⟩ : Section).Fits ↔ ∀ v ∈ values, v.Fits := by
  have hvalues : (keys.zip values).map Prod.snd = values :=
    List.map_snd_zip (Nat.le_of_eq h.symm)
  constructor
  · intro fits v hv
    rw [← hvalues] at hv
    obtain ⟨l, hl, rfl⟩ := List.mem_map.mp hv
    exact fits l hl
  · exact fun fits l hl => fits l.2 (List.of_mem_zip hl).2

/-- A section of bare keys is plain if the values are. -/
lemma plain_zip (bare : Bare name) (bare_keys : ∀ key ∈ keys, Bare key) (distinct : keys.Nodup)
    (h : keys.length = values.length) (plain : ∀ v ∈ values, v.Plain) :
    (⟨name, keys.zip values⟩ : Section).Plain where
  bare := bare
  bare_key l hl := bare_keys l.1 (List.of_mem_zip hl).1
  distinct := by
    rw [List.map_fst_zip (Nat.le_of_eq h)]
    exact distinct
  plain l hl := plain l.2 (List.of_mem_zip hl).2

end Zip

end Section

section Printing

variable {α β : Type}

/-- Where every element has a text, so has the list. -/
lemma mapM_eq_some {f : α → Option β} {g : α → β} {l : List α} (h : ∀ a ∈ l, f a = some (g a)) :
    l.mapM f = some (l.map g) := by
  induction l with
  | nil => rfl
  | cons a l ih =>
    simp [h a List.mem_cons_self, ih fun b hb => h b (List.mem_cons_of_mem a hb)]

/-- Where one element has no text, neither has the list. -/
lemma mapM_eq_none {f : α → Option β} {l : List α} {a : α} (ha : a ∈ l) (h : f a = none) :
    l.mapM f = none := by
  induction l with
  | nil => simp at ha
  | cons b l ih =>
    rcases List.mem_cons.mp ha with rfl | ha
    · simp [h]
    · cases hb : f b <;> simp [hb, ih ha]

variable {sections : List Section}

/-- **Sections that fit are written as the document of their blocks.** -/
lemma render?_of_fits (fits : ∀ s ∈ sections, s.Fits) :
    render? sections = some (layout (sections.map Section.block)) := by
  have hsection : ∀ s ∈ sections, s.render? = some s.block.chars := by
    intro s hs
    have hlines : s.lines.mapM renderLine? =
        some (s.lines.map fun l => (Section.line l).chars) := by
      refine mapM_eq_some fun l hl => ?_
      simp [renderLine?, Scalar.render?_of_fits (fits s hs l hl), Section.line, Line.chars]
    simp [Section.render?, hlines, Section.block, Block.chars, Function.comp_def]
  rw [render?, mapM_eq_some hsection]
  simp [layout, Function.comp_def]

/-- Sections are not written if one of them does not fit. -/
lemma render?_eq_none {s : Section} (hs : s ∈ sections) (large : ¬ s.Fits) :
    render? sections = none := by
  simp only [Section.Fits, not_forall] at large
  obtain ⟨l, hl, hlarge⟩ := large
  have hline : renderLine? l = none := by
    simp [renderLine?, Scalar.render?_eq_none hlarge]
  have hsection : s.render? = none := by
    simp [Section.render?, mapM_eq_none hl hline]
  simp [render?, mapM_eq_none hs hsection]

/-- **What has been written is read back.** -/
theorem parse?_render (fits : ∀ s ∈ sections, s.Fits) (plain : ∀ s ∈ sections, s.Plain)
    (distinct : (sections.map Section.name).Nodup) :
    parse? (layout (sections.map Section.block)) = some (sections.map Section.entry) := by
  have hblocks : ∀ b ∈ sections.map Section.block, b.WellFormed := by
    intro b hb
    obtain ⟨s, hs, rfl⟩ := List.mem_map.mp hb
    exact (plain s hs).wellFormed (fits s hs)
  rw [parse?_layout hblocks (by simpa [Section.block, Function.comp_def] using distinct)]
  simp [Section.entry_block, Function.comp_def]

end Printing

end LogicCapture.Toml
