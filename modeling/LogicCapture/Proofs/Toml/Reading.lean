/-
What the parsers of TOML do with the text in front of them.

* `bind_apply`, `orElse_apply` and the like: parsers put together, run on a text;
* `span_run`, `star_run`, `exactly_run`: runs of characters, up to one that does not belong;
* `keyPath_bare`: a key of one bare name;
* `Expression.Spelt`: a line that is read as an expression, and `document_lines`: a document is
  the sum of its lines.
-/
import LogicCapture.Toml.Parser
import Mathlib.Tactic.Common

namespace LogicCapture.Toml

variable {α β : Type} {p q : Parser α} {cs rest : List Char}

/-! ### Parsers put together -/

@[simp] lemma bind_apply (p : Parser α) (f : α → Parser β) (cs : List Char) :
    (p >>= f) cs = (p cs).bind fun read => f read.1 read.2 := rfl

@[simp] lemma pure_apply (a : α) (cs : List Char) : (pure a : Parser α) cs = some (a, cs) := rfl

@[simp] lemma map_apply (f : α → β) (p : Parser α) (cs : List Char) :
    (f <$> p) cs = (p cs).map fun read => (f read.1, read.2) := by
  change ((p cs).bind fun read => some (f read.1, read.2)) = _
  cases p cs <;> rfl

@[simp] lemma failure_apply (cs : List Char) : (failure : Parser α) cs = none := rfl

@[simp] lemma orElse_apply (p q : Parser α) (cs : List Char) :
    (p <|> q) cs = (p cs).or (q cs) := by
  change (p cs).orElse (fun _ => q cs) = _
  cases p cs <;> rfl

@[simp] lemma optional_apply (p : Parser α) (cs : List Char) :
    optional p cs = ((p cs).map fun read => (some read.1, read.2)).or (some (none, cs)) := by
  rw [optional, orElse_apply, pure_apply]
  change ((p cs).bind fun read => some (some read.1, read.2)).or _ = _
  cases p cs <;> rfl

@[simp] lemma satisfy_cons (test : Char → Bool) (c : Char) (rest : List Char) :
    satisfy test (c :: rest) = if test c then some (c, rest) else none := rfl

@[simp] lemma satisfy_nil (test : Char → Bool) : satisfy test [] = none := rfl

@[simp] lemma char_cons (c d : Char) (rest : List Char) :
    char c (d :: rest) = if d = c then some (d, rest) else none := by
  simp [char]

@[simp] lemma char_nil (c : Char) : char c [] = none := rfl

@[simp] lemma literal_nil (cs : List Char) : literal [] cs = some ((), cs) := rfl

@[simp] lemma literal_cons (c : Char) (text cs : List Char) :
    literal (c :: text) cs = (char c cs).bind fun read => literal text read.2 := rfl

@[simp] lemma span_apply (test : Char → Bool) (cs : List Char) :
    span test cs = some (cs.takeWhile test, cs.dropWhile test) := rfl

/-! ### Runs -/

/-- What begins a text, if anything, fails the test. -/
def StopsAt (test : Char → Bool) (cs : List Char) : Prop := ∀ c ∈ cs.head?, test c = false

@[simp] lemma stopsAt_cons {test : Char → Bool} {c : Char} :
    StopsAt test (c :: rest) ↔ test c = false := by
  simp [StopsAt]

@[simp] lemma stopsAt_nil {test : Char → Bool} : StopsAt test [] := by
  simp [StopsAt]

section Runs

variable {test : Char → Bool} {run : List Char}

/-- A run ends where a character fails the test. -/
lemma span_run (passes : ∀ c ∈ run, test c = true) (stops : StopsAt test rest) :
    span test (run ++ rest) = some (run, rest) := by
  have hrest : rest.takeWhile test = [] ∧ rest.dropWhile test = rest := by
    cases rest with
    | nil => exact ⟨rfl, rfl⟩
    | cons c rest =>
      rw [stopsAt_cons] at stops
      exact ⟨by simp [stops], by simp [stops]⟩
  rw [span_apply, List.takeWhile_append_of_pos passes, List.dropWhile_append_of_pos passes,
    hrest.1, hrest.2, List.append_nil]

/-- Blanks stop where there are none. -/
lemma blanks_run (passes : ∀ c ∈ run, isBlank c = true) (stops : StopsAt isBlank rest) :
    blanks (run ++ rest) = some ((), rest) := by
  rw [blanks, bind_apply, span_run passes stops]
  rfl

lemma blanks_stop (stops : StopsAt isBlank cs) : blanks cs = some ((), cs) := by
  simpa using blanks_run (List.forall_mem_nil _) stops

lemma span1_run (nonempty : run ≠ []) (passes : ∀ c ∈ run, test c = true)
    (stops : StopsAt test rest) : span1 test (run ++ rest) = some (run, rest) := by
  obtain ⟨c, run, rfl⟩ := List.exists_cons_of_ne_nil nonempty
  have hc : test c = true := passes c List.mem_cons_self
  have hrun := span_run (fun d hd => passes d (List.mem_cons_of_mem c hd)) stops
  simp only [span1, List.cons_append, bind_apply, satisfy_cons, hc, if_true, Option.bind_some,
    hrun, pure_apply]

/-- Nothing is repeated where `p` reads nothing. -/
lemma upTo_stop {p : Parser α} (stops : p cs = none) (n : Nat) : upTo p n cs = some ([], cs) := by
  cases n with
  | zero => rfl
  | succ n => simp [upTo, stops]

lemma star_stop {p : Parser α} (stops : p cs = none) : star p cs = some ([], cs) :=
  upTo_stop stops _

/-- A parser of single characters reads a run of them one after the other. -/
lemma upTo_run {p : Parser Char} (reads : ∀ c ∈ run, ∀ rest, p (c :: rest) = some (c, rest))
    (stops : p rest = none) {n : Nat} (room : run.length ≤ n) :
    upTo p n (run ++ rest) = some (run, rest) := by
  induction run generalizing n with
  | nil => exact upTo_stop stops n
  | cons c run ih =>
    cases n with
    | zero => simp at room
    | succ n =>
      have hc : p (c :: (run ++ rest)) = some (c, run ++ rest) := reads c List.mem_cons_self _
      have hrun : upTo p n (run ++ rest) = some (run, rest) :=
        ih (fun d hd => reads d (List.mem_cons_of_mem c hd)) (by simpa using room)
      simp only [upTo, List.cons_append, orElse_apply, bind_apply, hc, Option.bind_some, hrun,
        pure_apply, Option.some_or]

lemma star_run {p : Parser Char} (reads : ∀ c ∈ run, ∀ rest, p (c :: rest) = some (c, rest))
    (stops : p rest = none) : star p (run ++ rest) = some (run, rest) :=
  upTo_run reads stops (by simp)

/-- A number of characters is read off a run just if the run is that long. -/
lemma exactly_run (passes : ∀ c ∈ run, test c = true) (stops : StopsAt test rest) (n : Nat) :
    exactly test n (run ++ rest) =
      if n ≤ run.length then some (run.take n, run.drop n ++ rest) else none := by
  induction n generalizing run with
  | zero => simp [exactly]
  | succ n ih =>
    cases run with
    | nil =>
      cases rest with
      | nil => simp [exactly]
      | cons c rest =>
        rw [stopsAt_cons] at stops
        simp [exactly, stops]
    | cons c run =>
      have hc : test c = true := passes c List.mem_cons_self
      have hrun := ih fun d hd => passes d (List.mem_cons_of_mem c hd)
      simp only [exactly, List.cons_append, bind_apply, satisfy_cons, hc, if_true,
        Option.bind_some, hrun, List.length_cons, Nat.add_le_add_iff_right]
      split <;> simp

end Runs

/-! ### Keys -/

/-- A name that needs no quotes. -/
def Bare (name : String) : Prop := name.toList ≠ [] ∧ ∀ c ∈ name.toList, isBareChar c = true

instance (name : String) : Decidable (Bare name) :=
  @instDecidableAnd _ _ _ (List.decidableBAll _ _)

/-- A bare name begins with one of its characters. -/
lemma Bare.exists_cons {name : String} (bare : Bare name) :
    ∃ c rest, name.toList = c :: rest ∧ isBareChar c = true := by
  obtain ⟨c, rest, h⟩ := List.exists_cons_of_ne_nil bare.1
  exact ⟨c, rest, h, bare.2 c (h ▸ List.mem_cons_self)⟩

/-- Characters that a bare name may hold differ from those that it may not. -/
lemma ne_of_isBareChar {c d : Char} (hc : isBareChar c = true) (hd : isBareChar d = false) :
    c ≠ d := by
  rintro rfl
  rw [hc] at hd
  cases hd

lemma isBlank_of_isBareChar {c : Char} (hc : isBareChar c = true) : isBlank c = false := by
  have hspace : c ≠ ' ' := ne_of_isBareChar hc (by decide)
  have htab : c ≠ '\t' := ne_of_isBareChar hc (by decide)
  simp [isBlank, hspace, htab]

lemma isBareChar_of_isBlank {c : Char} (hc : isBlank c = true) : isBareChar c = false := by
  cases h : isBareChar c with
  | false => rfl
  | true =>
    rw [isBlank_of_isBareChar h] at hc
    cases hc

lemma name_bare {key : String} (bare : Bare key) (stops : StopsAt isBareChar rest) :
    name (key.toList ++ rest) = some (key, rest) := by
  obtain ⟨c, tail, hkey, hc⟩ := bare.exists_cons
  have hbasic : c ≠ '"' := ne_of_isBareChar hc (by decide)
  have hliteral : c ≠ '\'' := ne_of_isBareChar hc (by decide)
  have hrun := span1_run bare.1 bare.2 stops
  simp only [hkey, List.cons_append] at hrun ⊢
  simp only [name, orElse_apply, basicString, literalString, bind_apply, char_cons, hbasic,
    hliteral, if_false, Option.bind_none, hrun, Option.bind_some, pure_apply, Option.none_or,
    ← hkey, String.ofList_toList]

/-- **A key of one bare name**, with blanks behind it. -/
lemma keyPath_bare {key : String} (bare : Bare key) {spaces : List Char}
    (hspaces : ∀ c ∈ spaces, isBlank c = true) {c : Char} (hbare : isBareChar c = false)
    (hblank : isBlank c = false) (hdot : c ≠ '.') :
    keyPath (key.toList ++ (spaces ++ c :: rest)) = some ([key], c :: rest) := by
  have hstops : StopsAt isBareChar (spaces ++ c :: rest) := by
    cases spaces with
    | nil => simpa using hbare
    | cons s spaces => simpa using isBareChar_of_isBlank (hspaces s List.mem_cons_self)
  have hfront : StopsAt isBlank (key.toList ++ (spaces ++ c :: rest)) := by
    obtain ⟨d, tail, hkey, hd⟩ := bare.exists_cons
    simpa [hkey] using isBlank_of_isBareChar hd
  have hname := name_bare bare hstops
  have hblanks : blanks (spaces ++ c :: rest) = some ((), c :: rest) :=
    blanks_run hspaces (by simpa using hblank)
  have hmore {p : Parser String} : star (do let _ ← char '.'; p) (c :: rest) =
      some ([], c :: rest) := star_stop (by simp [hdot])
  have hshort : [key].length < depthLimit := by simp [depthLimit]
  simp only [keyPath, sepBy1, bind_apply, blanks_stop hfront, Option.bind_some, hname, hblanks,
    pure_apply, hmore, if_pos hshort]

/-! ### Lines -/

/-- A line ends with a line end. -/
lemma lineEnd_newline : lineEnd ('\n' :: rest) = some ((), rest) := by
  simp only [lineEnd, bind_apply, blanks_stop (by simp [isBlank] : StopsAt isBlank ('\n' :: rest)),
    Option.bind_some, optional_apply, comment, char_cons, Char.reduceEq, if_false,
    Option.bind_none, Option.map_none, Option.none_or, orElse_apply, newline, literal_cons,
    literal_nil, if_true, Option.some_or]

/-- A text that is read as the value before a line end. -/
def Value.Spelt (text : List Char) (v : Value) : Prop :=
  StopsAt isBlank text ∧ ∀ rest, value (text ++ '\n' :: rest) = some (v, '\n' :: rest)

/-- A line that is read as the given expression, whatever stands in the lines after it. -/
structure Expression.Spelt (line : List Char) (e : Expression) : Prop where
  nonempty : line ≠ []
  /-- There are no blanks in front. -/
  front : StopsAt isBlank line
  reads : ∀ rest, StopsAt isBlank rest → expression (line ++ rest) = some (e, rest)

/-- An empty line says nothing. -/
lemma spelt_blank : Expression.Spelt ['\n'] .blank where
  nonempty := by simp
  front := by simp [isBlank]
  reads rest stops := by
    simp only [expression, List.cons_append, List.nil_append, bind_apply, newline, orElse_apply,
      literal_cons, literal_nil, char_cons, if_true, Option.bind_some, Option.some_or, pure_apply,
      blanks_stop stops]

/-- A name in brackets is a header. -/
lemma spelt_header {name : String} (bare : Bare name) :
    Expression.Spelt ('[' :: name.toList ++ [']', '\n']) (.header [name]) where
  nonempty := by simp
  front := by simp [isBlank]
  reads rest stops := by
    obtain ⟨c, tail, hname, hc⟩ := bare.exists_cons
    have hopen : c ≠ '[' := ne_of_isBareChar hc (by decide)
    have hpath : keyPath (name.toList ++ ([] ++ ']' :: '\n' :: rest)) =
        some ([name], ']' :: '\n' :: rest) :=
      keyPath_bare bare (by simp) (by decide) (by decide) (by decide)
    have hheader : header ('[' :: (name.toList ++ ']' :: '\n' :: rest)) =
        headerIn ['['] [']'] .header ('[' :: (name.toList ++ ']' :: '\n' :: rest)) := by
      rw [hname, List.cons_append, header]
      simp [hopen]
    simp only [List.nil_append] at hpath
    simp only [expression, List.cons_append, List.append_assoc, List.nil_append, bind_apply,
      hheader, headerIn, literal_cons, literal_nil, char_cons, if_true, Option.bind_some, hpath,
      lineEnd_newline, pure_apply, blanks_stop stops]

/-- A bare name, an equals sign and a value make a key with its value. -/
lemma spelt_keyValue {key : String} (bare : Bare key) {text : List Char} {v : Value}
    (spelt : v.Spelt text) :
    Expression.Spelt (key.toList ++ [' ', '=', ' '] ++ text ++ ['\n']) (.keyValue [key] v) where
  nonempty := by simp
  front := by
    obtain ⟨c, tail, hkey, hc⟩ := bare.exists_cons
    simpa [hkey] using isBlank_of_isBareChar hc
  reads rest stops := by
    have hpath : keyPath (key.toList ++ ([' '] ++ '=' :: ' ' :: (text ++ '\n' :: rest))) =
        some ([key], '=' :: ' ' :: (text ++ '\n' :: rest)) :=
      keyPath_bare bare (by simp [isBlank]) (by decide) (by decide) (by decide)
    have hblanks : blanks ([' '] ++ (text ++ '\n' :: rest)) = some ((), text ++ '\n' :: rest) := by
      refine blanks_run (by simp [isBlank]) ?_
      cases htext : text with
      | nil => simp [isBlank]
      | cons c tail => simpa [htext] using spelt.1
    have hline : keyValue (key.toList ++ (' ' :: '=' :: ' ' :: (text ++ '\n' :: rest))) =
        some (.keyValue [key] v, rest) := by
      simp only [List.cons_append, List.nil_append] at hpath hblanks
      simp only [keyValue, bind_apply, hpath, Option.bind_some, char_cons, if_true, hblanks,
        spelt.2 rest, lineEnd_newline, pure_apply]
    obtain ⟨c, tail, hkey, hc⟩ := bare.exists_cons
    have hhash : c ≠ '#' := ne_of_isBareChar hc (by decide)
    have hopen : c ≠ '[' := ne_of_isBareChar hc (by decide)
    have hnewline : c ≠ '\n' := ne_of_isBareChar hc (by decide)
    have hreturn : c ≠ '\x0d' := ne_of_isBareChar hc (by decide)
    have hexpression (cs : List Char) : expression (c :: cs) = (keyValue (c :: cs)).bind
        fun read => (blanks read.2).bind fun after => some (read.1, after.2) := by
      rw [expression, bind_apply]
      split <;> simp_all
    simp only [List.append_assoc, List.cons_append, List.nil_append, hkey] at hline ⊢
    rw [hexpression, hline, Option.bind_some, blanks_stop stops]
    rfl

/-! ### Documents -/

/-- There are no blanks in front of lines. -/
lemma stopsAt_lines {lines : List (List Char × Expression)}
    (spelt : ∀ line ∈ lines, Expression.Spelt line.1 line.2) :
    StopsAt isBlank (lines.map Prod.fst).flatten := by
  cases lines with
  | nil => simp
  | cons line lines =>
    have hline := spelt line List.mem_cons_self
    obtain ⟨c, tail, htext⟩ := List.exists_cons_of_ne_nil hline.nonempty
    have hfront := hline.front
    simp only [htext, stopsAt_cons] at hfront
    simpa [htext] using hfront

/-- **A document is read line by line.** -/
lemma document_lines {lines : List (List Char × Expression)}
    (spelt : ∀ line ∈ lines, Expression.Spelt line.1 line.2) (d : Document) {n : Nat}
    (room : (lines.map Prod.fst).flatten.length ≤ n) :
    document n d (lines.map Prod.fst).flatten = (lines.map Prod.snd).foldlM Document.add d := by
  induction lines generalizing d n with
  | nil => cases n <;> rfl
  | cons line lines ih =>
    have hlines : ∀ line ∈ lines, Expression.Spelt line.1 line.2 :=
      fun line hline => spelt line (List.mem_cons_of_mem _ hline)
    have hline := spelt line List.mem_cons_self
    obtain ⟨c, tail, htext⟩ := List.exists_cons_of_ne_nil hline.nonempty
    have hread := hline.reads _ (stopsAt_lines hlines)
    cases n with
    | zero => simp [htext] at room
    | succ n =>
      have hroom : (lines.map Prod.fst).flatten.length ≤ n := by
        simp only [List.map_cons, List.flatten_cons, htext, List.length_append,
          List.length_cons] at room
        omega
      simp only [htext, List.cons_append] at hread
      simp only [List.map_cons, List.flatten_cons, htext, List.cons_append, document, hread,
        Option.bind_eq_bind, Option.bind_some, List.foldlM_cons]
      cases hadd : d.add line.2 with
      | none => rfl
      | some d' => simpa using ih hlines d' hroom

end LogicCapture.Toml
