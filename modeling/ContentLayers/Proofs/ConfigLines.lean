import ContentLayers.Config.Basic
import ContentLayers.Proofs.TextLines

/-!
# Lines of a configuration

The grammar of a line, said apart from the code that reads it: which lines are passed over, what
sets a key, which path a quoted value stands for, and what makes a line bad. A line has a
meaning or is bad, and reading it tells which.
-/

namespace ContentLayers

namespace Config

open Text

/-- A blank line or a comment. -/
inductive Ignored : List Char → Prop
  | blank {line : List Char} (blank : AllBlank line) : Ignored line
  | comment {before : List Char} (blank : AllBlank before) (text : List Char) :
      Ignored (before ++ '#' :: text)

/-- A letter, then letters, digits, underscores and dashes. -/
def IsKey (key : List Char) : Prop :=
  ∃ c cs, key = c :: cs ∧ isKeyStart c = true ∧ ∀ d ∈ cs, isKeyChar d = true

/-- The line gives a key a value, with blanks around the two. -/
inductive Assigns : List Char → String → List Char → Prop
  | intro {before between : List Char} {key : String} (blank : AllBlank before)
      (named : IsKey key.toList) (blank' : AllBlank between) (rest : List Char) :
      Assigns (before ++ (key.toList ++ (between ++ '=' :: rest))) key (trim rest)

/-- One character of a quoted path: written as it is, or behind an ampersand. -/
inductive Piece where
  | plain (c : Char) (open' : c ≠ '"') (bare : c ≠ '&')
  | escaped (c : Char)

namespace Piece

def spelling : Piece → List Char
  | plain c _ _ => [c]
  | escaped c => ['&', c]

def meaning : Piece → Char
  | plain c _ _ => c
  | escaped c => c

end Piece

/-- Behind its opening quote a path ends at the first quote that is not escaped. Any text may
follow. -/
inductive Closes : List Char → List Char → Prop
  | intro (pieces : List Piece) (after : List Char) :
      Closes (pieces.flatMap Piece.spelling ++ '"' :: after) (pieces.map Piece.meaning)

/-- Behind its opening quote a path ends in an ampersand that escapes nothing. -/
inductive Dangles : List Char → Prop
  | intro (pieces : List Piece) : Dangles (pieces.flatMap Piece.spelling ++ ['&'])

/-- The path that a value stands for. -/
inductive Denotes : List Char → String → Prop
  | bare {value : List Char} (unquoted : value.head? ≠ some '"') : Denotes value (.ofList value)
  | quoted {rest path : List Char} (closes : Closes rest path) :
      Denotes ('"' :: rest) (.ofList path)

/-- The keys whose values are paths. -/
def pathKeys : List String := ["data", "data-local"]

/-- What a line means: nothing, or one setting. -/
inductive Means (line : List Char) : Option Setting → Prop
  | ignored (ignored : Ignored line) : Means line none
  | data {value : List Char} {path : String} (sets : Assigns line "data" value)
      (denotes : Denotes value path) : Means line (some (.data path))
  | dataLocal {value : List Char} {path : String} (sets : Assigns line "data-local" value)
      (denotes : Denotes value path) : Means line (some (.dataLocal path))
  | content {value : List Char} (sets : Assigns line "content" value) :
      Means line (some (.content (.ofList value)))
  | other {key : String} {value : List Char} (sets : Assigns line key value)
      (noPath : key ∉ pathKeys) (noContent : key ≠ "content") : Means line (some (.other key))

/-- A bad line is not passed over, and sets no key or gives a path no closing quote. -/
inductive Bad (line : List Char) : LineError → Prop
  | malformed (counts : ¬ Ignored line) (shapeless : ∀ key value, ¬ Assigns line key value) :
      Bad line (.malformed (.ofList (trim line)))
  | unterminated {key : String} {rest : List Char} (counts : ¬ Ignored line)
      (sets : Assigns line key ('"' :: rest)) (path : key ∈ pathKeys)
      (unclosed : ∀ path, ¬ Closes rest path) (whole : ¬ Dangles rest) :
      Bad line (.unterminated (.ofList ('"' :: rest)))
  | escapeAtEnd {key : String} {rest : List Char} (counts : ¬ Ignored line)
      (sets : Assigns line key ('"' :: rest)) (path : key ∈ pathKeys)
      (unclosed : ∀ path, ¬ Closes rest path) (dangles : Dangles rest) :
      Bad line (.escapeAtEnd (.ofList ('"' :: rest)))

variable {line value rest path : List Char} {key : String} {meant : Option Setting}
  {cause : LineError}

/-! ## Blank lines, comments and keys -/

theorem Ignored.trimStart (h : Ignored line) :
    trimStart line = [] ∨ ∃ text, trimStart line = '#' :: text := by
  cases h with
  | blank blank => exact Or.inl (trimStart_eq_nil.mpr blank)
  | comment blank text =>
    have sign : isBlank '#' = false := by decide
    refine Or.inr ⟨text, ?_⟩
    rw [trimStart_append blank]
    exact trimStart_of_front (by simp [sign])

theorem isIgnored_iff : isIgnored line = true ↔ Ignored line := by
  unfold isIgnored
  constructor
  · intro ignored
    obtain ⟨_, before, after, blank, blank', whole⟩ := trim_eq_iff.mp (rfl : trim line = trim line)
    split at ignored
    · rename_i none
      rw [none, List.append_nil] at whole
      exact .blank (whole ▸ blank.append blank')
    · rename_i c text some
      obtain rfl := beq_iff_eq.mp ignored
      rw [some, List.append_assoc] at whole
      rw [whole]
      exact .comment blank (text ++ after)
  · intro ignored
    rw [trim]
    obtain none | ⟨text, start⟩ := ignored.trimStart
    · rw [none]
      rfl
    · -- the end is trimmed up to the number sign at most
      obtain ⟨after, _, ends, _⟩ := exists_trimEnd ('#' :: text)
      rw [start]
      cases left : trimEnd ('#' :: text) with
      | nil => rfl
      | cons c cs =>
        rw [left, List.cons_append] at ends
        rw [← (List.cons.inj ends).1]
        rfl

theorem isBlank_of_isKeyChar {c : Char} (h : isKeyChar c = true) : isBlank c = false := by
  simp only [isKeyChar, Char.isAlphanum, Char.isAlpha, Char.isUpper, Char.isLower, Char.isDigit,
    Bool.or_eq_true, Bool.and_eq_true, decide_eq_true_eq, beq_iff_eq, ge_iff_le,
    UInt32.le_iff_toNat_le] at h
  change ((((65 ≤ c.toNat ∧ c.toNat ≤ 90) ∨ (97 ≤ c.toNat ∧ c.toNat ≤ 122)) ∨
    (48 ≤ c.toNat ∧ c.toNat ≤ 57)) ∨ c = '_') ∨ c = '-' at h
  rw [Bool.eq_false_iff]
  intro blank
  simp only [isBlank, Bool.or_eq_true, Bool.and_eq_true, decide_eq_true_eq, beq_iff_eq] at blank
  obtain (((upper | lower) | digit) | rfl) | rfl := h
  · omega
  · omega
  · omega
  · simp at blank
  · simp at blank

theorem isKeyChar_of_isBlank {c : Char} (h : isBlank c = true) : isKeyChar c = false := by
  rw [Bool.eq_false_iff]
  intro key
  rw [isBlank_of_isKeyChar key] at h
  cases h

theorem isKeyChar_of_isKeyStart {c : Char} (h : isKeyStart c = true) : isKeyChar c = true := by
  rw [isKeyStart] at h
  simp [isKeyChar, Char.isAlphanum, h]

theorem IsKey.forall_isKeyChar {key : List Char} (h : IsKey key) :
    ∀ c ∈ key, isKeyChar c = true := by
  obtain ⟨c, cs, rfl, start, others⟩ := h
  rw [List.forall_mem_cons]
  exact ⟨isKeyChar_of_isKeyStart start, others⟩

/-- Trimming stops at a key. -/
theorem IsKey.trimStart_append {key before : List Char} (h : IsKey key) (blank : AllBlank before)
    (behind : List Char) : trimStart (before ++ (key ++ behind)) = key ++ behind := by
  obtain ⟨c, cs, rfl, start, _⟩ := h
  rw [Text.trimStart_append blank]
  refine trimStart_of_front ?_
  intro d first
  rw [List.cons_append, List.head?_cons, Option.some.injEq] at first
  rw [← first]
  exact isBlank_of_isKeyChar (isKeyChar_of_isKeyStart start)

/-- The key at the start of a text, when a letter is there. -/
theorem isKey_takeWhile {text : List Char}
    (start : (text.takeWhile isKeyChar).head?.any isKeyStart = true) :
    IsKey (text.takeWhile isKeyChar) := by
  cases letters : text.takeWhile isKeyChar with
  | nil => simp [letters] at start
  | cons c cs =>
    refine ⟨c, cs, rfl, by simpa [letters] using start, ?_⟩
    intro d mem
    have inside : d ∈ text.takeWhile isKeyChar := by simp [letters, mem]
    exact List.mem_takeWhile_imp inside

/-- A key ends at the blanks or the sign of equality behind it. -/
theorem split_key {key between : List Char} (named : IsKey key) (blank : AllBlank between)
    (rest : List Char) :
    (key ++ (between ++ '=' :: rest)).takeWhile isKeyChar = key ∧
      (key ++ (between ++ '=' :: rest)).dropWhile isKeyChar = between ++ '=' :: rest := by
  have stop : ∃ c cs, between ++ '=' :: rest = c :: cs ∧ isKeyChar c = false := by
    cases between with
    | nil => exact ⟨'=', rest, rfl, by decide⟩
    | cons c cs => exact ⟨c, _, rfl, isKeyChar_of_isBlank (blank c List.mem_cons_self)⟩
  obtain ⟨c, cs, stopped, other⟩ := stop
  rw [List.takeWhile_append_of_pos named.forall_isKeyChar,
    List.dropWhile_append_of_pos named.forall_isKeyChar, stopped]
  simp [other]

theorem pair?_eq_some : pair? line = some (key.toList, value) ↔ Assigns line key value := by
  constructor
  · intro read
    simp only [pair?] at read
    split at read
    · rename_i rest start sign
      obtain ⟨same, rfl⟩ := Prod.mk.inj (Option.some.inj read)
      obtain ⟨before, blank, whole, _⟩ := exists_trimStart line
      obtain ⟨between, blank', behind, _⟩ := exists_trimStart ((trimStart line).dropWhile isKeyChar)
      have named : IsKey key.toList := same ▸ isKey_takeWhile start
      have cut := List.takeWhile_append_dropWhile (p := isKeyChar) (l := trimStart line)
      rw [sign] at behind
      rw [same, behind] at cut
      rw [whole, ← cut]
      exact .intro blank named blank' rest
    · cases read
  · intro sets
    obtain ⟨blank, named, blank', rest⟩ := sets
    rename_i before between
    have front := named.trimStart_append blank (between ++ '=' :: rest)
    have sign : trimStart (between ++ '=' :: rest) = '=' :: rest := by
      have other : isBlank '=' = false := by decide
      rw [trimStart_append blank']
      exact trimStart_of_front (by simp [other])
    obtain ⟨taken, left⟩ := split_key named blank' rest
    obtain ⟨c, cs, letters, start, _⟩ := named
    simp only [pair?, front, taken, left, sign]
    simp [letters, start]

/-! ## Quoted paths -/

theorem quotedPath_piece (text : String) (piece : Piece) (rest : List Char) :
    quotedPath text (piece.spelling ++ rest) =
      (quotedPath text rest).map (piece.meaning :: ·) := by
  cases piece with
  | plain c open' bare =>
    rw [Piece.spelling, List.singleton_append, quotedPath]
    · rfl
    · exact open'
    · exact fun same _ => bare same
    · exact fun _ _ same _ => bare same
  | escaped c => rfl

theorem quotedPath_pieces (text : String) (pieces : List Piece) (rest : List Char) :
    quotedPath text (pieces.flatMap Piece.spelling ++ rest) =
      (quotedPath text rest).map (pieces.map Piece.meaning ++ ·) := by
  induction pieces with
  | nil =>
    rw [List.flatMap_nil, List.nil_append]
    cases quotedPath text rest <;> rfl
  | cons piece pieces ih =>
    rw [List.flatMap_cons, List.append_assoc, quotedPath_piece, ih]
    cases quotedPath text rest <;> rfl

/-- A text without escapes to spare is pieces up to a closing quote, up to an ampersand at its end,
or throughout. -/
inductive Scan (text : String) : List Char → Except LineError (List Char) → Prop
  | closed {rest path : List Char} (closes : Closes rest path) : Scan text rest (.ok path)
  | dangling {rest : List Char} (dangles : Dangles rest) :
      Scan text rest (.error (.escapeAtEnd text))
  | unterminated (pieces : List Piece) :
      Scan text (pieces.flatMap Piece.spelling) (.error (.unterminated text))

theorem Scan.cons {text : String} {result : Except LineError (List Char)}
    (h : Scan text rest result) (piece : Piece) :
    Scan text (piece.spelling ++ rest) (result.map (piece.meaning :: ·)) := by
  cases h with
  | closed closes =>
    obtain ⟨pieces, after⟩ := closes
    have more := Closes.intro (piece :: pieces) after
    rw [List.flatMap_cons, List.append_assoc, List.map_cons] at more
    exact .closed more
  | dangling dangles =>
    obtain ⟨pieces⟩ := dangles
    have more := Dangles.intro (piece :: pieces)
    rw [List.flatMap_cons, List.append_assoc] at more
    exact .dangling more
  | unterminated pieces => exact .unterminated (piece :: pieces)

theorem quotedPath_spec (text : String) (rest : List Char) :
    Scan text rest (quotedPath text rest) := by
  fun_induction quotedPath text rest with
  | case1 => exact .unterminated []
  | case2 after => exact .closed (.intro [] after)
  | case3 => exact .dangling (.intro [])
  | case4 c rest ih => exact ih.cons (.escaped c)
  | case5 c rest open' noEnd noEscape ih =>
    have bare : c ≠ '&' := by
      rintro rfl
      cases rest with
      | nil => exact noEnd rfl rfl
      | cons d rest => exact noEscape d rest rfl rfl
    exact ih.cons (.plain c open' bare)

variable {text : String}

theorem quotedPath_of_closes (closes : Closes rest path) : quotedPath text rest = .ok path := by
  obtain ⟨pieces, after⟩ := closes
  rw [quotedPath_pieces, quotedPath]
  simp [Except.map]

theorem quotedPath_of_dangles (dangles : Dangles rest) :
    quotedPath text rest = .error (.escapeAtEnd text) := by
  obtain ⟨pieces⟩ := dangles
  rw [quotedPath_pieces, quotedPath]
  rfl

theorem quotedPath_of_open (unclosed : ∀ path, ¬ Closes rest path) (whole : ¬ Dangles rest) :
    quotedPath text rest = .error (.unterminated text) := by
  have spec := quotedPath_spec text rest
  generalize quotedPath text rest = result at spec ⊢
  cases spec with
  | closed closes => exact absurd closes (unclosed _)
  | dangling dangles => exact absurd dangles whole
  | unterminated pieces => rfl

theorem unquote_quoted (rest : List Char) :
    unquote ('"' :: rest) = (quotedPath (.ofList ('"' :: rest)) rest).map .ofList := rfl

theorem unquote_of_denotes (denotes : Denotes value text) : unquote value = .ok text := by
  cases denotes with
  | bare unquoted =>
    unfold unquote
    split
    · simp at unquoted
    · rfl
  | quoted closes =>
    rw [unquote_quoted, quotedPath_of_closes closes]
    rfl

/-- A value stands for a path unless it opens a quote that nothing closes. -/
theorem denotes_or_open (value : List Char) :
    (∃ path, Denotes value path) ∨ ∃ rest, value = '"' :: rest ∧ ∀ path, ¬ Closes rest path := by
  by_cases unquoted : value.head? = some '"'
  · obtain ⟨rest, rfl⟩ := List.head?_eq_some_iff.mp unquoted
    by_cases closed : ∃ path, Closes rest path
    · obtain ⟨path, closes⟩ := closed
      exact Or.inl ⟨_, .quoted closes⟩
    · exact Or.inr ⟨rest, rfl, not_exists.mp closed⟩
  · exact Or.inl ⟨_, .bare unquoted⟩

/-! ## What a line means -/

/-- What a line means, or why it is bad. -/
def reading (line : List Char) : Except LineError (Option Setting) :=
  if isIgnored line then .ok none else (setting line).map some

theorem reading_of_counts (counts : ¬ Ignored line) : reading line = (setting line).map some :=
  if_neg (isIgnored_iff.not.mpr counts)

/-- A line that sets a key is neither blank nor a comment. -/
theorem Assigns.counts (h : Assigns line key value) : ¬ Ignored line := by
  intro ignored
  obtain ⟨blank, named, blank', rest⟩ := h
  have starts := ignored.trimStart
  rw [named.trimStart_append blank] at starts
  obtain ⟨c, cs, letters, start, _⟩ := named
  rw [letters, List.cons_append] at starts
  obtain none | ⟨text, sign⟩ := starts
  · cases none
  · rw [(List.cons.inj sign).1] at start
    exact absurd start (by decide)

/-- What a key makes of its value. -/
def assigned (key : String) (value : List Char) : Except LineError Setting :=
  if key = "data" then (unquote value).map .data
  else if key = "data-local" then (unquote value).map .dataLocal
  else if key = "content" then .ok (.content (.ofList value))
  else .ok (.other key)

theorem reading_of_assigns (sets : Assigns line key value) :
    reading line = (assigned key value).map some := by
  rw [reading_of_counts sets.counts]
  congr 1
  simp only [setting, pair?_eq_some.mpr sets, String.ofList_toList]
  split
  · rfl
  · rfl
  · rfl
  · rename_i noData noLocal noContent
    rw [assigned, if_neg noData, if_neg noLocal, if_neg noContent]

theorem pair?_of_shapeless (shapeless : ∀ key value, ¬ Assigns line key value) :
    pair? line = none := by
  cases read : pair? line with
  | none => rfl
  | some pair =>
    obtain ⟨letters, value⟩ := pair
    have sets := shapeless (.ofList letters) value
    rw [← pair?_eq_some, String.toList_ofList] at sets
    exact absurd read sets

theorem reading_of_means (means : Means line meant) : reading line = .ok meant := by
  cases means with
  | ignored ignored => exact if_pos (isIgnored_iff.mpr ignored)
  | data sets denotes =>
    rw [reading_of_assigns sets, assigned, unquote_of_denotes denotes]
    rfl
  | dataLocal sets denotes =>
    rw [reading_of_assigns sets, assigned, unquote_of_denotes denotes]
    rfl
  | content sets =>
    rw [reading_of_assigns sets]
    rfl
  | @other key value sets noPath noContent =>
    simp only [pathKeys, List.mem_cons, List.not_mem_nil, or_false, not_or] at noPath
    rw [reading_of_assigns sets, assigned, if_neg noPath.1, if_neg noPath.2, if_neg noContent]
    rfl

/-- A path that is refused is refused with its line. -/
theorem reading_of_refused (sets : Assigns line key value) (path : key ∈ pathKeys)
    (refused : unquote value = .error cause) : reading line = .error cause := by
  rw [reading_of_assigns sets, assigned, refused]
  simp only [pathKeys, List.mem_cons, List.not_mem_nil, or_false] at path
  obtain rfl | rfl := path <;> rfl

theorem reading_of_bad (bad : Bad line cause) : reading line = .error cause := by
  cases bad with
  | malformed counts shapeless =>
    rw [reading_of_counts counts, setting, pair?_of_shapeless shapeless]
    rfl
  | unterminated counts sets path unclosed whole =>
    refine reading_of_refused sets path ?_
    rw [unquote_quoted, quotedPath_of_open unclosed whole]
    rfl
  | escapeAtEnd counts sets path unclosed dangles =>
    refine reading_of_refused sets path ?_
    rw [unquote_quoted, quotedPath_of_dangles dangles]
    rfl

theorem means_or_bad (line : List Char) :
    (∃ meant, Means line meant) ∨ ∃ cause, Bad line cause := by
  by_cases ignored : Ignored line
  · exact Or.inl ⟨_, .ignored ignored⟩
  by_cases shaped : ∃ key value, Assigns line key value
  · obtain ⟨key, value, sets⟩ := shaped
    by_cases path : key ∈ pathKeys
    · obtain ⟨denoted, denotes⟩ | ⟨rest, rfl, unclosed⟩ := denotes_or_open value
      · simp only [pathKeys, List.mem_cons, List.not_mem_nil, or_false] at path
        obtain rfl | rfl := path
        · exact Or.inl ⟨_, .data sets denotes⟩
        · exact Or.inl ⟨_, .dataLocal sets denotes⟩
      · by_cases dangles : Dangles rest
        · exact Or.inr ⟨_, .escapeAtEnd ignored sets path unclosed dangles⟩
        · exact Or.inr ⟨_, .unterminated ignored sets path unclosed dangles⟩
    · by_cases content : key = "content"
      · subst content
        exact Or.inl ⟨_, .content sets⟩
      · exact Or.inl ⟨_, .other sets path content⟩
  · exact Or.inr ⟨_, .malformed ignored (by simpa using shaped)⟩

end Config

end ContentLayers
