import ContentLayers.Proofs.Configurations

/-!
# Written configurations

Lines that are written for directories and names are read back as these, whatever characters they
hold, and whatever blank lines, comments and other keys stand between them.
-/

namespace ContentLayers

namespace Config

open Text

/-- A character of a path inside quotes. -/
def quotedChar (c : Char) : List Char := if c = '"' ∨ c = '&' then ['&', c] else [c]

/-- A path in quotes. -/
def quote (path : String) : List Char := '"' :: (path.toList.flatMap quotedChar ++ ['"'])

/-- A line to be written. It has no line feed in it. -/
inductive Written where
  | data (path : String) (single : '\n' ∉ path.toList)
  | dataLocal (path : String) (single : '\n' ∉ path.toList)
  | content (name : String) (single : '\n' ∉ name.toList) (trimmed : Trimmed name.toList)
  /-- A blank line or a comment. -/
  | ignored (line : List Char) (single : '\n' ∉ line) (ignored : Ignored line)
  /-- Any line that sets another key. -/
  | other (line : List Char) (single : '\n' ∉ line) (key : String) (value : List Char)
      (sets : Assigns line key value) (noPath : key ∉ pathKeys) (noContent : key ≠ "content")

namespace Written

def line : Written → List Char
  | data path _ => "data".toList ++ '=' :: quote path
  | dataLocal path _ => "data-local".toList ++ '=' :: quote path
  | content name _ _ => "content".toList ++ '=' :: name.toList
  | ignored line _ _ => line
  | other line _ _ _ _ _ _ => line

def meaning : Written → Option Setting
  | data path _ => some (.data path)
  | dataLocal path _ => some (.dataLocal path)
  | content name _ _ => some (.content name)
  | ignored _ _ _ => none
  | other _ _ key _ _ _ _ => some (.other key)

def dataPath? : Written → Option String
  | data path _ => some path
  | _ => none

/-- The local directory, when it is not empty. -/
def localPath? : Written → Option String
  | dataLocal path _ => if path = "" then none else some path
  | _ => none

def contentName? : Written → Option String
  | content name _ _ => some name
  | _ => none

def otherKey? : Written → Option String
  | other _ _ key _ _ _ _ => some key
  | _ => none

end Written

/-- The text of some lines, with a line feed between each two. -/
def write (ws : List Written) : String := .ofList (['\n'].intercalate (ws.map Written.line))

/-! ## Written lines -/

/-- The piece of a quoted path that a character is written as. -/
def Piece.ofChar (c : Char) : Piece :=
  if quote : c = '"' then .escaped c
  else if escape : c = '&' then .escaped c
  else .plain c quote escape

@[simp] theorem Piece.meaning_ofChar (c : Char) : (ofChar c).meaning = c := by
  unfold ofChar
  split
  · rfl
  · split <;> rfl

@[simp] theorem Piece.spelling_ofChar (c : Char) : (ofChar c).spelling = quotedChar c := by
  unfold ofChar quotedChar
  split
  · simp [spelling, *]
  · split <;> simp [spelling, *]

theorem denotes_quote (path : String) : Denotes (quote path) path := by
  have closes := Closes.intro (path.toList.map Piece.ofChar) []
  simp only [List.flatMap_map, Piece.spelling_ofChar, List.map_map, Function.comp_def,
    Piece.meaning_ofChar, List.map_id'] at closes
  have denotes := Denotes.quoted closes
  rwa [String.ofList_toList] at denotes

theorem trimmed_quote (path : String) : Trimmed (quote path) := by
  have mark : isBlank '"' = false := by decide
  constructor
  · intro c first
    obtain rfl := Option.some.inj first
    exact mark
  · intro c last
    rw [quote, ← List.cons_append, List.getLast?_concat] at last
    obtain rfl := Option.some.inj last
    exact mark

/-- A key, the sign of equality and a trimmed value. -/
theorem assigns_of_trimmed {key : String} {value : List Char} (named : IsKey key.toList)
    (trimmed : Trimmed value) : Assigns (key.toList ++ '=' :: value) key value := by
  have nothing : AllBlank [] := by simp [AllBlank]
  have sets : Assigns ([] ++ (key.toList ++ ([] ++ '=' :: value))) key (trim value) :=
    .intro nothing named nothing value
  rwa [trimmed.trim_eq] at sets

theorem Written.means_line (w : Written) : Means w.line w.meaning := by
  cases w with
  | data path =>
    have named : IsKey "data".toList := ⟨'d', "ata".toList, rfl, by decide, by simp [isKeyChar]⟩
    exact .data (assigns_of_trimmed named (trimmed_quote path)) (denotes_quote path)
  | dataLocal path =>
    have named : IsKey "data-local".toList :=
      ⟨'d', "ata-local".toList, rfl, by decide, by simp [isKeyChar]⟩
    exact .dataLocal (assigns_of_trimmed named (trimmed_quote path)) (denotes_quote path)
  | content name _ trimmed =>
    have named : IsKey "content".toList :=
      ⟨'c', "ontent".toList, rfl, by decide, by simp [isKeyChar]⟩
    have means := Means.content (assigns_of_trimmed named trimmed)
    rwa [String.ofList_toList] at means
  | ignored line _ ignored => exact .ignored ignored
  | other line _ key value sets noPath noContent => exact .other sets noPath noContent

theorem newline_not_mem_quote {path : String} (single : '\n' ∉ path.toList) :
    '\n' ∉ quote path := by
  have each : ∀ c ∈ path.toList, '\n' ∉ quotedChar c := by
    intro c mem feed
    unfold quotedChar at feed
    split at feed
    · simp only [List.mem_cons, List.not_mem_nil, or_false] at feed
      obtain escape | rfl := feed
      · exact absurd escape (by decide)
      · exact single mem
    · rw [List.mem_singleton] at feed
      exact single (feed ▸ mem)
  simpa [quote] using each

theorem newline_not_mem_assignment {key value : List Char} (h : '\n' ∉ key) (h' : '\n' ∉ value) :
    '\n' ∉ key ++ '=' :: value := by
  simp [h, h']

theorem Written.newline_not_mem_line (w : Written) : '\n' ∉ w.line := by
  cases w with
  | data path single => exact newline_not_mem_assignment (by simp) (newline_not_mem_quote single)
  | dataLocal path single =>
    exact newline_not_mem_assignment (by simp) (newline_not_mem_quote single)
  | content name single _ => exact newline_not_mem_assignment (by simp) single
  | ignored line single _ => exact single
  | other line single _ _ _ _ _ => exact single

/-! ## Lines read back -/

variable {line : List Char} {c : Char} {meant : Option Setting}

/-- A blank at the end of a line belongs to what stands behind the sign. -/
theorem exists_concat_of_sign {front rest : List Char} {sign : Char} (blank : isBlank c = true)
    (visible : isBlank sign = false) (whole : line ++ [c] = front ++ sign :: rest) :
    ∃ rest', rest = rest' ++ [c] ∧ line = front ++ sign :: rest' := by
  obtain rfl | ⟨rest', d, rfl⟩ := List.eq_nil_or_concat rest
  · obtain ⟨-, same⟩ := List.append_inj' whole rfl
    obtain rfl := List.singleton_inj.mp same
    rw [visible] at blank
    cases blank
  · rw [List.concat_eq_append, ← List.cons_append, ← List.append_assoc] at whole
    obtain ⟨rfl, same⟩ := List.append_inj' whole rfl
    obtain rfl := List.singleton_inj.mp same
    exact ⟨rest', List.concat_eq_append, rfl⟩

theorem Assigns.of_concat {key : String} {value : List Char} (blank : isBlank c = true)
    (h : Assigns (line ++ [c]) key value) : Assigns line key value := by
  generalize whole : line ++ [c] = long at h
  obtain ⟨blank', named, blank'', rest⟩ := h
  rename_i before between
  rw [← List.append_assoc, ← List.append_assoc] at whole
  obtain ⟨rest, rfl, rfl⟩ := exists_concat_of_sign blank (by decide) whole
  have same : trim (rest ++ [c]) = trim rest := trim_append_blank (by simpa [AllBlank] using blank)
  rw [same, List.append_assoc, List.append_assoc]
  exact .intro blank' named blank'' rest

theorem Ignored.of_concat (blank : isBlank c = true) (h : Ignored (line ++ [c])) :
    Ignored line := by
  generalize whole : line ++ [c] = long at h
  cases h with
  | blank blank' =>
    refine .blank ?_
    intro d mem
    exact blank' d (whole ▸ List.mem_append_left _ mem)
  | comment blank' text =>
    obtain ⟨text, rfl, rfl⟩ := exists_concat_of_sign blank (by decide) whole
    exact .comment blank' text

/-- A blank at the end of a line is no part of what it means. -/
theorem Means.of_concat (blank : isBlank c = true) (h : Means (line ++ [c]) meant) :
    Means line meant := by
  cases h with
  | ignored ignored => exact .ignored (ignored.of_concat blank)
  | data sets denotes => exact .data (sets.of_concat blank) denotes
  | dataLocal sets denotes => exact .dataLocal (sets.of_concat blank) denotes
  | content sets => exact .content (sets.of_concat blank)
  | other sets noPath noContent => exact .other (sets.of_concat blank) noPath noContent

theorem Means.dropReturn (h : Means line meant) : Means (dropReturn line) meant := by
  by_cases returns : line.getLast? = some '\r'
  · obtain ⟨line, rfl⟩ := List.getLast?_eq_some_iff.mp returns
    rw [dropReturn_concat]
    exact h.of_concat (by decide)
  · rwa [dropReturn_of_bare returns]

/-- Lines that are put together come apart again, but for an empty one at the end. -/
theorem exists_means_lines (ws : List Written) :
    ∃ meant, List.Forall₂ Means (lines (write ws)) meant ∧
      meant.reduceOption = ws.filterMap Written.meaning := by
  rw [lines, write, String.toList_ofList]
  induction ws with
  | nil => exact ⟨[], .nil, rfl⟩
  | cons w ws ih =>
    cases ws with
    | nil =>
      rw [List.map_singleton, List.intercalate_singleton, linesFrom_last w.newline_not_mem_line]
      by_cases empty : w.line = []
      · have read := reading_of_means w.means_line
        rw [empty] at read
        have nothing : w.meaning = none := (Except.ok.inj read).symm
        refine ⟨[], by simp [empty], ?_⟩
        simp [nothing]
      · refine ⟨[w.meaning], by simpa [empty] using w.means_line, ?_⟩
        rw [List.filterMap_cons, List.filterMap_nil]
        cases w.meaning <;> rfl
    | cons next ws =>
      obtain ⟨meant, good, said⟩ := ih
      refine ⟨w.meaning :: meant, ?_, ?_⟩
      · rw [List.map_cons, List.map_cons, List.intercalate_cons_cons, List.append_assoc,
          List.singleton_append, linesFrom_feed w.newline_not_mem_line, List.reverse_nil,
          List.nil_append]
        exact .cons w.means_line.dropReturn good
      · rw [List.filterMap_cons, ← said]
        cases w.meaning <;> rfl

theorem filterMap_meaning {β : Type} {f : Setting → Option β} {g : Written → Option β}
    (same : ∀ w : Written, w.meaning.bind f = g w) (ws : List Written) :
    (ws.filterMap Written.meaning).filterMap f = ws.filterMap g := by
  rw [List.filterMap_filterMap]
  exact List.filterMap_congr fun w _ => same w

theorem ofSettings_meaning (ws : List Written) :
    ofSettings (ws.filterMap Written.meaning) =
      { data := ws.filterMap Written.dataPath?
        dataLocal := (ws.filterMap Written.localPath?).getLast?
        content := ws.filterMap Written.contentName? } := by
  unfold ofSettings
  congr 1
  · exact filterMap_meaning (fun w => by cases w <;> rfl) ws
  · exact congrArg List.getLast?
      (filterMap_meaning (g := Written.localPath?) (fun w => by cases w <;> rfl) ws)
  · exact filterMap_meaning (fun w => by cases w <;> rfl) ws

theorem ignoredKeys_meaning (ws : List Written) :
    ignoredKeys (ws.filterMap Written.meaning) =
      (ws.filterMap Written.otherKey?).map Notice.ignoredKey := by
  unfold ignoredKeys
  rw [List.map_filterMap]
  exact filterMap_meaning (fun w => by cases w <;> rfl) ws

/-- **A configuration is read back as it was written.** Every directory and every name comes back
in its order, with the last local directory that is not empty. A blank line at the end ends the
text with a line feed. -/
theorem parse_write (ws : List Written) :
    parse (write ws) =
      ((ws.filterMap Written.otherKey?).map Notice.ignoredKey,
        .ok { data := ws.filterMap Written.dataPath?
              dataLocal := (ws.filterMap Written.localPath?).getLast?
              content := ws.filterMap Written.contentName? }) := by
  obtain ⟨meant, good, said⟩ := exists_means_lines ws
  rw [parse_of_means good, said, ignoredKeys_meaning, ofSettings_meaning]

example :
    write [.data "Tom &\" Jerry " (by decide),
      .ignored [] (by decide) (.blank (by simp [AllBlank]))] = "data=\"Tom &&&\" Jerry \"\n" ∧
    (parse "data=\"Tom &&&\" Jerry \"\n").2 = .ok ⟨["Tom &\" Jerry "], none, []⟩ := by
  decide

end Config

end ContentLayers
