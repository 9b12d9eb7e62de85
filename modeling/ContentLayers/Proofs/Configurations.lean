import ContentLayers.Proofs.ConfigLines

/-!
# Configurations and their lines

A configuration is refused at its first bad line. Otherwise its settings are what its lines mean, in
their order.
-/

namespace ContentLayers

namespace Setting

def dataPath? : Setting → Option String
  | data path => some path
  | _ => none

/-- The local directory, when it is not empty. -/
def localPath? : Setting → Option String
  | dataLocal path => if path = "" then none else some path
  | _ => none

def contentName? : Setting → Option String
  | content name => some name
  | _ => none

end Setting

namespace Config

open Text

/-- The directories and names in the order of the settings, and the last local directory. -/
def ofSettings (settings : List Setting) : Config where
  data := settings.filterMap Setting.dataPath?
  dataLocal := (settings.filterMap Setting.localPath?).getLast?
  content := settings.filterMap Setting.contentName?

theorem ofSettings_concat (settings : List Setting) (s : Setting) :
    ofSettings (settings ++ [s]) = (ofSettings settings).add s := by
  cases s with
  | dataLocal path =>
    by_cases empty : path = "" <;>
      simp [ofSettings, add, Setting.dataPath?, Setting.localPath?, Setting.contentName?, empty]
  | _ => simp [ofSettings, add, Setting.dataPath?, Setting.localPath?, Setting.contentName?]

theorem foldl_add (settings : List Setting) : settings.foldl add empty = ofSettings settings := by
  induction settings using List.reverseRecOn with
  | nil => rfl
  | append_singleton settings s ih =>
    rw [List.foldl_append, ih, ofSettings_concat]
    rfl

/-! ## Reading line after line -/

theorem settings_cons (n : Nat) (line : List Char) (ls : List (List Char)) :
    settings n (line :: ls) = match reading line with
      | .error cause => ([], some ⟨n, cause⟩)
      | .ok meant => (meant.toList ++ (settings (n + 1) ls).1, (settings (n + 1) ls).2) := by
  rw [settings, reading]
  split
  · rfl
  · cases setting line <;> rfl

variable {before after : List (List Char)} {line : List Char} {meant : List (Option Setting)}
  {cause : LineError} {text : String}

/-- Good lines are read one by one. -/
theorem settings_append (good : List.Forall₂ Means before meant) (n : Nat)
    (after : List (List Char)) :
    settings n (before ++ after) =
      (meant.reduceOption ++ (settings (n + before.length) after).1,
        (settings (n + before.length) after).2) := by
  induction good generalizing n with
  | nil => rfl
  | @cons line said before meant means _ ih =>
    have further : n + 1 + before.length = n + (line :: before).length := by
      rw [List.length_cons]
      omega
    rw [List.cons_append, settings_cons, reading_of_means means, ih, further]
    cases said <;> simp [List.reduceOption_cons_of_none, List.reduceOption_cons_of_some]

/-- Among lines there is a first bad one, or all have a meaning. -/
theorem forall_means_or_bad (ls : List (List Char)) :
    (∃ meant, List.Forall₂ Means ls meant) ∨
      ∃ before line after meant cause, ls = before ++ line :: after ∧
        List.Forall₂ Means before meant ∧ Bad line cause := by
  induction ls with
  | nil => exact Or.inl ⟨[], .nil⟩
  | cons line ls ih =>
    obtain ⟨said, means⟩ | ⟨cause, bad⟩ := means_or_bad line
    · obtain ⟨meant, good⟩ | ⟨before, line', after, meant, cause, rfl, good, bad⟩ := ih
      · exact Or.inl ⟨said :: meant, .cons means good⟩
      · exact Or.inr
          ⟨line :: before, line', after, said :: meant, cause, rfl, .cons means good, bad⟩
    · exact Or.inr ⟨[], line, ls, [], cause, rfl, .nil, bad⟩

theorem parse_of_means (good : List.Forall₂ Means (lines text) meant) :
    parse text = (ignoredKeys meant.reduceOption, .ok (ofSettings meant.reduceOption)) := by
  have read := settings_append good 1 []
  rw [List.append_nil] at read
  simp only [parse, read, settings, List.append_nil, foldl_add]

theorem parse_of_bad (cut : lines text = before ++ line :: after)
    (good : List.Forall₂ Means before meant) (bad : Bad line cause) :
    parse text =
      (ignoredKeys meant.reduceOption, .error ⟨before.length + 1, cause⟩) := by
  have read := settings_append good 1 (line :: after)
  rw [settings_cons, reading_of_bad bad] at read
  simp only [parse, cut, read, List.append_nil, Nat.add_comm]

/-- A line with a meaning is not bad. -/
theorem Means.not_bad {said : Option Setting} (means : Means line said) : ¬ Bad line cause := by
  intro bad
  have read := reading_of_means means
  rw [reading_of_bad bad] at read
  cases read

theorem forall_not_bad (good : List.Forall₂ Means before meant) :
    ∀ line ∈ before, ∀ cause, ¬ Bad line cause := by
  induction good with
  | nil => simp
  | cons means _ ih =>
    rw [List.forall_mem_cons]
    exact ⟨fun cause => means.not_bad, ih⟩

theorem exists_means_of_not_bad (good : ∀ line ∈ before, ∀ cause, ¬ Bad line cause) :
    ∃ meant, List.Forall₂ Means before meant := by
  obtain means | ⟨front, line, back, _, cause, rfl, _, bad⟩ := forall_means_or_bad before
  · exact means
  · exact absurd bad (good line (by simp) cause)

theorem parse_eq_error {e : SyntaxError} : (parse text).2 = .error e ↔
    ∃ before line after, lines text = before ++ line :: after ∧ Bad line e.cause ∧
      (∀ line ∈ before, ∀ cause, ¬ Bad line cause) ∧ e.line = before.length + 1 := by
  constructor
  · intro refused
    obtain ⟨meant, good⟩ | ⟨before, line, after, meant, cause, cut, good, bad⟩ :=
      forall_means_or_bad (lines text)
    · rw [parse_of_means good] at refused
      cases refused
    · rw [parse_of_bad cut good bad] at refused
      obtain rfl := Except.error.inj refused
      exact ⟨before, line, after, cut, bad, forall_not_bad good, rfl⟩
  · rintro ⟨before, line, after, cut, bad, clean, numbered⟩
    obtain ⟨meant, good⟩ := exists_means_of_not_bad clean
    rw [parse_of_bad cut good bad, ← numbered]

theorem parse_eq_ok {c : Config} : (parse text).2 = .ok c ↔
    ∃ meant, List.Forall₂ Means (lines text) meant ∧ c = ofSettings meant.reduceOption := by
  constructor
  · intro read
    obtain ⟨meant, good⟩ | ⟨before, line, after, meant, cause, cut, good, bad⟩ :=
      forall_means_or_bad (lines text)
    · rw [parse_of_means good] at read
      exact ⟨meant, good, (Except.ok.inj read).symm⟩
    · rw [parse_of_bad cut good bad] at read
      cases read
  · rintro ⟨meant, good, rfl⟩
    rw [parse_of_means good]

/-- The message of an error begins with the number of the line. -/
theorem chain_numbered (e : SyntaxError) :
    ∃ more others, e.chain = (s!"line {e.line}" ++ more) :: others := by
  obtain ⟨line, cause⟩ := e
  cases cause with
  | malformed text =>
    refine ⟨s!": expected key=value, found {Text.quoted text}", [], ?_⟩
    simp [SyntaxError.chain, String.append_assoc]
  | escapeAtEnd value => exact ⟨"", _, by rw [String.append_empty]; rfl⟩
  | unterminated value => exact ⟨"", _, by rw [String.append_empty]; rfl⟩

/-- **A configuration is refused at its first bad line, and only there.** The error has the number
of that line, counted from one. Without a bad line every line has a meaning, and the configuration
is what they mean one after the other. -/
theorem parse_refuses_bad_lines (text : String) :
    (∀ ls, Cuts text.toList ls ↔ lines text = ls) ∧
    ((∃ e, (parse text).2 = .error e) ↔ ∃ line ∈ lines text, ∃ cause, Bad line cause) ∧
    (∀ e, (parse text).2 = .error e ↔
      ∃ before line after, lines text = before ++ line :: after ∧ Bad line e.cause ∧
        (∀ line ∈ before, ∀ cause, ¬ Bad line cause) ∧ e.line = before.length + 1) ∧
    (∀ e : SyntaxError, ∃ more others, e.chain = (s!"line {e.line}" ++ more) :: others) ∧
    (∀ c, (parse text).2 = .ok c ↔
      ∃ meant, List.Forall₂ Means (lines text) meant ∧ c = ofSettings meant.reduceOption) := by
  refine ⟨fun ls => cuts_iff, ?_, fun e => parse_eq_error, chain_numbered, fun c => parse_eq_ok⟩
  constructor
  · rintro ⟨e, refused⟩
    obtain ⟨before, line, after, cut, bad, _⟩ := parse_eq_error.mp refused
    exact ⟨line, by simp [cut], e.cause, bad⟩
  · rintro ⟨line, mem, cause, bad⟩
    cases read : (parse text).2 with
    | error e => exact ⟨e, rfl⟩
    | ok c =>
      obtain ⟨meant, good, _⟩ := parse_eq_ok.mp read
      exact absurd bad (forall_not_bad good line mem cause)

example :
    (parse "# a\n\ndata=\"x&\"\n=\n").2 = .error ⟨3, .unterminated "\"x&\""⟩ := by
  decide

end Config

end ContentLayers
