import ContentLayers.Config.Line
import Mathlib

/-!
# Trimmed text and lines

Trimming takes the blanks off both ends and nothing else. Text is cut at its line feeds, and a
carriage return ahead of one belongs to the cut.
-/

namespace ContentLayers

namespace Text

/-- Nothing but blanks. -/
def AllBlank (cs : List Char) : Prop := ∀ c ∈ cs, isBlank c = true

/-- Without a blank at either end. -/
structure Trimmed (cs : List Char) : Prop where
  front : ∀ c, cs.head? = some c → isBlank c = false
  back : ∀ c, cs.getLast? = some c → isBlank c = false

variable {cs before after : List Char}

theorem AllBlank.append (h : AllBlank before) (h' : AllBlank after) :
    AllBlank (before ++ after) := by
  intro c mem
  obtain mem | mem := List.mem_append.mp mem
  · exact h c mem
  · exact h' c mem

theorem AllBlank.reverse (h : AllBlank cs) : AllBlank cs.reverse := by
  intro c mem
  exact h c (List.mem_reverse.mp mem)

theorem trimStart_eq_nil : trimStart cs = [] ↔ AllBlank cs := List.dropWhile_eq_nil_iff

theorem trimStart_append (blank : AllBlank before) : trimStart (before ++ cs) = trimStart cs :=
  List.dropWhile_append_of_pos blank

theorem trimStart_of_front (front : ∀ c, cs.head? = some c → isBlank c = false) :
    trimStart cs = cs := by
  cases cs with
  | nil => rfl
  | cons c cs => simp [trimStart, front c rfl]

theorem exists_trimStart (cs : List Char) :
    ∃ before, AllBlank before ∧ cs = before ++ trimStart cs ∧
      ∀ c, (trimStart cs).head? = some c → isBlank c = false := by
  refine ⟨cs.takeWhile isBlank, ?_, ?_, ?_⟩
  · intro c mem
    exact List.mem_takeWhile_imp mem
  · exact List.takeWhile_append_dropWhile.symm
  · intro c first
    have stop := List.head?_dropWhile_not isBlank cs
    rw [trimStart] at first
    rwa [first] at stop

/-- The end is trimmed as the start is, read backwards. -/
theorem trimEnd_eq (cs : List Char) : trimEnd cs = (trimStart cs.reverse).reverse := rfl

theorem trimEnd_append (blank : AllBlank after) : trimEnd (cs ++ after) = trimEnd cs := by
  rw [trimEnd_eq, List.reverse_append, trimStart_append blank.reverse, trimEnd_eq]

theorem trimEnd_of_back (back : ∀ c, cs.getLast? = some c → isBlank c = false) :
    trimEnd cs = cs := by
  rw [trimEnd_eq, trimStart_of_front, List.reverse_reverse]
  intro c first
  rw [List.head?_reverse] at first
  exact back c first

theorem trimEnd_of_blank (blank : AllBlank cs) : trimEnd cs = [] := by
  rw [trimEnd_eq, trimStart_eq_nil.mpr blank.reverse, List.reverse_nil]

/-- Trimming the end keeps a character unless it and all behind it are blank. -/
theorem trimEnd_cons {c : Char} (held : ¬ AllBlank (c :: cs)) :
    trimEnd (c :: cs) = c :: trimEnd cs := by
  by_cases blank : AllBlank cs
  · have black : isBlank c ≠ true := fun white => held (List.forall_mem_cons.mpr ⟨white, blank⟩)
    rw [← List.singleton_append, trimEnd_append blank, trimEnd_of_blank blank]
    exact trimEnd_of_back (by simpa using black)
  · have kept : cs.reverse.dropWhile isBlank ≠ [] := fun none =>
      blank (by simpa [AllBlank] using List.dropWhile_eq_nil_iff.mp none)
    simp [trimEnd, List.dropWhile_append, kept]

theorem exists_trimEnd (cs : List Char) :
    ∃ after, AllBlank after ∧ cs = trimEnd cs ++ after ∧
      ∀ c, (trimEnd cs).getLast? = some c → isBlank c = false := by
  obtain ⟨after, blank, whole, front⟩ := exists_trimStart cs.reverse
  refine ⟨after.reverse, blank.reverse, ?_, ?_⟩
  · rw [trimEnd_eq, ← List.reverse_append, ← whole, List.reverse_reverse]
  · intro c last
    rw [trimEnd_eq, List.getLast?_reverse] at last
    exact front c last

/-- What stands between the blanks at the ends is what trimming leaves. -/
theorem trim_eq_iff {value : List Char} :
    trim cs = value ↔ Trimmed value ∧
      ∃ before after, AllBlank before ∧ AllBlank after ∧ cs = before ++ value ++ after := by
  constructor
  · rintro rfl
    obtain ⟨before, blank, whole, front⟩ := exists_trimStart cs
    obtain ⟨after, blank', whole', back⟩ := exists_trimEnd (trimStart cs)
    refine ⟨⟨?_, back⟩, before, after, blank, blank', ?_⟩
    · intro c first
      refine front c ?_
      rw [whole', List.head?_append, ← trim, first, Option.some_or]
    · rw [List.append_assoc, trim, ← whole', ← whole]
  · rintro ⟨trimmed, before, after, blank, blank', rfl⟩
    rw [trim, List.append_assoc, trimStart_append blank]
    cases value with
    | nil =>
      -- nothing stands between the blanks, and the start takes them all
      have none : trimStart after = [] := trimStart_eq_nil.mpr blank'
      simp [none, trimEnd]
    | cons c value =>
      have front : trimStart ((c :: value) ++ after) = (c :: value) ++ after :=
        trimStart_of_front trimmed.front
      rw [front, trimEnd_append blank', trimEnd_of_back trimmed.back]

theorem Trimmed.trim_eq (h : Trimmed cs) : trim cs = cs :=
  trim_eq_iff.mpr ⟨h, [], [], by simp [AllBlank], by simp [AllBlank], by simp⟩

theorem trim_append_blank (blank : AllBlank after) : trim (cs ++ after) = trim cs := by
  obtain ⟨trimmed, before, after', blank', blank'', whole⟩ :=
    trim_eq_iff.mp (rfl : trim cs = trim cs)
  refine trim_eq_iff.mpr ⟨trimmed, before, after' ++ after, blank', blank''.append blank, ?_⟩
  rw [← List.append_assoc, ← whole]

end Text

namespace Config

/-- Text cut into lines. The end of the text ends a line that holds something. -/
inductive Cuts : List Char → List (List Char) → Prop
  | none : Cuts [] []
  | last {line : List Char} (single : '\n' ∉ line) (held : line ≠ []) : Cuts line [line]
  | feed {line rest : List Char} {lines : List (List Char)} (single : '\n' ∉ line)
      (bare : line.getLast? ≠ some '\r') (h : Cuts rest lines) :
      Cuts (line ++ '\n' :: rest) (line :: lines)
  | returnFeed {line rest : List Char} {lines : List (List Char)} (single : '\n' ∉ line)
      (h : Cuts rest lines) : Cuts (line ++ '\r' :: '\n' :: rest) (line :: lines)

theorem Cuts.single {cs : List Char} {lines : List (List Char)} (h : Cuts cs lines) :
    ∀ line ∈ lines, '\n' ∉ line := by
  induction h with
  | none => simp
  | last single held => simpa using single
  | feed single _ _ ih => exact List.forall_mem_cons.mpr ⟨single, ih⟩
  | returnFeed single _ ih => exact List.forall_mem_cons.mpr ⟨single, ih⟩

/-- A line without the carriage return at its end. -/
def dropReturn (line : List Char) : List Char :=
  if line.getLast? = some '\r' then line.dropLast else line

theorem dropReturn_concat (line : List Char) : dropReturn (line ++ ['\r']) = line := by
  simp [dropReturn]

theorem dropReturn_of_bare {line : List Char} (bare : line.getLast? ≠ some '\r') :
    dropReturn line = line := if_neg bare

variable {line rest : List Char}

/-- The characters of a line are gathered up to the line feed. -/
theorem linesFrom_feed (single : '\n' ∉ line) (front rest : List Char) :
    linesFrom front (line ++ '\n' :: rest) =
      dropReturn (front.reverse ++ line) :: linesFrom [] rest := by
  induction line generalizing front with
  | nil =>
    rw [List.nil_append, linesFrom, List.append_nil, dropReturn, List.getLast?_reverse,
      List.dropLast_reverse]
    split <;> rfl
  | cons c line ih =>
    rw [List.mem_cons, not_or] at single
    rw [List.cons_append, linesFrom, ih single.2]
    · simp
    · exact Ne.symm single.1

theorem linesFrom_last (single : '\n' ∉ line) (front : List Char) :
    linesFrom front line = if front.reverse ++ line = [] then [] else [front.reverse ++ line] := by
  induction line generalizing front with
  | nil => cases front <;> simp [linesFrom]
  | cons c line ih =>
    rw [List.mem_cons, not_or] at single
    rw [linesFrom, ih single.2]
    · simp
    · exact Ne.symm single.1

theorem cuts_linesFrom (cs : List Char) : Cuts cs (linesFrom [] cs) := by
  induction length : cs.length using Nat.strong_induction_on generalizing cs with
  | _ n ih =>
    by_cases feeds : '\n' ∈ cs
    · obtain ⟨line, rest, rfl, single⟩ := List.eq_append_cons_of_mem feeds
      have shorter : rest.length < n := by
        rw [← length, List.length_append, List.length_cons]
        omega
      have others := ih _ shorter rest rfl
      rw [linesFrom_feed single]
      by_cases returns : line.getLast? = some '\r'
      · obtain ⟨line, rfl⟩ := List.getLast?_eq_some_iff.mp returns
        rw [List.reverse_nil, List.nil_append, dropReturn_concat, List.append_assoc]
        exact .returnFeed (fun mem => single (List.mem_append_left _ mem)) others
      · rw [List.reverse_nil, List.nil_append, dropReturn_of_bare returns]
        exact .feed single returns others
    · rw [linesFrom_last feeds]
      by_cases none : cs = []
      · subst none
        exact .none
      · simpa [none] using Cuts.last feeds none

theorem Cuts.linesFrom_eq {cs : List Char} {lines : List (List Char)} (h : Cuts cs lines) :
    linesFrom [] cs = lines := by
  induction h with
  | none => rfl
  | last single held => simp [linesFrom_last single, held]
  | feed single bare _ ih => simp [linesFrom_feed single, dropReturn_of_bare bare, ih]
  | @returnFeed line rest lines single _ ih =>
    have single' : '\n' ∉ line ++ ['\r'] := by simpa using single
    have cut := linesFrom_feed single' [] rest
    rw [List.append_assoc, List.reverse_nil, List.nil_append, dropReturn_concat, ih] at cut
    exact cut

/-- The lines of a text are the one way to cut it. -/
theorem cuts_iff {text : String} {ls : List (List Char)} :
    Cuts text.toList ls ↔ lines text = ls := by
  constructor
  · intro h
    exact h.linesFrom_eq
  · rintro rfl
    exact cuts_linesFrom text.toList

end Config

end ContentLayers
