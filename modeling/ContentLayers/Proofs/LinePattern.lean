import ContentLayers.Proofs.ConfigLines

/-!
# The pattern of a line

A small language of patterns, with runs of characters that are as long or as short as what follows
allows, and groups whose texts are captured. The lines of a configuration are written after one of
these patterns, and what is read off a line is what the pattern captures.
-/

namespace ContentLayers

open Text

/-- A set of characters that a pattern names. -/
inductive CharSet where
  /-- White space, `\s`. -/
  | blank
  /-- Any character but a line feed, `.`. -/
  | dot
  /-- The characters between two bounds, as in `[A-Za-z]`. -/
  | ranges (bounds : List (Char × Char))

def CharSet.has : CharSet → Char → Bool
  | blank, c => isBlank c
  | dot, c => c != '\n'
  | ranges bounds, c => bounds.any fun (low, high) => low ≤ c && c ≤ high

/-- What the front of a text is to look like. -/
inductive Pattern where
  | one (set : CharSet)
  /-- A run that is as long as the rest allows, `*`. -/
  | greedy (set : CharSet)
  /-- A run that is as short as the rest allows, `*?`. -/
  | lazy (set : CharSet)
  | seq (first second : Pattern)
  /-- A part whose text is captured. -/
  | group (inner : Pattern)
  /-- The end of the text, `$`. -/
  | finish

/-- A way to fit the front of a text. -/
structure Fit where
  taken : List Char
  rest : List Char
  groups : List (List Char)
  deriving DecidableEq, Repr

/-- The ways to split a run of characters off a text, the shortest run first. -/
def runs (p : Char → Bool) : List Char → List (List Char × List Char)
  | [] => [([], [])]
  | c :: cs =>
    ([], c :: cs) ::
      if p c then (runs p cs).map fun (taken, rest) => (c :: taken, rest) else []

namespace Pattern

/-- The ways to fit the front of a text, in the order in which they are preferred. -/
def fits : Pattern → List Char → List Fit
  | one _, [] => []
  | one set, c :: cs => if set.has c then [⟨[c], cs, []⟩] else []
  | greedy set, text => (runs set.has text).reverse.map fun (taken, rest) => ⟨taken, rest, []⟩
  | lazy set, text => (runs set.has text).map fun (taken, rest) => ⟨taken, rest, []⟩
  | seq first second, text =>
    (first.fits text).flatMap fun front =>
      (second.fits front.rest).map fun back =>
        ⟨front.taken ++ back.taken, back.rest, front.groups ++ back.groups⟩
  | group inner, text =>
    (inner.fits text).map fun fit => { fit with groups := fit.taken :: fit.groups }
  | finish, [] => [⟨[], [], []⟩]
  | finish, _ :: _ => []

/-- What the groups capture when a text is fitted from its start in the way that is preferred. -/
def captures (p : Pattern) (text : List Char) : Option (List (List Char)) :=
  (p.fits text).head?.map (·.groups)

end Pattern

/-! ## Runs -/

section Runs

/-- The longest run is the one that is preferred last. -/
theorem head?_reverse_runs (p : Char → Bool) (text : List Char) :
    (runs p text).reverse.head? = some (text.takeWhile p, text.dropWhile p) := by
  rw [List.head?_reverse]
  induction text with
  | nil => rfl
  | cons c cs ih =>
    rw [runs]
    cases held : p c with
    | true =>
      rw [if_pos rfl, List.getLast?_cons, List.getLast?_map, ih]
      simp [held]
    | false => simp [held]

/-- Where the rest goes on from the longest run only, no other run matters. -/
theorem flatMap_runs {α : Type} {p : Char → Bool} {f : List Char × List Char → List α}
    (stuck : ∀ taken c cs, p c = true → f (taken, c :: cs) = []) (text : List Char) :
    (runs p text).reverse.flatMap f = f (text.takeWhile p, text.dropWhile p) := by
  induction text generalizing f with
  | nil => simp [runs]
  | cons c cs ih =>
    rw [runs, List.reverse_cons, List.flatMap_append, List.flatMap_singleton]
    cases held : p c with
    | true =>
      have longer := ih (f := fun s => f (c :: s.1, s.2)) fun _ d ds other => stuck _ d ds other
      rw [if_pos rfl, ← List.map_reverse, List.flatMap_map, stuck _ c cs held, List.append_nil,
        longer, List.takeWhile_cons_of_pos held, List.dropWhile_cons_of_pos held]
    | false => simp [held]

theorem not_mem_dropWhile {p : Char → Bool} {c : Char} {text : List Char} (absent : c ∉ text) :
    c ∉ text.dropWhile p := fun mem => absent ((List.dropWhile_sublist p).mem mem)

/-- A run that only blanks follow. -/
def aheadOfBlanks (split : List Char × List Char) : Option (List Char) :=
  if trimStart split.2 = [] then some split.1 else none

/-- The text ahead of its last blanks is the shortest run that only blanks follow. -/
theorem findSome?_runs {p : Char → Bool} {text : List Char} (within : ∀ c ∈ text, p c = true) :
    (runs p text).findSome? aheadOfBlanks = some (trimEnd text) := by
  induction text with
  | nil => rfl
  | cons c cs ih =>
    obtain ⟨held, others⟩ := List.forall_mem_cons.mp within
    rw [runs, if_pos held, List.findSome?_cons, aheadOfBlanks]
    by_cases blank : trimStart (c :: cs) = []
    · rw [if_pos blank, trimEnd_of_blank (trimStart_eq_nil.mp blank)]
    · have longer : (aheadOfBlanks ∘ fun s => (c :: s.1, s.2)) =
          Option.map (c :: ·) ∘ aheadOfBlanks := by
        funext s
        simp only [Function.comp, aheadOfBlanks]
        split <;> rfl
      rw [if_neg blank, trimEnd_cons (trimStart_eq_nil.not.mp blank)]
      change List.findSome? aheadOfBlanks ((runs p cs).map fun s => (c :: s.1, s.2)) = _
      rw [List.findSome?_map, longer, ← List.map_findSome?, ih others, Option.map_some]

end Runs

namespace Pattern

/-! ## One part after another -/

/-- The pattern fits no text that starts in the set. -/
def Stops (set : CharSet) (p : Pattern) : Prop :=
  ∀ c cs, set.has c = true → p.fits (c :: cs) = []

variable {set other : CharSet} {p q : Pattern} {text : List Char}

theorem stops_one (apart : ∀ c, set.has c = true → other.has c = false) (q : Pattern) :
    ((one other).seq q).Stops set := by
  intro c cs held
  simp [fits, apart c held]

theorem Stops.seq (h : p.Stops set) (q : Pattern) : (p.seq q).Stops set := by
  intro c cs held
  simp [fits, h c cs held]

theorem Stops.group (h : p.Stops set) : p.group.Stops set := by
  intro c cs held
  simp [fits, h c cs held]

/-- A run is as long as it can be, when what follows cannot start inside it. -/
theorem fits_greedy_seq (h : q.Stops set) (text : List Char) :
    ((greedy set).seq q).fits text =
      (q.fits (text.dropWhile set.has)).map fun fit =>
        { fit with taken := text.takeWhile set.has ++ fit.taken } := by
  rw [fits, fits, List.flatMap_map]
  refine flatMap_runs (fun _ c cs held => ?_) text
  simp [h c cs held]

theorem Stops.greedy_seq (apart : ∀ c, set.has c = true → other.has c = false)
    (own : q.Stops other) (h : q.Stops set) : ((greedy other).seq q).Stops set := by
  intro c cs held
  rw [fits_greedy_seq own, List.dropWhile_cons_of_neg (by simp [apart c held]), h c cs held]
  rfl

theorem captures_greedy_seq (h : q.Stops set) (text : List Char) :
    ((greedy set).seq q).captures text = q.captures (text.dropWhile set.has) := by
  rw [captures, captures, fits_greedy_seq h, List.head?_map, Option.map_map]
  rfl

/-- The longest run is preferred where the rest fits behind it. -/
theorem captures_greedy_seq_of_some {groups : List (List Char)}
    (found : q.captures (text.dropWhile set.has) = some groups) :
    ((greedy set).seq q).captures text = some groups := by
  obtain ⟨fit, head, captured⟩ := Option.map_eq_some_iff.mp found
  obtain ⟨others, order⟩ := List.head?_eq_some_iff.mp (head?_reverse_runs set.has text)
  rw [captures, fits, fits, order, List.map_cons, List.flatMap_cons, List.head?_append,
    List.head?_map, head, ← captured]
  rfl

theorem captures_one_seq (set : CharSet) (q : Pattern) (c : Char) (cs : List Char) :
    ((one set).seq q).captures (c :: cs) = if set.has c = true then q.captures cs else none := by
  by_cases held : set.has c = true
  · simp [captures, fits, held]
    rfl
  · simp [captures, fits, held]

/-- A group that is a first character and the others behind it. -/
theorem captures_group_seq (first : CharSet) (h : q.Stops set) (c : Char) (cs : List Char) :
    ((group ((one first).seq (greedy set))).seq q).captures (c :: cs) =
      if first.has c = true then
        (q.captures (cs.dropWhile set.has)).map ((c :: cs.takeWhile set.has) :: ·)
      else none := by
  by_cases held : first.has c = true
  · rw [if_pos held]
    simp only [captures, fits, held, if_true, List.flatMap_singleton, List.map_map,
      List.flatMap_map, Function.comp_def]
    rw [flatMap_runs fun _ d ds other => by simp [h d ds other], List.head?_map, Option.map_map,
      Option.map_map]
    rfl
  · simp [captures, fits, held]

end Pattern

namespace Config

open Pattern

def letter : CharSet := .ranges [('A', 'Z'), ('a', 'z')]

def keySet : CharSet := .ranges [('A', 'Z'), ('a', 'z'), ('0', '9'), ('_', '_'), ('-', '-')]

def sign : CharSet := .ranges [('=', '=')]

/-- The key, `([A-Za-z][A-Za-z0-9_-]*)`. -/
def keyPattern : Pattern := group ((one letter).seq (greedy keySet))

/-- The blanks at the end, `\s*$`. -/
def endPattern : Pattern := (greedy .blank).seq finish

/-- What follows the key and its sign of equality, `\s*(.*?)\s*$`. -/
def valuePattern : Pattern := (greedy .blank).seq ((group (lazy .dot)).seq endPattern)

/-- The blanks and the sign of equality behind a key, and what follows. -/
def signPattern : Pattern := (greedy .blank).seq ((one sign).seq valuePattern)

/-- A line with a key and a value, `^\s*([A-Za-z][A-Za-z0-9_-]*)\s*=\s*(.*?)\s*$`. -/
def linePattern : Pattern := (greedy .blank).seq (keyPattern.seq signPattern)

theorem fits_endPattern (text : List Char) :
    endPattern.fits text = if trimStart text = [] then [⟨text, [], []⟩] else [] := by
  rw [endPattern, fits_greedy_seq fun _ _ _ => rfl]
  change (finish.fits (trimStart text)).map _ = _
  cases left : trimStart text with
  | nil =>
    have whole : text.takeWhile CharSet.blank.has = text :=
      List.takeWhile_eq_self_iff.mpr (trimStart_eq_nil.mp left)
    rw [whole]
    simp [fits]
  | cons c cs => simp [fits]

/-- The shortest text with nothing but blanks behind it. -/
theorem captures_lazy {text : List Char} (single : '\n' ∉ text) :
    ((group (lazy .dot)).seq endPattern).captures text = some [trimEnd text] := by
  have within : ∀ c ∈ text, CharSet.dot.has c = true := by
    rintro c mem
    have other : c ≠ '\n' := fun same => single (same ▸ mem)
    simpa [CharSet.has] using other
  have first (s : List Char × List Char) :
      ((endPattern.fits s.2).map fun back =>
        (⟨s.1 ++ back.taken, back.rest, s.1 :: back.groups⟩ : Fit)).head?.map (·.groups) =
        (aheadOfBlanks s).map ([·]) := by
    rw [fits_endPattern, aheadOfBlanks]
    split <;> rfl
  rw [captures, fits, fits, fits, List.map_map, List.flatMap_map, List.head?_flatMap,
    List.map_findSome?]
  calc (runs CharSet.dot.has text).findSome? _
      = (runs CharSet.dot.has text).findSome? (Option.map ([·]) ∘ aheadOfBlanks) :=
        congrArg (List.findSome? · _) (funext first)
    _ = some [trimEnd text] := by rw [← List.map_findSome?, findSome?_runs within]; rfl

/-- A value loses the blanks around it. -/
theorem captures_valuePattern {text : List Char} (single : '\n' ∉ text) :
    valuePattern.captures text = some [trim text] := by
  exact captures_greedy_seq_of_some (captures_lazy (not_mem_dropWhile single))

/-! ## Lines -/

theorem within_self (c d : Char) : (decide (d ≤ c) && decide (c ≤ d)) = (c == d) := by
  rw [Bool.eq_iff_iff, beq_iff_eq, Bool.and_eq_true, decide_eq_true_eq, decide_eq_true_eq,
    le_antisymm_iff, and_comm]

theorem has_letter (c : Char) : letter.has c = isKeyStart c := by
  rw [isKeyStart, Char.isAlpha, Char.isUpper, Char.isLower]
  simp [CharSet.has, letter, Char.le_def]

theorem has_keySet (c : Char) : keySet.has c = isKeyChar c := by
  rw [isKeyChar, Char.isAlphanum, Char.isAlpha, Char.isUpper, Char.isLower, Char.isDigit,
    ← within_self c '_', ← within_self c '-']
  simp [CharSet.has, keySet, Char.le_def, Bool.or_assoc]

theorem has_sign (c : Char) : sign.has c = (c == '=') := by
  simp [CharSet.has, sign, within_self]

theorem stops_keyPattern : keyPattern.Stops .blank := by
  refine Stops.group (stops_one (fun c blank => ?_) _)
  rw [has_letter, Bool.eq_false_iff]
  intro start
  rw [CharSet.has, isBlank_of_isKeyChar (isKeyChar_of_isKeyStart start)] at blank
  cases blank

theorem stops_sign {set : CharSet} (apart : set.has '=' = false) (q : Pattern) :
    ((one sign).seq q).Stops set := by
  refine stops_one (fun c held => ?_) q
  rw [has_sign, beq_eq_false_iff_ne]
  rintro rfl
  rw [apart] at held
  cases held

theorem stops_signPattern : signPattern.Stops keySet := by
  refine .greedy_seq (fun c held => ?_) (stops_sign (by decide) _) (stops_sign (by decide) _)
  rw [has_keySet] at held
  exact isBlank_of_isKeyChar held

/-- Behind a key come blanks, the sign of equality and a value. -/
theorem captures_signPattern {text : List Char} (single : '\n' ∉ text) :
    signPattern.captures text =
      match trimStart text with
      | '=' :: value => some [trim value]
      | _ => none := by
  have single' : '\n' ∉ trimStart text := not_mem_dropWhile single
  rw [signPattern, captures_greedy_seq (stops_sign (by decide) _)]
  change ((one sign).seq valuePattern).captures (trimStart text) = _
  cases left : trimStart text with
  | nil => rfl
  | cons c value =>
    rw [left, List.mem_cons, not_or] at single'
    rw [captures_one_seq, has_sign, captures_valuePattern single'.2]
    split <;> simp_all

/-- What is read off a line is what the line pattern captures. -/
theorem captures_linePattern {line : List Char} (single : '\n' ∉ line) :
    linePattern.captures line = (pair? line).map fun (key, value) => [key, value] := by
  rw [linePattern, captures_greedy_seq (stops_keyPattern.seq _), pair?]
  change (keyPattern.seq signPattern).captures (trimStart line) = _
  cases text : trimStart line with
  | nil => rfl
  | cons c cs =>
    have inside : '\n' ∉ (c :: cs).dropWhile isKeyChar :=
      not_mem_dropWhile (text ▸ not_mem_dropWhile single)
    rw [keyPattern, captures_group_seq letter stops_signPattern, has_letter]
    cases start : isKeyStart c with
    | false =>
      have unnamed : ((c :: cs).takeWhile isKeyChar).head?.any isKeyStart = false := by
        rw [List.takeWhile_cons]
        split <;> simp [start]
      rw [unnamed]
      rfl
    | true =>
      have key := isKeyChar_of_isKeyStart start
      have whole : keySet.has = isKeyChar := funext has_keySet
      rw [List.dropWhile_cons_of_pos key] at inside ⊢
      rw [whole, captures_signPattern inside, List.takeWhile_cons_of_pos key]
      simp only [List.head?_cons, Option.any_some, start, if_true]
      split <;> simp_all

/-- **Every line of a text is read as the line pattern captures it.** -/
theorem pair?_of_lines {text : String} {line : List Char} (mem : line ∈ lines text) :
    (pair? line).map (fun (key, value) => [key, value]) = linePattern.captures line :=
  (captures_linePattern ((cuts_iff.mpr rfl).single line mem)).symm

/-- The value keeps the blanks inside it and loses those around it. -/
example : linePattern.captures " data = a b\t".toList = some ["data".toList, "a b".toList] := by
  decide

end Config

end ContentLayers
