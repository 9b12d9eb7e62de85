/-!
# Random draws

Dice are all that drawing from a levelled list asks for: a percent roll, and a pick among one and
some more candidates. `Words.dice` makes dice of a source of random words by drawing until a word
falls into the largest zone that divides evenly.
-/

namespace ContentLayers

/-- Dice over a state `σ`. -/
structure Dice (σ : Type) where
  percent : σ → Fin 100 × σ
  pick : (others : Nat) → σ → Fin (others + 1) × σ

/-- A source of random words. -/
inductive Words where
  /-- The words listed, and zeros after them; a half is the low half. -/
  | script (words : List UInt64)
  /-- The SplitMix64 generator; a half is the high half. -/
  | splitMix (state : UInt64)
  deriving DecidableEq, Repr

namespace Words

def mix (z : UInt64) : UInt64 :=
  let z := (z ^^^ (z >>> 30)) * 0xBF58476D1CE4E5B9
  let z := (z ^^^ (z >>> 27)) * 0x94D049BB133111EB
  z ^^^ (z >>> 31)

def next : Words → UInt64 × Words
  | .script [] => (0, .script [])
  | .script (w :: ws) => (w, .script ws)
  | .splitMix state =>
    let state := state + 0x9E3779B97F4A7C15
    (mix state, .splitMix state)

def half : Words → UInt64 → UInt32
  | .script _, w => w.toUInt32
  | .splitMix _, w => (w >>> 32).toUInt32

/-- A number of draws that brings every word the source can still give. -/
def period : Words → Nat
  | .script words => words.length + 1
  | .splitMix _ => 0x10000000000000000

end Words

/-- A source of words that counts the draws. -/
structure Generator where
  words : Words
  drawn : Nat
  deriving DecidableEq, Repr

namespace Generator

def new (words : Words) : Generator := ⟨words, 0⟩

def next (g : Generator) : UInt64 × Generator :=
  let (w, words) := g.words.next
  (w, ⟨words, g.drawn + 1⟩)

/-- Draws until a word is accepted, at most `tries` times. -/
def drawWithin {α : Type} (accept : UInt64 → Option α) (default : α) :
    Nat → Generator → α × Generator
  | 0, g => (default, g)
  | tries + 1, g =>
    let (w, g) := g.next
    match accept w with
    | some a => (a, g)
    | none => drawWithin accept default tries g

/-- Draws until a word is accepted. -/
def draw {α : Type} (accept : UInt64 → Option α) (default : α) (g : Generator) : α × Generator :=
  drawWithin accept default g.words.period g

/-- The value below `n + 1` that a word of `bits` bits stands for: the high part of their product.
Words whose low part lies beyond `zone` are refused. -/
def scale (bits n zone word : Nat) : Option (Fin (n + 1)) :=
  let product := word * (n + 1)
  if product % (1 <<< bits) ≤ zone then
    some ⟨(product >>> bits) % (n + 1), Nat.mod_lt _ n.succ_pos⟩
  else none

/-- The last low part that is accepted: `n` shifted up as far as `bits` bits allow, less one. -/
def zone (bits n : Nat) : Nat := (n <<< (bits - 1 - n.log2)) - 1

def percent (g : Generator) : Fin 100 × Generator :=
  g.draw (fun w => scale 32 99 (zone 32 100) (g.words.half w).toNat) ⟨0, by decide⟩

def pick (others : Nat) (g : Generator) : Fin (others + 1) × Generator :=
  g.draw (fun w => scale 64 others (zone 64 (others + 1)) w.toNat) ⟨0, others.succ_pos⟩

def dice : Dice Generator := ⟨percent, pick⟩

end Generator

end ContentLayers
