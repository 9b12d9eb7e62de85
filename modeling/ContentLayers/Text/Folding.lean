/-!
# Case folding

Ids and file names are compared with ASCII letters lowered and everything else as it is.
-/

namespace ContentLayers

def fold (s : String) : String := .ofList (s.toList.map Char.toLower)

/-- Equal up to ASCII case. -/
def sameFolded (a b : String) : Bool := fold a == fold b

theorem sameFolded_iff {a b : String} : sameFolded a b = true ↔ fold a = fold b := by
  simp [sameFolded]

end ContentLayers
