import ContentLayers.Report.Json
import ContentLayers.Store.Session

/-!
# Diagnostics

What a store ended up with, kind by kind, and the infos of each topic.
-/

namespace ContentLayers

structure KindDiagnostics where
  tag : Tag
  kind : String
  count : Nat
  ids : List String
  deriving DecidableEq, Repr

structure Diagnostics where
  files : List FileStats
  kinds : List KindDiagnostics
  dangling : List Dangling

structure TopicReport where
  id : String
  infos : List String
  deriving DecidableEq, Repr

namespace Store

def diagnostics (s : Store) (report : LoadReport) : Diagnostics where
  files := report.files
  kinds := s.shelves.map fun shelf =>
    ⟨shelf.kind.tag, shelf.kind.name, shelf.live, s.idsOf shelf.kind.tag⟩
  dangling := s.indices.dangling

def topicReports (s : Store) : List TopicReport :=
  (s.table .dialogue).records.map fun topic => ⟨topic.id, topic.infos.map (·.id)⟩

end Store

def FileStats.json (s : FileStats) : Json :=
  .object [("name", .text s.name), ("index", .number s.index), ("loaded", .number s.loaded),
    ("deleted", .number s.deleted), ("skipped", .number s.skipped), ("infos", .number s.infos),
    ("overrides", .object (s.overrides.toList.map fun (file, count) =>
      (toString file, .number count)))]

def Dangling.json (d : Dangling) : Json :=
  .object [("owner_kind", .text d.ownerKind.name), ("owner", .text d.owner),
    ("target", .text d.target)]

def KindDiagnostics.json (k : KindDiagnostics) : Json :=
  .object [("tag", .text (toString k.tag)), ("kind", .text k.kind), ("count", .number k.count),
    ("ids", .array (k.ids.map .text))]

def Diagnostics.json (d : Diagnostics) : Json :=
  .object [("files", .array (d.files.map (·.json))), ("kinds", .array (d.kinds.map (·.json))),
    ("dangling", .array (d.dangling.map (·.json)))]

def TopicReport.json (t : TopicReport) : Json :=
  .object [("id", .text t.id), ("infos", .array (t.infos.map .text))]

namespace Diagnostics

def fileLine (s : FileStats) : String :=
  let infos := if 0 < s.infos then s!", {s.infos} infos" else ""
  let skipped := if 0 < s.skipped then s!", {s.skipped} skipped" else ""
  let sources := s.overrides.toList.map fun (file, count) => s!"{count} from #{file}"
  let overrides :=
    if sources.isEmpty then "" else ", overrides " ++ String.intercalate ", " sources
  s!"  #{s.index} {s.name}: {s.loaded} loaded, {s.deleted} deleted" ++ infos ++ skipped ++ overrides

def kindLines (verbose : Bool) (k : KindDiagnostics) : List String :=
  if k.count = 0 && !verbose then []
  else
    s!"{k.count} {k.kind} ({k.tag}) records" ::
      (if verbose then k.ids.map fun id => s!"  {id}" else [])

def danglingLines (dangling : List Dangling) : List String :=
  if dangling.isEmpty then []
  else "" :: s!"Dangling references: {dangling.length}" ::
    dangling.map fun d => s!"  {d.ownerKind.name} {d.owner} -> {d.target}"

/-- A summary to read; kinds without records and single ids only when `verbose`. -/
def summary (d : Diagnostics) (verbose : Bool) : List String :=
  "Content files:" :: d.files.map fileLine ++
    "" :: d.kinds.flatMap (kindLines verbose) ++ danglingLines d.dangling

end Diagnostics

/-- Lines as text, each with its line feed. -/
def unlines (lines : List String) : String := String.join (lines.map (· ++ "\n"))

end ContentLayers
