import ContentLayers.Main
import ContentLayers.Files.Tree
import ContentLayers.Store.Levelled
import ContentLayers.Proofs.Table
import ContentLayers.Proofs.TableHistory
import ContentLayers.Proofs.Store
import ContentLayers.Proofs.Topic
import ContentLayers.Proofs.Loading
import ContentLayers.Proofs.Buffers
import ContentLayers.Proofs.Reachable
import ContentLayers.Proofs.FailedLoad
import ContentLayers.Proofs.TopicHistory
import ContentLayers.Proofs.Draws
import ContentLayers.Proofs.Heads
import ContentLayers.Proofs.Values
import ContentLayers.Proofs.Payloads
import ContentLayers.Proofs.Shapes
import ContentLayers.Proofs.Headers
import ContentLayers.Proofs.Cells
import ContentLayers.Proofs.RecordPayloads
import ContentLayers.Proofs.Frames
import ContentLayers.Proofs.Readers
import ContentLayers.Proofs.Drafts
import ContentLayers.Proofs.DamagedFiles
import ContentLayers.Proofs.FileTrees
import ContentLayers.Proofs.Installing
import ContentLayers.Proofs.Effects
import ContentLayers.Proofs.Interleaving
import ContentLayers.Proofs.Caseless
import ContentLayers.Proofs.CaselessStore
import ContentLayers.Proofs.CaselessLoads
import ContentLayers.Proofs.UpToCase
import ContentLayers.Proofs.Owners
import ContentLayers.Proofs.CurrentIndices
import ContentLayers.Proofs.Acceptance
import ContentLayers.Proofs.InfoSlots
import ContentLayers.Proofs.Replacement
import ContentLayers.Proofs.FileContents
import ContentLayers.Proofs.Reloading
import ContentLayers.Proofs.Agreement
import ContentLayers.Proofs.Pieces
import ContentLayers.Proofs.LoadOrder
import ContentLayers.Proofs.Layers
import ContentLayers.Proofs.Settings
import ContentLayers.Proofs.FileCounts
import ContentLayers.Proofs.Sessions
import ContentLayers.Proofs.SessionSeries
import ContentLayers.Proofs.Faults
import ContentLayers.Proofs.Registry
import ContentLayers.Proofs.RegistryRuns
import ContentLayers.Proofs.Declarations
import ContentLayers.Proofs.Visits
import ContentLayers.Proofs.DanglingReferences
import ContentLayers.Proofs.DepthLimit
import ContentLayers.Proofs.DerivedIndices
import ContentLayers.Proofs.NestedPicks
import ContentLayers.Proofs.ConfigLines
import ContentLayers.Proofs.LinePattern
import ContentLayers.Proofs.Configurations
import ContentLayers.Proofs.WrittenConfigurations
import ContentLayers.Proofs.Lookups
import ContentLayers.Proofs.Positions
