import HeaderBindings.Handle
import HeaderBindings.Storage.Tree
import HeaderBindings.Main
import HeaderBindings.Proofs.Header.Accounts
import HeaderBindings.Proofs.Header.Stripping
import HeaderBindings.Proofs.Header.Segments
import HeaderBindings.Proofs.Header.Isolation
import HeaderBindings.Proofs.Text.Pieces
import HeaderBindings.Proofs.Header.Layout
import HeaderBindings.Proofs.Header.Recovery
import HeaderBindings.Proofs.Artifact.BareNames
import HeaderBindings.Proofs.Text.Cutting
import HeaderBindings.Proofs.Artifact.Extracted
import HeaderBindings.Proofs.Artifact.Reading
import HeaderBindings.Proofs.Artifact.Files
import HeaderBindings.Proofs.Artifact.Forwarding
import HeaderBindings.Proofs.HandleNames
import HeaderBindings.Proofs.Artifact.DistinctNames
import HeaderBindings.Proofs.Artifact.Closed
import HeaderBindings.Proofs.Header.AcceptedMarkers
import HeaderBindings.Proofs.Header.Comments
import HeaderBindings.Proofs.Storage.FileView
import HeaderBindings.Proofs.Storage.Tree
import HeaderBindings.Proofs.Generation.Run
import HeaderBindings.Proofs.Generation.Effects
import HeaderBindings.Proofs.Generation.Formatting
import HeaderBindings.Proofs.TypeSpellings
import HeaderBindings.Proofs.Artifact.LegalNames
import HeaderBindings.Proofs.Header.Scan
import HeaderBindings.Proofs.Header.Pattern
import HeaderBindings.Proofs.ExtractionLog
import HeaderBindings.Proofs.Header.Directives
import HeaderBindings.Proofs.Artifact.Documentation
import HeaderBindings.Proofs.Parameter.Writing
import HeaderBindings.Proofs.Parameter.StarSpacing
import HeaderBindings.Proofs.UnmappedTypes
import HeaderBindings.Proofs.Header.Lines
import HeaderBindings.Proofs.Parameter.Types
import HeaderBindings.Proofs.PointerLayers
import HeaderBindings.Proofs.Header.TypedefTokens
import HeaderBindings.Proofs.Settings.Layers
import HeaderBindings.Proofs.Artifact.SettledNames
import HeaderBindings.Proofs.SnakeCase
import HeaderBindings.Proofs.Parameter.Lists
import HeaderBindings.Proofs.HandleSlots
