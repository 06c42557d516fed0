import TypedManifest.Check.Stream
import TypedManifest.CommandLine.Run
import TypedManifest.Config.Reader
import TypedManifest.Main
import TypedManifest.Manifest
import TypedManifest.Schema.Completion
import TypedManifest.Schema.Definition
import TypedManifest.Schema.Outline
import TypedManifest.Schema.Search
import TypedManifest.Schema.Tree
import TypedManifest.Yaml.Reader
import TypedManifest.Proofs.Check.Conformance
import TypedManifest.Proofs.Check.Locality
import TypedManifest.Proofs.Check.Suggestion
import TypedManifest.Proofs.Manifest.Availability
import TypedManifest.Proofs.Manifest.Defaults
import TypedManifest.Proofs.Manifest.Independence
import TypedManifest.Proofs.Scalar.Canonical
import TypedManifest.Proofs.Schema.Enumeration
import TypedManifest.Proofs.Schema.Rendering
import TypedManifest.Proofs.Check.Reordering
import TypedManifest.Proofs.Manifest.Knowledge
import TypedManifest.Proofs.Scalar.Integer
import TypedManifest.Proofs.Scalar.Memory
import TypedManifest.Proofs.Scalar.Magnitude
import TypedManifest.Proofs.Scalar.Route.Grammar
import TypedManifest.Proofs.Scalar.Route.Domain
import TypedManifest.Proofs.Check.Presence
import TypedManifest.Proofs.Schema.Merging
import TypedManifest.Proofs.Schema.Search
import TypedManifest.Proofs.Schema.Unfolding
import TypedManifest.Proofs.Config.Overrides
import TypedManifest.Proofs.Schema.Construction
import TypedManifest.Proofs.Check.Idle
