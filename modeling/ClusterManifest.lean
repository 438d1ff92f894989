import ClusterManifest.CommandLine
import ClusterManifest.Main
import ClusterManifest.Proofs.Command.Code
import ClusterManifest.Proofs.Command.Effect
import ClusterManifest.Proofs.Command.Precedence
import ClusterManifest.Proofs.Command.Refusal
import ClusterManifest.Proofs.Command.Summary
import ClusterManifest.Proofs.File.Written
import ClusterManifest.Proofs.Inputs.DomainName
import ClusterManifest.Proofs.Inputs.KeyLine
import ClusterManifest.Proofs.Inputs.PullSecret
import ClusterManifest.Proofs.Inputs.Relevance
import ClusterManifest.Proofs.Manifest.Edited
import ClusterManifest.Proofs.Manifest.Faithful
import ClusterManifest.Proofs.Manifest.Ranges
import ClusterManifest.Proofs.Store.Composing
import ClusterManifest.Proofs.Store.Defaults
import ClusterManifest.Proofs.Store.Verdict
