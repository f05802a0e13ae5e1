import EndpointUpgrade.CommandLine.Run
import EndpointUpgrade.Main
import EndpointUpgrade.Proofs.Identity.Splitting
import EndpointUpgrade.Proofs.Text.LowerCase
import EndpointUpgrade.Proofs.Identity.Name
import EndpointUpgrade.Proofs.Identity.Recovery
import EndpointUpgrade.Proofs.Upgrade.Resource
import EndpointUpgrade.Proofs.Net.Address
import EndpointUpgrade.Proofs.Net.Network
import EndpointUpgrade.Proofs.Net.Mac
import EndpointUpgrade.Proofs.Net.Interface
import EndpointUpgrade.Proofs.Upgrade.Renaming
import EndpointUpgrade.Proofs.Upgrade.Merging
import EndpointUpgrade.Proofs.Upgrade.Forgetting
import EndpointUpgrade.Proofs.Reading.Written
import EndpointUpgrade.Proofs.Endpoint.RoundTrip
import EndpointUpgrade.Proofs.Documents.Reader
import EndpointUpgrade.Proofs.Endpoint.Accepted
import EndpointUpgrade.Proofs.Upgrade.Mixing
import EndpointUpgrade.Proofs.Documents.Staging
import EndpointUpgrade.Proofs.Yaml.Cursor
import EndpointUpgrade.Proofs.Yaml.Plain
import EndpointUpgrade.Proofs.Yaml.Style
import EndpointUpgrade.Proofs.Yaml.Integer
import EndpointUpgrade.Proofs.Yaml.Quoted
import EndpointUpgrade.Proofs.Yaml.Scalar
import EndpointUpgrade.Proofs.Yaml.Spot
import EndpointUpgrade.Proofs.Yaml.Signs
import EndpointUpgrade.Proofs.Yaml.ScalarToken
import EndpointUpgrade.Proofs.Yaml.KeyToken
import EndpointUpgrade.Proofs.Yaml.Characters
import EndpointUpgrade.Proofs.Yaml.Kept
import EndpointUpgrade.Proofs.Yaml.Lines
import EndpointUpgrade.Proofs.Yaml.Nodes
import EndpointUpgrade.Proofs.Yaml.Values
import EndpointUpgrade.Proofs.Yaml.ReadBack
import EndpointUpgrade.Proofs.Yaml.Short
import EndpointUpgrade.Proofs.Endpoint.Keys
import EndpointUpgrade.Proofs.Documents.Loading
import EndpointUpgrade.Proofs.Reading.Given
import EndpointUpgrade.Proofs.Upgrade.Checking
import EndpointUpgrade.Proofs.Documents.Failures
import EndpointUpgrade.Proofs.Value.Everywhere
import EndpointUpgrade.Proofs.Documents.Independence
import EndpointUpgrade.Proofs.Documents.Batch
import EndpointUpgrade.Proofs.Files.Tree
import EndpointUpgrade.Proofs.Documents.Writable
import EndpointUpgrade.Proofs.CommandLine.Run
import EndpointUpgrade.Proofs.CommandLine.Answers
import EndpointUpgrade.Proofs.Identity.Grammar
import EndpointUpgrade.Proofs.Upgrade.NormalForm
import EndpointUpgrade.Proofs.Labels
import EndpointUpgrade.Proofs.Upgrade.Relabeling
import EndpointUpgrade.Proofs.Reading.Agreement
import EndpointUpgrade.Proofs.Endpoint.Order
import EndpointUpgrade.Proofs.Documents.Order
import EndpointUpgrade.Proofs.Identity.FieldLists
import EndpointUpgrade.Proofs.Net.MacSpelling
import EndpointUpgrade.Proofs.Upgrade.Coherence
import EndpointUpgrade.Proofs.Reading.AddedKey
import EndpointUpgrade.Proofs.Endpoint.AddedKey
import EndpointUpgrade.Proofs.Documents.AddedKey
