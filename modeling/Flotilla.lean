import Flotilla.Simulation.Population
import Flotilla.Wire.Json
import Flotilla.Toml.Json
import Flotilla.Node.Filter
import Flotilla.Node.Json
import Flotilla.Proofs.Roster.Eviction
import Flotilla.Proofs.Cluster.Events
import Flotilla.Proofs.Cluster.Authority
import Flotilla.Proofs.Cluster.Lease
import Flotilla.Proofs.Cluster.Agreement
import Flotilla.Proofs.Cluster.Commands
import Flotilla.Proofs.Cluster.Erasure
import Flotilla.Proofs.Cluster.Admission
import Flotilla.Proofs.Cluster.Quarantine
import Flotilla.Proofs.Service.Operations
import Flotilla.Proofs.EndNode.Records
import Flotilla.Proofs.EndNode.Descent
import Flotilla.Proofs.EndNode.Events
import Flotilla.Proofs.EndNode.Tokens
import Flotilla.Proofs.EndNode.Mediation
import Flotilla.Proofs.Fleet.Gossip
import Flotilla.Proofs.Cipher.Inverse
import Flotilla.Proofs.Seal.Opening
import Flotilla.Proofs.Wire.RoundTrip
import Flotilla.Proofs.Rpc.Sealing
import Flotilla.Proofs.Json.RoundTrip
import Flotilla.Proofs.FanOut.Remote
import Flotilla.Proofs.Service.Handling
import Flotilla.Proofs.EndNode.Causes
import Flotilla.Proofs.Pair.Network
import Flotilla.Proofs.Pair.Agreement
import Flotilla.Proofs.Pair.Healing
import Flotilla.Proofs.EndNode.Upkeep
import Flotilla.Proofs.Cluster.Stability
import Flotilla.Proofs.EndNode.Stability
import Flotilla.Proofs.EndNode.Cycle
import Flotilla.Proofs.Config.StaticList
import Flotilla.Proofs.EndNode.Edits
import Flotilla.Proofs.EndNode.Promotion
import Flotilla.Proofs.EndNode.Restart
import Flotilla.Proofs.EndNode.Persistence
import Flotilla.Proofs.EndNode.EditSteps
import Flotilla.Proofs.EndNode.Overlap
import Flotilla.Proofs.Directory.Separation
import Flotilla.Proofs.Engine.Events
import Flotilla.Proofs.EndNode.Handover
import Flotilla.Proofs.EndNode.Merging
import Flotilla.Proofs.Engine.Consistency
import Flotilla.Proofs.Engine.Batches
import Flotilla.Proofs.FanOut.Accounting
import Flotilla.Proofs.FanOut.ByName
import Flotilla.Proofs.FanOut.Slots
import Flotilla.Proofs.Engine.Removal
import Flotilla.Proofs.Config.Paths
import Flotilla.Proofs.Settings.Building
import Flotilla.Proofs.Settings.MissedBeats
import Flotilla.Proofs.Roster.Loading
import Flotilla.Proofs.Engine.Traffic
import Flotilla.Proofs.Json.Reading
import Flotilla.Proofs.Wire.Conversion
import Flotilla.Proofs.Seal.Keys
