import NoriBridgeHead.Program.KnownTries
import NoriBridgeHead.Program.QueueSoundness
import NoriBridgeHead.Program.StoreHashPins
import NoriBridgeHead.Program.Drain
import NoriBridgeHead.BridgeHead.Detector
import NoriBridgeHead.BridgeHead.DetectorRuns
import NoriBridgeHead.BridgeHead.Api
import NoriBridgeHead.BridgeHead.Observer
import NoriBridgeHead.BridgeHead.System
import NoriBridgeHead.BridgeHead.Token
import NoriBridgeHead.Foundation.Session
import NoriBridgeHead.Rpcs.Fallback
import NoriBridgeHead.Foundation.Collect
import NoriBridgeHead.Rpcs.Execution
import NoriBridgeHead.Rpcs.Consensus
import NoriBridgeHead.Rpcs.PreparedWindows
import NoriBridgeHead.Rpcs.QueueCompleteness
import NoriBridgeHead.BridgeHead.Contiguity
import NoriBridgeHead.BridgeHead.PipelineRuns
import NoriBridgeHead.Foundation.InclusionPath
import NoriBridgeHead.Hash.MerklePaths
import NoriBridgeHead.Hash.LeafPacking
import NoriBridgeHead.Hash.BatchBinding
import NoriBridgeHead.BridgeHead.Staleness
import NoriBridgeHead.BridgeHead.PublishedRequests
import NoriBridgeHead.Foundation.LightClient
import NoriBridgeHead.Rpcs.Recovery
import NoriBridgeHead.Rpcs.UntrustedProvider
import NoriBridgeHead.BridgeHead.JobAccounting
import NoriBridgeHead.BridgeHead.JobNotices
import NoriBridgeHead.BridgeHead.ValidationActor
import NoriBridgeHead.BridgeHead.NoticeMessages
import NoriBridgeHead.Prover.Whitelist
import NoriBridgeHead.Rpcs.ColdStart
import NoriBridgeHead.BridgeHead.Provenance
import NoriBridgeHead.BridgeHead.RequestPaths
import NoriBridgeHead.BridgeHead.Checkpoint
import NoriBridgeHead.BridgeHead.Restarts
import NoriBridgeHead.BridgeHead.Publication
import NoriBridgeHead.BridgeHead.CircularWait
import NoriBridgeHead.BridgeHead.Progress
import NoriBridgeHead.BridgeHead.Resumption
import NoriBridgeHead.BridgeHead.Availability
import NoriBridgeHead.BridgeHead.KeepingUp
import NoriBridgeHead.BridgeHead.Liveness
import NoriBridgeHead.BridgeHead.Shutdown
