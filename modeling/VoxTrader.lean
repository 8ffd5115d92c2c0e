import VoxTrader.Api.Scope
import VoxTrader.Connections.HexKey
import VoxTrader.Connections.Privilege
import VoxTrader.Core.RequestFacts
import VoxTrader.Core.SentApproved
import VoxTrader.Core.SnapshotOrder
import VoxTrader.Core.WireMeaning
import VoxTrader.Domain.AtMostOneClaim
import VoxTrader.Domain.Futures
import VoxTrader.Domain.Trailing
import VoxTrader.Risk.Capacity
import VoxTrader.Risk.FailClosed
import VoxTrader.Risk.Linearize
import VoxTrader.Risk.PolicyAudit
import VoxTrader.Risk.PolicyHistory
import VoxTrader.Risk.Replay
import VoxTrader.Runtime.CancelEvidence
import VoxTrader.Runtime.CoalescedRefresh
import VoxTrader.Runtime.DurableState
import VoxTrader.Runtime.EpochFence
import VoxTrader.Runtime.JournalRows
import VoxTrader.Runtime.Migration
import VoxTrader.Runtime.OperationPages
import VoxTrader.Runtime.RecoveryPending
import VoxTrader.Runtime.StreamWorkerEnd
import VoxTrader.TInvest.Backoff
import VoxTrader.TInvest.Positions
import VoxTrader.TInvest.SequenceGate
