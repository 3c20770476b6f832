import BlockchainNode.Types
import BlockchainNode.Merkle
import BlockchainNode.Storage
import BlockchainNode.StateStore
import BlockchainNode.Encoding
import BlockchainNode.ColumnFamily
import BlockchainNode.BlockStore
import BlockchainNode.TransactionStore
import BlockchainNode.ColumnStorage
import BlockchainNode.StorageRefinement
import BlockchainNode.StateColumn
import BlockchainNode.StateRefinement
import BlockchainNode.Validation
import BlockchainNode.Mempool
import BlockchainNode.MempoolInvariants
import BlockchainNode.MempoolOrder
import BlockchainNode.MempoolStats
import BlockchainNode.JsonRpc
import BlockchainNode.Consensus.LeaderElection
import BlockchainNode.Consensus.ViewChange
import BlockchainNode.Consensus.Pbft
import BlockchainNode.Consensus.PbftInvariants
import BlockchainNode.Consensus.PbftSafety
import BlockchainNode.Consensus.PbftReplay
import BlockchainNode.Gossip
import BlockchainNode.NetworkManager
import BlockchainNode.Consensus.Network
import BlockchainNode.Consensus.PbftAgreement
import BlockchainNode.Consensus.Engine
import BlockchainNode.Consensus.EngineSafety
import BlockchainNode.Consensus.EngineStorage
import BlockchainNode.Consensus.EngineAgreement
import BlockchainNode.Cli
import BlockchainNode.Consensus.EngineStats
import BlockchainNode.Consensus.Genesis
import BlockchainNode.Node
import BlockchainNode.Consensus.LeaderCrash
import BlockchainNode.NodeWiring
