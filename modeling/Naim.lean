import Naim.InteractionConversation
import Naim.InteractionSessions
import Naim.KnowledgeClient
import Naim.KnowledgeStore
import Naim.KnowledgeCleanup
import Naim.KnowledgeSync
import Naim.LocalState
import Naim.ModelDownload
import Naim.PlaneObservations
import Naim.AssignmentLock
import Naim.AssignmentOrchestration
import Naim.Rollout
import Naim.PlacedStorage
import Naim.PlacementRecords
import Naim.HostPorts
import Naim.ServiceChanges
import Naim.LiveStateText
import Naim.MinimalVictims
import Naim.SortOrders
import Naim.HostIsolation
import Naim.ActionLifecycle
import Naim.Registration
import Naim.SessionScope
import Naim.SignatureCounters
import Naim.SessionOpening
import Naim.BrowsingHosts
import Naim.BrowsingFetch
import Naim.Utf8
import Naim.Skills
