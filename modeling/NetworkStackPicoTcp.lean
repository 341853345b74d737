import NetworkStackPicoTcp.Interaction.RingBuffer
import NetworkStackPicoTcp.Interaction.RoundRobin
import NetworkStackPicoTcp.Invariants.Acquisitions
import NetworkStackPicoTcp.Invariants.Buffers
import NetworkStackPicoTcp.Invariants.Conduct
import NetworkStackPicoTcp.Invariants.Deeds
import NetworkStackPicoTcp.Invariants.Lifetime
import NetworkStackPicoTcp.Invariants.Nic
import NetworkStackPicoTcp.Invariants.Scan
import NetworkStackPicoTcp.Invariants.Startup
import NetworkStackPicoTcp.Invariants.Undisturbed
import NetworkStackPicoTcp.Properties.AcceptPending
import NetworkStackPicoTcp.Properties.Addresses
import NetworkStackPicoTcp.Properties.Books
import NetworkStackPicoTcp.Properties.Callbacks
import NetworkStackPicoTcp.Properties.CloseRace
import NetworkStackPicoTcp.Properties.Configuration
import NetworkStackPicoTcp.Properties.Confinement
import NetworkStackPicoTcp.Properties.Draining
import NetworkStackPicoTcp.Properties.ErrorReports
import NetworkStackPicoTcp.Properties.ErrorSources
import NetworkStackPicoTcp.Properties.Events
import NetworkStackPicoTcp.Properties.Fairness
import NetworkStackPicoTcp.Properties.Initialisation
import NetworkStackPicoTcp.Properties.Isolation
import NetworkStackPicoTcp.Properties.Latency
import NetworkStackPicoTcp.Properties.Leaks
import NetworkStackPicoTcp.Properties.Lifecycle
import NetworkStackPicoTcp.Properties.Liveness
import NetworkStackPicoTcp.Properties.Locks
import NetworkStackPicoTcp.Properties.NicEvents
import NetworkStackPicoTcp.Properties.NicNotify
import NetworkStackPicoTcp.Properties.NicRing
import NetworkStackPicoTcp.Properties.NicSending
import NetworkStackPicoTcp.Properties.Notification
import NetworkStackPicoTcp.Properties.Observation
import NetworkStackPicoTcp.Properties.Parents
import NetworkStackPicoTcp.Properties.PeerAddresses
import NetworkStackPicoTcp.Properties.PendingEvents
import NetworkStackPicoTcp.Properties.Progress
import NetworkStackPicoTcp.Properties.Races
import NetworkStackPicoTcp.Properties.Recycling
import NetworkStackPicoTcp.Properties.Routing
import NetworkStackPicoTcp.Properties.Serial
import NetworkStackPicoTcp.Properties.Signals
