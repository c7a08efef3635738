import ApiDiscovery.Cluster
import ApiDiscovery.Simulation.Session
import ApiDiscovery.Proofs.Conversation
import ApiDiscovery.Proofs.Memoization
import ApiDiscovery.Proofs.Interleaving
import ApiDiscovery.Proofs.Tour
import ApiDiscovery.Proofs.Ballot
import ApiDiscovery.Proofs.PreferredListing
import ApiDiscovery.Proofs.Arrangement
import ApiDiscovery.Proofs.NamespacedListing
import ApiDiscovery.Proofs.Routing
import ApiDiscovery.Proofs.Transparency
import ApiDiscovery.Proofs.GroupsApart
import ApiDiscovery.Proofs.Addressing
import ApiDiscovery.Proofs.Preservation
import ApiDiscovery.Proofs.Resumption
import ApiDiscovery.Proofs.Questions
import ApiDiscovery.Proofs.Itinerary
import ApiDiscovery.Proofs.Nesting
import ApiDiscovery.Proofs.Declarations
import ApiDiscovery.Proofs.Restoration
import ApiDiscovery.Proofs.Resolution
import ApiDiscovery.Proofs.VersionGrammar
import ApiDiscovery.Proofs.DistinctPaths
import ApiDiscovery.Proofs.Joining
import ApiDiscovery.Proofs.ServiceAddress
import ApiDiscovery.Proofs.Resilience
