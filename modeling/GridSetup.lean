import GridSetup.Network.Stage
import GridSetup.Resolution
import GridSetup.Proofs.NodeOrder
import GridSetup.Proofs.LibraryFiles
import GridSetup.Proofs.WellFormed
import GridSetup.Proofs.FirstOffence
import GridSetup.Proofs.Registration
import GridSetup.Proofs.Building
import GridSetup.Proofs.Links
import GridSetup.Proofs.Coherence
import GridSetup.Proofs.Rebuilding
import GridSetup.Proofs.Lookup
import GridSetup.Proofs.Inventory
import GridSetup.Proofs.DepthFirst
import GridSetup.Proofs.Reach
import GridSetup.Proofs.Discovery
import GridSetup.Proofs.SwitchSearch
import GridSetup.Proofs.Traversal
import GridSetup.Proofs.Panel
import GridSetup.Proofs.FirstGreatest
import GridSetup.Proofs.FailedLookup
import GridSetup.Proofs.Resolution
import GridSetup.Proofs.Neighbors
import GridSetup.Proofs.FailedVisit
import GridSetup.Proofs.Separation
import GridSetup.Proofs.MainNodes
import GridSetup.Proofs.Binding
import GridSetup.Proofs.Bookkeeping
import GridSetup.Proofs.Generation
import GridSetup.Proofs.BusRepresentatives
import GridSetup.Proofs.SwitchCoupling
import GridSetup.Proofs.HvdcPosition
import GridSetup.Proofs.Tally
import GridSetup.Proofs.Slack
import GridSetup.Proofs.Binary64
import GridSetup.Proofs.Rounding
import GridSetup.Proofs.Subtraction
import GridSetup.Proofs.ShortestDecimal
import GridSetup.Proofs.PlainText
import GridSetup.Proofs.DiagramValidity
import GridSetup.Proofs.Tolerance
import GridSetup.Proofs.HighestVoltage
import GridSetup.Proofs.SlackRanking
import GridSetup.Proofs.Containment
import GridSetup.Proofs.Rearrangement
import GridSetup.Proofs.OrderIndependence
import GridSetup.Proofs.Reports
import GridSetup.Proofs.MacroConnectors
import GridSetup.Proofs.ShuntAgreement
import GridSetup.Proofs.LoadAccounts
import GridSetup.Proofs.Noninterference
import GridSetup.Proofs.DerivedIndices
import GridSetup.Proofs.DiscoveryOrder
import GridSetup.Proofs.FirstEntries
