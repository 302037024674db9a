import NetInterface.Address.Category
import NetInterface.Application.Run
import NetInterface.Browser.Program
import NetInterface.Interface.Sample
import NetInterface.Main
import NetInterface.Native.KernelFiles
import NetInterface.Pattern.Meaning
import NetInterface.Proofs.Address.Blocks
import NetInterface.Proofs.Address.Changes
import NetInterface.Proofs.Address.Ipv6Canonical
import NetInterface.Proofs.Address.Ipv6Text
import NetInterface.Proofs.Address.Parts
import NetInterface.Proofs.Address.ScopedReading
import NetInterface.Proofs.Application.ExitStatus
import NetInterface.Proofs.Browser.Lookups
import NetInterface.Proofs.Browser.NativeCalls
import NetInterface.Proofs.Browser.Phases
import NetInterface.Proofs.Browser.Reads
import NetInterface.Proofs.Browser.Reentrancy
import NetInterface.Proofs.Browser.Reports
import NetInterface.Proofs.Browser.Run
import NetInterface.Proofs.Browser.View
import NetInterface.Proofs.File.Components
import NetInterface.Proofs.File.Writing
import NetInterface.Proofs.Filter
import NetInterface.Proofs.Flag.Masks
import NetInterface.Proofs.HardwareAddress.Order
import NetInterface.Proofs.Interface.Json
import NetInterface.Proofs.Interface.Text
import NetInterface.Proofs.Listing.Faults
import NetInterface.Proofs.Listing.Image
import NetInterface.Proofs.Listing.Malformed
import NetInterface.Proofs.Listing.Scopes
import NetInterface.Proofs.Native.Grouping
import NetInterface.Proofs.Report.Lines
import NetInterface.Proofs.Report.Listings
import NetInterface.Proofs.Report.Showings
import NetInterface.Proofs.Report.Targets
import NetInterface.Proofs.Settings.EffectiveFilter
import NetInterface.Proofs.Settings.Loading
import NetInterface.Proofs.Settings.Template
import NetInterface.Proofs.Settings.Verdict
import NetInterface.Proofs.Snapshot.Lookup
import NetInterface.Proofs.Text.Lines
