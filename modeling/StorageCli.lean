import StorageCli.Model.EventDefs
import StorageCli.Logic.Wp
import StorageCli.Logic.Ledger
import StorageCli.Logic.Trace
import StorageCli.Model.ApiDefs
import StorageCli.Model.ArgsDefs
import StorageCli.Model.CommandDefs
import StorageCli.Model.TransferDefs
import StorageCli.Model.WalkDefs
import StorageCli.Model.DispatchDefs
import StorageCli.Model.RamDiskDefs
import StorageCli.Proofs.Discipline
import StorageCli.Proofs.Dispatch
import StorageCli.Proofs.Confirmation
import StorageCli.Proofs.Ownership
import StorageCli.Proofs.Write
import StorageCli.Proofs.Read
import StorageCli.Proofs.Listing
import StorageCli.Logic.Frame
import StorageCli.Proofs.Footprint
