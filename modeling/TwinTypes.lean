import TwinTypes.Disk.Scene
import TwinTypes.Main
import TwinTypes.Proofs.Accounting
import TwinTypes.Proofs.Containment
import TwinTypes.Proofs.Directives
import TwinTypes.Proofs.Disk.Parents
import TwinTypes.Proofs.Document.Descriptors
import TwinTypes.Proofs.Document.Details
import TwinTypes.Proofs.Document.Spellings
import TwinTypes.Proofs.MoreMethods
import TwinTypes.Proofs.PlainNames
import TwinTypes.Proofs.Run.AllOrNothing
import TwinTypes.Proofs.Run.FeedingBack
import TwinTypes.Proofs.Run.Naming
import TwinTypes.Proofs.Run.Previewing
import TwinTypes.Proofs.Run.Renaming
import TwinTypes.Proofs.Run.Repeating
import TwinTypes.Proofs.Run.Reporting
import TwinTypes.Proofs.Run.Scanning
import TwinTypes.Proofs.Run.Sharing
import TwinTypes.Proofs.Run.Visible
import TwinTypes.Proofs.Run.WithIndex
import TwinTypes.Proofs.Settings
import TwinTypes.Proofs.Stub.Editing
import TwinTypes.Proofs.Stub.Lossless
import TwinTypes.Proofs.Stub.ReadBack
import TwinTypes.Run.World
