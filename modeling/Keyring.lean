import Keyring.Service.Observed
import Keyring.Service.Operations
import Keyring.Service.Stores
import Keyring.Proofs.Act
import Keyring.Proofs.Bytes
import Keyring.Proofs.Quiet
import Keyring.Proofs.Sealing
import Keyring.Proofs.Container
import Keyring.Proofs.Reprotection
import Keyring.Proofs.Config.Options
import Keyring.Proofs.Service.Operation
import Keyring.Proofs.Service.Along
import Keyring.Proofs.Service.Command
import Keyring.Proofs.Service.Reading
import Keyring.Proofs.Service.Atomicity
import Keyring.Proofs.Service.Faithful
import Keyring.Proofs.Service.Ledger
import Keyring.Proofs.Service.Progress
import Keyring.Proofs.Service.Persistence
import Keyring.Proofs.Service.Refinement
import Keyring.Proofs.Json.Reading
import Keyring.Proofs.Json.Scalars
import Keyring.Proofs.Json.Documents
import Keyring.Proofs.ContainerFormat
import Keyring.Proofs.Files.Names
import Keyring.Proofs.Files.Tree
import Keyring.Proofs.Files.Rooted
import Keyring.Proofs.Files.Laws
import Keyring.Proofs.Backend
import Keyring.Proofs.Service.Restart
import Keyring.Proofs.Filing
import Keyring.Proofs.Service.OnFiles
import Keyring.Proofs.Service.Spelling
import Keyring.Proofs.Alike
import Keyring.Proofs.Service.Simulation
import Keyring.Proofs.Service.Trace
import Keyring.Proofs.Service.Changing
import Keyring.Proofs.Service.Failures
import Keyring.Proofs.X509.Subject
import Keyring.Proofs.Text.Base64
import Keyring.Proofs.Text.Hex
import Keyring.Proofs.Blocks
import Keyring.Proofs.Pem
import Keyring.Proofs.Loaders
import Keyring.Proofs.Tls.KeyManager
import Keyring.Proofs.Neighbours
import Keyring.Proofs.Service.Deletion
import Keyring.Proofs.X509.Grammar
import Keyring.Proofs.Secret
import Keyring.Proofs.Config.Store
import Keyring.Proofs.Service.Views
import Keyring.Proofs.Service.Closing
import Keyring.Proofs.Undoing
import Keyring.Proofs.Diagnostics
import Keyring.Proofs.Text.Quoted
import Keyring.Proofs.Text.Split
import Keyring.Proofs.Service.Disclosure
import Keyring.Proofs.Aliases
import Keyring.Proofs.Service.Validity
import Keyring.Proofs.Config.Loading
import Keyring.Proofs.Entries
