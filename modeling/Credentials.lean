import Credentials.Secret.Wire
import Credentials.Service.Client
import Credentials.Service.Registry
import Credentials.Native.Script
import Credentials.Proofs.Native.Calls
import Credentials.Proofs.Native.Ownership
import Credentials.Proofs.Service.Phases
import Credentials.Proofs.Service.Pool
import Credentials.Proofs.Service.LoadOnce
import Credentials.Proofs.Service.CallTrace
import Credentials.Proofs.Fallback.Valid
import Credentials.Proofs.Service.Resolution
import Credentials.Proofs.Service.History
import Credentials.Proofs.Service.Secrecy
import Credentials.Proofs.Decimal.Numerals
import Credentials.Proofs.Fallback.Merge
import Credentials.Proofs.Json.Tokens
import Credentials.Proofs.Json.Documents
import Credentials.Proofs.Native.RoundTrip
import Credentials.Proofs.Json.Characters
import Credentials.Proofs.Native.Attributes
import Credentials.Proofs.Service.Signatures
import Credentials.Proofs.Host.DebugLog
import Credentials.Proofs.Service.Process
import Credentials.Proofs.Fallback.Assembly
import Credentials.Proofs.Service.Construction
import Credentials.Proofs.Service.Reporting
import Credentials.Proofs.Native.Replies
import Credentials.Proofs.Service.Hashing
import Credentials.Proofs.Service.KeyReplies
import Credentials.Proofs.Service.ClientRuns
import Credentials.Proofs.Fallback.EmptyVariables
import Credentials.Proofs.Fallback.Extension
import Credentials.Proofs.Fallback.Given
import Credentials.Proofs.Yaml.Quoted
import Credentials.Proofs.Fallback.Saved
import Credentials.Proofs.Yaml.Entries
import Credentials.Proofs.Decimal.Finite
import Credentials.Proofs.Native.Decoding
import Credentials.Proofs.Native.Places
import Credentials.Proofs.Native.Documents
import Credentials.Proofs.Native.Arrangement
import Credentials.Proofs.Native.IllFormed
import Credentials.Proofs.Service.Malformed
import Credentials.Proofs.Native.Stable
import Credentials.Proofs.Native.Union
import Credentials.Proofs.Service.LibrarySearch
import Credentials.Proofs.Fallback.Contents
