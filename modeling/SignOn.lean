import SignOn.Cache.Redis
import SignOn.Cache.Script
import SignOn.Http.Service
import SignOn.Main
import SignOn.Network
import SignOn.Proofs.Account.Apart
import SignOn.Proofs.Account.Calls
import SignOn.Proofs.Account.Chronicle
import SignOn.Proofs.Account.Exclusion
import SignOn.Proofs.Account.FailedOpening
import SignOn.Proofs.Account.Founding
import SignOn.Proofs.Account.History
import SignOn.Proofs.Account.Isolation
import SignOn.Proofs.Account.Logout
import SignOn.Proofs.Account.Origin
import SignOn.Proofs.Account.Password
import SignOn.Proofs.Account.Preconditions
import SignOn.Proofs.Account.Provenance
import SignOn.Proofs.Account.Recording
import SignOn.Proofs.Account.Refusal
import SignOn.Proofs.Account.Renewal
import SignOn.Proofs.Account.Rows
import SignOn.Proofs.Account.Spending
import SignOn.Proofs.Account.Uniqueness
import SignOn.Proofs.Account.Validity
import SignOn.Proofs.Account.Verified
import SignOn.Proofs.Account.WriteTargets
import SignOn.Proofs.Cache.Agreement
import SignOn.Proofs.Cache.Ledger
import SignOn.Proofs.Crypto.Argon2
import SignOn.Proofs.Flow.Failing
import SignOn.Proofs.Flow.Readable
import SignOn.Proofs.Flow.Refused
import SignOn.Proofs.Flow.Sequential
import SignOn.Proofs.Flow.Traced
import SignOn.Proofs.Google.FirstSignIns
import SignOn.Proofs.Google.Redemption
import SignOn.Proofs.Google.Stuck
import SignOn.Proofs.Google.Window
import SignOn.Proofs.Http.Query
import SignOn.Proofs.Http.Reference
import SignOn.Proofs.Http.Relay
import SignOn.Proofs.Keyspace
import SignOn.Proofs.Keyspace.Alone
import SignOn.Proofs.Keyspace.Lasting
import SignOn.Proofs.Keyspace.Machine
import SignOn.Proofs.Keyspace.Replacing
import SignOn.Proofs.Keyspace.Views
import SignOn.Proofs.Password.Stored
import SignOn.Proofs.Phone.NormalForm
import SignOn.Proofs.Phone.Spelling
import SignOn.Proofs.Sample
import SignOn.Proofs.Session.Acceptance
import SignOn.Proofs.Session.Acts
import SignOn.Proofs.Session.Book
import SignOn.Proofs.Session.Effects
import SignOn.Proofs.Session.Expiry
import SignOn.Proofs.Session.Opening
import SignOn.Proofs.Session.Race
import SignOn.Proofs.Session.Recording
import SignOn.Proofs.Session.Rotation
import SignOn.Proofs.Session.Validity
import SignOn.Proofs.Store.Accounts
import SignOn.Proofs.Text.Percent
import SignOn.Proofs.Text.Splitting
import SignOn.Proofs.Token.RoundTrip
import SignOn.Proofs.Token.Separation
import SignOn.Proofs.Verification.Acceptance
import SignOn.Proofs.Verification.Answers
import SignOn.Proofs.Verification.Issuing
import SignOn.Proofs.Verification.Lifetime
import SignOn.Proofs.Verification.Limits
import SignOn.Proofs.Verification.Subjects
import SignOn.Proofs.Verification.UseHistory
import SignOn.Startup
