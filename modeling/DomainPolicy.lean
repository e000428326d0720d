import DomainPolicy.Journal.Verb
import DomainPolicy.Launch
import DomainPolicy.Main
import DomainPolicy.Server.Life
import DomainPolicy.Settings.Cache
import DomainPolicy.Store.Database
import DomainPolicy.Proofs.Store.Table
import DomainPolicy.Proofs.Rule.Spelling
import DomainPolicy.Proofs.Server.Handling
import DomainPolicy.Proofs.Server.Integrity
import DomainPolicy.Proofs.Server.Command
import DomainPolicy.Proofs.Server.Address
import DomainPolicy.Proofs.Server.Policy
import DomainPolicy.Proofs.Guard.Stage
import DomainPolicy.Proofs.Store.Insertion
import DomainPolicy.Proofs.Store.History
import DomainPolicy.Proofs.Server.Refused
import DomainPolicy.Proofs.Server.Secrecy
import DomainPolicy.Proofs.Server.Body
import DomainPolicy.Proofs.Client.Exchange
import DomainPolicy.Proofs.Settings.Bounds
import DomainPolicy.Proofs.Server.Startup
import DomainPolicy.Proofs.Journal.Record
import DomainPolicy.Proofs.Server.Outcome
import DomainPolicy.Proofs.Server.Process
import DomainPolicy.Proofs.Server.Report
import DomainPolicy.Proofs.Server.Context
import DomainPolicy.Proofs.Store.Reopening
import DomainPolicy.Proofs.Server.Posts
import DomainPolicy.Proofs.Server.Restart
import DomainPolicy.Proofs.Bcrypt.Salt
import DomainPolicy.Proofs.Guard.Built
import DomainPolicy.Proofs.Guard.Ending
import DomainPolicy.Proofs.Guard.Stored
import DomainPolicy.Proofs.Guard.Unbuilt
import DomainPolicy.Proofs.Token.RoundTrip
import DomainPolicy.Proofs.Store.Effect
import DomainPolicy.Proofs.Store.Listing
import DomainPolicy.Proofs.Store.Variant
import DomainPolicy.Proofs.Client.Failure
import DomainPolicy.Proofs.Server.Launch
import DomainPolicy.Proofs.Client.Refusal
import DomainPolicy.Proofs.Server.Acceptance
import DomainPolicy.Proofs.Settings.Resolution
import DomainPolicy.Proofs.Settings.Hidden
import DomainPolicy.Proofs.Settings.Cache
import DomainPolicy.Proofs.Journal.Content
import DomainPolicy.Proofs.Journal.FailedSetup
import DomainPolicy.Proofs.Store.Listing
