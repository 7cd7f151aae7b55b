import Detour.Text.Blank
import Detour.Text.Search
import Detour.Tree.Override
import Detour.Json.Printer
import Detour.Codec
import Detour.Port
import Detour.Tag
import Detour.Settings
import Detour.Protocol.Bridge
import Detour.Address
import Detour.Store
import Detour.Route.Dns
import Detour.Session
import Detour.Build.Summary
import Detour.Logging
import Detour.Codec.Parse
import Detour.Main
import Detour.Proofs.Hop.Compiled
import Detour.Proofs.Tag
import Detour.Proofs.Tag.Families
import Detour.Proofs.Hop.Linked
import Detour.Proofs.Document.Built
import Detour.Proofs.Document.Chain
import Detour.Proofs.Document.References
import Detour.Proofs.Batch.Built
import Detour.Proofs.Batch.Merge
import Detour.Proofs.Batch.Part
import Detour.Proofs.Batch.Bridges
import Detour.Proofs.Batch.Rules
import Detour.Proofs.Steps
import Detour.Proofs.Document.Tags
import Detour.Proofs.Hop.Ports
import Detour.Proofs.Document.Bridges
import Detour.Proofs.Batch.Tests
import Detour.Proofs.Batch.Outcome
import Detour.Proofs.Batch.Outbounds
import Detour.Proofs.Batch.Attribution
import Detour.Proofs.Document.Routed
import Detour.Proofs.Document.Lookups
import Detour.Proofs.Tree.Edit
import Detour.Proofs.Alike
import Detour.Proofs.Document.Twins
import Detour.Proofs.Document.Renaming
import Detour.Proofs.Document.Sequences
import Detour.Proofs.Document.Counters
import Detour.Proofs.Probe.Order
import Detour.Proofs.Batch.Resolvers
import Detour.Proofs.Route.Chains
import Detour.Proofs.Session.Requests
import Detour.Proofs.Session.Visits
import Detour.Proofs.Session.Ports
import Detour.Proofs.Document.Spared
import Detour.Proofs.Session.Accounts
import Detour.Proofs.Session.RuleSets
import Detour.Proofs.Codec.RoundTrip
import Detour.Proofs.Batch.Wired
import Detour.Proofs.Session.Spellings
import Detour.Proofs.Route.Predicates
import Detour.Proofs.Document.DirectRule
import Detour.Proofs.Session.History
import Detour.Proofs.Command.Delivery
import Detour.Proofs.Document.Targets
import Detour.Proofs.Batch.Validity
import Detour.Proofs.Document.Export
import Detour.Proofs.Hop.Encryption
import Detour.Proofs.Hop.Multiplexing
import Detour.Proofs.Hop.Placeholders
import Detour.Proofs.Text.Replacement
