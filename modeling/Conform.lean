import Conform.Developer
import Conform.Files.Tree
import Conform.Main
import Conform.Proofs.Check.Printing
import Conform.Proofs.Check.Reports
import Conform.Proofs.Config.Chain
import Conform.Proofs.Schema.Absence
import Conform.Proofs.Schema.Conformance
import Conform.Proofs.Schema.Foreign
import Conform.Proofs.Schema.History
import Conform.Proofs.Schema.Idempotence
import Conform.Proofs.Schema.Inward
import Conform.Proofs.Schema.Isolation
import Conform.Proofs.Schema.Kinds
import Conform.Proofs.Schema.Location
import Conform.Proofs.Schema.Merging
import Conform.Proofs.Schema.Optional
import Conform.Proofs.Schema.Order
import Conform.Proofs.Schema.Origin
import Conform.Proofs.Schema.Outputs
import Conform.Proofs.Schema.Partition
import Conform.Proofs.Schema.Quotation
import Conform.Proofs.Schema.Rehoming
import Conform.Proofs.Schema.Separation
import Conform.Proofs.Schema.Stops
import Conform.Proofs.Schema.Termination
import Conform.Proofs.Schema.Uniform
import Conform.Proofs.Schema.Unprintable
import Conform.Proofs.Value.Integers
import Conform.Proofs.Value.Rearrangement
import Conform.Proofs.Value.RoundTrip
import Conform.Proofs.Value.Spelling
import Conform.Session
import Conform.Yaml.Config
