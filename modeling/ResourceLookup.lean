import ResourceLookup.Properties.Scalar
import ResourceLookup.Session.Run
import ResourceLookup.Proofs.Properties.OnePass
import ResourceLookup.Proofs.Properties.Written
import ResourceLookup.Proofs.Properties.RoundTrip
import ResourceLookup.Proofs.Properties.NormalForm
import ResourceLookup.Proofs.Properties.Concatenation
import ResourceLookup.Proofs.Properties.Folding
import ResourceLookup.Proofs.Properties.EmptyKey
import ResourceLookup.Proofs.Properties.Escapes
import ResourceLookup.Proofs.Chain.Consultation
import ResourceLookup.Proofs.Chain.FirstHolder
import ResourceLookup.Proofs.Chain.Absence
import ResourceLookup.Proofs.Chain.BrokenModule
import ResourceLookup.Proofs.Chain.Identity
import ResourceLookup.Proofs.Chain.Confinement
import ResourceLookup.Proofs.Chain.Address
import ResourceLookup.Proofs.Chain.EntitySources
import ResourceLookup.Proofs.Chain.PackagePlaces
import ResourceLookup.Proofs.Chain.Spelling
import ResourceLookup.Proofs.Chain.NameForms
import ResourceLookup.Proofs.Modules.Alike
import ResourceLookup.Proofs.Modules.Renewal
import ResourceLookup.Proofs.Modules.Tally
import ResourceLookup.Proofs.Modules.AtRest
import ResourceLookup.Proofs.Modules.Prefixes
import ResourceLookup.Proofs.Streams.Ownership
import ResourceLookup.Proofs.Url.DataAddress
import ResourceLookup.Proofs.Url.FileAddress
import ResourceLookup.Proofs.Url.MemberAddress
import ResourceLookup.Proofs.Url.Refusals
import ResourceLookup.Proofs.Settings.History
