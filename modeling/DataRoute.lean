import DataRoute.Catalog.Index
import DataRoute.Document.Load
import DataRoute.Placement.Choice
import DataRoute.Route.Chain
import DataRoute.Solve
import DataRoute.Proofs.Duties
import DataRoute.Proofs.Enumeration
import DataRoute.Proofs.Governance
import DataRoute.Proofs.Chains
import DataRoute.Proofs.Comparison
import DataRoute.Proofs.Connection
import DataRoute.Proofs.Deployment
import DataRoute.Proofs.Greedy
import DataRoute.Proofs.Failure
import DataRoute.Proofs.Depth
import DataRoute.Proofs.Reasons
import DataRoute.Proofs.IgnoredGoals
import DataRoute.Proofs.StricterPolicies
import DataRoute.Proofs.FloatOrder
import DataRoute.Proofs.RegistryOrder
import DataRoute.Proofs.IrrelevantData
import DataRoute.Proofs.Records
import DataRoute.Proofs.FloatRange
import DataRoute.Proofs.Restoring
import DataRoute.Proofs.NormalForms
import DataRoute.Proofs.RequestRoundTrip
import DataRoute.Proofs.SchemaAgreement
import DataRoute.Proofs.SearchRecord
import DataRoute.Proofs.Rejections
import DataRoute.Proofs.Totals
import DataRoute.Proofs.Hops
import DataRoute.Proofs.Catalogs
import DataRoute.Proofs.Passages
import DataRoute.Proofs.FloatClasses
import DataRoute.Proofs.FloatOverflow
import DataRoute.Proofs.Scales
import DataRoute.Proofs.Overflow
import DataRoute.Proofs.DottedPaths
import DataRoute.Proofs.RangeRestrictions
import DataRoute.Proofs.FloatQuotient
import DataRoute.Proofs.TextNumbers
import DataRoute.Proofs.LoadedScales
