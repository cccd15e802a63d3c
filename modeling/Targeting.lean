import Targeting.Session
import Targeting.Stored.Encode
import Targeting.Stored.FromText
import Targeting.Proofs.Requests
import Targeting.Proofs.Composition
import Targeting.Proofs.Compilation
import Targeting.Proofs.Uncached
import Targeting.Proofs.Run
import Targeting.Proofs.Kleene
import Targeting.Proofs.Interning
import Targeting.Proofs.Sharing
import Targeting.Proofs.Transparency
import Targeting.Proofs.Validity
import Targeting.Proofs.Completion
import Targeting.Proofs.Learning
import Targeting.Proofs.Dependence
import Targeting.Proofs.Rounding
import Targeting.Proofs.Shortest
import Targeting.Proofs.RoundingOrder
import Targeting.Proofs.NumberReading
import Targeting.Proofs.NumberText
import Targeting.Proofs.JsonText
import Targeting.Proofs.JsonReading
import Targeting.Proofs.LeafMaps
import Targeting.Proofs.StoredValue
import Targeting.Proofs.Rereading
import Targeting.Proofs.StoredText
import Targeting.Proofs.Reach
import Targeting.Proofs.Accounting
import Targeting.Proofs.CompiledOnce
import Targeting.Proofs.QuotedText
import Targeting.Proofs.Reloading
import Targeting.Proofs.PlainNumber
import Targeting.Proofs.Rendering
import Targeting.Proofs.WarmCache
import Targeting.Proofs.CompleteData
import Targeting.Proofs.Members
import Targeting.Proofs.Grammar
import Targeting.Proofs.ConditionReading
import Targeting.Proofs.JsonScanning
import Targeting.Proofs.Agreement
import Targeting.Proofs.AudienceReading
import Targeting.Proofs.TextReading
import Targeting.Proofs.LoadingPaths
import Targeting.Proofs.Duality
import Targeting.Proofs.Unwrapping
import Targeting.Proofs.ShortCircuit
import Targeting.Proofs.LeftmostViolation
import Targeting.Proofs.AnyCache
import Targeting.Proofs.Correspondence
import Targeting.Proofs.ExactOrder
import Targeting.Proofs.Rearrangement
import Targeting.Proofs.OperatorTable
import Targeting.Proofs.IntegerOrder
import Targeting.Proofs.AuditLog
import Targeting.Proofs.DeduplicationKey
import Targeting.Proofs.RenderedValues
import Targeting.Proofs.NearestNumber
import Targeting.Proofs.Conversions
import Targeting.Proofs.SizeAndDepth
