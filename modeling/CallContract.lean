import CallContract.Main
import CallContract.ObjectSpace.TraceReport
import CallContract.Value.DataFormat
import CallContract.Proofs.Reachability
import CallContract.Proofs.CallDecision
import CallContract.Proofs.DeclarationOrder
import CallContract.Proofs.FleetIndependence
import CallContract.Proofs.LayerRegistry
import CallContract.Proofs.Erasure
import CallContract.Proofs.AppliedContracts
import CallContract.Proofs.ReadBack
import CallContract.Proofs.BoundedMatching
import CallContract.Proofs.ContractLanguage
import CallContract.Proofs.Grammar
import CallContract.Proofs.Subtyping
import CallContract.Proofs.AnnotationFates
import CallContract.Proofs.TableConsistency
import CallContract.Proofs.AccessorRoundTrip
import CallContract.Proofs.ObjectIsolation
import CallContract.Proofs.AncestorSearch
import CallContract.Proofs.TypeMembership
import CallContract.Proofs.CallNesting
import CallContract.Proofs.TraceWindow
import CallContract.Proofs.InheritedOrder
import CallContract.Proofs.LastingTypes
import CallContract.Proofs.Introspection
import CallContract.Proofs.CallSnapshot
import CallContract.Proofs.ExactOrder
import CallContract.Proofs.ArgumentChecks
import CallContract.Proofs.PublicCapability
import CallContract.Proofs.IntervalMembership
import CallContract.Proofs.NestingLimits
import CallContract.Proofs.PatternLiterals
import CallContract.Proofs.Shorthands
import CallContract.Proofs.QuotedTexts
import CallContract.Proofs.ValueTexts
import CallContract.Proofs.LeadingIntegers
import CallContract.Proofs.DataValues
import CallContract.Proofs.FaultPlaces
