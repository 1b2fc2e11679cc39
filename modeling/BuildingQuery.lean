import BuildingQuery.Advice
import BuildingQuery.Draft.Script
import BuildingQuery.Input.RawSets
import BuildingQuery.ModelFile.Input
import BuildingQuery.ModelFile.Schema.Ifc2x3
import BuildingQuery.ModelFile.Schema.Ifc4
import BuildingQuery.Summary
import BuildingQuery.Proofs.Advice.Addresses
import BuildingQuery.Proofs.Advice.Spellings
import BuildingQuery.Proofs.Advice.Suggestions
import BuildingQuery.Proofs.Comparison.Literal
import BuildingQuery.Proofs.Comparison.Opposites
import BuildingQuery.Proofs.Comparison.Parts
import BuildingQuery.Proofs.Condition.JsonText
import BuildingQuery.Proofs.Condition.Members
import BuildingQuery.Proofs.Condition.Recased
import BuildingQuery.Proofs.Condition.SetSearch
import BuildingQuery.Proofs.Condition.Spelling
import BuildingQuery.Proofs.Draft.Accepted
import BuildingQuery.Proofs.Draft.Failures
import BuildingQuery.Proofs.Draft.Narrowing
import BuildingQuery.Proofs.Draft.Seeding
import BuildingQuery.Proofs.Hierarchy.Subtypes
import BuildingQuery.Proofs.Index.Classified
import BuildingQuery.Proofs.Index.Connections
import BuildingQuery.Proofs.Index.ContainerNames
import BuildingQuery.Proofs.Index.Growth
import BuildingQuery.Proofs.Index.JoinedSets
import BuildingQuery.Proofs.Index.Joins
import BuildingQuery.Proofs.Index.Located
import BuildingQuery.Proofs.Index.Plain
import BuildingQuery.Proofs.Index.Recased
import BuildingQuery.Proofs.Index.Regrouping
import BuildingQuery.Proofs.Index.Repeated
import BuildingQuery.Proofs.Index.Types
import BuildingQuery.Proofs.Input.TypeListing
import BuildingQuery.Proofs.ModelFile.Containment
import BuildingQuery.Proofs.ModelFile.Relationships
import BuildingQuery.Proofs.Pattern.Plain
import BuildingQuery.Proofs.Pattern.Splits
import BuildingQuery.Proofs.Selection.Broken
import BuildingQuery.Proofs.Selection.Copied
import BuildingQuery.Proofs.Selection.Faults
import BuildingQuery.Proofs.Selection.Formula
import BuildingQuery.Proofs.Selection.Grouping
import BuildingQuery.Proofs.Selection.Locality
import BuildingQuery.Proofs.Selection.Polarity
import BuildingQuery.Proofs.Summary.Mentions
import BuildingQuery.Proofs.Summary.Selectable
