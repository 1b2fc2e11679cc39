import BuildingQuery.Proofs.Condition.Faults
import BuildingQuery.Proofs.Index.Keys
import BuildingQuery.Proofs.Selection.Scan

/-! When evaluation ends in a fault. A condition fails on an element where it has a fault there, and
a selection fails at the first record on which its rule has one. -/

namespace BuildingQuery

end BuildingQuery
