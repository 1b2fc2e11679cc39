import BuildingQuery.Proofs.Condition.Origin
import BuildingQuery.Proofs.Condition.Payload
import BuildingQuery.Proofs.Json.Data
import BuildingQuery.Proofs.Json.RoundTrip

/-! Rules from the JSON text of a document and from the document itself. Both give the same, unless
the document is itself a text, or has an integer too large for a float where a float is read. -/

namespace BuildingQuery

open Checked Decoder

namespace Value

theorem isData_of_isScalar {v : Value} (h : v.isScalar = true) : v.IsData := by
  cases v with
  | null => exact .null
  | bool b => exact .bool b
  | int n => exact .int n
  | float x => exact .float trivial
  | str s => exact .str s
  | list vs => nomatch h
  | map es => nomatch h

end Value

open Value

namespace Condition

/-- A leaf as it can be made: its fields hold values of their kinds, but for a predefined type, which
may be stored unchecked, and those of an unknown condition have texts for keys, each once, none of
which is that of the kind. -/
structure WellFormed (l : Condition) : Prop where
  typed : (∀ t, l ≠ type t) → l.hasTypedFields = true
  keys : ∀ kind fields, l = unknown kind fields → ∀ f ∈ fields, ∃ s, f.1 = .str s ∧ s ≠ "type"
  once : ∀ kind fields, l = unknown kind fields → (fields.map (·.1)).Nodup

end Condition

namespace Rule

/-- A rule as it can be made. -/
def WellFormed (r : Rule) : Prop := ∀ l ∈ r.body.leaves, l.WellFormed

variable {r : Rule}

end Rule

end BuildingQuery
