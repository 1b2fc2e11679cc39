import BuildingQuery.Element
import BuildingQuery.Input

/-! The material and the classifications that an element is assigned. -/

namespace BuildingQuery

/-- Whether the kind of an assignment names a layer set, in any case and with or without
underscores. -/
def MaterialAssignment.isLayered (a : MaterialAssignment) : Bool :=
  let kind := (Text.lowerChars a.typeName.toList).filter (· != '_')
  ["layerset", "ifcmateriallayerset", "ifcmateriallayersetusage"].contains (String.ofList kind)

def nonempty? : Option String → Option String
  | none | some "" => none
  | some s => some s

namespace Materials

def layer (m : Materials) (id : Int) : MaterialLayer :=
  match m.layers.get? id with
  | none => ⟨"Unknown", 0⟩
  | some l => ⟨(nonempty? l.material).getD "Unknown", l.thickness⟩

/-- The material of an assignment, if it is known. A layer set without a total thickness has the sum
of its layers. -/
def assigned? (m : Materials) (a : MaterialAssignment) : Option ElementMaterial :=
  if a.isLayered then
    (m.layerSets.get? a.material).map fun s =>
      let layers := s.layers.map m.layer
      let total := s.totalThickness.getD (layers.foldl (fun t l => t + l.thickness) 0)
      ⟨(nonempty? s.name).getD "Unnamed Layer Set", .layerSet, layers, some total⟩
  else (m.materials.get? a.material).map fun material => ⟨material.name, .single, [], none⟩

/-- Of several assignments of an element the first counts. -/
def ofElement? (m : Materials) (id : Int) : Option ElementMaterial :=
  (m.assignments.find? (·.element == id)).bind m.assigned?

end Materials

namespace Classifications

/-- The system that the sources lead to from an id, and the codes passed, the most general first.
The walk ends where an id comes again or is not known. Every id passed is one of the references,
which bounds the steps. -/
def climb (c : Classifications) : (fuel : Nat) → (seen : List Int) → Option Int →
    Option String × List String
  | 0, _, _ | _, _, none => (none, [])
  | fuel + 1, seen, some id =>
    if seen.contains id then (none, [])
    else match c.systems.get? id, c.references.get? id with
      | some s, _ => (some s.name, [])
      | none, none => (none, [])
      | none, some r =>
        let (system, codes) := c.climb fuel (id :: seen) r.source
        (system, codes ++ [r.code])

def resolve? (c : Classifications) (id : Int) : Option Classification :=
  (c.references.get? id).map fun r =>
    let (system, codes) := c.climb (c.references.length + 1) [id] r.source
    { system := system.getD "Unknown System"
      code := r.code
      name := (nonempty? r.name).getD r.code
      path := codes ++ [r.code] }

def ofElement (c : Classifications) (id : Int) : List Classification :=
  ((c.byElement.get? id).getD []).filterMap c.resolve?

end Classifications

end BuildingQuery
