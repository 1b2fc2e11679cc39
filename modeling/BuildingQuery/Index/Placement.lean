import BuildingQuery.Element
import BuildingQuery.Input

/-! Where elements stand: the names of the containers that hold them. Containers are taken in one
after the other, and the places of all elements are filled in side by side. -/

namespace BuildingQuery

/-- The name of a container, or a name made of its kind and its id. -/
def EntityGraph.containerName (g : EntityGraph) (kind : String) (id : Int) : String :=
  match (g.entities.get? id).bind Entity.name? with
  | none | some "" => kind ++ " " ++ toString id
  | some name => name

/-- Places of elements; what is not filled in is empty. -/
structure Placements where
  locations : OrderedMap Int Location := []
  /-- The project is the same for all elements. -/
  project : Option String := none

namespace Placements

def location (p : Placements) (id : Int) : Location :=
  { (p.locations.get? id).getD {} with project := p.project }

/-- Fills in more of the place of an element. -/
def fill (m : OrderedMap Int Location) (id : Int) (f : Location → Location) :
    OrderedMap Int Location := m.put id (f ((m.get? id).getD {}))

/-- Takes in containers, each with the elements that it lists. -/
def fillAll (f : (container : Int) → Location → Location) (m : OrderedMap Int Location)
    (groups : OrderedMap Int (List Int)) : OrderedMap Int Location :=
  groups.foldl (fun m g => g.2.foldl (fun m id => fill m id (f g.1)) m) m

end Placements

namespace Containment

open Placements

variable (c : Containment) (g : EntityGraph)

/-- A storey to which an element is assigned, with its elevation. -/
def assignStorey (id : Int) (l : Location) : Location :=
  { l with
    storey := some (g.containerName "Storey" id)
    storeyElevation := (c.storeyElevations.get? id).or l.storeyElevation }

/-- Of the storeys that list an element the first counts, and none counts beside an assigned one. -/
def listStorey (id : Int) (l : Location) : Location :=
  if l.storey.isSome then l else c.assignStorey g id l

def listBuilding (id : Int) (l : Location) : Location :=
  { l with building := l.building.or (g.containerName "Building" id) }

def listSite (id : Int) (l : Location) : Location :=
  { l with site := l.site.or (g.containerName "Site" id) }

def listSpace (id : Int) (l : Location) : Location :=
  { l with space := l.space.or (g.containerName "Space" id) }

def placements : Placements where
  locations :=
    let assigned := c.storeyOf.foldl (fun m p => fill m p.1 (c.assignStorey g p.2)) []
    let listed := fillAll (c.listStorey g) assigned c.byStorey
    let listed := fillAll (listBuilding g) listed c.byBuilding
    let listed := fillAll (listSite g) listed c.bySite
    fillAll (listSpace g) listed c.bySpace
  project := c.project.bind (·.name)

end Containment

end BuildingQuery
