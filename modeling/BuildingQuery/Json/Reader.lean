import BuildingQuery.Json.Token

/-! Data from JSON text, token by token. A key that comes again takes the new value. -/

namespace BuildingQuery.Json

/-- A list or map that is not closed yet, with its parts in reverse. -/
inductive Frame where
  | list (items : List Value)
  | map (entries : List (Key × Value))
  | entry (entries : List (Key × Value)) (key : String)

/-- What may come next. -/
inductive Place where
  | value
  /-- The first item of a list, or its end. -/
  | item
  /-- The first key of a map, or its end. -/
  | key
  | nextKey
  | colon
  /-- A comma or the end of what is open. -/
  | after
  | nothing (v : Value)

structure Reading where
  frames : List Frame
  place : Place

def Reading.start : Reading := ⟨[], .value⟩

/-- Takes a whole value into what is open. -/
def Reading.take (r : Reading) (v : Value) : Option Reading :=
  match r.frames with
  | [] => some ⟨[], .nothing v⟩
  | .list items :: fs => some ⟨.list (v :: items) :: fs, .after⟩
  | .entry entries k :: fs => some ⟨.map ((.str k, v) :: entries) :: fs, .after⟩
  | .map _ :: _ => none

/-- Begins a value, or takes one that is a single token. -/
def Reading.begin (r : Reading) : Token → Option Reading
  | .atom v => r.take v
  | .openList => some ⟨.list [] :: r.frames, .item⟩
  | .openMap => some ⟨.map [] :: r.frames, .key⟩
  | _ => none

def Reading.key (r : Reading) (k : String) : Option Reading :=
  match r.frames with
  | .map entries :: fs => some ⟨.entry entries k :: fs, .colon⟩
  | _ => none

def Reading.close (r : Reading) (t : Token) : Option Reading :=
  match t, r.frames with
  | .closeList, .list items :: fs => Reading.take ⟨fs, .value⟩ (.list items.reverse)
  | .closeMap, .map entries :: fs =>
    Reading.take ⟨fs, .value⟩ (.map (OrderedMap.ofList entries.reverse))
  | _, _ => none

def Reading.step (r : Reading) (t : Token) : Option Reading :=
  match r.place, t with
  | .value, t => r.begin t
  | .item, .closeList => r.close .closeList
  | .item, t => r.begin t
  | .key, .closeMap => r.close .closeMap
  | .key, .atom (.str k) | .nextKey, .atom (.str k) => r.key k
  | .colon, .colon => some { r with place := .value }
  | .after, .comma =>
    match r.frames with
    | .list _ :: _ => some { r with place := .value }
    | .map _ :: _ => some { r with place := .nextKey }
    | _ => none
  | .after, t => r.close t
  | _, _ => none

def Reading.steps (r : Reading) : List Token → Option Reading
  | [] => some r
  | t :: ts => (r.step t).bind fun r => r.steps ts

def read? (s : String) : Option Value := do
  let ts ← tokens? s.toList
  match (← Reading.start.steps ts).place with
  | .nothing v => some v
  | _ => none

end BuildingQuery.Json
