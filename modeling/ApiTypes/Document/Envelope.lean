import ApiTypes.Document.Mismatch
import ApiTypes.Schema.Node

/-!
# The parts of a document

`Envelope`, `Operation` and `Response` are the parts of a document that are read field by
field, and `Info` the part of the envelope with the title.  A field that is missing has the
value of the empty record; other fields than these are passed over.
-/

namespace ApiTypes

open Conforms

/-- The title and the description of a document. -/
structure Info where
  title : Option String := none
  description : Option String := none
deriving DecidableEq

namespace Info

/-- The record with the value of a field. -/
def set (info : Info) : String × Json → Conforms Info
  | ("title", value) => do return { info with title := ← text? value }
  | ("description", value) => do return { info with description := ← text? value }
  | _ => .ok info

/-- The record with the fields of a list. -/
def ofItems (list : List Json) : Conforms Info := do
  let title ← within (.index 0) <| text? (← item "Info" 2 list 0)
  let description ← within (.index 1) <| text? (← item "Info" 2 list 1)
  noMoreThan 2 list
  return ⟨title, description⟩

/-- The record that a value describes. -/
def ofJson : Json → Conforms Info :=
  record "Info" (fold set {}) ofItems

end Info

/-- The top level of a document. -/
structure Envelope where
  info : Info := {}
  host : Option String := none
  basePath : Option String := none
  schemes : List String := []
  definitions : Json.Members := []
  parameters : Json.Members := []
  paths : Json.Members := []

namespace Envelope

/-- The record with the value of a field. -/
def set (envelope : Envelope) : String × Json → Conforms Envelope
  | ("info", value) => do return { envelope with info := ← Info.ofJson value }
  | ("host", value) => do return { envelope with host := ← text? value }
  | ("basePath", value) => do return { envelope with basePath := ← text? value }
  | ("schemes", value) => do return { envelope with schemes := ← texts value }
  | ("definitions", value) => do return { envelope with definitions := ← members value }
  | ("parameters", value) => do return { envelope with parameters := ← members value }
  | ("paths", value) => do return { envelope with paths := ← members value }
  | _ => .ok envelope

/-- The record with the fields of an object. -/
def ofMembers : Json.Members → Conforms Envelope :=
  fold set {}

/-- The address that paths are relative to, empty when a part of it is missing. -/
def domain (envelope : Envelope) : String :=
  match envelope.schemes, envelope.host, envelope.basePath with
  | scheme :: _, some host, some basePath =>
    let base := (basePath.toList.reverse.dropWhile (· == '/')).reverse
    scheme ++ "://" ++ host ++ .ofList base
  | _, _, _ => ""

end Envelope

/-- An operation on a path. -/
structure Operation where
  operationId : Option String := none
  summary : Option String := none
  description : Option String := none
  parameters : List Json := []
  responses : Json.Members := []

namespace Operation

/-- The record with the value of a field. -/
def set (operation : Operation) : String × Json → Conforms Operation
  | ("operationId", value) => do return { operation with operationId := ← text? value }
  | ("summary", value) => do return { operation with summary := ← text? value }
  | ("description", value) => do return { operation with description := ← text? value }
  | ("parameters", value) => do return { operation with parameters := ← items value }
  | ("responses", value) => do return { operation with responses := ← members value }
  | _ => .ok operation

/-- The value read from the item at a position, or `missing` when the list ends before it. -/
def itemOr {α : Type} (missing : α) (read : Json → Conforms α) (list : List Json)
    (position : Nat) : Conforms α :=
  match list[position]? with
  | some item => within (.index position) (read item)
  | none => .ok missing

/-- The record with the fields of a list, the last two of which may be missing. -/
def ofItems (list : List Json) : Conforms Operation := do
  let operationId ← within (.index 0) <| text? (← item "Operation" 5 list 0)
  let summary ← within (.index 1) <| text? (← item "Operation" 5 list 1)
  let description ← within (.index 2) <| text? (← item "Operation" 5 list 2)
  let parameters ← itemOr [] items list 3
  let responses ← itemOr [] members list 4
  noMoreThan 5 list
  return ⟨operationId, summary, description, parameters, responses⟩

/-- The record that a value describes. -/
def ofJson : Json → Conforms Operation :=
  record "Operation" (fold set {}) ofItems

end Operation

/-- A response of an operation. -/
structure Response where
  description : Option String := none
  schema : Option Node := none

namespace Response

/-- The record with the value of a field. -/
def set (response : Response) : String × Json → Conforms Response
  | ("description", value) => do return { response with description := ← text? value }
  | ("schema", .null) => .ok { response with schema := none }
  | ("schema", value) => .ok { response with schema := some value }
  | _ => .ok response

/-- The record with the fields of an object. -/
def ofMembers : Json.Members → Conforms Response :=
  fold set {}

end Response

end ApiTypes
