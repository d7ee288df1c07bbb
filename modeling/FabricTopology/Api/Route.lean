import FabricTopology.Json.Value
import FabricTopology.Text.Utf8
import FabricTopology.Text.Words

/-!
Requests and responses, and which route a request takes. A response is a status and a content, and the content alone
decides the media type and whether a browser saves it to a file.

A path is decoded except for encoded slashes, plus and percent signs and then cut at its slashes; the segments are
matched one by one, none of them may be empty, and those that are parameters are decoded to the end. The query counts
for nothing.
-/
namespace FabricTopology.Api

/-! ### Messages -/

/-- What a request asks to do with a resource; `other` is whatever no route serves. -/
inductive Method where
  | get
  | post
  | patch
  | delete
  | other
deriving DecidableEq

def Method.ofName (s : String) : Method :=
  if s = "GET" then get
  else if s = "POST" then post
  else if s = "PATCH" then patch
  else if s = "DELETE" then delete
  else other

/-- A request: a method, a path with perhaps a query behind it, and perhaps the text of a JSON
    body. -/
structure Request where
  method : Method
  path : String
  body : Option String

/-- What a response carries. -/
inductive Content where
  | nothing
  | json (j : Json)
  | plain (text : String)
  | file (name text : String)

/-- The media type of a content. -/
def Content.mediaType? : Content → Option String
  | nothing => none
  | json _ => some "application/json"
  | plain _ => some "text/plain; charset=utf-8"
  | file _ _ => some "text/yaml"

/-- What to do with a content other than to show it. -/
def Content.disposition? : Content → Option String
  | file name _ => some ("attachment; filename=\"" ++ name ++ "\"")
  | _ => none

/-- The answer to a request. -/
structure Response where
  status : Nat
  content : Content

namespace Response

/-- The request is done. -/
def ok (c : Content) : Response := ⟨200, c⟩

/-- The request is done and this is the new record. -/
def created (j : Json) : Response := ⟨201, .json j⟩

/-- The request is done and there is nothing to say. -/
def done : Response := ⟨204, .nothing⟩

/-- The message of what went wrong. -/
def errorBody (message : String) : Json := .obj [("error", .str message)]

/-- The request makes no sense. -/
def refused (message : String) : Response := ⟨400, .json (errorBody message)⟩

/-- What the request is about does not exist. -/
def missing (message : String) : Response := ⟨404, .json (errorBody message)⟩

/-- What serves the request is broken. -/
def broken (message : String) : Response := ⟨500, .json (errorBody message)⟩

/-- The body of the request stands for no value of the type that is asked for. -/
def unreadable : Response := ⟨400, .plain "<rejected by the JSON extractor>"⟩

/-- The path leads nowhere. -/
def unknown : Response := ⟨404, .nothing⟩

end Response

/-! ### Routes -/

/-- What can be asked for. -/
inductive Route where
  | listNetworks
  | createNetwork
  | showNetwork (id : String)
  | updateNetwork (id : String)
  | deleteNetwork (id : String)
  | exportArtifact (id artifact : String)
  | validateNetwork (id : String)
  | listCommands (id : String)
  | showCommand (id command : String)
  | compile
  | listTemplates
  | instantiateTemplate (id : String)
  | listDeployments
  | createDeployment
  | showDeployment (id : String)
  | updateDeployment (id : String)
  | deleteDeployment (id : String)
deriving DecidableEq

/-- The text up to its query or fragment. -/
def withoutQuery (cs : List Char) : List Char := cs.takeWhile fun c => c != '?' && c != '#'

/-- Bytes that have a meaning of their own in a path: the percent sign, the slash and the plus
    sign. -/
def isReserved (b : UInt8) : Bool := b == 0x25 || b == 0x2F || b == 0x2B

/-- The segments of a path that starts with a slash, if none of them is empty. -/
def segments? (path : String) : Option (List String) :=
  match Text.segments '/' (Text.Percent.decode isReserved (withoutQuery path.toList)) with
  | [] :: more =>
    if more.any List.isEmpty then none else some (more.map String.ofList)
  | _ => none

/-- The parameter that a segment stands for. -/
def parameter (segment : String) : String :=
  String.ofList (Text.Percent.decode (fun _ => false) segment.toList)

namespace Route

/-- The routes below `/api/networks`. -/
def ofNetworkPath? : Method → List String → Option Route
  | .get, [] => some listNetworks
  | .post, [] => some createNetwork
  | .get, [id] => some (showNetwork (parameter id))
  | .patch, [id] => some (updateNetwork (parameter id))
  | .delete, [id] => some (deleteNetwork (parameter id))
  | .post, [id, "validate"] => some (validateNetwork (parameter id))
  | .get, [id, "cli"] => some (listCommands (parameter id))
  | .get, [id, "cli", command] => some (showCommand (parameter id) (parameter command))
  | .get, [id, "export", artifact] => some (exportArtifact (parameter id) (parameter artifact))
  | _, _ => none

/-- The routes below `/api/templates`. -/
def ofTemplatePath? : Method → List String → Option Route
  | .get, [] => some listTemplates
  | .post, [id, "instantiate"] => some (instantiateTemplate (parameter id))
  | _, _ => none

/-- The routes below `/api/deployments`. -/
def ofDeploymentPath? : Method → List String → Option Route
  | .get, [] => some listDeployments
  | .post, [] => some createDeployment
  | .get, [id] => some (showDeployment (parameter id))
  | .patch, [id] => some (updateDeployment (parameter id))
  | .delete, [id] => some (deleteDeployment (parameter id))
  | _, _ => none

/-- The route at `/api/compile`. -/
def ofCompilePath? : Method → List String → Option Route
  | .post, [] => some compile
  | _, _ => none

/-- The routes that a path given by its segments may take. -/
def ofPath? (m : Method) : List String → Option Route
  | "api" :: "networks" :: more => ofNetworkPath? m more
  | "api" :: "templates" :: more => ofTemplatePath? m more
  | "api" :: "deployments" :: more => ofDeploymentPath? m more
  | "api" :: "compile" :: more => ofCompilePath? m more
  | _ => none

/-- The route of a request. -/
def ofRequest? (r : Request) : Option Route := do ofPath? r.method (← segments? r.path)

end Route

end FabricTopology.Api
