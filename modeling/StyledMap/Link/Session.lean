import StyledMap.Json.Basic
import StyledMap.Link.Fault
import StyledMap.Link.Raster

/-! # Sessions

* `Resources` says what every address and every file answers.
* `Session` is a computation that asks for resources; it keeps a list of its requests in order.
* `Session.json` and `Session.image` request; `Session.file` reads a file, which is no request.
-/

set_option autoImplicit false

namespace StyledMap

/-- What is asked of an address. -/
inductive Request
  | json (url : String)
  | image (url : String)
  deriving DecidableEq, Repr

/-- What addresses and files answer. A file that cannot be read has a reason. -/
structure Resources where
  json : String → Except LinkFault Json
  image : String → Except LinkFault Raster
  file : String → Except String String

abbrev Session (β : Type) := ReaderT Resources (StateM (List Request)) β

namespace Session

def note (request : Request) : Session Unit :=
  modify (· ++ [request])

def json (url : String) : Session (Except LinkFault Json) := do
  note (.json url)
  return (← read).json url

def image (url : String) : Session (Except LinkFault Raster) := do
  note (.image url)
  return (← read).image url

def file (path : String) : Session (Except LinkFault String) := do
  return ((← read).file path).mapError (.unreadable path)

/-- The result of a session and its requests in order. -/
def runWith {β : Type} (session : Session β) (resources : Resources) : β × List Request :=
  (session.run resources).run []

end Session

end StyledMap
