import ModelContext.Json.Printer
import ModelContext.Text.Blank
import ModelContext.Text.Parts
import ModelContext.Text.Utf8

/-!
# HTTP messages

Requests and responses as a server and a client see them. Header values are bytes, and only those of
visible ASCII characters, spaces and tabs are texts.
-/

namespace ModelContext.Http

structure Header where
  name : String
  value : Bytes
  deriving DecidableEq

def Header.ofText (name value : String) : Header :=
  { name, value := Bytes.ofText value }

/-- Spaces and tabs at the ends of a value are lost on the way. -/
def Header.received (header : Header) : Header :=
  { header with value := Text.strip (fun b => b.toNat == 0x20 || b.toNat == 0x09) header.value }

/-- The bytes of visible ASCII characters, spaces and tabs. -/
def isTextByte (b : UInt8) : Bool :=
  (0x20 ≤ b.toNat && b.toNat ≤ 0x7E) || b.toNat == 0x09

/-- May a byte stand in a header? Controls may not, but for the tab. -/
def isHeaderByte (b : UInt8) : Bool :=
  (0x20 ≤ b.toNat && b.toNat ≠ 0x7F) || b.toNat == 0x09

/-- The text of a header value, if every byte of it can be read. -/
def headerText? (value : Bytes) : Option String :=
  if value.all isTextByte then some (String.ofList (value.map fun b => Char.ofNat b.toNat)) else none

/-- The values of the headers with a name, in order. -/
def values (headers : List Header) (name : String) : List Bytes :=
  (headers.filter (·.name = name)).map (·.value)

/-- The value of the first header with a name. -/
def firstValue? (headers : List Header) (name : String) : Option Bytes :=
  (values headers name).head?

/-- The text of the first header with a name; later ones are not looked at. -/
def firstText? (headers : List Header) (name : String) : Option String :=
  (firstValue? headers name).bind headerText?

/-- A request. The names of its headers are in small letters. -/
structure Request where
  method : String
  target : String
  headers : List Header
  body : Bytes
  deriving DecidableEq

/-- The path in a request target, without query and fragment. A target with a scheme has a host before
its path, and one that begins with neither a slash nor a scheme is a host alone. -/
def pathOf (target : List Char) : List Char :=
  let endsPath (c : Char) : Bool := c == '?' || c == '#'
  match target with
  | '/' :: _ => target.takeWhile (!endsPath ·)
  | ['*'] => target
  | _ =>
    match Text.after? "://".toList (target.dropWhile (· ≠ ':')) with
    | none => []
    | some rest =>
      let path := (rest.dropWhile fun c => c ≠ '/' && !endsPath c).takeWhile (!endsPath ·)
      if path.isEmpty then ['/'] else path

def Request.path (request : Request) : String :=
  String.ofList (pathOf request.target.toList)

structure Response where
  status : Nat
  headers : List Header
  body : Bytes
  deriving DecidableEq

namespace Response

/-- A response that says all with its status. -/
def bare (status : Nat) : Response :=
  { status, headers := [], body := [] }

/-- A response with a written JSON value. -/
def json (status : Nat) (text : String) : Response :=
  { status, headers := [.ofText "content-type" "application/json"], body := Bytes.ofText text }

def withHeader (response : Response) (name value : String) : Response :=
  { response with headers := response.headers ++ [.ofText name value] }

/-- A response as a client gets it. -/
def received (response : Response) : Response :=
  { response with headers := response.headers.map Header.received }

/-- Requests for the head of a response get no body. -/
def withoutBody (response : Response) : Response :=
  { response with body := [] }

def isSuccess (response : Response) : Bool :=
  200 ≤ response.status && response.status < 300

end Response
end ModelContext.Http
