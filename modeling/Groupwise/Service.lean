import Groupwise.Compilation
import Groupwise.Service.Form
import Groupwise.Service.MediaType

/-!
# The service

Queries are compiled over requests, each of which reads the catalog anew. A request that the service
cannot take is refused by its status alone; a query that does not compile is explained in the body.
-/
namespace Groupwise

namespace Service

structure Request where
  method : String
  path : String
  query : String := ""
  contentType : Option String := none
  body : String := ""
  deriving Repr, DecidableEq, Inhabited

/-- What stands behind the scheme and the host of an address, if it has them. -/
def localPart (address : List Char) : List Char :=
  match address, address.dropWhile (· ≠ ':') with
  | '/' :: _, _ => address
  | _, ':' :: '/' :: '/' :: rest => rest.dropWhile fun c => c ≠ '/' && c ≠ '?'
  | _, _ => address

/-- A request to an address, which consists of a path and perhaps a query. -/
def Request.ofAddress (method address : String) (contentType : Option String) (body : String) :
    Request :=
  let target := localPart (address.toList.takeWhile (· ≠ '#'))
  { method, contentType, body, path := String.ofList (target.takeWhile (· ≠ '?'))
    query := String.ofList ((target.dropWhile (· ≠ '?')).drop 1) }

structure Response where
  status : Nat
  body : Option Json := none

inductive Problem where
  | emptyQuery
  | query (error : QueryError)
  | catalog (reason : String)

namespace Problem

def message : Problem → String
  | .emptyQuery => "Validation error: query cannot be empty"
  | .query e => e.message
  | .catalog reason => "Catalog unavailable: " ++ reason

def kind : Problem → Nat × String
  | .emptyQuery => (400, "VALIDATION_ERROR")
  | .query (.parse _ _ _) => (400, "PARSE_ERROR")
  | .query (.compile (.internal _)) => (500, "INTERNAL_ERROR")
  | .query (.compile .spanTooLong) => (500, "INTERNAL_ERROR")
  | .query (.compile _) => (422, "COMPILE_ERROR")
  | .catalog _ => (503, "CATALOG_UNAVAILABLE")

/-- What is known of a problem beside its message. -/
def details : Problem → List (String × Json)
  | .query (.compile (.validation (first :: rest))) => [("details", .strings (first :: rest))]
  | .query (.parse line column _) => [("line", .nat line), ("column", .nat column)]
  | _ => []

def response (p : Problem) : Response where
  status := p.kind.1
  body := some (.object [("error",
    .object ([("code", .string p.kind.2), ("message", .string p.message)] ++ p.details))])

end Problem

def respond {α : Type} (f : α → Json) : Except Problem α → Response
  | .ok a => { status := 200, body := some (f a) }
  | .error p => p.response

/-- A dataset in the list of all of them. -/
def summary (d : Dataset) : Json :=
  .object [("name", .string d.name), ("int_fields", .nat d.intFields.length),
    ("string_fields", .nat d.stringFields.length),
    ("field_aliases", .strings d.fieldAliases.keys), ("dimensions", .strings d.dimensions.keys)]

def compiledJson (c : Compiled) : Json :=
  .object ([("commands", c.document), ("warnings", .strings c.warnings),
    ("datasets", .list Source.toJson c.sources)] ++
    Json.optionalMember "row_limit" .nat c.rowLimit ++
    [("cache_key", c.cacheKey.toJson),
      ("meta", .object [("command_count", .nat c.commands.length)])])

/-- What is asked for in the body of a request. -/
structure CompileRequest where
  query : String
  catalog : Option Catalog
  now : Option Timestamp

def CompileRequest.decoder : Json.Decoder CompileRequest :=
  .record { query := "", catalog := none, now := none } [
    .needed "query" .string fun query r => { r with query },
    .optional "catalog" (.optional Catalog.decoder) fun catalog r => { r with catalog },
    .optional "now" (.optional (.reading Timestamp.readSpaced?)) fun now r => { r with now }]

end Service

structure Service where
  /-- The catalog, or why there is none. -/
  catalog : Except String Catalog
  /-- The kind of the catalog's source. -/
  sourceName : String
  settings : Settings := {}
  /-- Whether pages from elsewhere may send requests. -/
  allowsForeignPages : Bool := false
  now : Timestamp

namespace Service

def fetchCatalog (s : Service) : Except Problem Catalog :=
  match s.catalog with
  | .ok catalog => .ok catalog
  | .error reason => .error (.catalog reason)

/-- Compile a query, which must not be blank. -/
def compile (s : Service) (catalog : Catalog) (now : Timestamp) (query : String) :
    Except Problem Compiled :=
  if (Text.trim query.toList).isEmpty then .error .emptyQuery
  else match Query.compileText catalog s.settings now query with
    | .ok compiled => .ok compiled
    | .error e => .error (.query e)

def compileBody (s : Service) (r : Request) : Response :=
  if !(r.contentType.bind MediaType.read?).any (·.isDocument) then { status := 415 }
  else match CompileRequest.decoder.ofStart r.body with
    | .error .malformed => { status := 400 }
    | .error .unexpected => { status := 422 }
    | .ok asked => respond compiledJson do
      let catalog ← match asked.catalog with
        | some catalog => pure catalog
        | none => s.fetchCatalog
      s.compile catalog (asked.now.getD s.now) asked.query

def compileAddress (s : Service) (r : Request) : Response :=
  match Form.only? "q" r.query with
  | none => { status := 400 }
  | some query => respond compiledJson do s.compile (← s.fetchCatalog) s.now query

def listDatasets (s : Service) : Response :=
  respond (fun c => .object [("source", .string s.sourceName),
    ("datasets", .list summary (c.datasets.mergeSort fun a b => !decide (b.name < a.name)))])
    s.fetchCatalog

def readiness (s : Service) : Response :=
  { status := if s.fetchCatalog matches .ok _ then 200 else 503 }

def health (s : Service) : Response :=
  let (status, catalog, count) := match s.catalog with
    | .ok c => ("healthy", "ok", c.datasets.length)
    | .error reason => ("degraded", reason, 0)
  { status := 200, body := some (.object [("status", .string status), ("catalog", .string catalog),
      ("datasets", .nat count), ("version", .string version)]) }

/-- How a path answers a request for what it holds, and one that brings a body. -/
structure Route where
  get : Request → Response
  post : Option (Request → Response) := none

def route? (s : Service) : String → Option Route
  | "/api/v1/compile" => some { get := s.compileAddress, post := some s.compileBody }
  | "/api/v1/datasets" => some { get := fun _ => s.listDatasets }
  | "/health" => some { get := fun _ => s.health }
  | "/health/live" => some { get := fun _ => { status := 200 } }
  | "/health/ready" => some { get := fun _ => s.readiness }
  | _ => none

/-- Answer a request. Questions about what is allowed are answered for foreign pages only, and a
request for the head of a response gets no body. -/
def answer (s : Service) (r : Request) : Response :=
  if s.allowsForeignPages && r.method == "OPTIONS" then { status := 200 }
  else match s.route? r.path with
    | none => { status := 404 }
    | some route =>
      match r.method, route.post with
      | "GET", _ => route.get r
      | "HEAD", _ => { route.get r with body := none }
      | "POST", some post => post r
      | _, _ => { status := 405 }

end Service

end Groupwise
