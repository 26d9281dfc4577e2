import QueryTemplate.Json.Reader
import QueryTemplate.Settings.Field

/-! Requests to the service, and what they ask for. -/
namespace QueryTemplate

inductive Method where
  | get
  | post
  | other
deriving DecidableEq, Repr

structure Request where
  method : Method
  path : String
  body : Option Text := none
deriving DecidableEq, Repr

/-- What the service can be asked for. -/
inductive Endpoint where
  | about
  | health
  | compile
  | specifiers
deriving DecidableEq, Repr

namespace Endpoint

def all : List Endpoint := [.health, .about, .compile, .specifiers]

def path : Endpoint → String
  | .about => "/"
  | .health => "/health"
  | .compile => "/api/v1/compile"
  | .specifiers => "/api/v1/specifiers"

def method : Endpoint → Method
  | .compile => .post
  | _ => .get

/-- Without the slashes at its end. -/
def dropSlashes (path : Text) : Text := (path.reverse.dropWhile (· == '/')).reverse

/-- Characters in the place of their numbers, each two digits after a percent sign, as far as they
are among the first 128. -/
def decodePath : Text → Text
  | '%' :: a :: b :: rest =>
    match Json.hexValue? a, Json.hexValue? b with
    | some x, some y =>
      if x < 8 then Char.ofNat (16 * x + y) :: decodePath rest
      else '%' :: a :: b :: decodePath rest
    | _, _ => '%' :: decodePath (a :: b :: rest)
  | c :: rest => c :: decodePath rest
  | [] => []

/-- Without a host, which two slashes come before. -/
def dropHost : Text → Text
  | '/' :: '/' :: rest => rest.dropWhile (· != '/')
  | path => path

/-- One dot in a path from the root stands for nothing and two take the part before them back. -/
def dropDots (path : Text) : Text :=
  let kept := (path.splitOn '/').foldl
    (fun (kept : List Text) part =>
      if part = ['.'] then kept
      else if part = ['.', '.'] then (if kept = [[]] then kept else kept.drop 1)
      else part :: kept)
    []
  if kept = [[]] then ['/'] else ['/'].intercalate kept.reverse

/-- The path of a request from the root, without host and query. It is decoded on both sides. -/
def cleanPath (path : String) : Text :=
  let front := dropHost (path.toList.takeWhile fun c => c != '?' && c != '#')
  decodePath (decodePath (dropDots ('/' :: front.dropWhile (· == '/'))))

def at? (path : Text) : Option Endpoint := all.find? fun e => e.path.toList == path

/-- What is found at a path; slashes at the end make no difference. -/
def lookUp {α : Type} (at? : Text → Option α) (path : String) : Option α :=
  let clean := cleanPath path
  (at? clean).orElse fun _ => at? (dropSlashes clean)

def find? : String → Option Endpoint := lookUp at?

/-- Pages about the service, which can only be looked at. -/
def pages : List String := ["/openapi.json", "/docs", "/docs/oauth2-redirect", "/redoc"]

def isPage (path : String) : Bool :=
  (lookUp (fun p => pages.find? fun page => page.toList == p) path).isSome

end Endpoint

/-- What is to be compiled. -/
structure CompileRequest where
  template : String
  args : List Json := []
  escaper : Option String := none
deriving Repr

namespace CompileRequest

def body : Place := .field "body"

/-- A field that may be missing where it has a default. -/
def readField {α : Type} (fields : List (String × Json)) (name : String) (default : Option α)
    (read : Json → Except (List Issue) α) : Except (List Issue) α :=
  Field.within (.field name) <|
    match fields.lookup name, default with
    | some j, _ => read j
    | none, some a => .ok a
    | none, none => Field.refuse "missing"

def list : Json → Except (List Issue) (List Json)
  | .array items => .ok items
  | _ => Field.refuse "list_type"

def optionalString : Json → Except (List Issue) (Option String)
  | .null => .ok none
  | j => (Field.string j).map some

def ofJson : Json → Except (List Issue) CompileRequest
  | .null => Field.refuse "missing"
  | .object fields => do
    let (template, args, escaper) ← Field.both
      (readField fields "template" none Field.string) <| Field.both
      (readField fields "args" (some []) list)
      (readField fields "escaper" (some none) optionalString)
    pure ⟨template, args, escaper⟩
  | _ => Field.refuse "model_attributes_type"

/-- Why a request is refused, and the data that each issue is about. -/
structure Rejection where
  issues : List Issue
  subjects : List Json := []

/-- The data that an issue is about: the field it is found in, or what misses one. -/
def subject (document : Json) (i : Issue) : Json :=
  match i.place with
  | .field name :: _ => if i.kind = "missing" then document else (document.field? name).getD .null
  | _ => document

/-- Reads the body of a request, which is a document; an empty one is none. -/
def read (text : Option Text) : Except Rejection CompileRequest :=
  match text with
  | none | some [] => .error { issues := [⟨[body], "missing"⟩] }
  | some text =>
    match Json.readSent text with
    | .error e => .error { issues := [⟨[body, .item e.offset], "json_invalid"⟩] }
    | .ok document =>
      match ofJson document with
      | .ok request => .ok request
      | .error issues =>
        .error ⟨issues.map fun i => ⟨body :: i.place, i.kind⟩, issues.map (subject document)⟩

end CompileRequest
end QueryTemplate
