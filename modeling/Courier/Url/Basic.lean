import Courier.Url.Host

/-!
# URLs

The URLs that requests are sent to: `http` or `https`, with a host. `Url.parse` reads a text as
browsers do; of a URL with another scheme it only says that it is one.
-/

namespace Courier

/-- An `http` or `https` URL. The path is a list of written segments and never empty. -/
structure Url where
  secure : Bool
  userinfo : String
  host : String
  port : Option Nat
  path : List String
  query : Option String
  fragment : Option String
  deriving DecidableEq, Repr, Inhabited

namespace Url

/-- The path with its leading slash. -/
def pathText (u : Url) : String := "/" ++ "/".intercalate u.path

/-- The path and the query, which a request names. -/
def target (u : Url) : String :=
  u.pathText ++ (match u.query with | some q => "?" ++ q | none => "")

/-- The written URL. -/
def render (u : Url) : String :=
  (if u.secure then "https://" else "http://") ++ u.userinfo ++ u.host ++
    (match u.port with | some p => ":" ++ toString p | none => "") ++ u.target ++
    (match u.fragment with | some f => "#" ++ f | none => "")

/-! ## Segments -/

/-- The path without its last segment, if that is empty and not the only one. -/
def popEmpty (path : List String) : List String :=
  if path.getLast? = some "" ∧ path ≠ [""] then path.dropLast else path

/-- Adds a written segment; a path that is only a slash has room for it. -/
def addSegment (path : List String) (segment : String) : List String :=
  if path = [""] then [segment] else path ++ [segment]

/-- The written form of a segment: tab, line feed and carriage return vanish. -/
def writeSegment (segment : String) : String :=
  String.ofList
    (Percent.encode Percent.segment
      (segment.toList.filter fun c => c ≠ '\t' ∧ c ≠ '\n' ∧ c ≠ '\r'))

/-- Whether a written segment names a drive: a letter and a colon or bar. -/
def isDrive (segment : String) : Bool :=
  match segment.toList with
  | [c, mark] => c.isAlpha && (mark == ':' || mark == '|')
  | _ => false

/-- The path of the folder around. There is no folder around a drive. -/
def outer (path : List String) : List String :=
  if path.getLast?.any isDrive then path else path.dropLast

/-- Adds a segment. A segment `.` or `..` is left out; one that only becomes a dot segment when it
    is written acts as such: it stands for the current or the outer folder. -/
def push (path : List String) (segment : String) : List String :=
  if segment = "." ∨ segment = ".." then path
  else
    match writeSegment segment with
    | "." => addSegment path ""
    | ".." => if path = [""] then path else addSegment (outer path) ""
    | s => addSegment path s

/-- Adds segments after the path, in place of one empty last segment. Model of `join_segments`. -/
def join (u : Url) (segments : List String) : Url :=
  { u with path := segments.foldl push (popEmpty u.path) }

end Url

end Courier
