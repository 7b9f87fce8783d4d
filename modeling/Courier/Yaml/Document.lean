import Courier.Yaml.Tokens
import Courier.Yaml.Tree

/-!
# Documents

Settings are one document. Directives may stand before it, and three points may end it.
-/

namespace Courier.Yaml

/-- A document: its root, the nodes that aliases stand for by number, and its size. -/
structure Document where
  root : Node
  nodes : Array Node
  size : Nat
  deriving Inhabited

namespace Document

/-- What the handles stand for that need no declaration. -/
def handles : List (String × String) := [("!", "!"), ("!!", "tag:yaml.org,2002:")]

/-- The versions of the language that are read. -/
def versions : List (Nat × Nat) := [(1, 1), (1, 2)]

/-- Reads directives: the version at most once, and each handle at most once. -/
def directives? (hasVersion : Bool) (declared : List (String × String)) :
    List Token → Option (List (String × String) × List Token)
  | .version major minor :: rest =>
    if hasVersion ∨ (major, minor) ∉ versions then none else directives? true declared rest
  | .handle name start :: rest =>
    if (declared.lookup name).isSome then none
    else directives? hasVersion ((name, start) :: declared) rest
  | rest => some (declared, rest)

/-- Whether a token cannot start the content of a document. -/
def isOutside : Token → Bool
  | .version .. | .handle .. | .documentStart | .documentEnd => true
  | _ => false

/-- Reads the content of a document; after its start there may be none. -/
def content? (t : Tree) : Option Tree :=
  if t.tokens.head?.all isOutside then some (t.skip t.tokens) else t.whole?

/-- The only document that tokens write. Only its start may follow directives. -/
def ofTokens? (tokens : List Token) : Option Document := do
  let (declared, rest) ← directives? false [] tokens
  let t : Tree := { tokens := rest, handles := declared ++ handles }
  let t ← match rest with
    | .documentStart :: rest => content? (t.goOn rest)
    | _ => if rest.length = tokens.length then t.whole? else none
  if t.tokens.all (· == .documentEnd) then
    t.root.map fun root => ⟨root, t.anchors.nodes, t.size⟩
  else none

/-- The document that a text writes. -/
def ofText? (text : String) : Option Document := (Token.list? text).bind ofTokens?

end Document

end Courier.Yaml
