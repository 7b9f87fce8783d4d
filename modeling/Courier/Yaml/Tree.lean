import Courier.Yaml.Node

/-!
# The tree that tokens write

Collections are read with those that are still open around them at hand. The innermost one decides
what the next token means: an entry, a key or a value, the end of the collection, or an error.
Wherever an entry, a key or a value may be left out, a node stands for it that is empty.
-/

namespace Courier.Yaml

/-- How a collection is written. A bare list has its marks in the column of the keys around it, and
    a pair is a map of one field in a flow list. -/
inductive Form
  | blockList
  | bareList
  | blockMap
  | flowList
  | flowMap
  | pair
  deriving DecidableEq, Repr, Inhabited

/-- What comes next in a collection: an entry or a key, a value, no value although there is a key,
    or nothing at all. -/
inductive Turn
  | entry
  | value
  | noValue
  | nothing
  deriving DecidableEq, Repr, Inhabited

/-- A collection of which the end has not been read: its nodes so far, last one first, with keys and
    values in turn. -/
structure Collection where
  form : Form
  tag : Option String := none
  start : Option Start := none
  turn : Turn := .entry
  nodes : List Node := []
  deriving Inhabited

/-- The node that a collection is. -/
def Collection.node (c : Collection) : Node :=
  match c.form with
  | .blockList | .bareList | .flowList => .list c.tag c.nodes.reverse
  | .blockMap | .flowMap | .pair => .map c.tag (Node.fieldsOf c.nodes.reverse)

/-- What stands before a node: the start that its anchor makes, and its tag. -/
structure Properties where
  start : Option Start := none
  tag : Option String := none
  deriving Inhabited

/-- The tokens not read yet, what tag handles stand for, the open collections, innermost first, the
    anchors, the node outside of which nothing is open, and the size of what has been read: one for
    a scalar or an alias, two for a collection. -/
structure Tree where
  tokens : List Token
  handles : List (String × String)
  opened : List Collection := []
  anchors : Anchors := {}
  root : Option Node := none
  size : Nat := 0
  deriving Inhabited

namespace Tree

/-- The tree with the tokens that have not been read. -/
def goOn (t : Tree) (rest : List Token) : Tree := { t with tokens := rest }

/-! ## Nodes -/

/-- Adds a node to the innermost collection. -/
def add (t : Tree) (n : Node) : Tree :=
  match t.opened with
  | [] => { t with root := some n }
  | c :: rest => { t with opened := { c with nodes := n :: c.nodes } :: rest }

/-- Adds a scalar. -/
def addScalar (t : Tree) (p : Properties) (style : Style) (text : String) : Tree :=
  let n := Node.scalar style p.tag text
  { t with anchors := t.anchors.finish p.start n, size := t.size + 1 }.add n

/-- Goes on after the node that is left out here. -/
def skip (t : Tree) (rest : List Token) : Tree :=
  (t.goOn rest).addScalar {} .plain ""

/-- Opens a collection. -/
def enter (t : Tree) (p : Properties) (form : Form) : Tree :=
  let c : Collection := { form, tag := p.tag, start := p.start }
  { t with opened := c :: t.opened, size := t.size + 2 }

/-- Ends the innermost collection. -/
def leave (t : Tree) (rest : List Token) : Tree :=
  match t.opened with
  | [] => t
  | c :: opened =>
    { t with
      tokens := rest
      opened
      anchors := t.anchors.finish c.start c.node }.add c.node

/-- Says what comes after the next node of the innermost collection. -/
def expect (t : Tree) (turn : Turn) : Tree :=
  match t.opened with
  | [] => t
  | c :: opened => { t with opened := { c with turn } :: opened }

/-! ## Properties -/

/-- The tag that a handle and the rest of the tag write. -/
def tag? (t : Tree) (handle suffix : String) : Option String :=
  if handle = "" then some suffix else (t.handles.lookup handle).map (· ++ suffix)

/-- Starts the node of an anchor. -/
def start (t : Tree) (anchor : Option String) : Option Start × Tree :=
  match anchor with
  | none => (none, t)
  | some name =>
    let (s, anchors) := t.anchors.start name
    (some s, { t with anchors })

/-- Reads an anchor and a tag in any order, each at most once. -/
def properties? (t : Tree) : Option (Properties × Tree) := do
  let (anchor, tag, rest) ← match t.tokens with
    | .anchor name :: .tag handle suffix :: rest =>
      some (some name, some (← t.tag? handle suffix), rest)
    | .tag handle suffix :: .anchor name :: rest =>
      some (some name, some (← t.tag? handle suffix), rest)
    | .anchor name :: rest => some (some name, none, rest)
    | .tag handle suffix :: rest => some (none, some (← t.tag? handle suffix), rest)
    | rest => some (none, none, rest)
  let (start, t) := (t.goOn rest).start anchor
  some (⟨start, tag⟩, t)

/-- Reads a node that has properties only. -/
def empty? (t : Tree) (p : Properties) : Option Tree :=
  if p.start.isNone && p.tag.isNone then none else some (t.addScalar p .plain "")

/-- Reads what stands after the properties of a node. Some nodes stand only in block collections,
    and a bare list only in a map. A scalar with the tag `!` has none. -/
def content? (t : Tree) (inBlock inMap : Bool) (p : Properties) : Option Tree :=
  match t.tokens with
  | .scalar style text :: rest =>
    some ((t.goOn rest).addScalar { p with tag := p.tag.filter (· ≠ "!") } style text)
  | .flowList :: rest => some ((t.goOn rest).enter p .flowList)
  | .flowMap :: rest => some ((t.goOn rest).enter p .flowMap)
  | .blockList :: rest =>
    if inBlock then some ((t.goOn rest).enter p .blockList) else t.empty? p
  | .blockMap :: rest =>
    if inBlock then some ((t.goOn rest).enter p .blockMap) else t.empty? p
  | .item :: _ => if inMap then some (t.enter p .bareList) else t.empty? p
  | _ => t.empty? p

/-- Reads a node, or the start of one that is a collection. -/
def node? (t : Tree) (inBlock inMap : Bool) : Option Tree :=
  match t.tokens with
  | .alias name :: rest => do
    let number ← t.anchors.number? name
    some ({ t.goOn rest with size := t.size + 1 }.add (.alias number))
  | _ => t.properties?.bind fun (p, t) => t.content? inBlock inMap p

/-- Reads a node, unless one of some tokens shows that it is left out. -/
def nodeOrSkip? (t : Tree) (inBlock inMap : Bool) (ends : List Token) (rest : List Token) :
    Option Tree :=
  if rest.head?.any (· ∈ ends) then some (t.skip rest)
  else (t.goOn rest).node? inBlock inMap

/-! ## Collections -/

/-- Goes on in a block list. -/
def blockList? (t : Tree) : Option Tree :=
  match t.tokens with
  | .item :: rest => t.nodeOrSkip? true false [.item, .blockEnd] rest
  | .blockEnd :: rest => some (t.leave rest)
  | _ => none

/-- Goes on in a bare list. -/
def bareList? (t : Tree) : Option Tree :=
  match t.tokens with
  | .item :: rest => t.nodeOrSkip? true false [.item, .key, .value, .blockEnd] rest
  | rest => some (t.leave rest)

/-- Goes on before a key of a block map. -/
def blockKey? (t : Tree) : Option Tree :=
  match t.tokens with
  | .key :: rest => (t.expect .value).nodeOrSkip? true true [.key, .value, .blockEnd] rest
  | .blockEnd :: rest => some (t.leave rest)
  | _ => none

/-- Goes on after a key of a block map. -/
def blockValue? (t : Tree) : Option Tree :=
  match t.tokens with
  | .value :: rest => (t.expect .entry).nodeOrSkip? true true [.key, .value, .blockEnd] rest
  | rest => some ((t.expect .entry).skip rest)

/-- The tokens after the comma before an entry of a flow collection; the first entry has none. -/
def separated? (c : Collection) (close : Token) (tokens : List Token) : Option (List Token) :=
  match c.nodes, tokens with
  | [], _ => some tokens
  | _, .comma :: rest => some rest
  | _, token :: _ => if token = close then some tokens else none
  | _, [] => none

/-- Goes on in a flow list. A key is the start of a map of one field. -/
def flowList? (t : Tree) (c : Collection) : Option Tree := do
  match ← separated? c .flowListEnd t.tokens with
  | .flowListEnd :: rest => some (t.leave rest)
  | .key :: rest => some ((t.goOn rest).enter {} .pair)
  | rest => (t.goOn rest).node? false false

/-- Goes on before the key of a pair. The token that shows that it is left out is read with it. -/
def pairKey? (t : Tree) : Option Tree :=
  let t := t.expect .value
  match t.tokens with
  | .value :: rest | .comma :: rest | .flowListEnd :: rest => some (t.skip rest)
  | _ => t.node? false false

/-- Goes on after the key of a pair. -/
def pairValue? (t : Tree) : Option Tree :=
  let t := t.expect .nothing
  match t.tokens with
  | .value :: rest => t.nodeOrSkip? false false [.comma, .flowListEnd] rest
  | rest => some (t.skip rest)

/-- Goes on before a key of a flow map. One without a mark has no value. -/
def flowKey? (t : Tree) (c : Collection) : Option Tree := do
  match ← separated? c .flowMapEnd t.tokens with
  | .flowMapEnd :: rest => some (t.leave rest)
  | .key :: rest =>
    (t.expect .value).nodeOrSkip? false false [.value, .comma, .flowMapEnd] rest
  | rest => ((t.goOn rest).expect .noValue).node? false false

/-- Goes on after a key of a flow map. -/
def flowValue? (t : Tree) : Option Tree :=
  match t.tokens with
  | .value :: rest => (t.expect .entry).nodeOrSkip? false false [.comma, .flowMapEnd] rest
  | rest => some ((t.expect .entry).skip rest)

/-- Goes on in a collection. -/
def step? (t : Tree) (c : Collection) : Option Tree :=
  match c.form, c.turn with
  | .blockList, _ => t.blockList?
  | .bareList, _ => t.bareList?
  | .blockMap, .entry => t.blockKey?
  | .blockMap, _ => t.blockValue?
  | .flowList, _ => t.flowList? c
  | .flowMap, .entry => t.flowKey? c
  | .flowMap, .value => t.flowValue?
  | .flowMap, _ => some ((t.expect .entry).skip t.tokens)
  | .pair, .entry => t.pairKey?
  | .pair, .value => t.pairValue?
  | .pair, _ => some (t.leave t.tokens)

/-- Goes on to the end of all collections, which is so many steps away at most. -/
def run? : Nat → Tree → Option Tree
  | 0, _ => none
  | fuel + 1, t =>
    match t.opened with
    | [] => some t
    | c :: _ => (t.step? c).bind (run? fuel)

/-- Reads a whole node. Between two steps that read no token there is one that reads some, or two
    that end a collection. -/
def whole? (t : Tree) : Option Tree :=
  (t.node? true false).bind (run? (4 * t.tokens.length + 4))

end Tree

end Courier.Yaml
