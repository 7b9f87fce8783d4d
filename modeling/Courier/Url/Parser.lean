import Courier.Url.Basic

/-!
# Reading URLs

A text is read as browsers do: blanks around it and line ends inside it do not count, a backslash is
a slash in a URL of a known scheme, letters of scheme and host become lower case, the default port
is dropped, and dot segments are resolved.
-/

namespace Courier.Url

/-! ## Parts -/

/-- Whether a character ends the authority. -/
def endsAuthority (special : Bool) (c : Char) : Bool :=
  c == '/' || c == '?' || c == '#' || (special && c == '\\')

/-- The text without control characters and spaces at its ends, and without line ends and tabs. -/
def clean (text : String) : List Char :=
  let edge (c : Char) : Bool := c.toNat ≤ 0x20
  let cs := ((text.toList.dropWhile edge).reverse.dropWhile edge).reverse
  cs.filter fun c => c ≠ '\t' ∧ c ≠ '\n' ∧ c ≠ '\r'

/-- The scheme in lower case, and what follows its colon. -/
def scheme? (text : List Char) : Option (String × List Char) :=
  match text with
  | c :: _ =>
    if c.isAlpha then
      let name := text.takeWhile fun c => c.isAlphanum || c == '+' || c == '-' || c == '.'
      match text.drop name.length with
      | ':' :: rest => some (String.ofList (name.map Char.toLower), rest)
      | _ => none
    else none
  | [] => none

/-- The port that need not be written. -/
def defaultPort? : String → Option Nat
  | "http" | "ws" => some 80
  | "https" | "wss" => some 443
  | "ftp" => some 21
  | _ => none

/-- User name and password, up to the last at sign of the authority, in written form with that
    sign; and what follows. -/
def readUserinfo (special : Bool) (text : List Char) : Except ParseError (String × List Char) :=
  let authority := text.takeWhile fun c => !endsAuthority special c
  if '@' ∈ authority then
    let after := authority.reverse.takeWhile (· ≠ '@')
    let before := authority.take (authority.length - after.length - 1)
    let rest := text.drop (before.length + 1)
    match before with
    | [] =>
      match rest with
      | c :: _ => if endsAuthority special c then .error .emptyHost else .ok ("", rest)
      | [] => .ok ("", rest)
    | before =>
      let name := before.takeWhile (· ≠ ':')
      let password := (before.drop (name.length + 1)).flatMap fun c =>
        if c = ':' then Percent.encode Percent.userinfo [':'] else
          Percent.encode Percent.userinfo [c]
      let written := Percent.encode Percent.userinfo name ++
        (if password = [] then [] else ':' :: password)
      .ok (if written = [] then "" else String.ofList (written ++ ['@']), rest)
  else .ok ("", text)

/-- The characters of the host: up to a colon outside brackets or the end of the authority. -/
def hostText (special : Bool) : Bool → List Char → List Char
  | _, [] => []
  | inside, c :: rest =>
    if (c = ':' ∧ !inside) ∨ endsAuthority special c then []
    else c :: hostText special (if c = '[' then true else if c = ']' then false else inside) rest

/-- The port after a colon, unless it is the default one, and what follows. -/
def readPort (scheme : String) (text : List Char) : Except ParseError (Option Nat × List Char) :=
  match text with
  | ':' :: rest =>
    let ds := rest.takeWhile Char.isDigit
    let n := ds.foldl (fun n c => n * 10 + (c.toNat - 48)) 0
    let after := rest.drop ds.length
    if 65535 < n then .error .invalidPort
    else
      match after with
      | c :: _ =>
        if endsAuthority true c then
          .ok (if ds = [] ∨ defaultPort? scheme = some n then none else some n, after)
        else .error .invalidPort
      | [] => .ok (if ds = [] ∨ defaultPort? scheme = some n then none else some n, after)
  | text => .ok (none, text)

/-- Splits a path at every slash and backslash. -/
def splitPath : List Char → List (List Char)
  | [] => [[]]
  | c :: rest =>
    if c = '/' ∨ c = '\\' then [] :: splitPath rest
    else
      match splitPath rest with
      | s :: more => (c :: s) :: more
      | [] => [[c]]

/-- A segment with every written dot in place of its percent form. -/
def plainDots : List Char → List Char
  | '%' :: '2' :: 'e' :: rest => '.' :: plainDots rest
  | '%' :: '2' :: 'E' :: rest => '.' :: plainDots rest
  | c :: rest => c :: plainDots rest
  | [] => []

/-- Resolves dot segments. A dot segment at the end leaves an empty one. -/
def resolve (done : List String) : List (List Char) → List String
  | [] => done
  | s :: rest =>
    let dots := plainDots s
    if dots = ['.', '.'] then
      resolve (outer done ++ if rest = [] then [""] else []) rest
    else if dots = ['.'] then resolve (done ++ if rest = [] then [""] else []) rest
    else resolve (done ++ [String.ofList (Percent.encode Percent.path s)]) rest

/-- Splits off query and fragment. -/
def splitTail (text : List Char) : List Char × Option (List Char) × Option (List Char) :=
  let beforeFragment := text.takeWhile (· ≠ '#')
  let fragment := match text.drop beforeFragment.length with
    | _ :: f => some f
    | [] => none
  let path := beforeFragment.takeWhile (· ≠ '?')
  let query := match beforeFragment.drop path.length with
    | _ :: q => some q
    | [] => none
  (path, query, fragment)

/-! ## URLs -/

/-- What follows the slashes of a URL with a known scheme. -/
def afterSlashes (scheme : String) (text : List Char) : Except ParseError Url := do
  let (user, text) ← readUserinfo true text
  let name := hostText true false text
  if name = [] then throw .emptyHost
  let host ← Host.parse name
  let (number, text) ← readPort scheme (text.drop name.length)
  let (path, query, fragment) := splitTail text
  let path := match path with
    | c :: rest => if c = '/' ∨ c = '\\' then rest else c :: rest
    | [] => []
  return {
    secure := scheme == "https"
    userinfo := user
    host
    port := number
    path := resolve [] (splitPath path)
    query := query.map fun q => String.ofList (Percent.encode Percent.query q)
    fragment := fragment.map fun f => String.ofList (Percent.encode Percent.fragment f) }

/-- Whether the text after `file:` can be read. Only a host can be wrong. -/
def checkFile (text : List Char) : Except ParseError Unit :=
  match text with
  | a :: b :: rest =>
    if (a = '/' ∨ a = '\\') ∧ (b = '/' ∨ b = '\\') then
      let name := rest.takeWhile fun c => !endsAuthority true c
      match name with
      | [] => .ok ()
      | [d, '|'] => if d.isAlpha then .ok () else (Host.parse name).map fun _ => ()
      | [d, ':'] => if d.isAlpha then .ok () else (Host.parse name).map fun _ => ()
      | name => (Host.parse name).map fun _ => ()
    else .ok ()
  | _ => .ok ()

/-- Whether the text after an unknown scheme can be read. -/
def checkOther (text : List Char) : Except ParseError Unit :=
  match text with
  | '/' :: '/' :: rest => do
    let (user, text) ← readUserinfo false rest
    let name := hostText false false text
    let _ ← Host.parseOpaque name
    let after := text.drop name.length
    if name = [] ∧ (user ≠ "" ∨ after.head? = some ':') then throw .emptyHost
    let _ ← readPort "" after
    return ()
  | _ => .ok ()

/-- Reads a URL. The answer is `none` for a well-formed URL with another scheme than `http` and
    `https`. -/
def parse (text : String) : Except ParseError (Option Url) :=
  match scheme? (clean text) with
  | none => .error .relative
  | some (scheme, rest) =>
    let slashes (c : Char) : Bool := c == '/' || c == '\\'
    if scheme = "http" ∨ scheme = "https" then
      (afterSlashes scheme (rest.dropWhile slashes)).map some
    else if scheme = "ws" ∨ scheme = "wss" ∨ scheme = "ftp" then
      (afterSlashes scheme (rest.dropWhile slashes)).map fun _ => none
    else if scheme = "file" then (checkFile rest).map fun _ => none
    else (checkOther rest).map fun _ => none

end Courier.Url
