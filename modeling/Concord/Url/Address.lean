import Concord.Url.Host

/-!
# Addresses

An address leads to a server: a scheme, a user where the server wants one, a host, a
port unless it is that of the scheme, the segments of a path, a query and a
fragment.

People leave out the scheme, and a text that does not start with one of the two is taken
to start with the host (`completed`).  `Address.read` reads a text that names its scheme.
Blanks at the end and line breaks anywhere are left out, and the path is brought to a form
without dots: a segment `.` is left out and `..` takes back the one before it.

`Address.display` writes it down again, and `Address.resolve` finds the address of a
reference that starts with a name, such as the path of a record below that of a
server.
-/

namespace Concord.Url

open Text

/-! ## Schemes -/

/-- How a server is spoken to. -/
inductive Scheme where
  /-- In the clear. -/
  | http
  /-- In secret. -/
  | https
  deriving Repr, DecidableEq

namespace Scheme

def name : Scheme → String
  | .http => "http"
  | .https => "https"

def port : Scheme → Nat
  | .http => 80
  | .https => 443

/-- What stands in front of an address of a scheme. -/
def lead (s : Scheme) : String := s.name ++ "://"

end Scheme

/-- The scheme that a text names, and what stands behind it. -/
def splitScheme (cs : List Char) : Option (Scheme × List Char) :=
  match [Scheme.http, .https].find? fun s => s.lead.toList.isPrefixOf cs with
  | some s => some (s, cs.drop s.lead.length)
  | none => none

/-- A text with a scheme in front, unless it names one. -/
def completed (address : String) : String :=
  match splitScheme address.toList with
  | some _ => address
  | none => Scheme.http.lead ++ address

/-! ## Addresses -/

/-- An address. -/
structure Address where
  scheme : Scheme
  /-- The user and the password as they are written, empty if there are none. -/
  user : String
  host : Host
  /-- The port, if it is not that of the scheme. -/
  port : Option Nat
  /-- The segments of the path before the last. -/
  folders : List String
  /-- The last segment of the path. -/
  leaf : String
  query : Option String
  fragment : Option String
  deriving DecidableEq

namespace Address

/-! ## Writing -/

def path (a : Address) : String :=
  "/" ++ String.join (a.folders.map (· ++ "/")) ++ a.leaf

/-- The path and the query of an address, which a request names. -/
def target (a : Address) : String :=
  a.path ++
    match a.query with
    | some q => "?" ++ q
    | none => ""

/-- An address as it is written. -/
def display (a : Address) : String :=
  a.scheme.lead ++ a.user ++ a.host.display ++
    (match a.port with
    | some p => ":" ++ decimal p
    | none => "") ++ a.target ++
    match a.fragment with
    | some f => "#" ++ f
    | none => ""

/-! ## Cleaning -/

/-- A control or a space. -/
def isMargin (c : Char) : Bool := c.toNat ≤ 0x20

/-- A character that is left out wherever it stands. -/
def isBreak (c : Char) : Bool := c = '\t' || c = '\n' || c = '\r'

/-- A text without the controls and spaces at its end, and without line breaks. -/
def cleaned (cs : List Char) : List Char :=
  (cs.reverse.dropWhile isMargin).reverse.filter fun c => !isBreak c

/-! ## Paths -/

/-- A mark between segments. -/
def isSlash (c : Char) : Bool := c = '/' || c = '\\'

def endsPath (c : Char) : Bool := c = '?' || c = '#'

/-- Whether a segment, with dots in either form, is a number of dots. -/
def isDots (n : Nat) (segment : String) : Bool :=
  undot segment.toList = List.replicate n '.'
where
  /-- A text with encoded dots as dots. -/
  undot : List Char → List Char
    | '%' :: '2' :: 'e' :: cs => '.' :: undot cs
    | '%' :: '2' :: 'E' :: cs => '.' :: undot cs
    | c :: cs => c :: undot cs
    | [] => []

/-- Whether a segment is a letter and a mark, as of a drive. -/
def isDrive (segment : String) : Bool :=
  match segment.toList with
  | [c, m] => c.isAlpha && (m = ':' || m = '|')
  | _ => false

/-- Takes back the last of the segments so far, unless it names a drive. -/
def takeBack (folders : List String) : List String :=
  match folders.getLast? with
  | some f => if isDrive f then folders else folders.dropLast
  | none => []

/-- The segments so far with one more behind them. -/
def intoFolder (folders : List String) (segment : String) : List String :=
  if isDots 2 segment then takeBack folders
  else if isDots 1 segment then folders
  else folders ++ [segment]

/-- The segments so far with the last one behind them. -/
def withLeaf (folders : List String) (segment : String) : List String × String :=
  if isDots 2 segment then (takeBack folders, "")
  else if isDots 1 segment then (folders, "")
  else (folders, segment)

/-- The segments of a text. -/
def segments (cs : List Char) : List String :=
  (splitOn '/' (cs.map fun c => if c = '\\' then '/' else c)).map fun s =>
    String.ofList (percentEncode inPathSet s)

/-- The path that segments lead to from the segments so far. -/
def walk (folders : List String) : List String → List String × String
  | [] => (folders, "")
  | [s] => withLeaf folders s
  | s :: t :: rest => walk (intoFolder folders s) (t :: rest)

/-! ## Reading -/

/-- The user and the password of an address, as they are written. -/
def userText (cs : List Char) : List Char :=
  let written := match splitFirst ':' cs with
    | none => percentEncode inUserSet cs
    | some (name, []) => percentEncode inUserSet name
    | some (name, word) => percentEncode inUserSet name ++ ':' :: percentEncode inUserSet word
  if written = [] then [] else written ++ ['@']

/-- The text of a host and what follows it: a colon ends it outside brackets. -/
def splitHost (inBrackets : Bool) : List Char → List Char × List Char
  | [] => ([], [])
  | c :: cs =>
    if c = ':' ∧ ¬ inBrackets then ([], c :: cs)
    else
      let r := splitHost (if c = '[' then true else if c = ']' then false else inBrackets) cs
      (c :: r.1, r.2)

/-- Reads a port, none if it is absent or that of the scheme. -/
def readPort (scheme : Scheme) (cs : List Char) : Except UrlError (Option Nat) :=
  match cs with
  | ':' :: c :: cs =>
    match magnitude 10 65535 .tooLarge 0 (c :: cs) with
    | .ok n => .ok (if n = scheme.port then none else some n)
    | .error _ => .error .invalidPort
  | _ => .ok none

/-- The query and the fragment of what stands behind a path. -/
def readTail (cs : List Char) : Option String × Option String :=
  let query := match cs with
    | '?' :: cs => some (String.ofList (percentEncode inQuerySet (cs.takeWhile (· ≠ '#'))))
    | _ => none
  let fragment := match cs.dropWhile (· ≠ '#') with
    | _ :: cs => some (String.ofList (percentEncode inFragmentSet cs))
    | [] => none
  (query, fragment)

/-- Reads an address of a scheme from what stands behind it. -/
def ofRest (scheme : Scheme) (cs : List Char) : Except UrlError Address :=
  let cs := (cleaned cs).dropWhile isSlash
  let authority := cs.takeWhile fun c => !(isSlash c || endsPath c)
  let rest := cs.dropWhile fun c => !(isSlash c || endsPath c)
  let (user, place) := (splitLast '@' authority).getD ([], authority)
  let (hostText, portText) := splitHost false place
  match Host.read hostText with
  | .error e => .error e
  | .ok host =>
    match readPort scheme portText with
    | .error e => .error e
    | .ok port =>
      let (folders, leaf) :=
        match rest.takeWhile fun c => !endsPath c with
        | [] => ([], "")
        | _ :: path => walk [] (segments path)
      let (query, fragment) := readTail (rest.dropWhile fun c => !endsPath c)
      .ok ⟨scheme, String.ofList (userText user), host, port, folders, leaf, query, fragment⟩

/-- Reads an address that names one of the two schemes. -/
def read (address : String) : Except UrlError Address :=
  match splitScheme address.toList with
  | some (scheme, rest) => ofRest scheme rest
  | none => .error .relative

/-- The host of an address, none if it is the empty name. -/
def host? (a : Address) : Option Host :=
  if a.host = .name "" then none else some a.host

/-! ## References -/

/-- The address as a folder: what is found below it is found below its last segment. -/
def asFolder (a : Address) : Address :=
  if a.leaf = "" then a else { a with folders := a.folders ++ [a.leaf], leaf := "" }

/-- The address of a reference that starts with a name: its path continues in the
folder of the address, and its query and fragment take the place of those there. -/
def resolve (a : Address) (reference : String) : Address :=
  let cs := cleaned reference.toList
  let (folders, leaf) := walk a.folders (segments (cs.takeWhile fun c => !endsPath c))
  let (query, fragment) := readTail (cs.dropWhile fun c => !endsPath c)
  { a with folders, leaf, query, fragment }

end Address

end Concord.Url
