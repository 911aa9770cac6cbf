import Concord.Table
import Concord.Yaml.Token

/-!
# Nodes

A document is a tree of nodes: scalars, lists, mappings, and references to nodes that
carry an anchor.  A key and a value may be absent, and then are empty plain scalars.

Anchors are numbered.  The number of an anchor is the number of names known before
it, and a name that is used again moves to its new number, so a number may be given
twice.  A reference has the number that its name has at that point, and leads to the
last node with that number (`Node.at?`).

A list in a mapping may stand in the column of the keys.  It then has no tokens that
open and close it, and ends where no item follows.
-/

namespace Concord.Yaml

/-- A node of a document. -/
inductive Node where
  /-- A text, with its tag. -/
  | scalar (anchor : Option Nat) (tag : Option Octets) (s : Scalar)
  | list (anchor : Option Nat) (items : List Node)
  /-- A mapping, in the order of the text. -/
  | mapping (anchor : Option Nat) (members : List (Node × Node))
  | reference (anchor : Nat)
  deriving Repr

namespace Node

/-- The node that stands for nothing at all. -/
def empty : Node := .scalar none none ⟨"", .plain⟩

/-- The anchor that a node carries. -/
def anchor? : Node → Option Nat
  | .scalar a _ _ => a
  | .list a _ => a
  | .mapping a _ => a
  | .reference _ => none

mutual

/-- A node and the nodes in it, in the order in which they start. -/
def parts : Node → List Node
  | .list a items => .list a items :: itemParts items
  | .mapping a members => .mapping a members :: memberParts members
  | .scalar a t s => [.scalar a t s]
  | .reference a => [.reference a]

def itemParts : List Node → List Node
  | [] => []
  | n :: ns => n.parts ++ itemParts ns

/-- The nodes in the members of a mapping. -/
def memberParts : List (Node × Node) → List Node
  | [] => []
  | (k, v) :: ms => k.parts ++ v.parts ++ memberParts ms

end

/-- The last node with an anchor. -/
def at? (root : Node) (anchor : Nat) : Option Node :=
  root.parts.reverse.find? fun n => n.anchor? = some anchor

/-! ## Reading -/

/-- The numbers of the names of anchors. -/
abbrev Names := Table (List Char) Nat

/-- What is left to be read, and the names known so far. -/
structure Rest where
  tokens : List Token
  names : Names

/-- What is left behind some tokens. -/
def Rest.behind (r : Rest) (tokens : List Token) : Rest := { r with tokens }

/-- What is said of a node in front of it. -/
structure Properties where
  /-- The number of its anchor. -/
  anchor : Option Nat
  tag : Option Octets

/-- Whether nothing is said. -/
def Properties.isBare (p : Properties) : Bool := p.anchor.isNone && p.tag.isNone

/-- Gives a number to a name. -/
def Rest.name (r : Rest) (name : List Char) : Nat × Rest :=
  (r.names.length, { r with names := r.names.put name r.names.length })

/-- Reads an anchor and a tag, in either order. -/
def readProperties? (handles : Handles) (r : Rest) : Option (Properties × Rest) :=
  match r.tokens with
  | .anchor name :: .tag t :: ts =>
    (t.resolve? handles).map fun tag =>
      let (n, r) := r.name name
      (⟨some n, some tag⟩, r.behind ts)
  | .tag t :: .anchor name :: ts =>
    (t.resolve? handles).map fun tag =>
      let (n, r) := r.name name
      (⟨some n, some tag⟩, r.behind ts)
  | .anchor name :: ts =>
    let (n, r) := r.name name
    some (⟨some n, none⟩, r.behind ts)
  | .tag t :: ts => (t.resolve? handles).map fun tag => (⟨none, some tag⟩, r.behind ts)
  | _ => some (⟨none, none⟩, r)

/-- Reads a node, or nothing in front of a token that ends an entry. -/
def orEmpty (ends : List Token) (read : Rest → Option (Node × Rest)) (r : Rest) :
    Option (Node × Rest) :=
  if r.tokens.head?.any ends.contains then some (.empty, r) else read r

/-- Reads the value of a member, which is nothing if there is no mark of a value. -/
def readValue? (ends : List Token) (read : Rest → Option (Node × Rest)) (r : Rest) :
    Option (Node × Rest) :=
  match r.tokens with
  | .value :: ts => orEmpty ends read (r.behind ts)
  | _ => some (.empty, r)

/-- The tokens that end an item of a list in a block. -/
def itemEnds : List Token := [.item, .blockEnd]

/-- The tokens that end a key or value of a mapping in a block. -/
def memberEnds : List Token := [.key, .value, .blockEnd]

/-- The tokens that end a value in a list in brackets. -/
def listEnds : List Token := [.comma, .listClose]

/-- The tokens that end a value in a mapping in braces. -/
def mappingEnds : List Token := [.comma, .mappingClose]

mutual

/-- Reads a node.  Blocks may stand in blocks only, and a list in the column of the
keys is one of the forms of a key or value. -/
def read? (handles : Handles) : Nat → (inBlock inMapping : Bool) → Rest → Option (Node × Rest)
  | 0, _, _, _ => none
  | fuel + 1, inBlock, inMapping, r =>
    match r.tokens with
    | .reference name :: ts =>
      (r.names.get? name).map fun n => (.reference n, r.behind ts)
    | _ =>
      match readProperties? handles r with
      | none => none
      | some (p, r) =>
        match r.tokens, inBlock, inMapping with
        | .item :: _, _, true =>
          (readFlush? handles fuel r).map fun x => (.list p.anchor x.1, x.2)
        | .scalar s :: ts, _, _ => some (.scalar p.anchor p.tag s, r.behind ts)
        | .listOpen :: ts, _, _ =>
          (readEntries? handles fuel true (r.behind ts)).map fun x => (.list p.anchor x.1, x.2)
        | .mappingOpen :: ts, _, _ =>
          (readFields? handles fuel true (r.behind ts)).map fun x => (.mapping p.anchor x.1, x.2)
        | .blockList :: ts, true, _ =>
          (readItems? handles fuel (r.behind ts)).map fun x => (.list p.anchor x.1, x.2)
        | .blockMapping :: ts, true, _ =>
          (readMembers? handles fuel (r.behind ts)).map fun x => (.mapping p.anchor x.1, x.2)
        | _, _, _ =>
          if p.isBare then none else some (.scalar p.anchor p.tag ⟨"", .plain⟩, r)

/-- Reads the items of a list in a block. -/
def readItems? (handles : Handles) : Nat → Rest → Option (List Node × Rest)
  | 0, _ => none
  | fuel + 1, r =>
    match r.tokens with
    | .item :: ts =>
      match orEmpty itemEnds (read? handles fuel true false) (r.behind ts) with
      | none => none
      | some (n, r) => (readItems? handles fuel r).map fun x => (n :: x.1, x.2)
    | .blockEnd :: ts => some ([], r.behind ts)
    | _ => none

/-- Reads the items of a list in the column of the keys. -/
def readFlush? (handles : Handles) : Nat → Rest → Option (List Node × Rest)
  | 0, _ => none
  | fuel + 1, r =>
    match r.tokens with
    | .item :: ts =>
      match orEmpty (.item :: memberEnds) (read? handles fuel true false) (r.behind ts) with
      | none => none
      | some (n, r) => (readFlush? handles fuel r).map fun x => (n :: x.1, x.2)
    | _ => some ([], r)

/-- Reads the members of a mapping in a block. -/
def readMembers? (handles : Handles) : Nat → Rest → Option (List (Node × Node) × Rest)
  | 0, _ => none
  | fuel + 1, r =>
    match r.tokens with
    | .key :: ts =>
      match orEmpty memberEnds (read? handles fuel true true) (r.behind ts) with
      | none => none
      | some (k, r) =>
        match readValue? memberEnds (read? handles fuel true true) r with
        | none => none
        | some (v, r) => (readMembers? handles fuel r).map fun x => ((k, v) :: x.1, x.2)
    | .blockEnd :: ts => some ([], r.behind ts)
    | _ => none

/-- Reads the entries of a list in brackets, up to the closing one.  A key makes an
entry a mapping with one member; a token in the place of that key is passed over. -/
def readEntries? (handles : Handles) : Nat → (first : Bool) → Rest → Option (List Node × Rest)
  | 0, _, _ => none
  | fuel + 1, first, r =>
    let behindComma : Option (List Token) :=
      match r.tokens, first with
      | .listClose :: _, _ => some r.tokens
      | .comma :: ts, false => some ts
      | _, first => if first then some r.tokens else none
    match behindComma with
    | none => none
    | some (.listClose :: ts) => some ([], r.behind ts)
    | some (.key :: ts) =>
      let key :=
        if ts.head?.any (.value :: listEnds).contains then
          some (Node.empty, r.behind (ts.drop 1))
        else read? handles fuel false false (r.behind ts)
      match key with
      | none => none
      | some (k, r) =>
        match readValue? listEnds (read? handles fuel false false) r with
        | none => none
        | some (v, r) =>
          (readEntries? handles fuel false r).map fun x => (.mapping none [(k, v)] :: x.1, x.2)
    | some ts =>
      match read? handles fuel false false (r.behind ts) with
      | none => none
      | some (n, r) => (readEntries? handles fuel false r).map fun x => (n :: x.1, x.2)

/-- Reads the members of a mapping in braces, up to the closing one.  A member without
a key in front has no value. -/
def readFields? (handles : Handles) :
    Nat → (first : Bool) → Rest → Option (List (Node × Node) × Rest)
  | 0, _, _ => none
  | fuel + 1, first, r =>
    let behindComma : Option (List Token) :=
      match r.tokens, first with
      | .mappingClose :: _, _ => some r.tokens
      | .comma :: ts, false => some ts
      | _, first => if first then some r.tokens else none
    match behindComma with
    | none => none
    | some (.mappingClose :: ts) => some ([], r.behind ts)
    | some (.key :: ts) =>
      match orEmpty (.value :: mappingEnds) (read? handles fuel false false) (r.behind ts) with
      | none => none
      | some (k, r) =>
        match readValue? mappingEnds (read? handles fuel false false) r with
        | none => none
        | some (v, r) =>
          (readFields? handles fuel false r).map fun x => ((k, v) :: x.1, x.2)
    | some ts =>
      match read? handles fuel false false (r.behind ts) with
      | none => none
      | some (k, r) =>
        (readFields? handles fuel false r).map fun x => ((k, .empty) :: x.1, x.2)

end

end Node

end Concord.Yaml
