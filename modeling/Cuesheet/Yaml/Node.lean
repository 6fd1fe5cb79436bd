import Cuesheet.Dictionary
import Cuesheet.Yaml.Lexer

/-!
What a YAML text says.

A document is one tree of nodes. A node may be given a name and stand in other places by it, also
inside itself, so an alias is kept as a number, and `Tree.resolve` goes to the node that has it. The
number is how many different names were given before, the same name included; where a name is given
again a number may come up again, and then it belongs to the later node. A text has one document; a
text of nothing but comments is an empty scalar.
-/

namespace Cuesheet.Yaml

inductive Node where
  /-- A text. It is plain if it stands in no quotes and in no block. -/
  | scalar (tag : Option Text) (isPlain : Bool) (text : Text)
  | sequence (items : List Node)
  | mapping (entries : List (Node × Node))
  /-- The node that has a number. -/
  | alias (number : Nat)
  deriving Repr, Inhabited

def Node.empty : Node := .scalar none true []

/-- A document: its node, and the named nodes. -/
structure Tree where
  root : Node
  /-- For every number which of the named nodes has it, counted as they start. -/
  holders : Dictionary Nat Nat := ∅
  /-- The named nodes, counted as they start. -/
  named : Dictionary Nat Node := ∅

/-- The node that stands for itself in the place of a node. -/
def Tree.resolve (t : Tree) : Node → Node
  | .alias n => (t.holders.get? n >>= t.named.get?).getD .empty
  | node => node

/-! ### Composition -/

/-- How far a tree is composed. -/
structure Composition where
  /-- The tokens to come. -/
  tokens : List Token
  /-- The names given so far with their numbers, each name once. -/
  names : List (Text × Nat) := []
  /-- How many named nodes have started. -/
  started : Nat := 0
  /-- For every number which of the named nodes has it. -/
  holders : Dictionary Nat Nat := ∅
  /-- The named nodes that are complete. -/
  named : Dictionary Nat Node := ∅
  /-- The leads of the tag handles. -/
  handles : List (Text × Text)

/-- What composes part of a tree, or fails. -/
abbrev Composer := StateT Composition Option

namespace Composer

/-- Whether the next token is one of those given. -/
def nextIs (ts : List Token) : Composer Bool := do
  return (← get).tokens.head?.any (· ∈ ts)

def skip : Composer Unit := modify fun c => { c with tokens := c.tokens.drop 1 }

def accept (t : Token) : Composer Bool := do
  if ← nextIs [t] then do skip; return true else return false

def expect (t : Token) : Composer Unit := do guard (← accept t)

def fullTag (t : Tag) : Composer Text := do
  if t.handle = [] then return t.rest
  else
    match (← get).handles.find? (·.1 = t.handle) with
    | some (_, lead) => return lead ++ t.rest
    | none => failure

/-- The properties in front of a node: a name and a tag, in either order. -/
def properties : Composer (Option Text × Option Tag) := do
  match (← get).tokens with
  | .anchor name :: .tag t :: _ | .tag t :: .anchor name :: _ => do
    skip
    skip
    return (some name, some t)
  | .anchor name :: _ => do
    skip
    return (some name, none)
  | .tag t :: _ => do
    skip
    return (none, some t)
  | _ => return (none, none)

/-- The next of the named nodes, which starts under a name. -/
def declare (name : Text) : Composer Nat := do
  let c ← get
  let number := c.names.length
  set { c with
    names := (name, number) :: c.names.filter (·.1 ≠ name)
    started := c.started + 1
    holders := c.holders.insert number c.started }
  return c.started

/-- A node under a name, if it is given one. -/
def underName (name : Option Text) (node : Composer Node) : Composer Node := do
  match name with
  | none => node
  | some name => do
    let n ← declare name
    let node ← node
    modify fun c => { c with named := c.named.insert n node }
    return node

/-- The tag that says of a scalar what no tag says. -/
def plainTag : Text := ['!']

/-- Which collections may stand where a node does. -/
inductive Place where
  /-- Those in brackets. -/
  | flow
  /-- All. -/
  | block
  /-- All, and sequences that are indented no more than the key they belong to. -/
  | underKey
  deriving DecidableEq, Repr

/-- The node of properties that nothing follows. -/
def bare (name tag : Option Text) : Composer Node := do
  guard (name.isSome || tag.isSome)
  return .scalar tag true []

/-- A node, or the empty one before a token that leaves no room for it. -/
def nodeUnless (stops : List Token) (node : Composer Node) : Composer Node := do
  if ← nextIs stops then return .empty else node

/-- The value of a key, which a colon announces. -/
def valueOf (stops : List Token) (node : Composer Node) : Composer Node := do
  if ← accept .value then nodeUnless stops node else return .empty

mutual

/-- A node. The number bounds the steps. -/
def node : (fuel : Nat) → Place → Composer Node
  | 0, _ => failure
  | fuel + 1, place => do
    match (← get).tokens with
    | .alias name :: _ => do
      skip
      match (← get).names.find? (·.1 = name) with
      | some (_, n) => return .alias n
      | none => failure
    | _ => do
      let (name, t) ← properties
      let t ← t.mapM fullTag
      underName name do
        match (← get).tokens with
        | .scalar isPlain text :: _ => do
          skip
          return .scalar (t.filter (· ≠ plainTag)) isPlain text
        | .flowSequenceStart :: _ => do
          skip
          .sequence <$> flowItems fuel true
        | .flowMappingStart :: _ => do
          skip
          .mapping <$> flowEntries fuel true
        | .blockSequenceStart :: _ => do
          guard (place ≠ .flow)
          skip
          let items ← blockItems fuel [.blockEntry, .blockEnd]
          expect .blockEnd
          return .sequence items
        | .blockMappingStart :: _ => do
          guard (place ≠ .flow)
          skip
          .mapping <$> blockEntries fuel
        | .blockEntry :: _ => do
          if place = .underKey then
            .sequence <$> blockItems fuel [.blockEntry, .key, .value, .blockEnd]
          else bare name t
        | _ => bare name t

/-- The items of a sequence without brackets, of which each follows a hyphen. -/
def blockItems : (fuel : Nat) → (stops : List Token) → Composer (List Node)
  | 0, _ => failure
  | fuel + 1, stops => do
    if ← accept .blockEntry then
      let item ← nodeUnless stops (node fuel .block)
      return item :: (← blockItems fuel stops)
    else return []

/-- The entries of a mapping without brackets, to its end. -/
def blockEntries : (fuel : Nat) → Composer (List (Node × Node))
  | 0 => failure
  | fuel + 1 => do
    if ← accept .blockEnd then return []
    else do
      expect .key
      let k ← nodeUnless [.key, .value, .blockEnd] (node fuel .underKey)
      let v ← valueOf [.key, .value, .blockEnd] (node fuel .underKey)
      return (k, v) :: (← blockEntries fuel)

/-- The items of a sequence in brackets, to its end. An item may be a mapping of one key. -/
def flowItems : (fuel : Nat) → (first : Bool) → Composer (List Node)
  | 0, _ => failure
  | fuel + 1, first => do
    if ← accept .flowSequenceEnd then return []
    else do
      if !first then expect .flowEntry
      if ← accept .flowSequenceEnd then return []
      else if ← accept .key then do
        let missing ← nextIs [.value, .flowEntry, .flowSequenceEnd]
        let k ← if missing then do skip; pure .empty else node fuel .flow
        let v ← valueOf [.flowEntry, .flowSequenceEnd] (node fuel .flow)
        return .mapping [(k, v)] :: (← flowItems fuel false)
      else do
        let item ← node fuel .flow
        return item :: (← flowItems fuel false)

/-- The entries of a mapping in brackets, to its end. A key may lack its value. -/
def flowEntries : (fuel : Nat) → (first : Bool) → Composer (List (Node × Node))
  | 0, _ => failure
  | fuel + 1, first => do
    if ← accept .flowMappingEnd then return []
    else do
      if !first then expect .flowEntry
      if ← accept .flowMappingEnd then return []
      else if ← accept .key then do
        let k ← nodeUnless [.value, .flowEntry, .flowMappingEnd] (node fuel .flow)
        let v ← valueOf [.flowEntry, .flowMappingEnd] (node fuel .flow)
        return (k, v) :: (← flowEntries fuel false)
      else do
        let k ← node fuel .flow
        return (k, .empty) :: (← flowEntries fuel false)

end

/-! ### Documents -/

/-- The directives in front of a document: at most one version, which is 1.1 or 1.2, and handles of
tags, each once. -/
def directives : (versioned : Bool) → List Token → Composer (List Token)
  | versioned, .version major minor :: ts => do
    guard (!versioned && major = 1 && (minor = 1 || minor = 2))
    directives true ts
  | versioned, .handle name lead :: ts => do
    guard ((← get).handles.all (·.1 ≠ name))
    modify fun c => { c with handles := c.handles ++ [(name, lead)] }
    directives versioned ts
  | _, ts => return ts

/-- The handles that need no directive. -/
def commonHandles : List (Text × Text) := [("!", "!"), ("!!", "tag:yaml.org,2002:")]

def document : Composer Node := do
  let ts := (← get).tokens
  let rest ← directives false ts
  modify fun c => { c with tokens := rest, handles := c.handles ++ commonHandles }
  let fuel := 2 * ts.length + 2
  if ← accept .documentStart then
    match (← get).tokens with
    | [] | .version .. :: _ | .handle .. :: _ | .documentStart :: _ | .documentEnd :: _ =>
      return .empty
    | _ => node fuel .block
  else do
    guard (rest.length = ts.length)
    node fuel .block

end Composer

/-- The document of some tokens. -/
def Tree.ofTokens? (tokens : List Token) : Option Tree :=
  match tokens with
  | [] => some { root := .empty }
  | _ => do
    let (root, c) ← Composer.document.run { tokens, handles := [] }
    guard (c.tokens.all (· = .documentEnd))
    return { root, holders := c.holders, named := c.named }

/-- The document that a text says, if it says one. -/
def Tree.ofText? (t : Text) : Option Tree := do Tree.ofTokens? (← Token.ofText? t)

end Cuesheet.Yaml
