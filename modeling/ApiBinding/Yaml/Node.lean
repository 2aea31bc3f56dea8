import ApiBinding.Yaml.Token

/-!
# YAML nodes

A document is a tree of scalars, sequences and mappings.  An alias stands for the
node that carries its anchor, as it was last given before; an alias inside the node
it names stands for nothing, and in the full dialect is an error.  Together with a node
its nesting and the number of aliases in it are kept, so that a tree can be refused
before it is written out.
-/

namespace ApiBinding.Yaml

/-- A node with its tag. -/
inductive Node where
  /-- A node that is left out. -/
  | absent
  /-- An alias inside the node it names. -/
  | circular
  | scalar (tag : Option String) (plain : Bool) (text : String)
  | sequence (tag : Option String) (items : List Node)
  | mapping (tag : Option String) (entries : List (Node × Node))

/-- A node with its measures. -/
structure Measured where
  node : Node
  /-- How many sequences and mappings stand inside each other. -/
  height : Nat := 0
  /-- How many aliases are followed to reach every part of it. -/
  aliases : Nat := 0

namespace Measured

/-- A node that is left out. -/
def empty : Measured := { node := .absent }

/-- The measures of several nodes in one. -/
def around (node : Node) (parts : List Measured) : Measured :=
  { node
    height := (parts.map height).foldl max 0 + 1
    aliases := (parts.map aliases).foldl (· + ·) 0 }

/-- A mapping of entries. -/
def mapping (tag : Option String) (entries : List (Measured × Measured)) : Measured :=
  around (.mapping tag (entries.map fun entry => (entry.1.node, entry.2.node)))
    (entries.flatMap fun entry => [entry.1, entry.2])

/-- A sequence of items. -/
def sequence (tag : Option String) (items : List Measured) : Measured :=
  around (.sequence tag (items.map node)) items

end Measured

/-- The tokens still to be read, and what has been met. -/
structure Composer where
  tokens : List Token
  /-- The number of each anchor's node, the latest first. -/
  anchors : List (String × Nat) := []
  /-- How many anchors have been met. -/
  anchorCount : Nat := 0
  /-- The nodes of finished anchors. -/
  finished : List (Nat × Measured) := []
  /-- How many scalars, aliases, and starts and ends of collections have been met. -/
  events : Nat := 0

/-- A step of reading nodes. -/
abbrev Compose := StateT Composer Option

namespace Compose

/-- The next token. -/
def peek : Compose (Option Token) := do
  return (← get).tokens.head?

/-- Go past the next token. -/
def skip : Compose Unit :=
  modify fun composer => { composer with tokens := composer.tokens.drop 1 }

/-- Whether the next token is a given one; if so, go past it. -/
def accept (token : Token) : Compose Bool := do
  if (← peek) == some token then
    skip
    return true
  else return false

/-- Count events. -/
def count (events : Nat) : Compose Unit :=
  modify fun composer => { composer with events := composer.events + events }

/-- A node that is left out, which counts as a scalar. -/
def emptyScalar : Compose Measured := do
  count 1
  return .empty

/-- Enter an anchor; the answer is the number of its node. -/
def enterAnchor (name : String) : Compose Nat := do
  let composer ← get
  set { composer with
    anchors := (name, composer.anchorCount) :: composer.anchors
    anchorCount := composer.anchorCount + 1 }
  return composer.anchorCount

/-- Enter an anchor if there is one. -/
def enterAnchor? (name : Option String) : Compose (Option Nat) :=
  match name with
  | none => return none
  | some name => return some (← enterAnchor name)

/-- Note that the node of an anchor is finished. -/
def finishAnchor (number : Option Nat) (node : Measured) : Compose Unit :=
  match number with
  | none => return ()
  | some number =>
    modify fun composer => { composer with finished := (number, node) :: composer.finished }

/-- The node that an alias stands for. -/
def followAlias (dialect : Dialect) (name : String) : Compose Measured := do
  let composer ← get
  match composer.anchors.lookup name with
  | none => failure
  | some number =>
    match composer.finished.lookup number with
    | none => if dialect = .simple then return { node := .circular } else failure
    | some target => return { target with aliases := target.aliases + 1 }

end Compose

open Compose

/-- How tags and aliases are understood: the dialect, and the handles that directives
declare. -/
structure TagScope where
  dialect : Dialect
  handles : List (String × String) := []

/-- The opening of the tags of the standard kinds. -/
def standardTag : String := "tag:yaml.org,2002:"

/-- The tag of all kinds that have no meaning. -/
def foreignTag : String := "!!"

/-- The full form of a tag.  In the simple dialect only one handle has a meaning, which
no directive changes, and any other tag is as good as the next. -/
def fullTag? (scope : TagScope) (handle suffix : String) : Option String :=
  match scope.dialect with
  | .simple => some (if handle = "!!" then standardTag ++ suffix else foreignTag)
  | .full =>
    if handle = "" then some suffix
    else ((scope.handles ++ [("!", "!"), ("!!", standardTag)]).lookup handle).map (· ++ suffix)

/-- The properties before a node: an anchor and a tag, in either order. -/
def readProperties (scope : TagScope) :
    Compose (Option String × Option String) := do
  let readAnchor : Compose (Option String) := do
    match ← peek with
    | some (.anchor name) =>
      skip
      return some name
    | _ => return none
  let readTag : Compose (Option String) := do
    match ← peek with
    | some (.tag handle suffix) =>
      skip
      match fullTag? scope handle suffix with
      | some tag => return some tag
      | none => failure
    | _ => return none
  match ← readAnchor with
  | some name => return (some name, ← readTag)
  | none =>
    let tag ← readTag
    return (← readAnchor, tag)

mutual

/-- A node.  Outside brackets it may be a block, and where a mapping's value may be a
sequence that is not indented further, such a sequence. -/
def readNode (scope : TagScope) :
    Nat → (block unindented : Bool) → Compose Measured
  | 0, _, _ => failure
  | fuel + 1, block, unindented => do
    match ← peek with
    | some (.alias name) =>
      skip
      count 1
      followAlias scope.dialect name
    | _ =>
      let (anchor, tag) ← readProperties scope
      let number ← enterAnchor? anchor
      let node ← match ← peek with
        | some .blockEntry =>
          if unindented then do
            count 2
            let items ← readUnindented scope fuel
            pure (Measured.sequence tag items)
          else if anchor.isSome || tag.isSome then do
            count 1
            pure { node := Node.scalar tag true "" }
          else failure
        | some (.scalar text plain) => do
          skip
          count 1
          pure { node := Node.scalar (if tag == some "!" then none else tag) plain text }
        | some .flowSequenceStart => do
          skip
          count 2
          let items ← readFlowItems scope fuel true
          pure (Measured.sequence tag items)
        | some .flowMappingStart => do
          skip
          count 2
          let entries ← readFlowEntries scope fuel true
          pure (Measured.mapping tag entries)
        | token =>
          if block && token == some .blockSequenceStart then do
            skip
            count 2
            let items ← readBlockItems scope fuel
            pure (Measured.sequence tag items)
          else if block && token == some .blockMappingStart then do
            skip
            count 2
            let entries ← readBlockEntries scope fuel
            pure (Measured.mapping tag entries)
          else if anchor.isSome || tag.isSome then do
            count 1
            pure { node := Node.scalar tag true "" }
          else failure
      finishAnchor number node
      return node

/-- The items of a block up to its end. -/
def readBlockItems (scope : TagScope) : Nat → Compose (List Measured)
  | 0 => failure
  | fuel + 1 => do
    if ← accept .blockEntry then
      let item ← match ← peek with
        | some .blockEntry | some .blockEnd => emptyScalar
        | _ => readNode scope fuel true false
      return item :: (← readBlockItems scope fuel)
    else if ← accept .blockEnd then return []
    else failure

/-- The items of a sequence that is indented no further than its key. -/
def readUnindented (scope : TagScope) : Nat → Compose (List Measured)
  | 0 => failure
  | fuel + 1 => do
    if ← accept .blockEntry then
      let item ← match ← peek with
        | some .blockEntry | some .key | some .value | some .blockEnd => emptyScalar
        | _ => readNode scope fuel true false
      return item :: (← readUnindented scope fuel)
    else return []

/-- The entries of a block up to its end.  In the simple dialect a value may stand
without a key. -/
def readBlockEntries (scope : TagScope) : Nat → Compose (List (Measured × Measured))
  | 0 => failure
  | fuel + 1 => do
    if ← accept .key then
      let key ← readBlockPart scope fuel
      let value ← if ← accept .value then readBlockPart scope fuel else emptyScalar
      return (key, value) :: (← readBlockEntries scope fuel)
    else if ← accept .blockEnd then return []
    else if scope.dialect = .simple && (← accept .value) then
      let value ← readBlockPart scope fuel
      return (.empty, value) :: (← readBlockEntries scope fuel)
    else failure

/-- A key or a value of a block, which may be missing. -/
def readBlockPart (scope : TagScope) : Nat → Compose Measured
  | 0 => failure
  | fuel + 1 => do
    match ← peek with
    | some .key | some .value | some .blockEnd => emptyScalar
    | _ => readNode scope fuel true true

/-- The items of a bracket up to its end.  An item may be a single entry of a
mapping. -/
def readFlowItems (scope : TagScope) : Nat → (first : Bool) → Compose (List Measured)
  | 0, _ => failure
  | fuel + 1, first => do
    if ← accept .flowSequenceEnd then return []
    else
      if !first && !(← accept .flowEntry) then failure
      else
        match ← peek with
        | some .flowSequenceEnd =>
          skip
          return []
        | some .key =>
          skip
          count 2
          let entry ← readSingleEntry scope fuel
          return Measured.mapping none [entry] :: (← readFlowItems scope fuel false)
        | _ =>
          let item ← readNode scope fuel false false
          return item :: (← readFlowItems scope fuel false)

/-- The entry of a mapping without brackets of its own.  After a missing key the
token that follows is left out. -/
def readSingleEntry (scope : TagScope) : Nat → Compose (Measured × Measured)
  | 0 => failure
  | fuel + 1 => do
    let key ← match ← peek with
      | some .value | some .flowEntry | some .flowSequenceEnd => do
        skip
        emptyScalar
      | _ => readNode scope fuel false false
    if ← accept .value then
      match ← peek with
      | some .flowEntry | some .flowSequenceEnd => return (key, ← emptyScalar)
      | _ => return (key, ← readNode scope fuel false false)
    else return (key, ← emptyScalar)

/-- The entries of a brace up to its end.  In the simple dialect a value may stand
without a key. -/
def readFlowEntries (scope : TagScope) :
    Nat → (first : Bool) → Compose (List (Measured × Measured))
  | 0, _ => failure
  | fuel + 1, first => do
    if ← accept .flowMappingEnd then return []
    else
      if !first && !(← accept .flowEntry) then failure
      else
        match ← peek with
        | some .flowMappingEnd =>
          skip
          return []
        | some .key =>
          skip
          let key ← if (← peek) == some .value then emptyScalar else readFlowPart scope fuel
          let value ← if ← accept .value then readFlowPart scope fuel else emptyScalar
          return (key, value) :: (← readFlowEntries scope fuel false)
        | some token =>
          if scope.dialect = .simple && token == .value then
            skip
            let value ← readFlowPart scope fuel
            return (.empty, value) :: (← readFlowEntries scope fuel false)
          else
            let key ← readNode scope fuel false false
            let value ← emptyScalar
            return (key, value) :: (← readFlowEntries scope fuel false)
        | none => failure

/-- A key or a value between braces, which may be missing. -/
def readFlowPart (scope : TagScope) : Nat → Compose Measured
  | 0 => failure
  | fuel + 1 => do
    match ← peek with
    | some .flowEntry | some .flowMappingEnd => emptyScalar
    | _ => readNode scope fuel false false

end

/-! ## Documents -/

/-- The tokens after the directives before a document. -/
def skipDirectives : List Token → List Token
  | .versionDirective _ _ :: rest | .tagDirective _ _ :: rest => skipDirectives rest
  | rest => rest

/-- The directives before a document, and the tokens after them.  Only the versions
1.1 and 1.2 are known. -/
def readDirectives (versioned : Bool) (handles : List (String × String)) :
    List Token → Option (List (String × String) × List Token)
  | .versionDirective major minor :: rest =>
    if versioned || major ≠ 1 || (minor ≠ 1 && minor ≠ 2) then none
    else readDirectives true handles rest
  | .tagDirective handle start :: rest =>
    if (handles.lookup handle).isSome then none
    else readDirectives versioned (handles ++ [(handle, start)]) rest
  | rest => some (handles, rest)

/-- Whether a token cannot belong to the content of a document. -/
def isOutside : Token → Bool
  | .versionDirective _ _ | .tagDirective _ _ | .documentStart | .documentEnd => true
  | _ => false

/-- The node of the only document among the tokens, with the number of its events.
No tokens are an empty document. -/
def document? (dialect : Dialect) (tokens : List Token) : Option (Measured × Nat) := do
  let read := fun (handles : List (String × String)) (tokens : List Token) =>
    (readNode { dialect, handles } (2 * tokens.length + 2) true false).run { tokens }
  let (node, composer) ←
    match tokens with
    | [] => some (Measured.empty, { tokens := [], events := 1 })
    | .versionDirective _ _ :: _ | .tagDirective _ _ :: _ | .documentStart :: _ => do
      let (handles, rest) ←
        if dialect = .simple then some ([], skipDirectives tokens)
        else readDirectives false [] tokens
      match rest with
      | .documentStart :: content =>
        if content.head?.all isOutside then
          some (Measured.empty, { tokens := content, events := 1 })
        else read handles content
      | _ => none
    | _ => read [] tokens
  if composer.tokens.all (· == .documentEnd) then some (node, composer.events) else none

end ApiBinding.Yaml
