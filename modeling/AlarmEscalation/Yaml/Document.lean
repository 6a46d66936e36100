import AlarmEscalation.Yaml.Node
import AlarmEscalation.Yaml.Token.Lexer

/-!
From tokens to the first document of a text. The first thing that goes wrong ends the document; all
nodes that are still open end with it.
-/
namespace AlarmEscalation.Yaml

/-- The tokens that are left, and what is known so far. -/
structure Builder where
  tokens : List Token
  /-- What comes behind the tokens. -/
  ending : Option Problem
  handles : List (String × String) := []
  /-- Anchors and the numbers of their nodes, the last one first. -/
  anchors : List (String × Nat) := []
  /-- The anchored nodes in the order in which they begin, with their numbers. -/
  targets : Array (Nat × Node) := #[]
  fault : Option Fault := none

namespace Builder

abbrev Build := StateM Builder

def fail (fault : Fault) : Build Node := do
  modify fun b => { b with fault := b.fault.or (some fault) }
  return .cutOff

def failAt (t : Token) (cause : Cause) (context : Option (Context × Mark) := none) : Build Node :=
  fail (.problem { cause, mark := t.start, context })

/-- The next token, if nothing has gone wrong. -/
def peek : Build (Option Token) := do
  let b ← get
  match b.fault, b.tokens with
  | some _, _ => return none
  | none, t :: _ => return some t
  | none, [] => do
    discard <| fail ((b.ending.map .problem).getD .endOfStream)
    return none

def skip : Build Unit := modify fun b => { b with tokens := b.tokens.tail }

/-- Gives an anchored node its number: the number of names that are in use. -/
def reserve (anchor : Option String) : Build (Option Nat) := do
  match anchor with
  | none => return none
  | some name => do
    let b ← get
    let number := b.anchors.length
    set { b with
      anchors := (name, number) :: b.anchors.filter fun a => a.1 != name
      targets := b.targets.push (number, .cutOff) }
    return some b.targets.size

/-- Stores a node at the place that was reserved for it. -/
def store (place : Option Nat) (node : Node) : Build Node := do
  if let some i := place then
    modify fun b =>
      { b with targets := b.targets.modify i fun t => (t.1, node) }
  return node

/-- Anchor and tag of a node, in either order: the anchor, the tag with its mark. -/
def properties : Build (Option String × Option (String × String × Mark)) := do
  let anchor? : Build (Option String) := do
    match ← peek with
    | some { kind := .anchor name, .. } => do skip; return some name
    | _ => return none
  let tag? : Build (Option (String × String × Mark)) := do
    match ← peek with
    | some { kind := .tag handle suffix, start, .. } => do skip; return some (handle, suffix, start)
    | _ => return none
  match ← anchor? with
  | some name => return (some name, ← tag?)
  | none => do
    match ← tag? with
    | some tag => return (← anchor?, some tag)
    | none => return (none, none)

/-- A tag with its handle written out. -/
def fullTag (b : Builder) (handle suffix : String) : Option String :=
  if handle = "" then some suffix else (b.handles.lookup handle).map (· ++ suffix)

mutual

/-- A node. Blocks may stand where `block` holds; the entries of a sequence may stand at the column
of the mapping around it where `indentless` holds. The first argument bounds the depth and the
length of what is read. -/
def node (block indentless : Bool) : Nat → Build Node
  | 0 => return .cutOff
  | fuel + 1 => do
    let some first ← peek | return .cutOff
    match first.kind with
    | .alias name => do
      skip
      match (← get).anchors.lookup name with
      | some number => return .alias first.start number
      | none => fail (.unknownAnchor first.start)
    | _ => do
      let (anchor, tag) ← properties
      let some token ← peek | return .cutOff
      match tag with
      | none => content block indentless fuel first.start token anchor none
      | some (handle, suffix, mark) => do
        match (← get).fullTag handle suffix with
        | none =>
          fail (.problem
            { cause := .undefinedTagHandle, mark, context := some (.node, first.start) })
        | some tag => content block indentless fuel first.start token anchor (some tag)

/-- What stands behind anchor and tag. -/
def content (block indentless : Bool) (fuel : Nat) (start : Mark) (token : Token)
    (anchor tag : Option String) : Build Node :=
  match fuel with
  | 0 => return .cutOff
  | fuel + 1 =>
    match token.kind, block with
    | .scalar text style, _ => do
      let place ← reserve anchor
      skip
      store place (.scalar start (tag.filter (· ≠ "!")) text style)
    | .flowSequenceStart, _ => do
      let place ← reserve anchor
      skip
      store place (.sequence start (← flowItems token.start true fuel))
    | .flowMappingStart, _ => do
      let place ← reserve anchor
      skip
      store place (.mapping start (← flowEntries token.start true fuel))
    | .blockSequenceStart, true => do
      let place ← reserve anchor
      skip
      store place (.sequence start (← blockItems token.start fuel))
    | .blockMappingStart, true => do
      let place ← reserve anchor
      skip
      store place (.mapping start (← blockEntries token.start fuel))
    | kind, _ =>
      if indentless && kind = .blockEntry then do
        let place ← reserve anchor
        store place (.sequence start (← indentlessItems fuel))
      else if anchor.isSome || tag.isSome then do
        let place ← reserve anchor
        store place (.scalar start tag "" .plain)
      else failAt token .missingNode (some (if block then .blockNode else .flowNode, start))

/-- A node, or an empty one if one of the tokens given comes next. -/
def nodeUnless (block indentless : Bool) (ends : TokenKind → Bool) (mark : Token → Mark)
    (fuel : Nat) : Build Node :=
  match fuel with
  | 0 => return .cutOff
  | fuel + 1 => do
    let some token ← peek | return .cutOff
    if ends token.kind then return .empty (mark token) else node block indentless fuel

/-- Items of a block sequence. -/
def blockItems (start : Mark) : Nat → Build (List Node)
  | 0 => return [.cutOff]
  | fuel + 1 => do
    let some token ← peek | return [.cutOff]
    match token.kind with
    | .blockEntry => do
      skip
      let item ← nodeUnless true false (fun k => k = .blockEntry || k = .blockEnd)
        (fun _ => token.stop) fuel
      return item :: (← blockItems start fuel)
    | .blockEnd => do
      skip
      return []
    | _ => return [← failAt token .missingDash (some (.blockSequence, start))]

/-- Items of a sequence that lies at the column of the mapping around it. -/
def indentlessItems : Nat → Build (List Node)
  | 0 => return [.cutOff]
  | fuel + 1 => do
    let some token ← peek | return [.cutOff]
    match token.kind with
    | .blockEntry => do
      skip
      let item ← nodeUnless true false
        (fun k => k = .blockEntry || k = .key || k = .value || k = .blockEnd)
        (fun _ => token.stop) fuel
      return item :: (← indentlessItems fuel)
    | _ => return []

/-- Entries of a block mapping. -/
def blockEntries (start : Mark) : Nat → Build (List (Node × Node))
  | 0 => return [(.cutOff, .cutOff)]
  | fuel + 1 => do
    let some token ← peek | return [(.cutOff, .cutOff)]
    match token.kind with
    | .key => do
      skip
      let key ← nodeUnless true true (fun k => k = .key || k = .value || k = .blockEnd)
        (fun _ => token.stop) fuel
      let value ← blockValue fuel
      return (key, value) :: (← blockEntries start fuel)
    | .blockEnd => do
      skip
      return []
    | _ => return [(← failAt token .missingKey (some (.blockMapping, start)), .cutOff)]

/-- The value of an entry of a block mapping. -/
def blockValue : Nat → Build Node
  | 0 => return .cutOff
  | fuel + 1 => do
    let some token ← peek | return .cutOff
    if token.kind = .value then
      skip
      nodeUnless true true (fun k => k = .key || k = .value || k = .blockEnd)
        (fun _ => token.stop) fuel
    else return .empty token.start

/-- Items of a flow sequence. A key opens a mapping of one entry. -/
def flowItems (start : Mark) (first : Bool) : Nat → Build (List Node)
  | 0 => return [.cutOff]
  | fuel + 1 => do
    let some token ← peek | return [.cutOff]
    if token.kind = .flowSequenceEnd then
      skip
      return []
    else if !first && token.kind ≠ .flowEntry then
      return [← failAt token .missingListEnd (some (.flowSequence, start))]
    else
      if !first then skip
      let some token ← peek | return [.cutOff]
      if token.kind = .key then
        skip
        let entry ← singleEntry fuel
        return .mapping token.start [entry] :: (← flowItems start false fuel)
      else if token.kind = .flowSequenceEnd then
        skip
        return []
      else
        let item ← node false false fuel
        return item :: (← flowItems start false fuel)

/-- The one entry of a mapping inside a flow sequence. -/
def singleEntry : Nat → Build (Node × Node)
  | 0 => return (.cutOff, .cutOff)
  | fuel + 1 => do
    let some token ← peek | return (.cutOff, .cutOff)
    let ends := fun k => k = .flowEntry || k = TokenKind.flowSequenceEnd
    let key ←
      if token.kind = .value || ends token.kind then
        skip
        pure (.empty token.stop)
      else node false false fuel
    let some token ← peek | return (key, .cutOff)
    if token.kind = .value then
      skip
      return (key, ← nodeUnless false false ends Token.start fuel)
    else return (key, .empty token.start)

/-- Entries of a flow mapping. -/
def flowEntries (start : Mark) (first : Bool) : Nat → Build (List (Node × Node))
  | 0 => return [(.cutOff, .cutOff)]
  | fuel + 1 => do
    let some token ← peek | return [(.cutOff, .cutOff)]
    if token.kind = .flowMappingEnd then
      skip
      return []
    else if !first && token.kind ≠ .flowEntry then
      return [(← failAt token .missingMapEnd (some (.flowMapping, start)), .cutOff)]
    else
      if !first then skip
      let some token ← peek | return [(.cutOff, .cutOff)]
      let ends := fun k => k = .flowEntry || k = TokenKind.flowMappingEnd
      if token.kind = .flowMappingEnd then
        skip
        return []
      else if token.kind = .key then
        skip
        let key ← nodeUnless false false (fun k => k = .value || ends k) Token.start fuel
        let some token ← peek | return [(key, .cutOff)]
        let value ←
          if token.kind = .value then do
            skip
            nodeUnless false false ends Token.start fuel
          else pure (.empty token.start)
        return (key, value) :: (← flowEntries start false fuel)
      else
        let key ← node false false fuel
        let some token ← peek | return [(key, .cutOff)]
        return (key, .empty token.start) :: (← flowEntries start false fuel)

end

/-- Handles that every document knows. -/
def standardHandles : List (String × String) := [("!", "!"), ("!!", "tag:yaml.org,2002:")]

/-- The directives of a document; whether they are in order. -/
def directives : Nat → Bool → List (String × String) → Build Bool
  | 0, _, _ => return false
  | fuel + 1, versioned, handles => do
    let some token ← peek | return false
    match token.kind with
    | .version major minor =>
      if versioned then
        discard <| failAt token .duplicateVersion
        return false
      else if major ≠ 1 ∨ minor ≠ 1 ∧ minor ≠ 2 then
        discard <| failAt token .incompatibleVersion
        return false
      else
        skip
        directives fuel true handles
    | .tagHandle handle expansion =>
      if (handles.lookup handle).isSome then
        discard <| failAt token .duplicateTagHandle
        return false
      else
        skip
        directives fuel versioned (handles ++ [(handle, expansion)])
    | _ => do
      modify fun b => { b with handles := handles ++ standardHandles }
      return true

/-- Tokens before which a document has no content. -/
def endsContent : TokenKind → Bool
  | .version .. | .tagHandle .. | .documentStart | .documentEnd | .streamEnd => true
  | _ => false

def opensDocument : TokenKind → Bool
  | .version .. | .tagHandle .. | .documentStart => true
  | _ => false

/-- The root of the first document. -/
def root (fuel : Nat) : Build Node := do
  let some token ← peek | return .cutOff
  if opensDocument token.kind then
    if ← directives fuel false [] then
      let some token ← peek | return .cutOff
      if token.kind = .documentStart then
        skip
        nodeUnless true false endsContent Token.start fuel
      else failAt token .missingDocumentStart
    else return .cutOff
  else if token.kind = .streamEnd then return .empty token.start
  else
    modify fun b => { b with handles := standardHandles }
    node true false fuel

/-- Whether anything stands behind the document. -/
def more : Build Bool := do
  modify fun b => { b with tokens := b.tokens.dropWhile fun t => t.kind = .documentEnd }
  match ← peek with
  | none => return true
  | some token => return token.kind ≠ .streamEnd

end Builder

/-- The first document of a text. -/
def Document.ofText (text : String) : Document :=
  let (tokens, ending) := tokensOf text
  let (root, b) := (Builder.root (4 * tokens.length + 8)).run { tokens, ending }
  let targets := b.targets.toList.reverse
  match b.fault with
  | some fault => { root, targets, fault }
  | none =>
    let (token?, b) := Builder.peek.run b
    if token?.isNone then { root, targets, fault := b.fault }
    else { root, targets, hasMore := (Builder.more.run b).1 }

end AlarmEscalation.Yaml
