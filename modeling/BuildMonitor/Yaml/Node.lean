import BuildMonitor.Yaml.Token

/-!
# YAML documents

The second step of reading builds the node of a document from its tokens. A node may carry an anchor,
and an alias further on stands for the node of that anchor. A text holds one document; one that
holds nothing has an empty plain scalar for its node.

Main definitions: `Node`, `Node.ofTokens?`, `Node.ofText?`.
-/

namespace BuildMonitor.Yaml

/-- A node of a document. -/
inductive Node where
  | scalar (tag : Option String) (plain : Bool) (text : String)
  | sequence (tag : Option String) (items : List Node)
  | mapping (tag : Option String) (members : List (Node × Node))

instance : Inhabited Node := ⟨.scalar none true ""⟩

/-- The node where nothing is written. -/
def Node.empty : Node := .scalar none true ""

/-- The tokens that are left, and the nodes of the anchors so far, latest first. -/
structure Builder where
  tokens : List Token
  anchors : List (String × Node)

/-- A step of building, which may fail. -/
abbrev Build (α : Type) := StateT Builder Option α

/-- The next token. -/
def peek : Build (Option Token) := do return (← get).tokens.head?

/-- Passes over the next token. -/
def advance : Build Unit := modify fun builder => { builder with tokens := builder.tokens.drop 1 }

/-- Whether the next token is one of some. -/
def nextIs (tokens : List Token) : Build Bool := do
  match ← peek with
  | some token => return tokens.contains token
  | none => return false

/-- Requires the next token to be a certain one, and passes over it. -/
def expect (token : Token) : Build Unit := do
  if ← nextIs [token] then advance else failure

/-- The anchor and the tag of a node. -/
structure Properties where
  anchor : Option String
  tag : Option String

/-- Reads the anchor and the tag in front of a node, in either order. -/
def properties : Build Properties := do
  match ← peek with
  | some (.anchor anchor) =>
    advance
    match ← peek with
    | some (.tag tag) => advance; return ⟨some anchor, some tag⟩
    | _ => return ⟨some anchor, none⟩
  | some (.tag tag) =>
    advance
    match ← peek with
    | some (.anchor anchor) => advance; return ⟨some anchor, some tag⟩
    | _ => return ⟨none, some tag⟩
  | _ => return ⟨none, none⟩

/-- Notes the node of an anchor. -/
def noteAnchor (anchor : Option String) (node : Node) : Build Node := do
  match anchor with
  | some name => modify fun builder => { builder with anchors := (name, node) :: builder.anchors }
  | none => pure ()
  return node

/-- The node of an alias. -/
def resolveAlias (name : String) : Build Node := do
  match (← get).anchors.lookup name with
  | some node => return node
  | none => failure

mutual

/-- Reads a node; `fuel` bounds the depth and the number of nodes. A block sequence that is no
deeper than the mapping around it is read only if `indentless` allows it. -/
def node (fuel : Nat) (indentless : Bool) : Build Node :=
  match fuel with
  | 0 => failure
  | fuel + 1 => do
    match ← peek with
    | some (.alias_ name) => advance; resolveAlias name
    | _ =>
      let found ← properties
      let content ← match ← peek with
        | some .entry =>
          if indentless then do
            let items ← indentlessItems fuel
            pure (Node.sequence found.tag items)
          else emptyIf found
        | some (.scalar text plain) => do advance; pure (Node.scalar found.tag plain text)
        | some .openSequence => do
          advance
          let items ← flowItems fuel true
          pure (Node.sequence found.tag items)
        | some .openMapping => do
          advance
          let members ← flowMembers fuel true
          pure (Node.mapping found.tag members)
        | some .blockSequence => do
          advance
          let items ← blockItems fuel
          pure (Node.sequence found.tag items)
        | some .blockMapping => do
          advance
          let members ← blockMembers fuel
          pure (Node.mapping found.tag members)
        | _ => emptyIf found
      noteAnchor found.anchor content

/-- The empty node, where an anchor or a tag says that there is one. -/
def emptyIf (found : Properties) : Build Node :=
  if found.anchor.isSome || found.tag.isSome then pure (Node.scalar found.tag true "") else failure

/-- Reads a node unless one of some tokens comes. -/
def nodeUnless (fuel : Nat) (indentless : Bool) (stops : List Token) : Build Node :=
  match fuel with
  | 0 => failure
  | fuel + 1 => do
    match ← peek with
    | none => return Node.empty
    | some _ => if ← nextIs stops then return Node.empty else node fuel indentless

/-- Reads the items of a block sequence and its end. -/
def blockItems (fuel : Nat) : Build (List Node) :=
  match fuel with
  | 0 => failure
  | fuel + 1 => do
    if ← nextIs [.blockEnd] then
      advance
      return []
    else
      expect .entry
      let item ← nodeUnless fuel false [.entry, .blockEnd]
      return item :: (← blockItems fuel)

/-- Reads the items of a sequence that has no end of its own. -/
def indentlessItems (fuel : Nat) : Build (List Node) :=
  match fuel with
  | 0 => failure
  | fuel + 1 => do
    if ← nextIs [.entry] then
      advance
      let item ← nodeUnless fuel false [.entry, .key, .value, .blockEnd]
      return item :: (← indentlessItems fuel)
    else return []

/-- Reads the members of a block mapping and its end. -/
def blockMembers (fuel : Nat) : Build (List (Node × Node)) :=
  match fuel with
  | 0 => failure
  | fuel + 1 => do
    if ← nextIs [.blockEnd] then
      advance
      return []
    else
      expect .key
      let key ← nodeUnless fuel true [.key, .value, .blockEnd]
      let value ← if ← nextIs [.value] then do
          advance
          nodeUnless fuel true [.key, .value, .blockEnd]
        else pure Node.empty
      return (key, value) :: (← blockMembers fuel)

/-- Reads the items of a sequence in brackets and its end. -/
def flowItems (fuel : Nat) (first : Bool) : Build (List Node) :=
  match fuel with
  | 0 => failure
  | fuel + 1 => do
    if ← nextIs [.closeSequence] then
      advance
      return []
    else
      if !first then expect .comma
      if ← nextIs [.closeSequence] then
        advance
        return []
      else if ← nextIs [.key] then
        advance
        let key ← nodeUnless fuel false [.value, .comma, .closeSequence]
        let value ← if ← nextIs [.value] then do
            advance
            nodeUnless fuel false [.comma, .closeSequence]
          else pure Node.empty
        return Node.mapping none [(key, value)] :: (← flowItems fuel false)
      else
        let item ← node fuel false
        return item :: (← flowItems fuel false)

/-- Reads the members of a mapping in brackets and its end. -/
def flowMembers (fuel : Nat) (first : Bool) : Build (List (Node × Node)) :=
  match fuel with
  | 0 => failure
  | fuel + 1 => do
    if ← nextIs [.closeMapping] then
      advance
      return []
    else
      if !first then expect .comma
      if ← nextIs [.closeMapping] then
        advance
        return []
      else if ← nextIs [.key] then
        advance
        let key ← nodeUnless fuel false [.value, .comma, .closeMapping]
        let value ← if ← nextIs [.value] then do
            advance
            nodeUnless fuel false [.comma, .closeMapping]
          else pure Node.empty
        return (key, value) :: (← flowMembers fuel false)
      else
        let key ← node fuel false
        return (key, Node.empty) :: (← flowMembers fuel false)

end

/-- Reads a text of one document. Directives need a line that starts the document, and so does a
document that holds nothing but has an end. -/
def document (fuel : Nat) : Build Node := do
  let directed ← nextIs [.directive]
  if directed then
    modify fun builder =>
      { builder with tokens := builder.tokens.dropWhile (· == Token.directive) }
  let started ← nextIs [.documentStart]
  if directed && !started then failure
  if started then advance
  let content ←
    nodeUnless fuel false (if started then [.directive, .documentStart, .documentEnd] else [])
  modify fun builder =>
    { builder with tokens := builder.tokens.dropWhile (· == Token.documentEnd) }
  match ← peek with
  | none => return content
  | some _ => failure

/-- The node of a document. -/
def Node.ofTokens? (tokens : List Token) : Option Node :=
  ((document (4 * tokens.length + 4)).run ⟨tokens, []⟩).map Prod.fst

/-- The node of a text. -/
def Node.ofText? (text : String) : Option Node := (Token.ofText? text).bind Node.ofTokens?

end BuildMonitor.Yaml
