import ApiAccessors.Yaml.Kind
import ApiAccessors.Yaml.Token

namespace ApiAccessors
namespace Yaml

/-!
# Nodes

The nodes that the tokens of a document describe.  Nodes are numbered as they are
met, and a collection gives its parts by number: an alias is the number of the node it names, and
that node need not have ended yet.  Every node knows its kind.

The grammar is a set of functions on the tokens still to come; `fuel` bounds their depth, which
grows by at most three for each token.
-/

/-- What a node holds; the parts of a collection are given by number. -/
inductive Content where
  | scalar (text : String)
  | list (items : List Nat)
  | map (entries : List (Nat × Nat))
deriving DecidableEq, Repr

structure Node where
  kind : Kind
  content : Content
deriving DecidableEq, Repr

namespace Node

/-- A node that the document leaves out. -/
def absent : Node := ⟨.null, .scalar ""⟩

end Node

/-- The nodes of a document by number. -/
abbrev Graph := Array Node

namespace Graph

def node (graph : Graph) (number : Nat) : Node := graph[number]?.getD .absent

def kind (graph : Graph) (number : Nat) : Kind := (graph.node number).kind

end Graph

/-- The nodes of a document, and which of them is the whole. -/
structure Outline where
  graph : Graph
  root : Nat

/--
The tokens still to come, the nodes so far, the numbers of the nodes that have names, the meanings
of the handles, and how many more collections may be opened inside those that are open.  A node
that has not ended yet is kept as an absent one.
-/
structure Reading where
  tokens : List Token
  graph : Graph
  anchors : List (String × Nat)
  handles : List (String × String)
  room : Nat

/-- A step of the grammar. -/
abbrev Parse := StateT Reading (Except Failure)

namespace Parse

/-- The next token. -/
def peek : Parse Token := do
  let reading ← get
  pure (reading.tokens.head?.getD (.broken .malformed))

def skip : Parse Unit :=
  modify (fun reading => { reading with tokens := reading.tokens.drop 1 })

/-- Stop at a token that does not fit here. -/
def refuse {α : Type} : Token → Parse α
  | .broken failure => throw failure
  | _ => throw .malformed

/-- The handles that need no directive. -/
def commonHandles : List (String × String) := [("!", "!"), ("!!", Kind.tagStart)]

def fullTag : TagName → Parse String
  | .full name => pure name
  | .short handle suffix => do
      match (← get).handles.lookup handle with
      | some meaning => pure (meaning ++ suffix)
      | none => throw .malformed

/-- The anchor and the tag in front of a node, in either order. -/
def properties : Parse (Option String × Option TagName) := do
  match ← peek with
  | .anchor name =>
      skip
      match ← peek with
      | .tag tag =>
          skip
          pure (some name, some tag)
      | _ => pure (some name, none)
  | .tag tag =>
      skip
      match ← peek with
      | .anchor name =>
          skip
          pure (some name, some tag)
      | _ => pure (none, some tag)
  | _ => pure (none, none)

def repeated (name : String) : Parse Nat := do
  match (← get).anchors.lookup name with
  | some number => pure number
  | none => throw .malformed

def begin : Parse Nat :=
  modifyGet (fun reading =>
    (reading.graph.size, { reading with graph := reading.graph.push .absent }))

/-- The node with a number ends here. -/
def finish (number : Nat) (node : Node) : Parse Unit :=
  modify (fun reading => { reading with graph := reading.graph.setIfInBounds number node })

/-- A number for a node that begins and ends here. -/
def add (node : Node) : Parse Nat := do
  let number ← begin
  finish number node
  pure number

/-- A node that the document leaves out here. -/
def absent : Parse Nat := add .absent

/-- What is inside one more collection. -/
def inside {α : Type} (parse : Parse α) : Parse α := do
  let room := (← get).room
  if room = 0 then throw (.fault .tooDeep)
  modify (fun reading => { reading with room := room - 1 })
  let found ← parse
  modify (fun reading => { reading with room })
  pure found

/-- Give a name to the node that begins here; no name is given twice. -/
def bindName (number : Nat) : Option String → Parse Unit
  | none => pure ()
  | some name => do
      let reading ← get
      if (reading.anchors.lookup name).isSome then throw .malformed
      else set { reading with anchors := (name, number) :: reading.anchors }

/-- The kind of a scalar; the tag of a single exclamation mark leaves it to the text. -/
def scalarKind (tag : Option String) (plain : Bool) (text : String) : Kind :=
  match tag with
  | none => if plain then Kind.ofText text.toList else .text
  | some name => if name == "!" then Kind.ofText text.toList else Kind.ofTag name

def collectionKind (tag : Option String) (usual : Kind) : Kind :=
  match tag with
  | none => usual
  | some name => if name == "!" then usual else Kind.ofTag name

def listNode (tag : Option String) (items : List Nat) : Node :=
  ⟨collectionKind tag .list, .list items⟩

/-- A mapping with a tag. -/
def mapNode (tag : Option String) (entries : List (Nat × Nat)) : Node :=
  ⟨collectionKind tag .map, .map entries⟩

/-- Where a node stands, which decides what forms it may have. -/
inductive Setting where
  | block
  /-- Behind a key, where the dashes of a list need not be further in. -/
  | blockValue
  | flow
deriving DecidableEq

/-- Whether a key or value of a block mapping is left out. -/
def endsBlockPart : Token → Bool
  | .key => true
  | .value => true
  | .blockEnd => true
  | _ => false

def endsListPart : Token → Bool
  | .comma => true
  | .listClose => true
  | _ => false

/-- Whether a key or value of a mapping in brackets ends. -/
def endsMapPart : Token → Bool
  | .comma => true
  | .mapClose => true
  | _ => false

mutual

def node : Nat → Setting → Parse Nat
  | 0, _ => throw .malformed
  | fuel + 1, setting => do
      match ← peek with
      | .alias name =>
          skip
          repeated name
      | _ =>
          let (anchor, tagName) ← properties
          let tag ←
            match tagName with
            | none => pure none
            | some name => some <$> fullTag name
          let number ← begin
          bindName number anchor
          let found ← content fuel setting tag (anchor.isSome || tag.isSome)
          finish number found
          pure number

/-- A node behind its properties; where there are any, nothing more need follow. -/
def content : Nat → Setting → Option String → Bool → Parse Node
  | 0, _, _, _ => throw .malformed
  | fuel + 1, setting, tag, named => do
      let missing : Token → Parse Node := fun other =>
        if named then pure ⟨scalarKind tag true "", .scalar ""⟩ else refuse other
      match ← peek with
      | .scalar text plain =>
          skip
          pure ⟨scalarKind tag plain text, .scalar text⟩
      | .listOpen =>
          skip
          listNode tag <$> inside (flowItems fuel true)
      | .mapOpen =>
          skip
          mapNode tag <$> inside (flowEntries fuel true)
      | .blockList =>
          if setting = .flow then missing .blockList
          else
            skip
            listNode tag <$> inside (blockItems fuel)
      | .blockMap =>
          if setting = .flow then missing .blockMap
          else
            skip
            mapNode tag <$> inside (blockEntries fuel)
      | .item =>
          if setting = .blockValue then listNode tag <$> inside (looseItems fuel)
          else missing .item
      | other => missing other

/-- The items of a block list up to its end. -/
def blockItems : Nat → Parse (List Nat)
  | 0 => throw .malformed
  | fuel + 1 => do
      match ← peek with
      | .item =>
          skip
          let first ←
            match ← peek with
            | .item => absent
            | .blockEnd => absent
            | _ => node fuel .block
          let others ← blockItems fuel
          pure (first :: others)
      | .blockEnd =>
          skip
          pure []
      | other => refuse other

/-- The items of a list that stands no further in than its key; the list has no end of its own. -/
def looseItems : Nat → Parse (List Nat)
  | 0 => throw .malformed
  | fuel + 1 => do
      match ← peek with
      | .item =>
          skip
          let next ← peek
          let first ←
            if next = .item || endsBlockPart next then absent else node fuel .block
          let others ← looseItems fuel
          pure (first :: others)
      | _ => pure []

/-- The entries of a block mapping up to its end. -/
def blockEntries : Nat → Parse (List (Nat × Nat))
  | 0 => throw .malformed
  | fuel + 1 => do
      match ← peek with
      | .key =>
          skip
          let key ← if endsBlockPart (← peek) then absent else node fuel .blockValue
          let value ←
            match ← peek with
            | .value =>
                skip
                if endsBlockPart (← peek) then absent else node fuel .blockValue
            | _ => absent
          let others ← blockEntries fuel
          pure ((key, value) :: others)
      | .blockEnd =>
          skip
          pure []
      | other => refuse other

/-- The items of a list in brackets; commas stand between them and may stand behind the last. -/
def flowItems : Nat → Bool → Parse (List Nat)
  | 0, _ => throw .malformed
  | fuel + 1, isFirst => do
      match ← peek with
      | .listClose =>
          skip
          pure []
      | next =>
          if !isFirst then
            if next = .comma then skip else refuse next
          match ← peek with
          | .listClose =>
              skip
              pure []
          | .key =>
              skip
              let entry ← inside do
                let key ← if (fun t => t = .value || endsListPart t) (← peek) then absent
                  else node fuel .flow
                let value ←
                  match ← peek with
                  | .value =>
                      skip
                      if endsListPart (← peek) then absent else node fuel .flow
                  | _ => absent
                pure (key, value)
              let pair ← add (mapNode none [entry])
              let others ← flowItems fuel false
              pure (pair :: others)
          | _ =>
              let first ← node fuel .flow
              let others ← flowItems fuel false
              pure (first :: others)

/-- The entries of a mapping in brackets; an entry without a mark is a key without a value. -/
def flowEntries : Nat → Bool → Parse (List (Nat × Nat))
  | 0, _ => throw .malformed
  | fuel + 1, isFirst => do
      match ← peek with
      | .mapClose =>
          skip
          pure []
      | next =>
          if !isFirst then
            if next = .comma then skip else refuse next
          match ← peek with
          | .mapClose =>
              skip
              pure []
          | .key =>
              skip
              let key ← if (fun t => t = .value || endsMapPart t) (← peek) then absent
                else node fuel .flow
              let value ←
                match ← peek with
                | .value =>
                    skip
                    if endsMapPart (← peek) then absent else node fuel .flow
                | _ => absent
              let others ← flowEntries fuel false
              pure ((key, value) :: others)
          | _ =>
              let key ← node fuel .flow
              let value ← absent
              let others ← flowEntries fuel false
              pure ((key, value) :: others)

end

/-- The directives in front of a document; a version is known by its first number. -/
def directives : Nat → Bool → Parse Unit
  | 0, _ => throw .malformed
  | fuel + 1, versioned => do
      match ← peek with
      | .directive value =>
          skip
          match value with
          | .version major =>
              if versioned || major != 1 then throw .malformed
              directives fuel true
          | .handle handle meaning =>
              let reading ← get
              if (reading.handles.lookup handle).isSome then throw .malformed
              set { reading with handles := (handle, meaning) :: reading.handles }
              directives fuel versioned
          | .other => directives fuel versioned
      | _ => pure ()

/-- The content of a document behind its mark, which may be missing. -/
def markedDocument (fuel : Nat) : Parse Nat := do
  directives fuel false
  modify (fun reading => { reading with handles := reading.handles ++ commonHandles })
  match ← peek with
  | .documentStart =>
      skip
      match ← peek with
      | .directive _ => absent
      | .documentStart => absent
      | .documentEnd => absent
      | .finish => absent
      | _ => node fuel .block
  | other => refuse other

/-- The marks behind a document, behind which nothing more may come. -/
def ending : Nat → Parse Unit
  | 0 => throw .malformed
  | fuel + 1 => do
      match ← peek with
      | .documentEnd =>
          skip
          ending fuel
      | .finish => pure ()
      | other => refuse other

def document (fuel : Nat) : Parse (Option Nat) := do
  match ← peek with
  | .finish => pure none
  | next =>
      let marked :=
        match next with
        | .directive _ => true
        | .documentStart => true
        | _ => false
      let found ←
        if marked then markedDocument fuel
        else do
          modify (fun reading => { reading with handles := commonHandles })
          node fuel .block
      ending fuel
      pure (some found)

end Parse

/-- What the tokens of a document describe, if the document is not empty.  Collections are read
inside each other as long as there is room for them on the call stack. -/
def Outline.ofTokens (room : Nat) (tokens : List Token) : Except Failure (Option Outline) :=
  (Parse.document (3 * tokens.length + 3) ⟨tokens, #[], [], [], room⟩).map
    (fun (root, reading) => root.map (⟨reading.graph, ·⟩))

end Yaml
end ApiAccessors
