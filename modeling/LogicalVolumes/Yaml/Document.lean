import LogicalVolumes.Yaml.Node.OfTokens
import LogicalVolumes.Yaml.Token.Lexer

/-!
A text with one YAML document. An anchor is known by its number: how many names of anchors stand before it.
A name that is used again keeps its first number from being given twice only as long as no other name
follows, so an alias refers to the last node with its number.
-/

namespace LogicalVolumes.Yaml

/-- The numbers that the names of anchors have at some place. -/
abbrev AnchorNumbers := List (String × Nat)

def AnchorNumbers.add (numbers : AnchorNumbers) (name : String) : AnchorNumbers :=
  (name, numbers.length) :: numbers.filter fun entry => entry.1 != name

/-- Numbers the anchor of a node. -/
def Properties.number (numbers : AnchorNumbers) (properties : Properties String) :
    Properties Nat × AnchorNumbers :=
  match properties.anchor with
  | none => ({ mark := properties.mark, tag := properties.tag }, numbers)
  | some name =>
    ({ mark := properties.mark, anchor := some numbers.length, tag := properties.tag }, numbers.add name)

mutual

/-- Puts numbers for names, in the order of the text; a name that is not known is refused. -/
def Node.number (numbers : AnchorNumbers) : Node String → Option (Node Nat × AnchorNumbers)
  | .alias mark name => (numbers.lookup name).map fun n => (.alias mark n, numbers)
  | .scalar properties text style =>
    let (properties, numbers) := properties.number numbers
    some (.scalar properties text style, numbers)
  | .sequence properties items =>
    let (properties, numbers) := properties.number numbers
    (numberItems numbers items).map fun (items, numbers) => (.sequence properties items, numbers)
  | .mapping properties entries =>
    let (properties, numbers) := properties.number numbers
    (numberEntries numbers entries).map fun (entries, numbers) => (.mapping properties entries, numbers)

def numberItems (numbers : AnchorNumbers) :
    List (Node String) → Option (List (Node Nat) × AnchorNumbers)
  | [] => some ([], numbers)
  | item :: items => do
    let (item, numbers) ← item.number numbers
    let (items, numbers) ← numberItems numbers items
    pure (item :: items, numbers)

def numberEntries (numbers : AnchorNumbers) :
    List (Node String × Node String) → Option (List (Node Nat × Node Nat) × AnchorNumbers)
  | [] => some ([], numbers)
  | (key, value) :: entries => do
    let (key, numbers) ← key.number numbers
    let (value, numbers) ← value.number numbers
    let (entries, numbers) ← numberEntries numbers entries
    pure ((key, value) :: entries, numbers)

end

mutual

/-- Every node with an anchor, in the order of the text. -/
def Node.anchored : Node Nat → List (Nat × Node Nat)
  | .alias _ _ => []
  | .scalar properties text style => (properties.anchor.map (·, Node.scalar properties text style)).toList
  | .sequence properties items =>
    (properties.anchor.map (·, Node.sequence properties items)).toList ++ anchoredItems items
  | .mapping properties entries =>
    (properties.anchor.map (·, Node.mapping properties entries)).toList ++ anchoredEntries entries

def anchoredItems : List (Node Nat) → List (Nat × Node Nat)
  | [] => []
  | item :: items => item.anchored ++ anchoredItems items

def anchoredEntries : List (Node Nat × Node Nat) → List (Nat × Node Nat)
  | [] => []
  | (key, value) :: entries => key.anchored ++ value.anchored ++ anchoredEntries entries

end

structure Document where
  root : Node Nat

/-- The node that an alias refers to, or else the node itself. -/
def Document.resolve (document : Document) : Node Nat → Node Nat
  | .alias mark n => (document.root.anchored.reverse.lookup n).getD (.alias mark n)
  | node => node

def defaultHandles : Handles :=
  [("!", exclamation), ("!!", TagBytes.ofString "tag:yaml.org,2002:")]

/-- Reads directives; a document has one version, which must be known, and defines no handle twice. -/
def readDirectives : Bool → Handles → List Token → Option (Handles × List Token)
  | versioned, handles, ⟨.versionDirective major minor, _, _⟩ :: tokens =>
    if versioned || major != 1 || !(minor == 1 || minor == 2) then none
    else readDirectives true handles tokens
  | versioned, handles, ⟨.tagDirective handle expansion, _, _⟩ :: tokens =>
    if (handles.lookup handle).isSome then none
    else readDirectives versioned (handles ++ [(handle, expansion)]) tokens
  | _, handles, tokens => some (handles, tokens)

def endsDocument : TokenKind → Bool
  | .versionDirective _ _ | .tagDirective _ _ | .documentStart | .documentEnd | .streamEnd => true
  | _ => false

def isDirective : TokenKind → Bool
  | .versionDirective _ _ | .tagDirective _ _ => true
  | _ => false

/-- Whether nothing follows but ends of the document. -/
def isFinished (tokens : List Token) : Bool :=
  match tokens.dropWhile (·.kind == .documentEnd) with
  | [token] => token.kind == .streamEnd
  | _ => false

/-- Enough for every node: each token takes part in four readings at most. -/
def nodeFuel (tokens : List Token) : Nat :=
  4 * tokens.length + 8

def readRoot (handles : Handles) (tokens : List Token) : Option (Node String × List Token) :=
  readOptionalNode handles .block endsDocument ((tokens.head?.map (·.start)).getD {}) (nodeFuel tokens) tokens

/-- The only document of a text, from its tokens. -/
def documentNode? (tokens : List Token) : Option (Node String × List Token) :=
  match tokens with
  | [] => none
  | token :: more =>
    if isDirective token.kind || token.kind == .documentStart then do
      let (handles, rest) ← readDirectives false [] (token :: more)
      match rest with
      | ⟨.documentStart, _, _⟩ :: rest => readRoot (handles ++ defaultHandles) rest
      | _ => none
    else readNode defaultHandles .block (nodeFuel tokens) tokens

/-- Reads a text that holds one document, or none: its root is then an empty node where the text ends. -/
def Document.read? (text : List Char) : Option Document := do
  let tokens ← tokens? text
  match tokens with
  | [token] => if token.kind == .streamEnd then pure { root := .empty token.start } else none
  | tokens => do
    let (root, rest) ← documentNode? tokens
    let (root, _) ← root.number []
    if isFinished rest then pure { root := root } else none

end LogicalVolumes.Yaml
