import LogicalVolumes.Yaml.Node

/-!
Nodes from tokens. A node that is left out is an empty scalar; it stands behind the indicator that announces
it, or before the token that comes instead.
-/

namespace LogicalVolumes.Yaml

/-- The handles of a document with what they stand for. -/
abbrev Handles := List (String × TagBytes)

def Handles.expand? (handles : Handles) (tag : WrittenTag) : Option TagBytes :=
  if tag.handle = "" then some tag.suffix
  else (handles.lookup tag.handle).map fun expansion => expansion ++ tag.suffix

/-- Reads an anchor and a tag, in either order, before a node that starts at `mark`. -/
def readProperties (handles : Handles) (mark : Mark) : List Token → Option (Properties String × List Token)
  | ⟨.anchor name, _, _⟩ :: ⟨.tag tag, _, _⟩ :: tokens
  | ⟨.tag tag, _, _⟩ :: ⟨.anchor name, _, _⟩ :: tokens =>
    (handles.expand? tag).map fun t => (⟨mark, some name, some t⟩, tokens)
  | ⟨.anchor name, _, _⟩ :: tokens => some (⟨mark, some name, none⟩, tokens)
  | ⟨.tag tag, _, _⟩ :: tokens => (handles.expand? tag).map fun t => (⟨mark, none, some t⟩, tokens)
  | tokens => some (⟨mark, none, none⟩, tokens)

/-- Whether block collections, and sequences that are not indented, may start here. -/
inductive Setting
  | flow
  | block
  | blockOrEntry
  deriving DecidableEq

def endsEntry : TokenKind → Bool
  | .blockEntry | .blockEnd => true
  | _ => false

def endsMember : TokenKind → Bool
  | .key | .value | .blockEnd => true
  | _ => false

def endsPlainEntry (kind : TokenKind) : Bool :=
  endsEntry kind || endsMember kind

def endsFlowItem (close : TokenKind) (kind : TokenKind) : Bool :=
  kind == .flowEntry || kind == close

/-- What follows the comma before an item; the first item has none. -/
def afterComma (first : Bool) (tokens : List Token) : Option (List Token) :=
  if first then some tokens
  else match tokens with
    | ⟨.flowEntry, _, _⟩ :: tokens => some tokens
    | _ => none

/-- Properties may stand for a node without content. -/
def bareNode? (properties : Properties String) (tokens : List Token) :
    Option (Node String × List Token) :=
  if properties.anchor.isSome || properties.tag.isSome then some (.scalar properties [] .plain, tokens)
  else none

mutual

/-- Reads a node that must be there. -/
def readNode (handles : Handles) (setting : Setting) : Nat → List Token → Option (Node String × List Token)
  | 0, _ => none
  | _ + 1, [] => none
  | _ + 1, ⟨.alias name, mark, _⟩ :: tokens => some (.alias mark name, tokens)
  | fuel + 1, first :: more => do
    let (properties, tokens) ← readProperties handles first.start (first :: more)
    match tokens with
    | [] => none
    | token :: rest =>
      match token.kind with
      | .blockEntry =>
        if setting = .blockOrEntry then do
          let (items, tokens) ← readPlainEntries handles fuel [] (token :: rest)
          pure (.sequence properties items, tokens)
        else bareNode? properties (token :: rest)
      | .scalar text style => pure (.scalar properties text style, rest)
      | .flowSequenceStart => do
        let (items, tokens) ← readFlowItems handles fuel [] rest
        pure (.sequence properties items, tokens)
      | .flowMappingStart => do
        let (entries, tokens) ← readFlowMembers handles fuel [] rest
        pure (.mapping properties entries, tokens)
      | .blockSequenceStart =>
        if setting = .flow then bareNode? properties (token :: rest)
        else do
          let (items, tokens) ← readEntries handles fuel [] rest
          pure (.sequence properties items, tokens)
      | .blockMappingStart =>
        if setting = .flow then bareNode? properties (token :: rest)
        else do
          let (entries, tokens) ← readMembers handles fuel [] rest
          pure (.mapping properties entries, tokens)
      | _ => bareNode? properties (token :: rest)

/-- Reads a node, or none at all before a token of `ends`; then it is empty and stands at `mark`. -/
def readOptionalNode (handles : Handles) (setting : Setting) (ends : TokenKind → Bool) (mark : Mark) :
    Nat → List Token → Option (Node String × List Token)
  | 0, _ => none
  | _ + 1, [] => none
  | fuel + 1, token :: tokens =>
    if ends token.kind then some (.empty mark, token :: tokens)
    else readNode handles setting fuel (token :: tokens)

/-- The entries of a block sequence up to its end; `done` holds those before, the last one first. -/
def readEntries (handles : Handles) :
    Nat → List (Node String) → List Token → Option (List (Node String) × List Token)
  | 0, _, _ => none
  | fuel + 1, done, ⟨.blockEntry, _, stop⟩ :: tokens => do
    let (item, tokens) ← readOptionalNode handles .block endsEntry stop fuel tokens
    readEntries handles fuel (item :: done) tokens
  | _ + 1, done, ⟨.blockEnd, _, _⟩ :: tokens => some (done.reverse, tokens)
  | _ + 1, _, _ => none

/-- The entries of a sequence that is not indented, as far as they go. -/
def readPlainEntries (handles : Handles) :
    Nat → List (Node String) → List Token → Option (List (Node String) × List Token)
  | 0, _, _ => none
  | fuel + 1, done, ⟨.blockEntry, _, stop⟩ :: tokens => do
    let (item, tokens) ← readOptionalNode handles .block endsPlainEntry stop fuel tokens
    readPlainEntries handles fuel (item :: done) tokens
  | _ + 1, done, tokens => some (done.reverse, tokens)

/-- The members of a block mapping up to its end. -/
def readMembers (handles : Handles) :
    Nat → List (Node String × Node String) → List Token →
      Option (List (Node String × Node String) × List Token)
  | 0, _, _ => none
  | fuel + 1, done, ⟨.key, _, stop⟩ :: tokens => do
    let (key, tokens) ← readOptionalNode handles .blockOrEntry endsMember stop fuel tokens
    let (value, tokens) ← readMemberValue handles fuel tokens
    readMembers handles fuel ((key, value) :: done) tokens
  | _ + 1, done, ⟨.blockEnd, _, _⟩ :: tokens => some (done.reverse, tokens)
  | _ + 1, _, _ => none

def readMemberValue (handles : Handles) : Nat → List Token → Option (Node String × List Token)
  | 0, _ => none
  | _ + 1, [] => none
  | fuel + 1, ⟨.value, _, stop⟩ :: tokens =>
    readOptionalNode handles .blockOrEntry endsMember stop fuel tokens
  | _ + 1, token :: tokens => some (.empty token.start, token :: tokens)

/-- The items of a flow sequence up to its end. -/
def readFlowItems (handles : Handles) :
    Nat → List (Node String) → List Token → Option (List (Node String) × List Token)
  | 0, _, _ => none
  | _ + 1, done, ⟨.flowSequenceEnd, _, _⟩ :: tokens => some (done.reverse, tokens)
  | fuel + 1, done, tokens => do
    let tokens ← afterComma done.isEmpty tokens
    match tokens with
    | [] => none
    | ⟨.flowSequenceEnd, _, _⟩ :: tokens => pure (done.reverse, tokens)
    | ⟨.key, mark, _⟩ :: tokens => do
      let (pair, tokens) ← readPair handles fuel tokens
      readFlowItems handles fuel (.mapping { mark := mark } [pair] :: done) tokens
    | tokens => do
      let (item, tokens) ← readNode handles .flow fuel tokens
      readFlowItems handles fuel (item :: done) tokens

/-- A mapping of one member that is an item of a flow sequence. A key that is left out takes the token with
it that comes instead. -/
def readPair (handles : Handles) : Nat → List Token → Option ((Node String × Node String) × List Token)
  | 0, _ => none
  | _ + 1, [] => none
  | fuel + 1, token :: tokens => do
    let absent := token.kind == .value || endsFlowItem .flowSequenceEnd token.kind
    let (key, tokens) ← if absent then some (Node.empty token.stop, tokens)
      else readNode handles .flow fuel (token :: tokens)
    let (value, tokens) ← readFlowValue handles .flowSequenceEnd fuel tokens
    pure ((key, value), tokens)

/-- The value of a member in a flow collection that `close` ends. -/
def readFlowValue (handles : Handles) (close : TokenKind) :
    Nat → List Token → Option (Node String × List Token)
  | 0, _ => none
  | _ + 1, [] => none
  | _ + 1, [⟨.value, _, _⟩] => none
  | fuel + 1, ⟨.value, _, _⟩ :: token :: tokens =>
    readOptionalNode handles .flow (endsFlowItem close) token.start fuel (token :: tokens)
  | _ + 1, token :: tokens => some (.empty token.start, token :: tokens)

/-- The members of a flow mapping up to its end. -/
def readFlowMembers (handles : Handles) :
    Nat → List (Node String × Node String) → List Token →
      Option (List (Node String × Node String) × List Token)
  | 0, _, _ => none
  | _ + 1, done, ⟨.flowMappingEnd, _, _⟩ :: tokens => some (done.reverse, tokens)
  | fuel + 1, done, tokens => do
    let tokens ← afterComma done.isEmpty tokens
    match tokens with
    | [] => none
    | ⟨.flowMappingEnd, _, _⟩ :: tokens => pure (done.reverse, tokens)
    | [⟨.key, _, _⟩] => none
    | ⟨.key, _, _⟩ :: token :: tokens => do
      let ends kind := kind == .value || endsFlowItem .flowMappingEnd kind
      let (key, tokens) ← readOptionalNode handles .flow ends token.start fuel (token :: tokens)
      let (value, tokens) ← readFlowValue handles .flowMappingEnd fuel tokens
      readFlowMembers handles fuel ((key, value) :: done) tokens
    | tokens => do
      let (key, tokens) ← readNode handles .flow fuel tokens
      match tokens with
      | [] => none
      | token :: tokens => readFlowMembers handles fuel ((key, .empty token.start) :: done) (token :: tokens)

end

end LogicalVolumes.Yaml
