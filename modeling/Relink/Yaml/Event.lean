import Relink.Yaml.Lexer

namespace Relink.Yaml

/-- What may be said of a node before its content: an anchor, and a tag written out, whose octets need not be a
text. -/
structure Properties where
  anchor : Option String
  tag : Option Text.Octets
  deriving DecidableEq

def Properties.none : Properties := ⟨.none, .none⟩

/-- The steps of a walk through the nodes of a document. -/
inductive Event where
  | alias (name : String)
  | scalar (properties : Properties) (text : String) (plain : Bool)
  | sequenceStart (properties : Properties)
  | sequenceEnd
  | mappingStart (properties : Properties)
  | mappingEnd
  deriving DecidableEq

namespace Event

/-- The scalar that stands where nothing is written. -/
def blank (properties : Properties) : Event :=
  .scalar properties "" true

/-- The expansions of tag handles; earlier ones count. -/
abbrev Handles := List (String × Text.Octets)

/-- The expansions that hold unless a directive says otherwise. -/
def defaultHandles : Handles :=
  [("!", Text.Utf8.encode "!"), ("!!", Text.Utf8.encode "tag:yaml.org,2002:")]

/-- A tag written out. -/
def expandTag? (handles : Handles) (handle : String) (suffix : Text.Octets) : Option Text.Octets :=
  if handle.isEmpty then some suffix else (handles.lookup handle).map (· ++ suffix)

/-- Reads the properties before a node: an anchor and a tag in either order, each once at most. -/
def properties? (handles : Handles) : List Token → Option (Properties × List Token)
  | .anchor name :: .tag handle suffix :: rest
  | .tag handle suffix :: .anchor name :: rest =>
    (expandTag? handles handle suffix).map fun tag => (⟨some name, some tag⟩, rest)
  | .anchor name :: rest => some (⟨some name, none⟩, rest)
  | .tag handle suffix :: rest =>
    (expandTag? handles handle suffix).map fun tag => (⟨none, some tag⟩, rest)
  | rest => some (.none, rest)

/-- Where a node stands: in a flow collection, in a block, or as key or value of a block mapping, where
the entries of a sequence need no further indentation. -/
inductive Place where
  | flow
  | block
  | mappingPart
  deriving DecidableEq

/-- Events read so far, latest first, and the tokens left. -/
abbrev Progress := List Event × List Token

/-- Whether nothing is written before a token, in the key or the value of a block mapping. -/
def endsBlockPart : List Token → Bool
  | .key :: _ | .value :: _ | .blockEnd :: _ => true
  | _ => false

/-- Whether nothing is written before a token, in an entry of a block sequence. -/
def endsBlockEntry : List Token → Bool
  | .blockEntry :: _ | .blockEnd :: _ => true
  | _ => false

/-- Whether nothing is written before a token, in an entry of a sequence without indentation. -/
def endsInlineEntry : List Token → Bool
  | .blockEntry :: _ | .key :: _ | .value :: _ | .blockEnd :: _ => true
  | _ => false

/-- Whether nothing is written before a token, in the key of an entry of a flow collection. -/
def endsFlowKey (close : Token) : List Token → Bool
  | .value :: _ | .flowEntry :: _ => true
  | token :: _ => token == close
  | [] => false

/-- Whether nothing is written before a token, in the value of an entry of a flow collection. -/
def endsFlowValue (close : Token) : List Token → Bool
  | .flowEntry :: _ => true
  | token :: _ => token == close
  | [] => false

mutual

def node? (handles : Handles) : Nat → Place → List Event → List Token → Option Progress
  | 0, _, _, _ => none
  | _ + 1, _, events, .alias name :: rest => some (.alias name :: events, rest)
  | fuel + 1, place, events, tokens => do
    let (properties, tokens) ← properties? handles tokens
    match tokens with
    | .scalar text plain :: rest =>
      some (.scalar properties text plain :: events, rest)
    | .flowSequenceStart :: rest =>
      flowSequence? handles fuel true (.sequenceStart properties :: events) rest
    | .flowMappingStart :: rest =>
      flowMapping? handles fuel true (.mappingStart properties :: events) rest
    | tokens =>
      match place, tokens with
      | .mappingPart, .blockEntry :: _ =>
        inlineSequence? handles fuel (.sequenceStart properties :: events) tokens
      | .block, .blockSequenceStart :: rest | .mappingPart, .blockSequenceStart :: rest =>
        blockSequence? handles fuel (.sequenceStart properties :: events) rest
      | .block, .blockMappingStart :: rest | .mappingPart, .blockMappingStart :: rest =>
        blockMapping? handles fuel (.mappingStart properties :: events) rest
      | _, _ =>
        if properties = .none then none else some (blank properties :: events, tokens)

def blockSequence? (handles : Handles) : Nat → List Event → List Token → Option Progress
  | 0, _, _ => none
  | fuel + 1, events, .blockEntry :: rest =>
    if endsBlockEntry rest then blockSequence? handles fuel (blank .none :: events) rest
    else do
      let (events, rest) ← node? handles fuel .block events rest
      blockSequence? handles fuel events rest
  | _ + 1, events, .blockEnd :: rest => some (.sequenceEnd :: events, rest)
  | _ + 1, _, _ => none

/-- Reads the entries of a sequence without indentation to what follows them. -/
def inlineSequence? (handles : Handles) : Nat → List Event → List Token → Option Progress
  | 0, _, _ => none
  | fuel + 1, events, .blockEntry :: rest =>
    if endsInlineEntry rest then inlineSequence? handles fuel (blank .none :: events) rest
    else do
      let (events, rest) ← node? handles fuel .block events rest
      inlineSequence? handles fuel events rest
  | _ + 1, events, rest => some (.sequenceEnd :: events, rest)

/-- Reads the entries of a block mapping to its end. -/
def blockMapping? (handles : Handles) : Nat → List Event → List Token → Option Progress
  | 0, _, _ => none
  | fuel + 1, events, .key :: rest => do
    let (events, rest) ←
      if endsBlockPart rest then some (blank .none :: events, rest)
      else node? handles fuel .mappingPart events rest
    let (events, rest) ←
      match rest with
      | .value :: rest =>
        if endsBlockPart rest then some (blank .none :: events, rest)
        else node? handles fuel .mappingPart events rest
      | rest => some (blank .none :: events, rest)
    blockMapping? handles fuel events rest
  | _ + 1, events, .blockEnd :: rest => some (.mappingEnd :: events, rest)
  | _ + 1, _, _ => none

/-- Reads the entries of a flow sequence to its end; the first needs no comma before it. An entry that
begins with a key is a mapping of one entry. -/
def flowSequence? (handles : Handles) : Nat → Bool → List Event → List Token → Option Progress
  | 0, _, _, _ => none
  | _ + 1, _, events, .flowSequenceEnd :: rest => some (.sequenceEnd :: events, rest)
  | fuel + 1, first, events, tokens => do
    let tokens ←
      match first, tokens with
      | true, tokens => some tokens
      | false, .flowEntry :: tokens => some tokens
      | false, _ => none
    match tokens with
    | .flowSequenceEnd :: rest => some (.sequenceEnd :: events, rest)
    | .key :: rest =>
      let (events, rest) ← flowPair? handles fuel (.mappingStart .none :: events) rest
      flowSequence? handles fuel false events rest
    | tokens =>
      let (events, tokens) ← node? handles fuel .flow events tokens
      flowSequence? handles fuel false events tokens

/-- Reads the one entry of a mapping that is an entry of a flow sequence. The token that shows that its key
is absent is spent. -/
def flowPair? (handles : Handles) : Nat → List Event → List Token → Option Progress
  | 0, _, _ => none
  | fuel + 1, events, tokens => do
    let (events, tokens) ←
      if endsFlowKey .flowSequenceEnd tokens then some (blank .none :: events, tokens.drop 1)
      else node? handles fuel .flow events tokens
    let (events, tokens) ←
      match tokens with
      | .value :: rest =>
        if endsFlowValue .flowSequenceEnd rest then some (blank .none :: events, rest)
        else node? handles fuel .flow events rest
      | tokens => some (blank .none :: events, tokens)
    some (.mappingEnd :: events, tokens)

/-- Reads the entries of a flow mapping to its end; the first needs no comma before it. -/
def flowMapping? (handles : Handles) : Nat → Bool → List Event → List Token → Option Progress
  | 0, _, _, _ => none
  | _ + 1, _, events, .flowMappingEnd :: rest => some (.mappingEnd :: events, rest)
  | fuel + 1, first, events, tokens => do
    let tokens ←
      match first, tokens with
      | true, tokens => some tokens
      | false, .flowEntry :: tokens => some tokens
      | false, _ => none
    match tokens with
    | .flowMappingEnd :: rest => some (.mappingEnd :: events, rest)
    | .key :: rest =>
      let (events, rest) ←
        if endsFlowKey .flowMappingEnd rest then some (blank .none :: events, rest)
        else node? handles fuel .flow events rest
      let (events, rest) ←
        match rest with
        | .value :: rest =>
          if endsFlowValue .flowMappingEnd rest then some (blank .none :: events, rest)
          else node? handles fuel .flow events rest
        | rest => some (blank .none :: events, rest)
      flowMapping? handles fuel false events rest
    | tokens =>
      let (events, tokens) ← node? handles fuel .flow events tokens
      flowMapping? handles fuel false (blank .none :: events) tokens

end

/-- Reads the directives before a document: one version at most, which must be known, and no handle twice. -/
def directives? (versionSeen : Bool) (handles : Handles) : List Token → Option (Handles × List Token)
  | .versionDirective major minor :: rest =>
    if !versionSeen && major == 1 && (minor == 1 || minor == 2) then directives? true handles rest
    else none
  | .tagDirective handle expansion :: rest =>
    if (handles.lookup handle).isSome then none
    else directives? versionSeen ((handle, expansion) :: handles) rest
  | rest => some (handles ++ defaultHandles, rest)

/-- Whether a document with a mark at its beginning has no content before a token. -/
def endsContent : List Token → Bool
  | .versionDirective .. :: _ | .tagDirective .. :: _ | .documentStart :: _ | .documentEnd :: _
  | .streamEnd :: _ => true
  | _ => false

/-- Whether tokens are those of a document with marks, or of none. -/
def beginsMarked : List Token → Bool
  | .versionDirective .. :: _ | .tagDirective .. :: _ | .documentStart :: _ => true
  | _ => false

/-- Whether nothing but marks of a document's end stand before the end of the stream. -/
def atStreamEnd : List Token → Bool
  | .documentEnd :: rest => atStreamEnd rest
  | [.streamEnd] => true
  | _ => false

/-- The events of the one document of a stream, in order; there are none if the stream is empty. -/
def ofTokens? (tokens : List Token) : Option (List Event) :=
  if tokens = [.streamEnd] then some []
  else do
    let fuel := 2 * tokens.length + 2
    let (events, rest) ←
      if beginsMarked tokens then do
        let (handles, tokens) ← directives? false [] tokens
        match tokens with
        | .documentStart :: rest =>
          if endsContent rest then some ([blank .none], rest) else node? handles fuel .block [] rest
        | _ => none
      else node? defaultHandles fuel .block [] tokens
    if atStreamEnd rest then some events.reverse else none

end Event

end Relink.Yaml
