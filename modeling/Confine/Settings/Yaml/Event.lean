import Confine.Settings.Yaml.Token

/-!
# YAML events

The second stage of reading YAML turns tokens into events: the starts and ends of the
stream, of documents, of sequences and of mappings, scalars, and aliases. It is a
state machine with a stack of states to come back to, one state per place in the
grammar: a block mapping expects a key, then a value, and so on.

A node may carry an anchor, which is given a number counted over the whole stream,
and a tag, whose handle is resolved here: `!!` stands for the YAML tags. A key or a
value left out is an empty plain scalar. A document is either explicit, starting with
`---`, or implicit; after a document that did not end with `...`, the next must start
with `---`.
-/

namespace Confine.Settings.Yaml

/-- A resolved tag: its prefix and the rest. -/
structure Tag where
  handle : String
  suffix : String
  deriving Repr, Inhabited, DecidableEq

/-- What an event is. Anchors are numbered from one; zero is no anchor. -/
inductive Event where
  | streamStart
  | streamEnd
  | documentStart
  | documentEnd
  | alias (id : Nat)
  | scalar (text : String) (style : Style) (anchor : Nat) (tag : Option Tag)
  | sequenceStart (anchor : Nat) (tag : Option Tag)
  | sequenceEnd
  | mappingStart (anchor : Nat) (tag : Option Tag)
  | mappingEnd
  deriving Repr, Inhabited

/-- The places in the grammar the parser can be at. -/
inductive ParseState where
  | streamStart
  | implicitDocumentStart
  | documentStart
  | documentContent
  | documentEnd
  | blockNode
  | blockMappingFirstKey
  | blockMappingKey
  | blockMappingValue
  | blockSequenceFirstEntry
  | blockSequenceEntry
  | flowSequenceFirstEntry
  | flowSequenceEntry
  | flowMappingFirstKey
  | flowMappingKey
  | flowMappingValue
  | flowMappingEmptyValue
  | indentlessSequenceEntry
  | flowSequenceEntryMappingKey
  | flowSequenceEntryMappingValue
  | flowSequenceEntryMappingEnd
  | finished
  deriving Repr, Inhabited, DecidableEq

/-- The parser's state. -/
structure Parser where
  scanner : Scanner
  state : ParseState := .streamStart
  /-- States to come back to, the next first. -/
  states : List ParseState := []
  /-- The token looked at and not yet taken. -/
  token : Option Token := none
  /-- Anchors of the current document by name. -/
  anchors : List (String × Nat) := []
  nextAnchor : Nat := 1
  /-- Tag handles declared for the current document. -/
  tags : List (String × String) := []
  deriving Inhabited

abbrev ParseM := StateT Parser (Except Problem)

namespace Parse

/-- Runs a step of the scanner. -/
def scan (m : ScanM α) : ParseM α := do
  let p ← get
  match m.run p.scanner with
  | .ok (a, sc) => set { p with scanner := sc }; return a
  | .error e => throw e

/-- The next token, without taking it. -/
def peek : ParseM Token := do
  match (← get).token with
  | some t => return t
  | none =>
    match ← scan Scanner.next with
    | some t => modify (fun p => { p with token := some t }); return t
    | none => throw ⟨(← get).scanner.mark, "unexpected eof"⟩

/-- Takes the token looked at. -/
def skip : ParseM Unit := modify fun p => { p with token := none }

def setState (s : ParseState) : ParseM Unit := modify fun p => { p with state := s }

def pushState (s : ParseState) : ParseM Unit := modify fun p => { p with states := s :: p.states }

def popState : ParseM Unit := modify fun p =>
  match p.states with
  | s :: rest => { p with state := s, states := rest }
  | [] => p

def fail (mark : Mark) (info : String) : ParseM α := throw ⟨mark, info⟩

/-- An empty plain scalar. -/
def emptyScalar : Event := .scalar "~" .plain 0 none

/-- Gives a name the next anchor number. -/
def registerAnchor (name : String) : ParseM Nat := do
  let p ← get
  set { p with anchors := (name, p.nextAnchor) :: p.anchors.filter (·.1 != name),
               nextAnchor := p.nextAnchor + 1 }
  return p.nextAnchor

/-- A tag with its handle resolved through the declared handles. -/
def resolveTag (mark : Mark) (handle suffix : String) : ParseM Tag := do
  let tags := (← get).tags
  if handle = "!!" then return ⟨(tags.lookup "!!").getD "tag:yaml.org,2002:", suffix⟩
  else if handle.isEmpty && suffix = "!" then return ⟨(tags.lookup "").getD "", suffix⟩
  else match tags.lookup handle with
    | some pfx => return ⟨pfx, suffix⟩
    | none =>
      if handle.length ≥ 2 && handle.startsWith "!" && handle.endsWith "!" then
        fail mark "the handle wasn't declared"
      else return ⟨handle, suffix⟩

/-- Reads the directives before a document. -/
def processDirectives : ParseM Unit := do
  let mut version := false
  let mut tags : List (String × String) := []
  for _ in [0:(← get).scanner.rest.length + 2] do
    let t ← peek
    match t.kind with
    | .versionDirective =>
      if version then fail t.mark "duplicate version directive"
      version := true
      skip
    | .tagDirective handle pfx =>
      if (tags.lookup handle).isSome then
        fail t.mark "the TAG directive must only be given at most once per handle in the same document"
      tags := (handle, pfx) :: tags
      skip
    | _ => break
  modify fun p => { p with tags }

def isKind (t : Token) (f : TokenKind → Bool) : Bool := f t.kind

def streamStart : ParseM (Event × Mark) := do
  let t ← peek
  match t.kind with
  | .streamStart => setState .implicitDocumentStart; skip; return (.streamStart, t.mark)
  | _ => fail t.mark "did not find expected <stream-start>"

def explicitDocumentStart : ParseM (Event × Mark) := do
  processDirectives
  let t ← peek
  match t.kind with
  | .documentStart =>
    pushState .documentEnd
    setState .documentContent
    skip
    return (.documentStart, t.mark)
  | _ => fail t.mark "did not find expected <document start>"

def documentStart (implicit : Bool) : ParseM (Event × Mark) := do
  for _ in [0:(← get).scanner.rest.length + 2] do
    match (← peek).kind with
    | .documentEnd => skip
    | _ => break
  let t ← peek
  match t.kind with
  | .streamEnd => setState .finished; skip; return (.streamEnd, t.mark)
  | .versionDirective | .tagDirective _ _ | .documentStart => explicitDocumentStart
  | _ =>
    if implicit then
      processDirectives
      pushState .documentEnd
      setState .blockNode
      return (.documentStart, t.mark)
    else explicitDocumentStart

def documentEnd : ParseM (Event × Mark) := do
  let t ← peek
  let explicit := match t.kind with | .documentEnd => true | _ => false
  if explicit then skip
  modify fun p => { p with tags := [] }
  if explicit then setState .implicitDocumentStart
  else
    let n ← peek
    match n.kind with
    | .versionDirective | .tagDirective _ _ =>
      fail n.mark "missing explicit document end marker before directive"
    | _ => setState .documentStart
  return (.documentEnd, t.mark)

/-- A node: an alias, or a scalar or the start of a collection with the anchor and
tag before it. With `block`, block collections may start here; with `indentless`, a
sequence of `-` entries at the same indentation as the mapping key before it. -/
def node (block indentless : Bool) : ParseM (Event × Mark) := do
  let mut anchor := 0
  let mut tag : Option Tag := none
  let t ← peek
  match t.kind with
  | .alias name =>
    popState
    skip
    match (← get).anchors.lookup name with
    | some id => return (.alias id, t.mark)
    | none => fail t.mark "while parsing node, found unknown anchor"
  | .anchor name =>
    skip
    anchor ← registerAnchor name
    let n ← peek
    match n.kind with
    | .tag handle suffix => skip; tag := some (← resolveTag t.mark handle suffix)
    | _ => pure ()
  | .tag handle suffix =>
    skip
    tag := some (← resolveTag t.mark handle suffix)
    let n ← peek
    match n.kind with
    | .anchor name => skip; anchor ← registerAnchor name
    | _ => pure ()
  | _ => pure ()
  let t ← peek
  match t.kind with
  | .blockEntry =>
    if indentless then
      setState .indentlessSequenceEntry
      return (.sequenceStart anchor tag, t.mark)
    else if tag.isSome || anchor > 0 then
      popState
      return (.scalar "" .plain anchor tag, t.mark)
    else fail t.mark "while parsing a node, did not find expected node content"
  | .scalar style text =>
    popState
    skip
    return (.scalar text style anchor tag, t.mark)
  | .flowSequenceStart =>
    setState .flowSequenceFirstEntry
    return (.sequenceStart anchor tag, t.mark)
  | .flowMappingStart =>
    setState .flowMappingFirstKey
    return (.mappingStart anchor tag, t.mark)
  | .blockSequenceStart =>
    if block then
      setState .blockSequenceFirstEntry
      return (.sequenceStart anchor tag, t.mark)
    else if tag.isSome || anchor > 0 then
      popState
      return (.scalar "" .plain anchor tag, t.mark)
    else fail t.mark "while parsing a node, did not find expected node content"
  | .blockMappingStart =>
    if block then
      setState .blockMappingFirstKey
      return (.mappingStart anchor tag, t.mark)
    else if tag.isSome || anchor > 0 then
      popState
      return (.scalar "" .plain anchor tag, t.mark)
    else fail t.mark "while parsing a node, did not find expected node content"
  | _ =>
    if tag.isSome || anchor > 0 then
      popState
      return (.scalar "" .plain anchor tag, t.mark)
    else fail t.mark "while parsing a node, did not find expected node content"

def documentContent : ParseM (Event × Mark) := do
  let t ← peek
  match t.kind with
  | .versionDirective | .tagDirective _ _ | .documentStart | .documentEnd | .streamEnd =>
    popState
    return (emptyScalar, t.mark)
  | _ => node true false

def blockMappingKey (first : Bool) : ParseM (Event × Mark) := do
  if first then
    let _ ← peek
    skip
  let t ← peek
  match t.kind with
  | .key =>
    skip
    let n ← peek
    match n.kind with
    | .key | .value | .blockEnd =>
      setState .blockMappingValue
      return (emptyScalar, n.mark)
    | _ =>
      pushState .blockMappingValue
      node true true
  | .value =>
    setState .blockMappingValue
    return (emptyScalar, t.mark)
  | .blockEnd =>
    popState
    skip
    return (.mappingEnd, t.mark)
  | _ => fail t.mark "while parsing a block mapping, did not find expected key"

def blockMappingValue : ParseM (Event × Mark) := do
  let t ← peek
  match t.kind with
  | .value =>
    skip
    let n ← peek
    match n.kind with
    | .key | .value | .blockEnd =>
      setState .blockMappingKey
      return (emptyScalar, n.mark)
    | _ =>
      pushState .blockMappingKey
      node true true
  | _ =>
    setState .blockMappingKey
    return (emptyScalar, t.mark)

def blockSequenceEntry (first : Bool) : ParseM (Event × Mark) := do
  if first then
    let _ ← peek
    skip
  let t ← peek
  match t.kind with
  | .blockEnd =>
    popState
    skip
    return (.sequenceEnd, t.mark)
  | .blockEntry =>
    skip
    let n ← peek
    match n.kind with
    | .blockEntry | .blockEnd =>
      setState .blockSequenceEntry
      return (emptyScalar, n.mark)
    | _ =>
      pushState .blockSequenceEntry
      node true false
  | _ => fail t.mark "while parsing a block collection, did not find expected '-' indicator"

def indentlessSequenceEntry : ParseM (Event × Mark) := do
  let t ← peek
  match t.kind with
  | .blockEntry =>
    skip
    let n ← peek
    match n.kind with
    | .blockEntry | .key | .value | .blockEnd =>
      setState .indentlessSequenceEntry
      return (emptyScalar, n.mark)
    | _ =>
      pushState .indentlessSequenceEntry
      node true false
  | _ =>
    popState
    return (.sequenceEnd, t.mark)

def flowSequenceEntry (first : Bool) : ParseM (Event × Mark) := do
  if first then
    let _ ← peek
    skip
  let t ← peek
  match t.kind with
  | .flowSequenceEnd =>
    popState
    skip
    return (.sequenceEnd, t.mark)
  | .flowEntry => if !first then skip
  | _ => if !first then fail t.mark "while parsing a flow sequence, expected ',' or ']'"
  let t ← peek
  match t.kind with
  | .flowSequenceEnd =>
    popState
    skip
    return (.sequenceEnd, t.mark)
  | .key =>
    setState .flowSequenceEntryMappingKey
    skip
    return (.mappingStart 0 none, t.mark)
  | _ =>
    pushState .flowSequenceEntry
    node false false

def flowSequenceEntryMappingKey : ParseM (Event × Mark) := do
  let t ← peek
  match t.kind with
  | .value | .flowEntry | .flowSequenceEnd =>
    skip
    setState .flowSequenceEntryMappingValue
    return (emptyScalar, t.mark)
  | _ =>
    pushState .flowSequenceEntryMappingValue
    node false false

def flowSequenceEntryMappingValue : ParseM (Event × Mark) := do
  let t ← peek
  match t.kind with
  | .value =>
    skip
    setState .flowSequenceEntryMappingValue
    let n ← peek
    match n.kind with
    | .flowEntry | .flowSequenceEnd =>
      setState .flowSequenceEntryMappingEnd
      return (emptyScalar, n.mark)
    | _ =>
      pushState .flowSequenceEntryMappingEnd
      node false false
  | _ =>
    setState .flowSequenceEntryMappingEnd
    return (emptyScalar, t.mark)

def flowSequenceEntryMappingEnd : ParseM (Event × Mark) := do
  setState .flowSequenceEntry
  return (.mappingEnd, (← get).scanner.mark)

def flowMappingKey (first : Bool) : ParseM (Event × Mark) := do
  if first then
    let _ ← peek
    skip
  let t ← peek
  match t.kind with
  | .flowMappingEnd =>
    popState
    skip
    return (.mappingEnd, t.mark)
  | _ =>
    if !first then
      match t.kind with
      | .flowEntry => skip
      | _ => fail t.mark "while parsing a flow mapping, did not find expected ',' or '\x7d'"
    let t ← peek
    match t.kind with
    | .key =>
      skip
      let n ← peek
      match n.kind with
      | .value | .flowEntry | .flowMappingEnd =>
        setState .flowMappingValue
        return (emptyScalar, n.mark)
      | _ =>
        pushState .flowMappingValue
        node false false
    | .value =>
      setState .flowMappingValue
      return (emptyScalar, t.mark)
    | .flowMappingEnd =>
      popState
      skip
      return (.mappingEnd, t.mark)
    | _ =>
      pushState .flowMappingEmptyValue
      node false false

def flowMappingValue (empty : Bool) : ParseM (Event × Mark) := do
  let t ← peek
  if empty then
    setState .flowMappingKey
    return (emptyScalar, t.mark)
  match t.kind with
  | .value =>
    skip
    let n ← peek
    match n.kind with
    | .flowEntry | .flowMappingEnd => pure ()
    | _ =>
      pushState .flowMappingKey
      return ← node false false
    setState .flowMappingKey
    return (emptyScalar, t.mark)
  | _ =>
    setState .flowMappingKey
    return (emptyScalar, t.mark)

end Parse

open Parse in
/-- The next event and its place. After the end of the stream, the end again. -/
def Parser.next : ParseM (Event × Mark) := do
  match (← get).state with
  | .streamStart => streamStart
  | .implicitDocumentStart => documentStart true
  | .documentStart => documentStart false
  | .documentContent => documentContent
  | .documentEnd => documentEnd
  | .blockNode => node true false
  | .blockMappingFirstKey => blockMappingKey true
  | .blockMappingKey => blockMappingKey false
  | .blockMappingValue => blockMappingValue
  | .blockSequenceFirstEntry => blockSequenceEntry true
  | .blockSequenceEntry => blockSequenceEntry false
  | .flowSequenceFirstEntry => flowSequenceEntry true
  | .flowSequenceEntry => flowSequenceEntry false
  | .flowMappingFirstKey => flowMappingKey true
  | .flowMappingKey => flowMappingKey false
  | .flowMappingValue => flowMappingValue false
  | .flowMappingEmptyValue => flowMappingValue true
  | .indentlessSequenceEntry => indentlessSequenceEntry
  | .flowSequenceEntryMappingKey => flowSequenceEntryMappingKey
  | .flowSequenceEntryMappingValue => flowSequenceEntryMappingValue
  | .flowSequenceEntryMappingEnd => flowSequenceEntryMappingEnd
  | .finished => return (.streamEnd, (← get).scanner.mark)

end Confine.Settings.Yaml
