import XmppXml.Exec
import XmppXml.Generator.State

/-!
# The stream processor

`XMPPXMLProcessor` receives the events of a SAX parser reading an XMPP stream. Its `_state` goes
`CLEAN → STARTED` at `startDocument`, `STARTED → STREAM_HEADER_PROCESSED` when the stream header
is accepted, `STREAM_HEADER_PROCESSED → STREAM_FOOTER_PROCESSED` at the end of the stream element,
and back to `CLEAN` at `endDocument`. Between header and footer it forwards the elements and the
text inside the stream to a `stanza_model.SAXDriver`, counting the open elements in `_depth`.

The model keeps every attribute the methods read or write. What the source takes from other
modules is a parameter, `ProcessorEnv`: the namespace names, Python's `int` on a `str`, and
`jid.JID.fromstr`. The driver is the record of the calls it receives.

Each callback is a computation in `ProcM`; `runP` applies a sequence of callbacks, each returning
or raising, the next one starting from the state the previous one left.
-/

namespace XmppXml

/-- `ProcessorState`. -/
inductive ProcessorState
  | clean
  | started
  | streamHeaderProcessed
  | streamFooterProcessed
  deriving DecidableEq, Repr

/-- `str()` of a member, as `"invalid state: {}".format(...)` prints it. -/
def ProcessorState.pyStr : ProcessorState → String
  | .clean => "ProcessorState.CLEAN"
  | .started => "ProcessorState.STARTED"
  | .streamHeaderProcessed => "ProcessorState.STREAM_HEADER_PROCESSED"
  | .streamFooterProcessed => "ProcessorState.STREAM_FOOTER_PROCESSED"

/-- A call the stanza driver receives. -/
inductive DriverEvent
  | startElementNS (name : Name) (qname : Option String) (attributes : PyDict Name String)
  | characters (data : String)
  | endElementNS (name : Name) (qname : Option String)

/-- Modelled from the spec: `stanza_model.SAXDriver(parser)`, which is not part of the source, as
the parser it was made for and the calls it has received, in order. It never raises. -/
structure SAXDriver (P : Type) where
  parser : Option P
  received : List DriverEvent

/-- What the processor takes from modules the source does not contain: `namespaces.xmlstream`,
`namespaces.streams`, Python's `int` on a `str` (the text of its `ValueError` when it fails), and
`jid.JID.fromstr` (the exception it raises when it fails, and whether that is a `KeyError`). -/
structure ProcessorEnv (J E : Type) where
  xmlstream : String
  streams : String
  parseInt : String → Except String Int
  jidFromstr : String → Except E J
  isKeyError : E → Bool

/-- The exceptions the processor raises: `errors.StreamError(condition, text)`, `RuntimeError`,
the `AttributeError` of a call on the driver `None`, and what `jid.JID.fromstr` raises. -/
inductive ProcessorError (E : Type)
  | streamError (condition : String × String) (text : String)
  | runtimeError (msg : String)
  | attributeError (msg : String)
  | jidError (e : E)

/-- `XMPPXMLProcessor`. `_depth` and the `remote_*` attributes only exist after the first
`startDocument` and the first accepted stream header; until then `_depth` is `0` and the others
are `none`, which no method reads. -/
structure XMPPXMLProcessor (P J : Type) where
  state : ProcessorState
  stanzaParser : Option P
  depth : Int
  driver : Option (SAXDriver P)
  remoteVersion : Option (List Int)
  remoteTo : Option (Option J)
  remoteFrom : Option J
  remoteId : Option String

variable {P J E : Type}

/-- `XMPPXMLProcessor()`. -/
def XMPPXMLProcessor.init : XMPPXMLProcessor P J :=
  ⟨.clean, none, 0, none, none, none, none, none⟩

/-- The callbacks of the processor. -/
abbrev ProcM (P J E : Type) := ExceptT (ProcessorError E) (StateM (XMPPXMLProcessor P J))

namespace XMPPXMLProcessor

/-- `RuntimeError("invalid state: {}".format(self._state))`. -/
def invalidState (st : ProcessorState) : ProcessorError E :=
  .runtimeError ("invalid state: " ++ st.pyStr)

/-- `self._driver.method(...)`: the driver receives the call. -/
def forward (method : String) (ev : DriverEvent) : ProcM P J E Unit := do
  match (← get).driver with
  | some d => modify fun s => { s with driver := some { d with received := d.received ++ [ev] } }
  | none => throw (.attributeError (⟨[apos]⟩ ++ "NoneType" ++ ⟨[apos]⟩ ++
      " object has no attribute " ++ ⟨[apos]⟩ ++ method ++ ⟨[apos]⟩))

@[simp] theorem exec_forward_some (method : String) (ev : DriverEvent) (s : XMPPXMLProcessor P J)
    (d : SAXDriver P) (h : s.driver = some d) :
    exec (forward method ev : ProcM P J E Unit) s =
      (.ok (), { s with driver := some { d with received := d.received ++ [ev] } }) := by
  simp [forward, h]

@[simp] theorem exec_forward_none (method : String) (ev : DriverEvent) (s : XMPPXMLProcessor P J)
    (h : s.driver = none) : (exec (forward method ev : ProcM P J E Unit) s).2 = s := by
  simp [forward, h]

section Callbacks

variable (env : ProcessorEnv J E)

/-- The `stanza_parser` setter. -/
def setStanzaParser (value : Option P) : ProcM P J E Unit := do
  let s ← get
  if s.state ≠ .clean then throw (invalidState s.state)
  else set { s with stanzaParser := value }

@[simp] theorem exec_setStanzaParser (value : Option P) (s : XMPPXMLProcessor P J) :
    exec (setStanzaParser value : ProcM P J E Unit) s =
      if s.state ≠ .clean then (.error (invalidState s.state), s)
      else (.ok (), { s with stanzaParser := value }) := by
  simp only [setStanzaParser, exec_bind, exec_get]; split_ifs <;> rfl

/-- `StreamError((namespaces.streams, "restricted-xml"), text)`. -/
def restrictedXml (text : String) : ProcM P J E Unit :=
  throw (.streamError (env.streams, "restricted-xml") text)

@[simp] theorem exec_restrictedXml (text : String) (s : XMPPXMLProcessor P J) :
    exec (restrictedXml env text) s = (.error (.streamError (env.streams, "restricted-xml") text), s) :=
  rfl

/-- `comment`. -/
def comment : ProcM P J E Unit := restrictedXml env "comments are not allowed in XMPP"

/-- `startDTD`. -/
def startDTD : ProcM P J E Unit := restrictedXml env "DTD declarations are not allowed in XMPP"

/-- `PREDEFINED_ENTITIES`. -/
def predefinedEntities : List String := ["amp", "lt", "gt", "apos", "quot"]

/-- `startEntity(name)`. -/
def startEntity (name : String) : ProcM P J E Unit :=
  if name ∉ predefinedEntities then restrictedXml env "non-predefined entities are not allowed in XMPP"
  else pure ()

/-- `processingInstruction`. -/
def processingInstruction : ProcM P J E Unit :=
  restrictedXml env "processing instructions are not allowed in XMPP"

/-- `characters(characters)`. -/
def characters (data : String) : ProcM P J E Unit := do
  let s ← get
  if s.state ≠ .streamHeaderProcessed then throw (invalidState s.state)
  else forward "characters" (.characters data)

@[simp] theorem exec_characters (data : String) (s : XMPPXMLProcessor P J) :
    exec (characters data : ProcM P J E Unit) s =
      if s.state ≠ .streamHeaderProcessed then (.error (invalidState s.state), s)
      else exec (forward "characters" (.characters data)) s := by
  simp only [characters, exec_bind, exec_get]; split_ifs <;> rfl

/-- `startDocument`: a new driver for the current stanza parser. -/
def startDocument : ProcM P J E Unit := do
  let s ← get
  if s.state ≠ .clean then throw (invalidState s.state)
  else set { s with state := .started, depth := 0, driver := some ⟨s.stanzaParser, []⟩ }

@[simp] theorem exec_startDocument (s : XMPPXMLProcessor P J) :
    exec (startDocument : ProcM P J E Unit) s =
      if s.state ≠ .clean then (.error (invalidState s.state), s)
      else (.ok (), { s with state := .started, depth := 0, driver := some ⟨s.stanzaParser, []⟩ }) := by
  simp only [startDocument, exec_bind, exec_get]; split_ifs <;> rfl

/-- `startElement`, refused. -/
def startElement : ProcM P J E Unit :=
  throw (.runtimeError "incorrectly configured parser: startElement called (instead of startElementNS)")

/-- `endElement`, refused. -/
def endElement : ProcM P J E Unit :=
  throw (.runtimeError "incorrectly configured parser: endElement called (instead of endElementNS)")

/-- `endDocument`. -/
def endDocument : ProcM P J E Unit := do
  let s ← get
  if s.state ≠ .streamFooterProcessed then throw (invalidState s.state)
  else set { s with state := .clean, driver := none }

@[simp] theorem exec_endDocument (s : XMPPXMLProcessor P J) :
    exec (endDocument : ProcM P J E Unit) s =
      if s.state ≠ .streamFooterProcessed then (.error (invalidState s.state), s)
      else (.ok (), { s with state := .clean, driver := none }) := by
  simp only [endDocument, exec_bind, exec_get]; split_ifs <;> rfl

/-- `str.split(".")`: the pieces between the dots, empty ones included. -/
def splitDot (s : String) : List String := (s.data.splitOn '.').map String.mk

example : splitDot "1..0" = ["1", "", "0"] := by decide

/-- `remote_version` from the `version` attribute (default `"0.9"`), which must be `(1, 0)`. -/
def readVersion (attributes : PyDict Name String) : ProcM P J E Unit :=
  match (splitDot ((attributes.get? ⟨none, "version"⟩).getD "0.9")).mapM env.parseInt with
  | .error msg => throw (.streamError (env.streams, "unsupported-version") msg)
  | .ok v => do
    modify fun s => { s with remoteVersion := some v }
    if v ≠ [1, 0] then
      throw (.streamError (env.streams, "unsupported-version") (".".intercalate (v.map toString)))
    else pure ()

/-- `remote_to` from the optional `to` attribute. -/
def readTo (attributes : PyDict Name String) : ProcM P J E Unit :=
  match attributes.get? ⟨none, "to"⟩ with
  | none => modify fun s => { s with remoteTo := some none }
  | some t =>
    match env.jidFromstr t with
    | .ok j => modify fun s => { s with remoteTo := some (some j) }
    | .error e => throw (.jidError e)

/-- `remote_from` from the required `from` attribute. The `except KeyError` around it also
catches a `KeyError` raised by `jid.JID.fromstr`. -/
def readFrom (attributes : PyDict Name String) : ProcM P J E Unit :=
  let missing : ProcessorError E := .streamError (env.streams, "undefined-condition")
    "from attribute required in response header"
  match attributes.get? ⟨none, "from"⟩ with
  | none => throw missing
  | some f =>
    match env.jidFromstr f with
    | .ok j => modify fun s => { s with remoteFrom := some j }
    | .error e => throw (if env.isKeyError e then missing else .jidError e)

/-- `remote_id` from the required `id` attribute. -/
def readId (attributes : PyDict Name String) : ProcM P J E Unit :=
  match attributes.get? ⟨none, "id"⟩ with
  | none => throw (.streamError (env.streams, "undefined-condition")
      "id attribute required in response header")
  | some i => modify fun s => { s with remoteId := some i }

/-- The attributes of the stream header, in the order of the source. -/
def readHeader (attributes : PyDict Name String) : ProcM P J E Unit := do
  readVersion env attributes
  readTo env attributes
  readFrom env attributes
  readId env attributes

/-- The stream header, in `STARTED`: when its name and attributes are accepted the header is
processed and `_depth` counts the stream element. -/
def acceptHeader (name : Name) (attributes : PyDict Name String) : ProcM P J E Unit :=
  if name ≠ ⟨some env.xmlstream, "stream"⟩ then
    throw (.streamError (env.streams, "invalid-namespace") "stream has invalid namespace or localname")
  else do
    readHeader env attributes
    modify fun s => { s with state := .streamHeaderProcessed, depth := s.depth + 1 }

/-- `startElementNS(name, qname, attributes)`. -/
def startElementNS (name : Name) (qname : Option String) (attributes : PyDict Name String) :
    ProcM P J E Unit := do
  let s ← get
  if s.state = .streamHeaderProcessed then do
    forward "startElementNS" (.startElementNS name qname attributes)
    modify fun s => { s with depth := s.depth + 1 }
  else if s.state ≠ .started then throw (invalidState s.state)
  else acceptHeader env name attributes

@[simp] theorem exec_startElementNS (name : Name) (qname : Option String)
    (attributes : PyDict Name String) (s : XMPPXMLProcessor P J) :
    exec (startElementNS env name qname attributes) s =
      if s.state = .streamHeaderProcessed then
        exec (do forward "startElementNS" (.startElementNS name qname attributes)
                 modify fun s => { s with depth := s.depth + 1 }) s
      else if s.state ≠ .started then (.error (invalidState s.state), s)
      else exec (acceptHeader env name attributes) s := by
  simp only [startElementNS, exec_bind, exec_get]; split_ifs <;> simp

/-- `endElementNS(name, qname)`: the end of the stream element is not forwarded. -/
def endElementNS (name : Name) (qname : Option String) : ProcM P J E Unit := do
  let s ← get
  if s.state = .streamHeaderProcessed then do
    set { s with depth := s.depth - 1 }
    if s.depth - 1 > 0 then forward "endElementNS" (.endElementNS name qname)
    else modify fun s => { s with state := .streamFooterProcessed }
  else throw (invalidState s.state)

@[simp] theorem exec_endElementNS (name : Name) (qname : Option String) (s : XMPPXMLProcessor P J) :
    exec (endElementNS name qname : ProcM P J E Unit) s =
      if s.state = .streamHeaderProcessed then
        if s.depth - 1 > 0 then
          exec (forward "endElementNS" (.endElementNS name qname)) { s with depth := s.depth - 1 }
        else (.ok (), { s with depth := s.depth - 1, state := .streamFooterProcessed })
      else (.error (invalidState s.state), s) := by
  simp only [endElementNS, exec_bind, exec_get]; split_ifs <;> rfl

end Callbacks

end XMPPXMLProcessor

/-- One callback the processor receives. The arguments no callback reads (of the prefix mappings,
comments, the DTD, entities ended and processing instructions) are left out. -/
inductive PCall (P : Type)
  | setStanzaParser (value : Option P)
  | startDocument
  | endDocument
  | startElementNS (name : Name) (qname : Option String) (attributes : PyDict Name String)
  | endElementNS (name : Name) (qname : Option String)
  | characters (data : String)
  | startPrefixMapping
  | endPrefixMapping
  | comment
  | startDTD
  | endDTD
  | startCDATA
  | endCDATA
  | startEntity (name : String)
  | endEntity
  | processingInstruction
  | startElement
  | endElement

/-- The callback a call runs; the ones whose body is `pass` return at once. -/
def dispatchP (env : ProcessorEnv J E) : PCall P → ProcM P J E Unit
  | .setStanzaParser v => XMPPXMLProcessor.setStanzaParser v
  | .startDocument => XMPPXMLProcessor.startDocument
  | .endDocument => XMPPXMLProcessor.endDocument
  | .startElementNS name qname attributes =>
    XMPPXMLProcessor.startElementNS env name qname attributes
  | .endElementNS name qname => XMPPXMLProcessor.endElementNS name qname
  | .characters data => XMPPXMLProcessor.characters data
  | .comment => XMPPXMLProcessor.comment env
  | .startDTD => XMPPXMLProcessor.startDTD env
  | .startEntity name => XMPPXMLProcessor.startEntity env name
  | .processingInstruction => XMPPXMLProcessor.processingInstruction env
  | .startElement => XMPPXMLProcessor.startElement
  | .endElement => XMPPXMLProcessor.endElement
  | .startPrefixMapping | .endPrefixMapping | .endDTD | .startCDATA | .endCDATA | .endEntity =>
    pure ()

/-- Callbacks one after another, each returning or raising. -/
def runP (env : ProcessorEnv J E) : List (PCall P) → XMPPXMLProcessor P J → XMPPXMLProcessor P J
  | [], s => s
  | c :: cs, s => runP env cs (exec (dispatchP env c) s).2

/-- The state each callback of a sequence starts from, with the callback. -/
def steps (env : ProcessorEnv J E) :
    XMPPXMLProcessor P J → List (PCall P) → List (XMPPXMLProcessor P J × PCall P)
  | _, [] => []
  | s, c :: cs => (s, c) :: steps env (exec (dispatchP env c) s).2 cs

end XmppXml
