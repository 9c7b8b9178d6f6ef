import XmppXml.Generator.State
import Mathlib.Data.List.Sort

/-!
# The methods of `XMPPXMLGenerator`

Each method of the class, in the order of the source, as a computation in `GenM`; the private
helpers `_roll_prefix`, `_qname`, `_finish_pending_start_element` and `_pin_floating_ns_decls`
first. `Call` is one call of the public interface and `runCalls` a sequence of them that stops at
the first exception.

The loop of `_roll_prefix` is `rollFrom` with a bound on its rounds that is never reached
(`rollFrom_not_mem` proves that the number it returns is free).
-/

namespace XmppXml

/-- The XML namespace, the one URI `_qname` gives the prefix `xml`. -/
def xmlNamespace : String := "http://www.w3.org/XML/1998/namespace"

/-- `"ns{}".format(n)`. -/
def nsName (n : Int) : String := "ns" ++ toString n

/-- The loop of `_roll_prefix` from the number `n`: the first of `n, n + 1, …` whose name is not
a key of `taken`, within `fuel` rounds. -/
def rollFrom (taken : PyDict Prefix Uri) (n : Int) : Nat → Int
  | 0 => n
  | fuel + 1 => if taken.contains (some (nsName n)) then rollFrom taken (n + 1) fuel else n

/-- The rounds `_roll_prefix` is given: one more than there are pending prefixes. -/
def rollFuel (taken : PyDict Prefix Uri) : Nat := taken.keys.length + 1

/-- `_roll_prefix`. -/
def rollPrefix : GenM String := do
  let g ← get
  let n := rollFrom g.nsPrefixesFloatingIn (g.nsCounter + 1) (rollFuel g.nsPrefixesFloatingIn)
  set { g with nsCounter := n }
  return nsName n

/-- The check of `startPrefixMapping`: `None`, or a valid XML name with no colon other than `xml`
and `xmlns`. -/
def isValidPrefix : Prefix → Bool
  | none => true
  | some p => !(p = "xml" || p = "xmlns" || !xmlValidateNameValueStr p || ':' ∈ p.data)

/-- What a successful `startPrefixMapping(prefix, uri, auto=auto)` does to the state. -/
def XMPPXMLGenerator.declare (g : XMPPXMLGenerator) (pfx : Prefix) (uri : Uri) (auto : Bool) :
    XMPPXMLGenerator :=
  { g with
    nsAutoPrefixesFloatingIn :=
      if auto then insert pfx g.nsAutoPrefixesFloatingIn else g.nsAutoPrefixesFloatingIn
    nsPrefixesFloatingIn := g.nsPrefixesFloatingIn.assign pfx uri
    nsDeclsFloatingIn := g.nsDeclsFloatingIn.assign uri pfx }

/-- `startPrefixMapping(prefix, uri, *, auto)`. -/
def startPrefixMapping (pfx : Prefix) (uri : Uri) (auto : Bool) : GenM Unit := do
  if !isValidPrefix pfx then
    throw (.valueError ("not a valid prefix: " ++ pyRepr (pfx.getD "")))
  let g ← get
  if g.nsPrefixesFloatingIn.contains pfx then
    throw (.valueError "prefix already declared for next element")
  set (g.declare pfx uri auto)

/-- `":".join((prefix, name[1]))` when the prefix is true, else the local name. -/
def joinPrefix (pfx : Prefix) (localName : String) : String :=
  if truthy pfx then pfx.getD "" ++ ":" ++ localName else localName

/-- The prefix `_qname` uses for a namespace URI: the current one, else the pending one, else an
automatic one declared for the next element. -/
def resolvePrefix (uri : Uri) : GenM Prefix := do
  let g ← get
  match g.currNsMap.get? uri with
  | some p => return p
  | none =>
    match g.nsDeclsFloatingIn.get? uri with
    | some p => return p
    | none =>
      let p ← rollPrefix
      startPrefixMapping (some p) uri true
      return some p

/-- The check of `_qname` on the local name. -/
def isValidLocalName (s : String) : Bool := !(':' ∈ s.data || !xmlValidateNameValueStr s)

/-- `_qname(name, attr)`. -/
def qname (name : Name) (attr : Bool) : GenM String := do
  if !isValidLocalName name.localName then
    throw (.valueError ("invalid name: " ++ pyRepr name.localName))
  if truthy name.uri then
    if name.uri = some xmlNamespace then return "xml:" ++ name.localName
    let pfx ← resolvePrefix name.uri
    return joinPrefix pfx name.localName
  let g ← get
  if !attr && (g.currNsMap.contains none || g.nsPrefixesFloatingIn.contains none) then
    throw (.valueError "cannot create unnamespaced element when prefixless namespace is bound")
  return name.localName

/-- `_finish_pending_start_element`. -/
def finishPendingStartElement : GenM Unit := do
  if (← get).pendingStartElement.isSome then
    modify fun g => { g with pendingStartElement := none }
    write ">"

/-- The prefixes `_pin_floating_ns_decls` stores as must-close:
`set(self._ns_prefixes_floating_in.keys()) - self._ns_auto_prefixes_floating_in`. -/
def XMPPXMLGenerator.explicitPending (g : XMPPXMLGenerator) : Finset Prefix :=
  g.nsPrefixesFloatingIn.keys.toFinset \ g.nsAutoPrefixesFloatingIn

/-- The frame `_pin_floating_ns_decls(old_counter)` pushes. -/
def XMPPXMLGenerator.frame (g : XMPPXMLGenerator) (oldCounter : Int) : Frame :=
  ⟨g.currNsMap, some g.explicitPending, oldCounter⟩

/-- What a successful `_pin_floating_ns_decls(old_counter)` does to the state. -/
def XMPPXMLGenerator.pin (g : XMPPXMLGenerator) (oldCounter : Int) : XMPPXMLGenerator :=
  { g with
    nsMapStack := g.frame oldCounter :: g.nsMapStack
    currNsMap := g.currNsMap.update g.nsDeclsFloatingIn
    nsDeclsFloatingIn := .empty
    nsPrefixesFloatingIn := .empty }

/-- `_pin_floating_ns_decls(old_counter)`: it returns the pending prefixes. -/
def pinFloatingNsDecls (oldCounter : Int) : GenM (PyDict Prefix Uri) := do
  let g ← get
  if outstanding g.nsPrefixesFloatingOut then
    throw (.runtimeError "namespace prefix has not been closed")
  set (g.pin oldCounter)
  return g.nsPrefixesFloatingIn

/-- `startDocument`, which does nothing. -/
def startDocument : GenM Unit := pure ()

/-- `quoteattr(uri)` written: `None` has no `replace`. -/
def writeQuoted (uri : Uri) : GenM Unit :=
  match uri with
  | some u => write (quoteattr u)
  | none => throw (.attributeError
      (⟨[apos]⟩ ++ "NoneType" ++ ⟨[apos]⟩ ++ " object has no attribute " ++ ⟨[apos]⟩ ++
        "replace" ++ ⟨[apos]⟩))

/-- `sorted(pending_prefixes.items())`, whose prefixes are `str`s and pairwise distinct. -/
def sortedItems (d : PyDict Prefix Uri) : List (Prefix × Uri) :=
  d.items.insertionSort fun a b => pyStrLe (a.1.getD "") (b.1.getD "")

/-- The `:prefix` of a declaration, when the prefix is true. -/
def writePrefix (pfx : Prefix) : GenM Unit :=
  if truthy pfx then do
    write ":"
    write (pfx.getD "")
  else pure ()

/-- The declaration ` xmlns:prefix="uri"` of the loop of `startElementNS`. -/
def writeDecl (pfx : Prefix) (uri : Uri) : GenM Unit := do
  write " xmlns"
  writePrefix pfx
  write "="
  writeQuoted uri

/-- The attribute ` name="value"`. -/
def writeAttr (attrname value : String) : GenM Unit := do
  write " "
  write attrname
  write "="
  write (quoteattr value)

/-- The attribute names of `startElementNS` resolved in order (automatic prefixes declared on the
way), then refused if one of them is `xmlns`. -/
def qnameAttributes (attributes : PyDict Name String) : GenM (List (String × String)) := do
  let attrib ← attributes.items.mapM fun a => do return (← qname a.1 true, a.2)
  if attrib.any (·.1 = "xmlns") then
    throw (.valueError "xmlns not allowed as attribute name")
  else
    return attrib

/-- The declaration ` xmlns="uri"` of a pending prefixless namespace. -/
def writeDefaultDecl (pendingPrefixes : PyDict Prefix Uri) : GenM Unit :=
  match pendingPrefixes.get? none with
  | some uri => do
    write " xmlns="
    writeQuoted uri
  | none => pure ()

/-- The start tag up to its end: the name, the pending declarations (the prefixless one first,
the others sorted) and the attributes in the caller's order. -/
def writeStartTag (q : String) (pendingPrefixes : PyDict Prefix Uri)
    (attrib : List (String × String)) : GenM Unit := do
  write "<"
  write q
  writeDefaultDecl pendingPrefixes
  (sortedItems (pendingPrefixes.erase none)).forM fun d => writeDecl d.1 d.2
  attrib.forM fun a => writeAttr a.1 a.2

/-- `startElementNS(name, qname, attributes)`; the ignored `qname` is left out. -/
def startElementNS (name : Name) (attributes : PyDict Name String) : GenM Unit := do
  finishPendingStartElement
  let oldCounter := (← get).nsCounter
  let q ← qname name false
  let attrib ← qnameAttributes attributes
  let pendingPrefixes ← pinFloatingNsDecls oldCounter
  writeStartTag q pendingPrefixes attrib
  if (← get).shortEmptyElements then
    modify fun g => { g with pendingStartElement := some name }
  else
    write ">"

/-- What popping the frame `f` in `endElementNS` does to the state. -/
def XMPPXMLGenerator.restore (g : XMPPXMLGenerator) (f : Frame) (rest : List Frame) :
    XMPPXMLGenerator :=
  { g with
    nsMapStack := rest
    currNsMap := f.nsMap
    nsPrefixesFloatingOut := f.mustClose
    nsCounter := f.counter }

/-- `self._ns_map_stack.pop()` assigned to the three fields. -/
def popFrame : GenM Unit := do
  match (← get).nsMapStack with
  | [] => throw (.indexError "pop from empty list")
  | f :: rest => modify fun g => g.restore f rest

/-- The end of an element: `/>` after its own deferred start tag, else a closing tag with the
name resolved again. -/
def writeEndTag (name : Name) : GenM Unit := do
  let g ← get
  if g.pendingStartElement = some name then
    set { g with pendingStartElement := none }
    write "/>"
  else
    write "</"
    write (← qname name false)
    write ">"

/-- `endElementNS(name, qname)`; the ignored `qname` is left out. -/
def endElementNS (name : Name) : GenM Unit := do
  if outstanding (← get).nsPrefixesFloatingOut then
    throw (.runtimeError "namespace prefix has not been closed")
  else
    writeEndTag name
    popFrame

/-- `endPrefixMapping(prefix)`: `remove` on `_ns_prefixes_floating_out`. -/
def endPrefixMapping (pfx : Prefix) : GenM Unit := do
  match (← get).nsPrefixesFloatingOut with
  | none => throw (.attributeError
      (⟨[apos]⟩ ++ "dict" ++ ⟨[apos]⟩ ++ " object has no attribute " ++ ⟨[apos]⟩ ++ "remove" ++
        ⟨[apos]⟩))
  | some s =>
    if pfx ∈ s then modify fun g => { g with nsPrefixesFloatingOut := some (s.erase pfx) }
    else throw (.keyError pfx)

/-- `startElement`, not supported. -/
def startElement : GenM Unit :=
  throw (.notImplementedError "namespace-incorrect documents are not supported")

/-- `characters(chars)`. -/
def characters (chars : String) : GenM Unit := do
  finishPendingStartElement
  if chars.data.any isRestrictedChar then
    throw (.valueError "control characters are not allowed in well-formed XML")
  write (escape chars)

/-- `processingInstruction`, forbidden in XMPP. -/
def processingInstruction : GenM Unit :=
  throw (.valueError "restricted xml: processing instruction forbidden")

/-- `skippedEntity`, not supported. -/
def skippedEntity : GenM Unit := throw (.notImplementedError "skippedEntity")

/-- `setDocumentLocator`, not supported. -/
def setDocumentLocator : GenM Unit := throw (.notImplementedError "setDocumentLocator")

/-- `ignorableWhitespace`, not supported. -/
def ignorableWhitespace : GenM Unit := throw (.notImplementedError "ignorableWhitespace")

/-- `endElement`, which calls `startElement`. -/
def endElement : GenM Unit := startElement

/-- `endDocument`, which does nothing. -/
def endDocument : GenM Unit := pure ()

/-- `flush`. -/
def flush : GenM Unit := do
  finishPendingStartElement
  modify fun g => { g with out := g.out ++ [.flush] }

/-- One call of the public interface. `startPrefixMapping` is called with `auto=False`; the
arguments no method reads (`qname`, a locator, the data of an instruction) are left out. -/
inductive Call
  | startDocument
  | startPrefixMapping (pfx : Prefix) (uri : Uri)
  | startElementNS (name : Name) (attributes : PyDict Name String)
  | characters (chars : String)
  | endElementNS (name : Name)
  | endPrefixMapping (pfx : Prefix)
  | endDocument
  | flush
  | startElement
  | endElement
  | processingInstruction
  | skippedEntity
  | setDocumentLocator
  | ignorableWhitespace

/-- The method a call runs. -/
def dispatch : Call → GenM Unit
  | .startDocument => startDocument
  | .startPrefixMapping pfx uri => startPrefixMapping pfx uri false
  | .startElementNS name attributes => startElementNS name attributes
  | .characters chars => characters chars
  | .endElementNS name => endElementNS name
  | .endPrefixMapping pfx => endPrefixMapping pfx
  | .endDocument => endDocument
  | .flush => flush
  | .startElement => startElement
  | .endElement => endElement
  | .processingInstruction => processingInstruction
  | .skippedEntity => skippedEntity
  | .setDocumentLocator => setDocumentLocator
  | .ignorableWhitespace => ignorableWhitespace

/-- Calls one after another, up to the first that raises. -/
def runCalls : List Call → GenM Unit
  | [] => pure ()
  | c :: cs => do dispatch c; runCalls cs

end XmppXml
