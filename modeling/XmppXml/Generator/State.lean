import XmppXml.PyDict
import XmppXml.Lexical
import XmppXml.Exec

/-!
# The state of `XMPPXMLGenerator`

The fields `__init__` sets, and the monad the methods run in. A method that raises leaves the
object as it was at the `raise`, with the writes made before it already at the sink, so a method
is a computation in `GenM := ExceptT PyError (StateM XMPPXMLGenerator)`, run by `exec`.

The sink `out` is modelled by the record of the calls it received. The encoding is UTF-8 (the
only one `write_objects` uses and the only one the docstring allows), an injective map from the
text written to the bytes, so the model records the text.
-/

namespace XmppXml

/-- A namespace URI: `None` or a `str`. -/
abbrev Uri := Option String

/-- A namespace prefix: `None` (the prefixless namespace) or a `str`. -/
abbrev Prefix := Option String

/-- A name tuple `(namespace_uri, localname)`. -/
structure Name where
  uri : Uri
  localName : String
  deriving DecidableEq, Repr

/-- A call the sink `out` receives. -/
inductive SinkOp
  | write (data : String)
  | flush
  deriving DecidableEq, Repr

/-- The exceptions the generator raises, with their arguments. -/
inductive PyError
  | valueError (msg : String)
  | runtimeError (msg : String)
  | keyError (key : Prefix)
  | attributeError (msg : String)
  | notImplementedError (msg : String)
  | indexError (msg : String)
  deriving DecidableEq, Repr

/-- An entry of `_ns_map_stack`: a copy of `_curr_ns_map`, the prefixes that must be closed after
the element ends (`none` is the empty `dict` of the bottom entry, the others are `set`s), and
`_ns_counter`. -/
structure Frame where
  nsMap : PyDict Uri Prefix
  mustClose : Option (Finset Prefix)
  counter : Int

/-- `XMPPXMLGenerator`. The list `_ns_map_stack` is kept top first. `_ns_prefixes_floating_out`
holds the empty `dict` of `__init__` (`none`) until the first frame is popped, then a `set`. -/
structure XMPPXMLGenerator where
  out : List SinkOp
  nsMapStack : List Frame
  currNsMap : PyDict Uri Prefix
  shortEmptyElements : Bool
  pendingStartElement : Option Name
  nsPrefixesFloatingIn : PyDict Prefix Uri
  nsPrefixesFloatingOut : Option (Finset Prefix)
  nsAutoPrefixesFloatingIn : Finset Prefix
  nsDeclsFloatingIn : PyDict Uri Prefix
  nsCounter : Int

namespace XMPPXMLGenerator

/-- `XMPPXMLGenerator(out, short_empty_elements=...)` on a sink that has received nothing. -/
def init (shortEmptyElements : Bool) : XMPPXMLGenerator where
  out := []
  nsMapStack := [⟨.empty, none, 0⟩]
  currNsMap := .empty
  shortEmptyElements := shortEmptyElements
  pendingStartElement := none
  nsPrefixesFloatingIn := .empty
  nsPrefixesFloatingOut := none
  nsAutoPrefixesFloatingIn := ∅
  nsDeclsFloatingIn := .empty
  nsCounter := -1

end XMPPXMLGenerator

/-- Python's truth value of `_ns_prefixes_floating_out`. -/
def outstanding : Option (Finset Prefix) → Bool
  | none => false
  | some s => s ≠ ∅

/-- The methods of the generator. -/
abbrev GenM := ExceptT PyError (StateM XMPPXMLGenerator)

/-- The text the sink received, in order. -/
def written : List SinkOp → String
  | [] => ""
  | .write data :: ops => data ++ written ops
  | .flush :: ops => written ops

/-- `self._write(data)`. -/
def write (data : String) : GenM Unit :=
  modify fun g => { g with out := g.out ++ [.write data] }

@[simp] theorem exec_write (g : XMPPXMLGenerator) (data : String) :
    exec (write data) g = (.ok (), { g with out := g.out ++ [.write data] }) := rfl

end XmppXml
