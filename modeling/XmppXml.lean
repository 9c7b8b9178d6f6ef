import XmppXml.PyDict
import XmppXml.Lexical
import XmppXml.Reader
import XmppXml.Tags
import XmppXml.Exec
import XmppXml.Generator.State
import XmppXml.Generator.Methods
import XmppXml.Generator.Roll
import XmppXml.Generator.Spec
import XmppXml.Generator.Run
import XmppXml.Generator.MustClose
import XmppXml.Generator.Scope
import XmppXml.Generator.EndTags
import XmppXml.Generator.Prefixes
import XmppXml.Generator.WriteObjects
import XmppXml.Generator.Document
import XmppXml.Namespaces
import XmppXml.Generator.Declarations
import XmppXml.Generator.StartTag
import XmppXml.Generator.ReadBack
import XmppXml.Generator.Misread
import XmppXml.Processor.Machine
import XmppXml.Processor.Core
import XmppXml.Processor.Invariant
import XmppXml.Processor.Header
import XmppXml.Processor.Stream
