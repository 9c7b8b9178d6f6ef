import XmppXml.Generator.MustClose

/-!
# `write_objects`: a stream written by a Python generator

`write_objects(f, nsmap)` makes a writer `XMPPXMLGenerator(f, short_empty_elements=True)`. When
it is primed it writes the stream header: the prefixes of `nsmap_to_use` are announced, the
stream element is started and the output flushed. Each object sent to it is serialised by its
`unparse_to_sax` and flushed. The body is a `try` whose `finally` closes the stream (end of the
stream element, `endPrefixMapping` for every prefix, `endDocument`) unless `AbortStream` was
thrown at the `yield`, and flushes last.

The generator's life after priming is one sequence: the objects sent, in order, then what the
caller does at the `yield` after the last one (`close()` or `throw(AbortStream)`). An object
that raises ends it there. `writeObjects` runs that life on the writer and returns, or raises the
exception that leaves the generator.
-/

namespace XmppXml

/-- An exception inside `write_objects`: one the writer raises, one the serialisation of an
object raises, the `GeneratorExit` of `close()`, or `AbortStream`. -/
inductive WriteExc (E : Type)
  | writer (e : PyError)
  | object (e : E)
  | generatorExit
  | abortStream

/-- The body of `write_objects`, with the writer as its state. -/
abbrev WriteM (E : Type) := ExceptT (WriteExc E) (StateM XMPPXMLGenerator)

variable {E : Type}

/-- A call on the writer, whose exception leaves the generator as it is. -/
def onWriter {α : Type} (m : GenM α) : WriteM E α := ExceptT.adapt WriteExc.writer m

@[simp] theorem exec_onWriter {α : Type} (m : GenM α) (g : XMPPXMLGenerator) :
    exec (onWriter m : WriteM E α) g = exec (ExceptT.adapt WriteExc.writer m) g := rfl

/-- `nsmap_to_use`: `{"stream": namespaces.xmlstream}` updated by `nsmap`, whose keys are passed to
`startPrefixMapping` as prefixes (`None` for the prefixless namespace) and whose values as URIs. -/
def nsmapToUse (xmlstream : String) (nsmap : PyDict Prefix Uri) : PyDict Prefix Uri :=
  (PyDict.empty.assign (some "stream") (some xmlstream)).update nsmap

/-- `for prefix, uri in nsmap_to_use.items(): writer.startPrefixMapping(prefix, uri)`. -/
def declarePrefixes (nsmapToUse : PyDict Prefix Uri) : GenM Unit :=
  nsmapToUse.items.forM fun (pfx, uri) => startPrefixMapping pfx uri false

/-- The code before the `try`, run when the generator is primed. -/
def writeHeader (xmlstream : String) (nsmap : PyDict Prefix Uri) : GenM Unit := do
  startDocument
  declarePrefixes (nsmapToUse xmlstream nsmap)
  startElementNS ⟨some xmlstream, "stream"⟩ .empty
  flush

/-- Modelled from the spec: `obj.unparse_to_sax(writer)` of a stanza object, which is not part
of the source, as the calls it makes on the writer and the exception it raises after them, if
any. -/
structure Serialisation (E : Type) where
  calls : List Call
  raises : Option E

/-- `obj.unparse_to_sax(writer)`. -/
def Serialisation.unparseToSax (obj : Serialisation E) : WriteM E Unit := do
  onWriter (runCalls obj.calls)
  match obj.raises with
  | some e => throw (.object e)
  | none => pure ()

/-- One round of the loop: an object received at the `yield`, serialised and flushed. -/
def sendObject (obj : Serialisation E) : WriteM E Unit := do
  obj.unparseToSax
  onWriter flush

/-- What the caller does at the `yield` after the last object. -/
inductive Ending
  | close
  | abort

/-- The `yield` after the last object: `close()` raises `GeneratorExit` there, which the
`except AbortStream` lets through; `AbortStream` sets `abort` and returns. The result is
`abort`. -/
def atYield : Ending → WriteM E Bool
  | .close => throw .generatorExit
  | .abort => pure true

/-- The closing of the stream in the `finally` clause. -/
def closeStream (xmlstream : String) (nsmap : PyDict Prefix Uri) : GenM Unit := do
  endElementNS ⟨some xmlstream, "stream"⟩
  (nsmapToUse xmlstream nsmap).keys.forM fun pfx => endPrefixMapping pfx
  endDocument

/-- The `finally` clause. -/
def finallyClause (xmlstream : String) (nsmap : PyDict Prefix Uri) (abort : Bool) :
    GenM Unit := do
  if !abort then closeStream xmlstream nsmap
  flush

/-- `write_objects(f, nsmap)` primed, sent `objs` in order and left by `ending`. The `abort` of
the `finally` clause is set only when the body returned after `AbortStream`. -/
def writeObjects (xmlstream : String) (nsmap : PyDict Prefix Uri)
    (objs : List (Serialisation E)) (ending : Ending) : WriteM E Unit := do
  onWriter (writeHeader xmlstream nsmap)
  let _ ← pyTryFinally (do objs.forM sendObject; atYield ending)
    fun abort => onWriter (finallyClause xmlstream nsmap (abort == some true))

/-- The run of `writeObjects` on the writer `write_objects` makes, on a sink that has received
nothing. -/
def runWriteObjects (xmlstream : String) (nsmap : PyDict Prefix Uri)
    (objs : List (Serialisation E)) (ending : Ending) : Except (WriteExc E) Unit × XMPPXMLGenerator :=
  exec (writeObjects xmlstream nsmap objs ending) (XMPPXMLGenerator.init true)

/-! ### The header -/

open XMPPXMLGenerator

/-- Prefixes announced with `auto=False` only change the pending declarations, and every one of
them is then pending. -/
theorem foldl_declare (items : List (Prefix × Uri)) (g : XMPPXMLGenerator) :
    ∃ fi de, items.foldl (fun g pu => g.declare pu.1 pu.2 false) g =
      { g with nsPrefixesFloatingIn := fi, nsDeclsFloatingIn := de } ∧
      ∀ q, g.nsPrefixesFloatingIn.contains q = true ∨ q ∈ items.map (·.1) →
        fi.contains q = true := by
  induction items generalizing g with
  | nil => exact ⟨_, _, rfl, by simp⟩
  | cons pu items ih =>
    obtain ⟨fi, de, h, hc⟩ := ih (g.declare pu.1 pu.2 false)
    refine ⟨fi, de, by rw [List.foldl_cons, h]; rfl, fun q hq => hc q ?_⟩
    rcases hq with hq | hq
    · exact .inl (by simp [declare, hq])
    · rcases List.mem_cons.mp hq with rfl | hq
      · exact .inl (by simp [declare])
      · exact .inr hq

/-- A loop of announcements that returns has declared every prefix in turn. -/
theorem declarePrefixes_ok {d : PyDict Prefix Uri} {g g' : XMPPXMLGenerator}
    (h : exec (declarePrefixes d) g = (.ok (), g')) :
    g' = d.items.foldl (fun g pu => g.declare pu.1 pu.2 false) g := by
  unfold declarePrefixes at h
  generalize d.items = items at h ⊢
  induction items generalizing g with
  | nil => simp only [List.forM, exec_pure, Prod.mk.injEq] at h; exact h.2.symm
  | cons pu items ih =>
    simp only [List.forM] at h
    obtain ⟨_, g₁, h₁, h⟩ := exec_bind_ok g h
    simp only [exec_startPrefixMapping] at h₁
    split_ifs at h₁ <;> simp only [Prod.mk.injEq, reduceCtorEq, false_and] at h₁
    rw [← h₁.2] at h
    exact ih h

/-- With no current map, the prefix `_qname` finds for a URI is the one the map gives it once the
pending declarations are pinned. -/
theorem resolve_pinned {g : XMPPXMLGenerator} {u : Uri} (hc : g.currNsMap.get? u = none) :
    ((g.resolve u).2.currNsMap.update (g.resolve u).2.nsDeclsFloatingIn).get? u =
      some (g.resolve u).1 := by
  unfold resolve
  simp only [hc]
  cases hd : g.nsDeclsFloatingIn.get? u <;> simp [declare, hc, hd]

theorem writeStartTag_ok_out {q : String} {pp : PyDict Prefix Uri} {attrib : List (String × String)}
    {g g' : XMPPXMLGenerator} (h : exec (writeStartTag q pp attrib) g = (.ok (), g')) :
    ∃ o, g' = { g with out := g.out ++ [.write "<", .write q] ++ o } := by
  obtain ⟨o, ho⟩ := writeStartTag_out g q pp attrib
  exact ⟨o, by rw [← ho, h]⟩

theorem exec_qnameAttributes_empty (g : XMPPXMLGenerator) :
    exec (qnameAttributes .empty) g = (.ok [], g) := rfl

/-- A start without attributes, in short mode, of an element in a true namespace that has no
prefix in the current map: it pushes the frame of the state it found, the map then gives the
namespace the prefix the tag was written with, and the tag is left deferred. -/
theorem startElementNS_ok_unmapped {n : Name} {g g' : XMPPXMLGenerator} (hn : truthy n.uri = true)
    (hx : n.uri ≠ some xmlNamespace) (hl : isValidLocalName n.localName = true)
    (hc : g.currNsMap.get? n.uri = none) (hp : g.pendingStartElement = none)
    (hs : g.shortEmptyElements = true) (h : exec (startElementNS n .empty) g = (.ok (), g')) :
    ∃ p o, g'.nsMapStack = g.frame g.nsCounter :: g.nsMapStack ∧ g'.currNsMap.get? n.uri = some p ∧
      g'.out = g.out ++ [.write "<", .write (joinPrefix p n.localName)] ++ o ∧
      g'.pendingStartElement = some n := by
  have hpush := startElementNS_ok_push h
  obtain ⟨q, gr, attrib, gq, g₆, hq, ha, -, hw, rfl⟩ := startElementNS_ok h
  have hf : g.finishPending = g := by simp [finishPending, hp]
  rw [hf, exec_qname] at hq
  simp only [hl, hn, hx, Bool.false_eq_true, ↓reduceIte, Prod.mk.injEq, Except.ok.injEq] at hq
  obtain ⟨rfl, rfl⟩ := hq
  rw [exec_qnameAttributes_empty, Prod.mk.injEq, Except.ok.injEq] at ha
  obtain ⟨rfl, rfl⟩ := ha
  obtain ⟨o, rfl⟩ := writeStartTag_ok_out hw
  obtain ⟨_, _, _, _, hr⟩ := (resolve_resolves g n.uri).pendingOnly
  have hpin := resolve_pinned hc
  rw [hr] at hpin hpush ⊢
  exact ⟨_, o, by simpa [hs] using hpush, by simpa [pin, hs] using hpin, by simp [pin, hs],
    by simp [pin, hs]⟩

/-- A header that is written leaves the frame of the stream element on top of the stack, with
every prefix of `nsmap_to_use` to be closed after it; the namespace of the stream has the prefix
its start tag was written with; nothing is deferred, pending or left to close. -/
theorem writeHeader_ok {xmlstream : String} {nsmap : PyDict Prefix Uri} {gH : XMPPXMLGenerator}
    (hx0 : xmlstream ≠ "") (hx : xmlstream ≠ xmlNamespace)
    (h : exec (writeHeader xmlstream nsmap) (XMPPXMLGenerator.init true) = (.ok (), gH)) :
    ∃ f rest p o, gH.nsMapStack = f :: rest ∧
      (∃ S, f.mustClose = some S ∧ ∀ k ∈ (nsmapToUse xmlstream nsmap).keys, k ∈ S) ∧
      gH.currNsMap.get? (some xmlstream) = some p ∧ gH.pendingStartElement = none ∧ gH.Quiet ∧
      gH.out = [.write "<", .write (joinPrefix p "stream")] ++ o := by
  unfold writeHeader at h
  obtain ⟨_, g₁, h₁, h⟩ := exec_bind_ok _ h
  simp only [startDocument, exec_pure, Prod.mk.injEq] at h₁
  obtain ⟨-, rfl⟩ := h₁
  obtain ⟨_, g₂, h₂, h⟩ := exec_bind_ok _ h
  obtain ⟨fi, de, hfold, hfi⟩ := foldl_declare (nsmapToUse xmlstream nsmap).items (init true)
  rw [declarePrefixes_ok h₂, hfold] at h
  obtain ⟨_, g₃, h₃, h⟩ := exec_bind_ok _ h
  simp only [exec_flush, Prod.mk.injEq] at h
  obtain ⟨-, rfl⟩ := h
  have hl : isValidLocalName "stream" = true := by decide
  obtain ⟨p, o, hst, hm, hout, hpend⟩ := startElementNS_ok_unmapped
    (by simpa [truthy] using hx0) (by simpa using hx) hl (by rfl) (by rfl) (by rfl) h₃
  obtain ⟨o₁, hf⟩ := finishPending_eq g₃
  have hq : g₃.Quiet := ⟨(startElementNS_ok_pinned h₃).1, by rw [(startElementNS_ok_pinned h₃).2]; rfl⟩
  refine ⟨_, _, p, o ++ o₁ ++ [.flush], by rw [finishPending_nsMapStack, hst],
    ⟨_, rfl, fun k hk => ?_⟩, by rwa [finishPending_currNsMap], by simp [hf],
    hq.finishPending _, by simp [hf, hout, init]⟩
  simp only [PyDict.keys, List.mem_map] at hk
  obtain ⟨a, ha, rfl⟩ := hk
  rw [mem_explicitPending]
  exact ⟨hfi _ (.inr (List.mem_map_of_mem _ ha)), by simp [init]⟩

/-! ### Objects, and the `finally` clause -/

theorem exec_onWriter_ok {α : Type} {m : GenM α} {g g' : XMPPXMLGenerator} {a : α}
    (h : exec (onWriter m : WriteM E α) g = (.ok a, g')) : exec m g = (.ok a, g') := by
  rw [exec_onWriter, exec_adapt] at h
  rcases hm : exec m g with ⟨_ | _, _⟩ <;> rw [hm] at h <;> simp_all

/-- An object that raises nothing, sent: its calls ran, then the flush. -/
theorem sendObject_ok_run {obj : Serialisation E} (hr : obj.raises = none) {g g' : XMPPXMLGenerator}
    (h : exec (sendObject obj) g = (.ok (), g')) :
    ∃ g₂, exec (runCalls obj.calls) g = (.ok (), g₂) ∧
      g' = { g₂.finishPending with out := g₂.finishPending.out ++ [.flush] } := by
  unfold sendObject Serialisation.unparseToSax at h
  rw [hr] at h
  obtain ⟨_, g₁, h₁, h⟩ := exec_bind_ok g h
  obtain ⟨_, g₂, h₂, h₃⟩ := exec_bind_ok g h₁
  simp only [exec_pure, Prod.mk.injEq] at h₃
  obtain ⟨-, rfl⟩ := h₃
  have h := exec_onWriter_ok h
  rw [exec_flush, Prod.mk.injEq] at h
  exact ⟨g₂, exec_onWriter_ok h₂, h.2.symm⟩

/-- An object whose serialisation is well-nested and raises nothing, sent and flushed, keeps the
frame stack and the map, leaves nothing deferred, and only adds to the sink. -/
theorem sendObject_ok {obj : Serialisation E} (hb : Balanced obj.calls) (hr : obj.raises = none)
    {g g' : XMPPXMLGenerator} (h : exec (sendObject obj) g = (.ok (), g')) :
    g'.nsMapStack = g.nsMapStack ∧ g'.currNsMap = g.currNsMap ∧ g'.pendingStartElement = none ∧
      g.out <+: g'.out := by
  obtain ⟨g₂, h₂, rfl⟩ := sendObject_ok_run hr h
  obtain ⟨o, hf⟩ := finishPending_eq g₂
  refine ⟨?_, ?_, by simp [hf], (runCalls_out h₂).1.trans (by simp [hf])⟩
  · rw [← balanced_nsMapStack hb h₂]; simp [hf]
  · rw [← balanced_currNsMap hb h₂]; simp [hf]

theorem forM_sendObject_ok {objs : List (Serialisation E)}
    (hb : ∀ o ∈ objs, Balanced o.calls ∧ o.raises = none) {g g' : XMPPXMLGenerator}
    (h : exec (objs.forM sendObject : WriteM E Unit) g = (.ok (), g'))
    (hp : g.pendingStartElement = none) :
    g'.nsMapStack = g.nsMapStack ∧ g'.currNsMap = g.currNsMap ∧ g'.pendingStartElement = none ∧
      g.out <+: g'.out := by
  induction objs generalizing g with
  | nil =>
    simp only [List.forM, exec_pure, Prod.mk.injEq] at h
    obtain ⟨-, rfl⟩ := h
    exact ⟨rfl, rfl, hp, List.prefix_refl _⟩
  | cons o objs ih =>
    simp only [List.forM] at h
    obtain ⟨_, g₁, h₁, h⟩ := exec_bind_ok g h
    obtain ⟨hs₁, hm₁, hp₁, ho₁⟩ := sendObject_ok (hb o (.head _)).1 (hb o (.head _)).2 h₁
    obtain ⟨hs, hm, hp', ho⟩ := ih (fun o ho => hb o (.tail _ ho)) h hp₁
    exact ⟨hs.trans hs₁, hm.trans hm₁, hp', ho₁.trans ho⟩

/-- Objects that declare no prefix, sent to a quiet writer, leave it quiet. -/
theorem forM_sendObject_quiet {objs : List (Serialisation E)}
    (hb : ∀ o ∈ objs, Balanced o.calls ∧ o.raises = none)
    (hd : ∀ o ∈ objs, ∀ c ∈ o.calls, c.declaresPrefix = false) {g g' : XMPPXMLGenerator}
    (h : exec (objs.forM sendObject : WriteM E Unit) g = (.ok (), g')) (hq : g.Quiet) : g'.Quiet := by
  induction objs generalizing g with
  | nil =>
    simp only [List.forM, exec_pure, Prod.mk.injEq] at h
    rw [← h.2]; exact hq
  | cons o objs ih =>
    simp only [List.forM] at h
    obtain ⟨_, g₁, h₁, h⟩ := exec_bind_ok g h
    obtain ⟨g₂, h₂, rfl⟩ := sendObject_ok_run (hb o (.head _)).2 h₁
    exact ih (fun o ho => hb o (.tail _ ho)) (fun o ho => hd o (.tail _ ho)) h
      ((balanced_quiet (hb o (.head _)).1 (hd o (.head _)) h₂ hq).finishPending _)

/-- `endPrefixMapping` of distinct prefixes that are all to be closed removes them one by one. -/
theorem exec_endPrefixMappings (ks : List Prefix) (hnd : ks.Nodup) (g : XMPPXMLGenerator)
    (S : Finset Prefix) (hS : g.nsPrefixesFloatingOut = some S) (hk : ∀ k ∈ ks, k ∈ S) :
    ∃ S', exec (ks.forM fun pfx => endPrefixMapping pfx) g =
      (.ok (), { g with nsPrefixesFloatingOut := some S' }) := by
  induction ks generalizing g S with
  | nil => exact ⟨S, by cases g; simp_all [List.forM]⟩
  | cons k ks ih =>
    simp only [List.forM]
    simp only [exec_bind, exec_endPrefixMapping, hS, hk k (.head _), ↓reduceIte]
    obtain ⟨S', h⟩ := ih (List.nodup_cons.mp hnd).2
      { g with nsPrefixesFloatingOut := some (S.erase k) } (S.erase k) rfl fun k' hk' =>
      Finset.mem_erase.mpr ⟨by
        rintro rfl; exact (List.nodup_cons.mp hnd).1 hk', hk k' (.tail _ hk')⟩
    exact ⟨S', by rw [h]⟩

/-- The closing of the stream from a writer back at the level of the stream element, with nothing
deferred and nothing left to close: the end tag repeats the stream's prefix, and every prefix of
`nsmap_to_use` is closed. -/
theorem closeStream_ok {xmlstream : String} {nsmap : PyDict Prefix Uri} {g : XMPPXMLGenerator}
    {f : Frame} {rest : List Frame} {p : Prefix} {S : Finset Prefix}
    (hx0 : xmlstream ≠ "") (hx : xmlstream ≠ xmlNamespace)
    (hs : g.nsMapStack = f :: rest) (hS : f.mustClose = some S)
    (hk : ∀ k ∈ (nsmapToUse xmlstream nsmap).keys, k ∈ S)
    (hm : g.currNsMap.get? (some xmlstream) = some p) (hp : g.pendingStartElement = none)
    (hout : outstanding g.nsPrefixesFloatingOut = false) :
    ∃ g', exec (closeStream xmlstream nsmap) g = (.ok (), g') ∧
      g'.out = g.out ++ [.write "</", .write (joinPrefix p "stream"), .write ">"] ∧
      g'.pendingStartElement = none := by
  have hl : isValidLocalName "stream" = true := by decide
  have hn : truthy (some xmlstream) = true := by simpa [truthy] using hx0
  have hx' : some xmlstream ≠ some xmlNamespace := by simpa using hx
  have hend : exec (endElementNS ⟨some xmlstream, "stream"⟩) g =
      (.ok (), ({ g with out := g.out ++ [SinkOp.write "</", .write (joinPrefix p "stream"),
        .write ">"] }).restore f rest) := by
    simp only [endElementNS, writeEndTag, exec_bind, exec_get, hout, hp, Bool.false_eq_true,
      ↓reduceIte, exec_write, reduceCtorEq]
    rw [exec_qname_mapped (n := ⟨some xmlstream, "stream"⟩) (p := p) _ hl hn hx']
    · simp [exec_popFrame, hs, XMPPXMLGenerator.restore]
    · exact hm
  obtain ⟨S', hS'⟩ := exec_endPrefixMappings (nsmapToUse xmlstream nsmap).keys
    (nsmapToUse xmlstream nsmap).nodup (({ g with out := g.out ++ [SinkOp.write "</",
      .write (joinPrefix p "stream"), .write ">"] }).restore f rest) S
    (by simp [XMPPXMLGenerator.restore, hS]) hk
  simp only [closeStream, exec_bind, hend, hS', endDocument, exec_pure]
  refine ⟨_, rfl, ?_, ?_⟩ <;> simp [XMPPXMLGenerator.restore, hp]

/-! ### Closing the generator -/

/-- After the header and well-nested objects, with no prefix left to close, `close()` ends the
stream element with the qname of its start tag and flushes. -/
theorem close_after_objects {xmlstream : String} {nsmap : PyDict Prefix Uri}
    {objs : List (Serialisation E)} {g : XMPPXMLGenerator}
    (hx0 : xmlstream ≠ "") (hx : xmlstream ≠ xmlNamespace)
    (hb : ∀ o ∈ objs, Balanced o.calls ∧ o.raises = none)
    (hrun : exec (do onWriter (writeHeader xmlstream nsmap); objs.forM sendObject : WriteM E Unit)
      (XMPPXMLGenerator.init true) = (.ok (), g))
    (hout : outstanding g.nsPrefixesFloatingOut = false) :
    (runWriteObjects xmlstream nsmap objs .close).1 = .error .generatorExit ∧
    ∃ q o, g.out = [.write "<", .write q] ++ o ∧
      (runWriteObjects xmlstream nsmap objs .close).2.out =
        g.out ++ [.write "</", .write q, .write ">", .flush] := by
  obtain ⟨_, gH, hH, hO⟩ := exec_bind_ok _ hrun
  obtain ⟨f, rest, p, o, hs, ⟨S, hS, hk⟩, hm, hp, -, ho⟩ :=
    writeHeader_ok hx0 hx (exec_onWriter_ok hH)
  obtain ⟨hs', hm', hp', ⟨o', ho'⟩⟩ := forM_sendObject_ok hb hO hp
  obtain ⟨g', hc, hc_out, hc_p⟩ := closeStream_ok hx0 hx (hs'.trans hs) hS hk
    (by rw [hm']; exact hm) hp' hout
  have hfin : exec (finallyClause xmlstream nsmap false) g =
      (.ok (), { g' with out := g'.out ++ [.flush] }) := by
    simp [finallyClause, hc, exec_flush, finishPending, hc_p]
  refine ⟨?_, joinPrefix p "stream", o ++ o', by rw [← ho', ho, List.append_assoc], ?_⟩ <;>
    simp [runWriteObjects, writeObjects, hH, hO, atYield, hfin, hc_out]

/-- **How the generator ends after well-nested objects.** Let the writer accept the header and
every call of the objects sent, each a well-nested sequence that raises nothing. `AbortStream`
thrown at the `yield` makes the generator return, and the writer is left as it was but for one
more flush. If the objects leave no prefix awaiting its `endPrefixMapping`, `close()` succeeds
(the `GeneratorExit` raised at the `yield` is what leaves the generator) and the `finally` clause
writes the end tag of the stream element, with the qname its start tag (the first thing written)
has, and flushes the sink last. -/
theorem stream_end_after_objects {xmlstream : String} {nsmap : PyDict Prefix Uri}
    {objs : List (Serialisation E)} {g : XMPPXMLGenerator}
    (hx0 : xmlstream ≠ "") (hx : xmlstream ≠ xmlNamespace)
    (hb : ∀ o ∈ objs, Balanced o.calls ∧ o.raises = none)
    (hrun : exec (do onWriter (writeHeader xmlstream nsmap); objs.forM sendObject : WriteM E Unit)
      (XMPPXMLGenerator.init true) = (.ok (), g)) :
    runWriteObjects xmlstream nsmap objs .abort = (.ok (), { g with out := g.out ++ [.flush] }) ∧
    (outstanding g.nsPrefixesFloatingOut = false →
      (runWriteObjects xmlstream nsmap objs .close).1 = .error .generatorExit ∧
      ∃ q o, g.out = [.write "<", .write q] ++ o ∧
        (runWriteObjects xmlstream nsmap objs .close).2.out =
          g.out ++ [.write "</", .write q, .write ">", .flush]) := by
  obtain ⟨_, gH, hH, hO⟩ := exec_bind_ok _ hrun
  obtain ⟨-, -, -, -, -, -, -, hp, -⟩ := writeHeader_ok hx0 hx (exec_onWriter_ok hH)
  have hf : g.finishPending = g := by simp [finishPending, (forM_sendObject_ok hb hO hp).2.2.1]
  exact ⟨by simp [runWriteObjects, writeObjects, hH, hO, atYield, finallyClause, exec_flush, hf],
    close_after_objects hx0 hx hb hrun⟩

/-- **Closing after objects that declare no prefix closes the stream.** Let the writer accept the
header and every call of the objects sent, each a well-nested sequence that raises nothing and
calls no `startPrefixMapping`. Then `close()` succeeds, and the `finally` clause writes the end tag
of the stream element, with the qname of its start tag, and flushes the sink last. -/
theorem close_after_prefix_free_objects {xmlstream : String} {nsmap : PyDict Prefix Uri}
    {objs : List (Serialisation E)} {g : XMPPXMLGenerator}
    (hx0 : xmlstream ≠ "") (hx : xmlstream ≠ xmlNamespace)
    (hb : ∀ o ∈ objs, Balanced o.calls ∧ o.raises = none)
    (hd : ∀ o ∈ objs, ∀ c ∈ o.calls, c.declaresPrefix = false)
    (hrun : exec (do onWriter (writeHeader xmlstream nsmap); objs.forM sendObject : WriteM E Unit)
      (XMPPXMLGenerator.init true) = (.ok (), g)) :
    (runWriteObjects xmlstream nsmap objs .close).1 = .error .generatorExit ∧
    ∃ q o, g.out = [.write "<", .write q] ++ o ∧
      (runWriteObjects xmlstream nsmap objs .close).2.out =
        g.out ++ [.write "</", .write q, .write ">", .flush] := by
  obtain ⟨_, gH, hH, hO⟩ := exec_bind_ok _ hrun
  obtain ⟨-, -, -, -, -, -, -, -, hq, -⟩ := writeHeader_ok hx0 hx (exec_onWriter_ok hH)
  exact close_after_objects hx0 hx hb hrun (forM_sendObject_quiet hb hd hO hq).closed

/-- The `nsmap` of a client stream: the prefixless namespace is `jabber:client`. -/
def defaultClientNsmap : PyDict Prefix Uri := ⟨[(none, some "jabber:client")], by decide⟩

/-- One object whose serialisation is an empty element `a` with no namespace. -/
def emptyElementObject : Serialisation Unit :=
  ⟨[.startElementNS ⟨none, "a"⟩ .empty, .endElementNS ⟨none, "a"⟩], none⟩

/-- The writer after the header on `urn:s` announcing `defaultClientNsmap`, and
`emptyElementObject`. -/
def afterEmptyElement : XMPPXMLGenerator :=
  (exec (do onWriter (writeHeader "urn:s" defaultClientNsmap); [emptyElementObject].forM sendObject :
    WriteM Unit Unit) (XMPPXMLGenerator.init true)).2

theorem stream_end_after_empty_element :
    runWriteObjects "urn:s" defaultClientNsmap [emptyElementObject] .abort =
      (.ok (), { afterEmptyElement with out := afterEmptyElement.out ++ [.flush] }) ∧
    outstanding afterEmptyElement.nsPrefixesFloatingOut = false ∧
    (runWriteObjects "urn:s" defaultClientNsmap [emptyElementObject] .close).1 = .error .generatorExit ∧
    ∃ q o, afterEmptyElement.out = [.write "<", .write q] ++ o ∧
      (runWriteObjects "urn:s" defaultClientNsmap [emptyElementObject] .close).2.out =
        afterEmptyElement.out ++ [.write "</", .write q, .write ">", .flush] :=
  have h := stream_end_after_objects (g := afterEmptyElement) (by decide) (by decide)
    (fun o ho => by rw [List.mem_singleton.mp ho]; exact ⟨.element .nil .nil, rfl⟩)
    (Prod.ext (by rfl) rfl)
  ⟨h.1, by decide, h.2 (by decide)⟩

theorem close_after_prefix_free_empty_element :
    (runWriteObjects "urn:s" defaultClientNsmap [emptyElementObject] .close).1 = .error .generatorExit ∧
    ∃ q o, afterEmptyElement.out = [.write "<", .write q] ++ o ∧
      (runWriteObjects "urn:s" defaultClientNsmap [emptyElementObject] .close).2.out =
        afterEmptyElement.out ++ [.write "</", .write q, .write ">", .flush] :=
  close_after_prefix_free_objects (by decide) (by decide)
    (fun o ho => by rw [List.mem_singleton.mp ho]; exact ⟨.element .nil .nil, rfl⟩)
    (fun o ho c hc => by
      rw [List.mem_singleton.mp ho] at hc
      rcases List.mem_pair.mp hc with rfl | rfl <;> rfl)
    (Prod.ext (by rfl) rfl)

example : written (runWriteObjects "urn:s" defaultClientNsmap [emptyElementObject] .close).2.out =
    "<stream:stream xmlns=\"jabber:client\" xmlns:stream=\"urn:s\"><a/></stream:stream>" := by decide

/-! ### An object that raises inside an element -/

/-- An object whose serialisation starts an unnamespaced element `a` and raises `e` before ending
it. -/
def openElementThenRaise (e : E) : Serialisation E :=
  ⟨[.startElementNS ⟨none, "a"⟩ .empty], some e⟩

/-- **The stream is not closed when an object raises inside an element.** With the default
`nsmap`, an object that raises `e` while its element `a` is open makes the `finally` clause end
`a` with the stream's end tag, which pops the frame of `a`; `endPrefixMapping("stream")` then finds
nothing to close and raises `KeyError('stream')`, which replaces `e`, and the last flush is never
made. The start tag of `a` is left unfinished. -/
theorem raise_inside_element_loses_exception (xmlstream : String) (hx : xmlstream ≠ xmlNamespace)
    (h0 : xmlstream ≠ "") (e : E) :
    (runWriteObjects xmlstream .empty [openElementThenRaise e] .close).1 =
      .error (.writer (.keyError (some "stream"))) ∧
    (runWriteObjects xmlstream .empty [openElementThenRaise e] .close).2.out =
      [.write "<", .write "stream:stream", .write " xmlns", .write ":", .write "stream", .write "=",
        .write (quoteattr xmlstream), .write ">", .flush, .write "<", .write "a", .write "</",
        .write "stream:stream", .write ">"] ∧
    written (runWriteObjects xmlstream .empty [openElementThenRaise e] .close).2.out =
      "<stream:stream xmlns:stream=" ++ quoteattr xmlstream ++ "><a</stream:stream>" := by
  have hs : xmlValidateNameValueStr "stream" = true := by decide
  have ha : xmlValidateNameValueStr "a" = true := by decide
  have hi : (nsmapToUse xmlstream .empty).items = [(some "stream", some xmlstream)] := rfl
  have hk : (nsmapToUse xmlstream .empty).keys = [some "stream"] := rfl
  have he : (PyDict.empty : PyDict Name String).items = [] := rfl
  have hke : (PyDict.empty : PyDict Prefix Uri).keys = [] := rfl
  simp [runWriteObjects, writeObjects, writeHeader, declarePrefixes, hi, hk, he, hke, hx, h0, hs, ha,
    openElementThenRaise, sendObject, Serialisation.unparseToSax, finallyClause, closeStream,
    runCalls, dispatch, startDocument, endDocument, exec_startPrefixMapping, startElementNS,
    exec_qname, qnameAttributes, List.mapM.loop, exec_pinFloatingNsDecls, writeStartTag,
    writeDefaultDecl, writeDecl, writePrefix, writeQuoted, sortedItems, exec_flush, endElementNS,
    writeEndTag, exec_popFrame, exec_endPrefixMapping, XMPPXMLGenerator.init,
    XMPPXMLGenerator.declare, XMPPXMLGenerator.resolve, XMPPXMLGenerator.finishPending,
    XMPPXMLGenerator.pin, XMPPXMLGenerator.frame, XMPPXMLGenerator.explicitPending,
    XMPPXMLGenerator.restore, isValidPrefix, isValidLocalName, truthy, outstanding, PyDict.contains,
    joinPrefix, written]
  rfl

theorem raise_inside_element_loses_exception_urn :
    ("urn:s" ≠ xmlNamespace ∧ "urn:s" ≠ "") ∧
    ((runWriteObjects "urn:s" .empty [openElementThenRaise ()] .close).1 =
      .error (.writer (.keyError (some "stream"))) ∧
    (runWriteObjects "urn:s" .empty [openElementThenRaise ()] .close).2.out =
      [.write "<", .write "stream:stream", .write " xmlns", .write ":", .write "stream", .write "=",
        .write (quoteattr "urn:s"), .write ">", .flush, .write "<", .write "a", .write "</",
        .write "stream:stream", .write ">"] ∧
    written (runWriteObjects "urn:s" .empty [openElementThenRaise ()] .close).2.out =
      "<stream:stream xmlns:stream=" ++ quoteattr "urn:s" ++ "><a</stream:stream>") :=
  ⟨⟨by decide, by decide⟩,
    @raise_inside_element_loses_exception Unit "urn:s" (by decide) (by decide) ()⟩

end XmppXml
