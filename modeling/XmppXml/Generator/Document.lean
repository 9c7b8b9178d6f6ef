import XmppXml.Generator.Prefixes
import XmppXml.Generator.EndTags
import XmppXml.Generator.WriteObjects

/-!
# The writer writes well-nested markup

The reader of `XmppXml.Tags` reads what the writer writes. `Reads g s` relates a writer and a
reader: the reader is inside a tag exactly when the writer defers a start tag, and then inside the
text of an open start tag. `ScanStep` is a step of the simulation: the writer stays `Settled`
(nothing declared with `auto=False` pending or left to close, every prefix valid, no declaration
pending), and the reader reads what it wrote without error, with the same elements open.

* `dispatch_ok_scanStep`: a call other than a start, an end or a declaration finishes the deferred
  start tag and writes text with no `<`;
* `startElementNS_ok_scan`: a start writes `<`, a name, its declarations and attributes, and `>`
  unless it is deferred, which the reader reads as the start tag of an element named as the writer
  named it;
* `element_scanStep`: the end of an element, `/>` after the deferred start tag or `</`, the name
  and `>`, closes the element the reader has open, since the end tag repeats the start tag's name;
* `prefix_free_run_well_nested`: by induction over `Balanced`, a well-nested run that declares no
  prefix writes markup that the reader reads without error and leaves where it found it;
* `readCharData_escape`: the text `characters` writes is read as character data, with its line ends
  normalised.

A run that declares prefixes is left out: a prefix declared again for the namespace of an open
element can make its end tag name another element (`XmppXml.Generator.EndTags`).
-/

namespace XmppXml

open XMPPXMLGenerator

/-! ### The text of a start tag -/

theorem written_append (o₁ o₂ : List SinkOp) : written (o₁ ++ o₂) = written o₁ ++ written o₂ := by
  induction o₁ with
  | nil => simp [written]
  | cons op o ih => cases op <;> simp [written, ih, String.append_assoc]

/-- `g'` is `g` with more text of a start tag written after its name. -/
def TagTail (g g' : XMPPXMLGenerator) : Prop :=
  ∃ o, g' = { g with out := g.out ++ o } ∧ AttrText (written o).data

theorem TagTail.refl (g : XMPPXMLGenerator) : TagTail g g :=
  ⟨[], by simp, by simpa [written] using AttrText.nil⟩

theorem TagTail.trans {g₁ g₂ g₃ : XMPPXMLGenerator} (h₁ : TagTail g₁ g₂) (h₂ : TagTail g₂ g₃) :
    TagTail g₁ g₃ := by
  obtain ⟨o₁, rfl, h₁⟩ := h₁
  obtain ⟨o₂, rfl, h₂⟩ := h₂
  exact ⟨o₁ ++ o₂, by simp, by rw [written_append, String.data_append]; exact h₁.append h₂⟩

/-- Writing a blank and then text with no `<` or `>` that does not end with `/`. -/
theorem TagTail.of_chunk (g : XMPPXMLGenerator) (o : List SinkOp) {x : List Char}
    (hw : (written o).data = ' ' :: x) (hx : NoAngle x) (hl : x.getLast? ≠ some '/') :
    TagTail g { g with out := g.out ++ o } :=
  ⟨o, rfl, hw ▸ AttrText.chunk hx hl⟩

theorem writeDecl_tagTail (g : XMPPXMLGenerator) {p : Prefix} (hp : NameText (p.getD "").data)
    (u : Uri) : TagTail g (exec (writeDecl p u) g).2 := by
  have hx : NoAngle "xmlns".data := by decide
  have hc : NoAngle ":".data := by decide
  have he : NoAngle ['='] := by decide
  unfold writeDecl writePrefix writeQuoted
  split_ifs <;> rcases u with _ | v <;> simp only [exec_bind, exec_write, exec_pure, exec_throw,
    List.append_assoc, List.singleton_append]
  · exact TagTail.of_chunk g _ (x := "xmlns".data ++ ":".data ++ (p.getD "").data ++ ['='])
      (by simp [written]) (((hx.append hc).append hp.noAngle).append he)
      (by rw [List.getLast?_concat]; decide)
  · exact TagTail.of_chunk g _
      (x := "xmlns".data ++ ":".data ++ (p.getD "").data ++ ['='] ++ (quoteattr v).data)
      (by simp [written]) ((((hx.append hc).append hp.noAngle).append he).append
        (noAngle_quoteattr v)) (getLast_append_quoteattr _ v)
  · exact TagTail.of_chunk g _ (x := "xmlns".data ++ ['=']) (by simp [written])
      (hx.append he) (by rw [List.getLast?_concat]; decide)
  · exact TagTail.of_chunk g _ (x := "xmlns".data ++ ['='] ++ (quoteattr v).data)
      (by simp [written]) ((hx.append he).append (noAngle_quoteattr v))
      (getLast_append_quoteattr _ v)

theorem writeDefaultDecl_tagTail (g : XMPPXMLGenerator) (pp : PyDict Prefix Uri) :
    TagTail g (exec (writeDefaultDecl pp) g).2 := by
  have hx : NoAngle "xmlns".data := by decide
  unfold writeDefaultDecl writeQuoted
  rcases pp.get? none with _ | _ | v <;>
    simp only [exec_bind, exec_write, exec_pure, exec_throw, List.append_assoc, List.singleton_append]
  · exact .refl g
  · exact TagTail.of_chunk g _ (x := "xmlns".data ++ ['=']) (by simp [written])
      (hx.append (by decide)) (by rw [List.getLast?_concat]; decide)
  · exact TagTail.of_chunk g _ (x := "xmlns".data ++ ['='] ++ (quoteattr v).data)
      (by simp [written]) ((hx.append (by decide)).append (noAngle_quoteattr v))
      (getLast_append_quoteattr _ v)

theorem writeAttr_tagTail (g : XMPPXMLGenerator) {n : String} (hn : NameText n.data) (v : String) :
    TagTail g (exec (writeAttr n v) g).2 := by
  simp only [writeAttr, exec_bind, exec_write, List.append_assoc, List.singleton_append]
  exact TagTail.of_chunk g _ (x := n.data ++ ['='] ++ (quoteattr v).data) (by simp [written])
    ((hn.noAngle.append (by decide)).append (noAngle_quoteattr v)) (getLast_append_quoteattr _ v)

/-- A start tag: `<`, the name, then declarations and attributes. -/
theorem writeStartTag_tagTail (g : XMPPXMLGenerator) (q : String) {pp : PyDict Prefix Uri}
    (hpp : ∀ p ∈ pp.keys, isValidPrefix p = true) {attrib : List (String × String)}
    (ha : ∀ a ∈ attrib, NameText a.1.data) :
    ∃ o, (exec (writeStartTag q pp attrib) g).2 =
      { g with out := g.out ++ [.write "<", .write q] ++ o } ∧ AttrText (written o).data := by
  have hd : ∀ d ∈ sortedItems (pp.erase none), NameText (d.1.getD "").data := by
    intro d hd
    rw [sortedItems, List.mem_insertionSort] at hd
    refine nameText_of_isValidPrefix (hpp _ ?_)
    exact (keys_eraseItems_sublist none pp.items).subset (List.mem_map_of_mem Prod.fst hd)
  obtain ⟨o, ho, ht⟩ := exec_bind_rel (R := TagTail) TagTail.trans
    (writeDefaultDecl_tagTail { g with out := g.out ++ [.write "<", .write q] } pp)
    fun _ g₃ => exec_bind_rel (R := TagTail) TagTail.trans
      (exec_forM_rel_mem TagTail.refl TagTail.trans _
        (fun d hm g => writeDecl_tagTail g (hd d hm) d.2) g₃)
      fun _ g₄ => exec_forM_rel_mem TagTail.refl TagTail.trans _
        (fun a hm g => writeAttr_tagTail g (ha a hm) a.2) g₄
  refine ⟨o, Eq.trans ?_ ho, ht⟩
  simp only [writeStartTag, exec_bind, exec_write, List.append_assoc, List.singleton_append]

/-- What a start that returns writes, from a writer holding only valid prefixes: the deferred start
tag finished, then `<`, a name of name characters, the declarations and attributes, and `>` as
well without short empty elements, when the tag is not deferred. -/
theorem startElementNS_ok_text {n : Name} {a : PyDict Name String} {g g' : XMPPXMLGenerator}
    (h : exec (startElementNS n a) g = (.ok (), g')) (hv : g.PrefixesValid) :
    ∃ q o, NameText q.data ∧ q.data ≠ [] ∧ AttrText (written o).data ∧
      g'.out = g.finishPending.out ++ [.write "<", .write q] ++ o ++
        (if g.shortEmptyElements then [] else [.write ">"]) ∧
      g'.pendingStartElement = if g.shortEmptyElements then some n else none := by
  obtain ⟨q, g₃, attrib, gq, g₆, h₃, h₄, -, h₆, rfl⟩ := startElementNS_ok h
  obtain ⟨o₀, hf⟩ := finishPending_eq g
  have hv₁ : g.finishPending.PrefixesValid :=
    hv.of_eq (by rw [hf]) (by rw [hf]) (by rw [hf]) (by rw [hf])
  have hv₃ := rel_of_exec (qname_keepsValid _ n false) h₃ hv₁
  have hvq := rel_of_exec (qnameAttributes_keepsValid _ a) h₄ hv₃
  obtain ⟨o, ho, ht⟩ := writeStartTag_tagTail (gq.pin g.finishPending.nsCounter) q hvq.pending
    (qnameAttributes_ok_nameText hv₃ h₄)
  rw [h₆] at ho
  subst ho
  obtain ⟨_, _, _, _, hgq⟩ := ((rel_of_exec (qname_resolves _ n false) h₃).trans
    (rel_of_exec (qnameAttributes_resolves _ a) h₄)).pendingOnly
  refine ⟨q, o, qname_ok_nameText hv₁ h₃, qname_ok_ne_nil h₃, ht, ?_⟩
  by_cases hs : g.shortEmptyElements <;> simp [pin, hgq, hf, hs]

/-! ### The writer read by the reader -/

/-- The reader has read what the writer wrote: it is inside a tag exactly when a start tag is
deferred, and then inside the text of an open start tag. -/
def Reads (g : XMPPXMLGenerator) (s : TagScan) : Prop :=
  (g.pendingStartElement = none ∧ s.tag = none) ∨
    (g.pendingStartElement ≠ none ∧ ∃ t, s.tag = some t ∧ OpenTag t)

/-- Finishing the deferred start tag opens its element for the reader. -/
theorem scan_finishPending {g : XMPPXMLGenerator} {s : TagScan} (hr : Reads g s) :
    ∃ o, g.finishPending.out = g.out ++ o ∧ scan s (written o).data = some ⟨s.names, none⟩ := by
  obtain ⟨st, tag⟩ := s
  rcases hr with ⟨hp, ht⟩ | ⟨hp, t, ht, hot⟩ <;> simp only at ht <;> subst ht
  · exact ⟨[], by simp [finishPending, hp], rfl⟩
  · refine ⟨[.write ">"], by simp [finishPending, Option.isSome_iff_ne_none.mpr hp], ?_⟩
    rw [show (written [.write ">"]).data = ['>'] from rfl, scan_cons, feed_startTag hot]
    rfl

/-- A writer in a run that declares no prefix, between two calls: nothing declared with
`auto=False` pending or left to close, every prefix valid, and no declaration pending. -/
structure XMPPXMLGenerator.Settled (g : XMPPXMLGenerator) : Prop where
  quiet : g.Quiet
  valid : g.PrefixesValid
  noDecls : ∀ u, g.nsDeclsFloatingIn.get? u = none

/-- From the writer `g`, read up to `s`, the writer reaches `g'` and stays settled; the reader
reads what it wrote without error and ends at `s'` with the same elements open; the start tag
deferred at the end, if any, is the one deferred at the start, with nothing read since. -/
def ScanStep (g g' : XMPPXMLGenerator) (s : TagScan) : Prop :=
  g'.Settled ∧ ∃ o s', g'.out = g.out ++ o ∧ scan s (written o).data = some s' ∧ Reads g' s' ∧
    s'.names = s.names ∧
    (g'.pendingStartElement = none ∨ (g'.pendingStartElement = g.pendingStartElement ∧ s' = s))

theorem ScanStep.refl {g : XMPPXMLGenerator} {s : TagScan} (hg : g.Settled) (hr : Reads g s) :
    ScanStep g g s :=
  ⟨hg, [], s, by simp, rfl, hr, rfl, .inr ⟨rfl, rfl⟩⟩

theorem ScanStep.trans {g₁ g₂ g₃ : XMPPXMLGenerator} {s : TagScan} (h₁ : ScanStep g₁ g₂ s)
    (h₂ : ∀ s', Reads g₂ s' → s'.names = s.names → ScanStep g₂ g₃ s') : ScanStep g₁ g₃ s := by
  obtain ⟨-, o₁, s₁, ho₁, hs₁, hr₁, hn₁, hp₁⟩ := h₁
  obtain ⟨hg₃, o₂, s₂, ho₂, hs₂, hr₂, hn₂, hp₂⟩ := h₂ s₁ hr₁ hn₁
  refine ⟨hg₃, o₁ ++ o₂, s₂, by simp [ho₂, ho₁], ?_, hr₂, hn₂.trans hn₁, ?_⟩
  · rw [written_append, String.data_append, scan_append, hs₁]
    exact hs₂
  · rcases hp₂ with hp₂ | ⟨hp₂, rfl⟩
    · exact .inl hp₂
    · rcases hp₁ with hp₁ | ⟨hp₁, rfl⟩
      · exact .inl (hp₂.trans hp₁)
      · exact .inr ⟨hp₂.trans hp₁, rfl⟩

theorem finishPending_pendingStartElement (g : XMPPXMLGenerator) :
    g.finishPending.pendingStartElement = none := by
  obtain ⟨o, hf⟩ := finishPending_eq g
  rw [hf]

/-- A call other than a start, an end or a declaration that returns changes at most the prefixes
left to close, or finishes the deferred start tag and writes text with no `<`. -/
theorem dispatch_ok_text {c : Call} {g g' : XMPPXMLGenerator} (h : exec (dispatch c) g = (.ok (), g'))
    (hc : c.depth = 0) (hd : c.declaresPrefix = false) :
    (∃ fo, g' = { g with nsPrefixesFloatingOut := fo }) ∨
      ∃ o, '<' ∉ (written o).data ∧ g' = { g.finishPending with out := g.finishPending.out ++ o } := by
  cases c with
  | startElementNS | endElementNS => simp [Call.depth] at hc
  | startPrefixMapping => simp [Call.declaresPrefix] at hd
  | endPrefixMapping pfx =>
    simp only [dispatch, exec_endPrefixMapping] at h
    split at h
    · simp at h
    · split_ifs at h <;> simp only [Prod.mk.injEq, reduceCtorEq, false_and, true_and] at h
      exact .inl ⟨_, h.symm⟩
  | characters chars =>
    simp only [dispatch, exec_characters] at h
    split_ifs at h <;> simp only [Prod.mk.injEq, reduceCtorEq, false_and, true_and] at h
    exact .inr ⟨[.write (escape chars)], by simpa [written] using lt_not_mem_escape chars, h.symm⟩
  | flush =>
    simp only [dispatch, exec_flush, Prod.mk.injEq, true_and] at h
    exact .inr ⟨[.flush], by simp [written], h.symm⟩
  | startDocument | endDocument =>
    simp only [dispatch, startDocument, endDocument, exec_pure, Prod.mk.injEq, true_and] at h
    exact .inl ⟨g.nsPrefixesFloatingOut, h.symm⟩
  | startElement | endElement | processingInstruction | skippedEntity | setDocumentLocator
    | ignorableWhitespace => cases h

/-- A call other than a start, an end or a declaration keeps a settled writer settled, and what it
writes is read: the deferred start tag finished, then text with no `<`. -/
theorem dispatch_ok_scanStep {c : Call} {g g' : XMPPXMLGenerator} {s : TagScan}
    (h : exec (dispatch c) g = (.ok (), g')) (hc : c.depth = 0) (hd : c.declaresPrefix = false)
    (hg : g.Settled) (hr : Reads g s) : ScanStep g g' s := by
  rcases dispatch_ok_text h hc hd with ⟨fo, rfl⟩ | ⟨o, ho, rfl⟩
  · exact ⟨⟨dispatch_ok_quiet h hc hd hg.quiet, dispatch_ok_prefixesValid h hg.valid, hg.noDecls⟩, [], s,
      by simp, rfl, hr, rfl, .inr ⟨rfl, rfl⟩⟩
  obtain ⟨o₀, hf, hs₀⟩ := scan_finishPending hr
  refine ⟨⟨dispatch_ok_quiet h hc hd hg.quiet, dispatch_ok_prefixesValid h hg.valid,
    by simpa [finishPending_nsDeclsFloatingIn] using hg.noDecls⟩, o₀ ++ o, ⟨s.names, none⟩,
    by simp [hf], ?_, .inl ⟨finishPending_pendingStartElement g, rfl⟩, rfl,
    .inl (finishPending_pendingStartElement g)⟩
  rw [written_append, String.data_append, scan_append, hs₀]
  exact scan_text ho

/-- A start that returns leaves no declaration pending: it pinned them all. -/
theorem startElementNS_ok_noDecls {n : Name} {a : PyDict Name String} {g g' : XMPPXMLGenerator}
    (h : exec (startElementNS n a) g = (.ok (), g')) (u : Uri) : g'.nsDeclsFloatingIn.get? u = none := by
  obtain ⟨q, g₃, attrib, gq, g₆, -, -, -, h₆, rfl⟩ := startElementNS_ok h
  obtain ⟨o, rfl⟩ := rel_of_exec (writeStartTag_outOnly _ _ _ _) h₆
  split_ifs <;> rfl

/-- A start from a writer holding only valid prefixes, with none left to close, leaves it settled,
and what it writes is read: the deferred start tag finished, then the new start tag with a name
`q`, left open while it is deferred. When the element's namespace is not both mapped and declared
again, resolving its name again, from any state with the map the start left, gives `q` and changes
nothing. -/
theorem startElementNS_ok_scan {n : Name} {a : PyDict Name String} {g g' : XMPPXMLGenerator}
    {s : TagScan} (h : exec (startElementNS n a) g = (.ok (), g')) (hv : g.PrefixesValid)
    (hout : outstanding g.nsPrefixesFloatingOut = false)
    (hc : g.currNsMap.get? n.uri = none ∨ g.nsDeclsFloatingIn.get? n.uri = none) (hr : Reads g s) :
    ∃ q : String, NoAngle q.data ∧
      (∀ g₂ s' g₂', g₂.currNsMap = g'.currNsMap → exec (qname n false) g₂ = (.ok s', g₂') →
        s' = q ∧ g₂' = g₂) ∧
      g'.Settled ∧ (g'.pendingStartElement = none ∨ g'.pendingStartElement = some n) ∧
      ∃ o s', g'.out = g.out ++ o ∧ scan s (written o).data = some s' ∧ Reads g' s' ∧
        s'.names = q.data :: s.names := by
  obtain ⟨q, o, hq, hq0, ho, ho₁, hpend⟩ := startElementNS_ok_text h hv
  obtain ⟨q', ⟨o', ho'⟩, -, hs⟩ := startElementNS_ok_qname h hc
  obtain rfl : q = q' := by
    rw [ho₁] at ho'
    simp only [List.append_assoc, List.append_cancel_left_eq, List.cons_append, List.cons.injEq,
      SinkOp.write.injEq] at ho'
    exact ho'.2.1
  obtain ⟨o₀, hf, hs₀⟩ := scan_finishPending hr
  have hp := startElementNS_ok_pinned h
  have hg' : g'.Settled := ⟨⟨hp.1, hp.2 ▸ hout⟩, startElementNS_ok_prefixesValid h hv,
    startElementNS_ok_noDecls h⟩
  have ht := openTag_startTag hq hq0 ho
  -- The reader inside the new start tag, after its name and its declarations and attributes.
  have hin : scan s (written (o₀ ++ [.write "<", .write q] ++ o)).data =
      some ⟨s.names, some (q.data ++ (written o).data).reverse⟩ := by
    rw [written_append, written_append, String.data_append, String.data_append, scan_append,
      scan_append, hs₀, Option.some_bind]
    simp only [written, String.append_empty, String.data_append]
    rw [List.singleton_append, scan_cons, feed_open, Option.some_bind, scan_inTag hq.noAngle,
      Option.some_bind, scan_inTag ho.noAngle]
    simp
  have hname : tagName (q.data ++ (written o).data) = q.data := tagName_append hq ho.blank
  refine ⟨q, hq.noAngle, hs, hg', by split_ifs at hpend <;> simp [hpend], ?_⟩
  by_cases hsh : g.shortEmptyElements = true
  · simp only [hsh, if_true, List.append_nil] at ho₁ hpend
    refine ⟨o₀ ++ [.write "<", .write q] ++ o, _, by rw [ho₁, hf]; simp, hin,
      .inr ⟨by simp [hpend], _, rfl, ht⟩, ?_⟩
    simp [TagScan.names, hname]
  · simp only [hsh, if_false] at ho₁ hpend
    refine ⟨o₀ ++ [.write "<", .write q] ++ o ++ [.write ">"], ⟨q.data :: s.names, none⟩,
      by rw [ho₁, hf]; simp, ?_, .inl ⟨hpend, rfl⟩, rfl⟩
    rw [written_append, String.data_append, scan_append, hin, Option.some_bind,
      show (written [.write ">"]).data = ['>'] from rfl, scan_cons, feed_startTag ht,
      List.reverse_reverse, hname]
    rfl

/-- An element read by the reader, given that its body is: the start tag opens it, and its end,
`/>` after the still deferred start tag or the closing tag with the start tag's name, closes it. -/
theorem element_scanStep {n : Name} {a : PyDict Name String} {body : List Call} (hb : Balanced body)
    (hd : ∀ c ∈ .startElementNS n a :: body ++ [.endElementNS n], c.declaresPrefix = false)
    (ih : ∀ {g g' : XMPPXMLGenerator} {s : TagScan}, exec (runCalls body) g = (.ok (), g') →
      g.Settled → Reads g s → ScanStep g g' s)
    {g g' : XMPPXMLGenerator} {s : TagScan}
    (h : exec (runCalls (.startElementNS n a :: body ++ [.endElementNS n])) g = (.ok (), g'))
    (hg : g.Settled) (hr : Reads g s) : ScanStep g g' s := by
  have hq' := balanced_quiet (.element hb .nil) hd h hg.quiet
  have hv' := runCalls_prefixesValid h hg.valid
  obtain ⟨g₁, h₁, h⟩ := runCalls_cons_ok h
  obtain ⟨g₂, h₂, h⟩ := runCalls_append_ok h
  obtain ⟨g₃, h₃, h⟩ := runCalls_cons_ok h
  simp only [exec_runCalls_nil, Prod.mk.injEq, true_and] at h
  subst h
  obtain ⟨q, hqa, hs, hg₁, hp₁, o₁, s₁, ho₁, hs₁, hr₁, hn₁⟩ :=
    startElementNS_ok_scan h₁ hg.valid hg.quiet.closed (.inr (hg.noDecls _)) hr
  obtain ⟨hg₂, o₂, s₂, ho₂, hs₂, hr₂, hn₂, hp₂⟩ := ih h₂ hg₁ hr₁
  obtain ⟨-, g₄, f, rest, h₄, -, rfl⟩ := endElementNS_ok h₃
  rcases writeEndTag_ok h₄ with ⟨hp, rfl⟩ | ⟨hp, q', g₅, h₅, rfl⟩
  · -- `/>`: the start tag is still deferred, and nothing was read since.
    obtain ⟨hpq, rfl⟩ := hp₂.resolve_left (by simp [hp])
    obtain ⟨-, t, ht, hot⟩ := hr₁.resolve_left (by simp [← hpq, hp])
    obtain ⟨st, tag⟩ := s₂
    obtain rfl : tag = some t := ht
    obtain ⟨-, rfl⟩ : tagName t.reverse = q.data ∧ st = s.names := by simpa [TagScan.names] using hn₁
    refine ⟨⟨hq', hv', hg₂.noDecls⟩, o₁ ++ o₂ ++ [.write "/>"], ⟨s.names, none⟩,
      by simp [restore, ho₂, ho₁], ?_, .inl ⟨rfl, rfl⟩, rfl, .inl rfl⟩
    rw [written_append, String.data_append, scan_append, written_append, String.data_append,
      scan_append, hs₁, Option.some_bind, hs₂, Option.some_bind,
      show (written [.write "/>"]).data = ['/', '>'] from rfl, scan_emptyTag hot]
  · -- `</q>`: the name resolves as it did at the start, and no start tag is deferred.
    have hm₂ := balanced_currNsMap hb h₂
    obtain ⟨rfl, rfl⟩ := hs { g₂ with out := g₂.out ++ [.write "</"] } q' g₅ hm₂ h₅
    have hpn : g₂.pendingStartElement = none := by
      rcases hp₂ with hp₂ | ⟨hp₂, -⟩
      · exact hp₂
      · rw [hp₂] at hp ⊢
        exact hp₁.resolve_right hp
    obtain ⟨st, tag⟩ := s₂
    obtain rfl : tag = none := (hr₂.resolve_right fun h => h.1 hpn).2
    obtain rfl : st = q'.data :: s.names := hn₂.trans hn₁
    refine ⟨⟨hq', hv', hg₂.noDecls⟩, o₁ ++ o₂ ++ [.write "</", .write q', .write ">"],
      ⟨s.names, none⟩, by simp [restore, ho₂, ho₁], ?_, .inl ⟨hpn, rfl⟩, rfl, .inl hpn⟩
    rw [written_append, String.data_append, scan_append, written_append, String.data_append,
      scan_append, hs₁, Option.some_bind, hs₂, Option.some_bind,
      show (written [.write "</", .write q', .write ">"]).data = '<' :: '/' :: q'.data ++ ['>'] by
        simp [written], scan_endTag hqa]

/-- A well-nested run that declares no prefix, from a settled writer, is read by the reader
without error, with the elements open at its start open at its end. -/
theorem balanced_scanStep {body : List Call} (hb : Balanced body)
    (hd : ∀ c ∈ body, c.declaresPrefix = false) :
    ∀ {g g' : XMPPXMLGenerator} {s : TagScan}, exec (runCalls body) g = (.ok (), g') →
      g.Settled → Reads g s → ScanStep g g' s := by
  induction hb with
  | nil =>
    intro g g' s h hg hr
    simp only [exec_runCalls_nil, Prod.mk.injEq, true_and] at h
    subst h
    exact .refl hg hr
  | other hc _ ih =>
    intro g g' s h hg hr
    obtain ⟨g₁, h₁, h₂⟩ := runCalls_cons_ok h
    have hs₁ := dispatch_ok_scanStep h₁ hc (hd _ (.head _)) hg hr
    exact hs₁.trans fun s' hr' _ => ih (fun c hc' => hd c (.tail _ hc')) h₂ hs₁.1 hr'
  | @element n a body cs hbody _ ihb ihc =>
    intro g g' s h hg hr
    rw [show Call.startElementNS n a :: body ++ Call.endElementNS n :: cs =
      (Call.startElementNS n a :: body ++ [Call.endElementNS n]) ++ cs by simp] at h hd
    obtain ⟨g₃, h₃, h⟩ := runCalls_append_ok h
    have hs₃ := element_scanStep hbody (fun c hc => hd c (List.mem_append_left _ hc))
      (ihb fun c hc => hd c (by simp [hc])) h₃ hg hr
    exact hs₃.trans fun s' hr' _ => ihc (fun c hc => hd c (List.mem_append_right _ hc)) h hs₃.1 hr'

/-- **A run that declares no prefix writes well-nested markup.** A well-nested sequence of calls
none of which is `startPrefixMapping`, run from a writer with no start tag deferred, no declaration
pending, nothing declared with `auto=False` pending or left to close and every prefix valid, leaves
no start tag deferred when it returns, and the reader reads what it wrote without error: every tag
is closed, each end tag names the innermost open element, and the elements open before the run
are the ones open after it. -/
theorem prefix_free_run_well_nested {body : List Call} (hb : Balanced body)
    (hd : ∀ c ∈ body, c.declaresPrefix = false) {g g' : XMPPXMLGenerator}
    (h : exec (runCalls body) g = (.ok (), g')) (hq : g.Quiet) (hv : g.PrefixesValid)
    (hn : ∀ u, g.nsDeclsFloatingIn.get? u = none) (hp : g.pendingStartElement = none)
    (st : List (List Char)) :
    g'.pendingStartElement = none ∧
      ∃ o, g'.out = g.out ++ o ∧ scan ⟨st, none⟩ (written o).data = some ⟨st, none⟩ := by
  obtain ⟨-, o, ⟨st', tag⟩, ho, hs, hr, hn', hp'⟩ :=
    balanced_scanStep hb hd h ⟨hq, hv, hn⟩ (s := ⟨st, none⟩) (.inl ⟨hp, rfl⟩)
  have hp'' : g'.pendingStartElement = none := hp'.elim id fun h => h.1.trans hp
  obtain rfl : tag = none := (hr.resolve_right fun h => h.1 hp'').2
  obtain rfl : st' = st := hn'
  exact ⟨hp'', o, ho, hs⟩

/-- A new writer is settled. -/
theorem XMPPXMLGenerator.Settled.init (b : Bool) : (XMPPXMLGenerator.init b).Settled where
  quiet := ⟨by simp [explicitPending, XMPPXMLGenerator.init, PyDict.keys, PyDict.empty], rfl⟩
  valid := ⟨by simp [XMPPXMLGenerator.init, PyDict.keys, PyDict.empty], by simp [XMPPXMLGenerator.init],
    by simp [XMPPXMLGenerator.init], by simp [XMPPXMLGenerator.init]⟩
  noDecls _ := rfl

/-- An element `x` in `urn:a` with the text `t` and an empty child `y`. -/
def nestedElement : List Call :=
  [.startElementNS ⟨some "urn:a", "x"⟩ .empty, .characters "t", .startElementNS ⟨some "urn:a", "y"⟩ .empty,
    .endElementNS ⟨some "urn:a", "y"⟩, .endElementNS ⟨some "urn:a", "x"⟩]

theorem prefix_free_run_well_nested_nested :
    (exec (runCalls nestedElement) (XMPPXMLGenerator.init true)).2.pendingStartElement = none ∧
      ∃ o, (exec (runCalls nestedElement) (XMPPXMLGenerator.init true)).2.out =
          (XMPPXMLGenerator.init true).out ++ o ∧
        scan ⟨[], none⟩ (written o).data = some ⟨[], none⟩ :=
  @prefix_free_run_well_nested nestedElement (.element (.other (c := .characters "t") rfl (.element .nil .nil)) .nil)
    (by decide) _ _ (Prod.ext (by rfl) rfl) (Settled.init true).quiet (Settled.init true).valid
    (Settled.init true).noDecls rfl []

example : written (exec (runCalls nestedElement) (XMPPXMLGenerator.init true)).2.out =
    "<ns0:x xmlns:ns0=\"urn:a\">t<ns0:y/></ns0:x>" := by decide

/-! ### Character data -/

/-- **What the reader makes of `characters`.** The text `characters` writes for `s`, `escape s`, is
read back as `s` with its line ends normalised, and is refused when `s` holds a character XML does
not allow (`U+FFFE` and `U+FFFF` pass the check of `characters`). Every call that returns writes
just that text after the deferred start tag, so `s` comes back as it was exactly when it is made of
XML characters and holds no carriage return. -/
theorem readCharData_escape (s : String) :
    readCharData (escape s) =
        (if s.data.all isXmlChar then some ⟨normalizeNewlines s.data⟩ else none) ∧
      ∀ {g g' : XMPPXMLGenerator}, exec (characters s) g = (.ok (), g') →
        ∃ t, g'.out = g.finishPending.out ++ [.write t] ∧
          readCharData t = (if s.data.all isXmlChar then some ⟨normalizeNewlines s.data⟩ else none) ∧
          (readCharData t = some s ↔ s.data.all isXmlChar ∧ '\r' ∉ s.data) := by
  refine ⟨readCharData_escape_eq s, fun h =>
    ⟨escape s, ?_, readCharData_escape_eq s, readCharData_escape_eq_iff s⟩⟩
  rw [exec_characters] at h
  split_ifs at h
  · simp at h
  · obtain ⟨-, rfl⟩ := Prod.mk.inj h
    rfl

theorem readCharData_escape_crlf :
    ∃ t, (exec (characters "a\r\nb") (XMPPXMLGenerator.init true)).2.out = [.write t] ∧
      readCharData t = some "a\nb" ∧ readCharData t ≠ some "a\r\nb" := by
  obtain ⟨-, hcall⟩ := readCharData_escape "a\r\nb"
  obtain ⟨t, ho, hr, hiff⟩ := hcall (g := XMPPXMLGenerator.init true) (Prod.ext (by rfl) rfl)
  exact ⟨t, ho, hr.trans (by decide), fun h => (hiff.mp h).2 (by decide)⟩

/-! ### The document `write_objects` writes -/

/-- Announcing prefixes keeps every prefix valid: `startPrefixMapping` refuses an invalid one. -/
theorem declarePrefixes_prefixesValid {d : PyDict Prefix Uri} {g g' : XMPPXMLGenerator}
    (h : exec (declarePrefixes d) g = (.ok (), g')) (hv : g.PrefixesValid) : g'.PrefixesValid := by
  refine rel_of_exec (exec_forM_rel (R := KeepsValid) KeepsValid.refl KeepsValid.trans
    (fun pu s => ?_) _ g) h hv
  obtain ⟨pfx, uri⟩ := pu
  show KeepsValid s (exec (startPrefixMapping pfx uri false) s).2
  rw [exec_startPrefixMapping]
  split_ifs with h₁
  · exact KeepsValid.refl s
  · exact KeepsValid.refl s
  · exact fun hv => hv.declare (by simpa using h₁) _ false

/-- The header read by the reader: from a new writer, a header that is written leaves the writer
settled with no start tag deferred, and the reader inside the stream element, whose start tag the
header begins with. -/
theorem writeHeader_scan {xmlstream : String} {nsmap : PyDict Prefix Uri} {gH : XMPPXMLGenerator}
    (hx0 : xmlstream ≠ "") (hx : xmlstream ≠ xmlNamespace)
    (h : exec (writeHeader xmlstream nsmap) (XMPPXMLGenerator.init true) = (.ok (), gH)) :
    gH.Settled ∧ gH.pendingStartElement = none ∧ ∃ q o, NoAngle q.data ∧
      gH.out = [.write "<", .write q] ++ o ∧ scan ⟨[], none⟩ (written gH.out).data = some ⟨[q.data], none⟩ := by
  obtain ⟨-, -, p, o, -, -, hm, hp, -, ho⟩ := writeHeader_ok hx0 hx h
  unfold writeHeader at h
  obtain ⟨_, g₁, h₁, h⟩ := exec_bind_ok _ h
  simp only [startDocument, exec_pure, Prod.mk.injEq] at h₁
  obtain ⟨-, rfl⟩ := h₁
  obtain ⟨_, g₂, h₂, h⟩ := exec_bind_ok _ h
  have hv₂ := declarePrefixes_prefixesValid h₂ (Settled.init true).valid
  obtain ⟨fi, de, hfold, -⟩ := foldl_declare (nsmapToUse xmlstream nsmap).items (init true)
  obtain rfl := (declarePrefixes_ok h₂).trans hfold
  obtain ⟨_, g₃, h₃, h⟩ := exec_bind_ok _ h
  obtain ⟨q, hq, hs, hg₃, -, o₃, s₃, ho₃, hs₃, hr₃, hn₃⟩ :=
    startElementNS_ok_scan h₃ hv₂ rfl (.inl rfl) (s := ⟨[], none⟩) (.inl ⟨rfl, rfl⟩)
  obtain ⟨hgH, o', ⟨st, tag⟩, hoH, hsH, hrH, hnH, -⟩ :=
    dispatch_ok_scanStep (c := .flush) h rfl rfl hg₃ hr₃
  -- The stream element's name, resolved at the end of the header, is the name of its start tag.
  obtain rfl : joinPrefix p "stream" = q := by
    simp only [exec_flush, Prod.mk.injEq] at h
    obtain ⟨-, rfl⟩ := h
    have hl : isValidLocalName "stream" = true := by decide
    exact (hs _ _ _ (finishPending_currNsMap g₃)
      (exec_qname_mapped _ hl (by simpa [truthy] using hx0) (by simpa using hx) hm)).1
  obtain rfl : tag = none := (hrH.resolve_right fun h => h.1 hp).2
  obtain rfl : st = [(joinPrefix p "stream").data] := hnH.trans hn₃
  refine ⟨hgH, hp, _, o, hq, ho, ?_⟩
  have ho₃' : g₃.out = o₃ := ho₃
  rw [hoH, ho₃', written_append, String.data_append, scan_append, hs₃, Option.some_bind, hsH]

/-- Objects that declare no prefix, sent to a settled writer, are read by the reader: each is
followed by its flush. -/
theorem forM_sendObject_scanStep {objs : List (Serialisation E)}
    (hb : ∀ o ∈ objs, Balanced o.calls ∧ o.raises = none)
    (hd : ∀ o ∈ objs, ∀ c ∈ o.calls, c.declaresPrefix = false) {g g' : XMPPXMLGenerator}
    {s : TagScan} (h : exec (objs.forM sendObject : WriteM E Unit) g = (.ok (), g'))
    (hg : g.Settled) (hr : Reads g s) : ScanStep g g' s := by
  induction objs generalizing g s with
  | nil =>
    simp only [List.forM, exec_pure, Prod.mk.injEq, true_and] at h
    subst h
    exact .refl hg hr
  | cons o objs ih =>
    simp only [List.forM] at h
    obtain ⟨_, g₁, h₁, h⟩ := exec_bind_ok g h
    obtain ⟨g₂, h₂, rfl⟩ := sendObject_ok_run (hb o (.head _)).2 h₁
    have hs₂ := balanced_scanStep (hb o (.head _)).1 (hd o (.head _)) h₂ hg hr
    have hs₁ := hs₂.trans fun s' hr' _ =>
      dispatch_ok_scanStep (c := .flush) (exec_flush (g := g₂)) rfl rfl hs₂.1 hr'
    exact hs₁.trans fun s' hr' _ =>
      ih (fun o ho => hb o (.tail _ ho)) (fun o ho => hd o (.tail _ ho)) h hs₁.1 hr'

/-- **A stream closed after objects that declare no prefix is a well-nested document.** Let the
writer accept the header and every call of the objects sent, each a well-nested sequence that
raises nothing and calls no `startPrefixMapping`. Then what `write_objects` writes, when it is
closed, is read by the reader from the start without error, and leaves no tag unfinished and no
element open: the stream element, and every element inside it, is closed by an end tag of its own
name. -/
theorem closed_stream_well_nested {xmlstream : String} {nsmap : PyDict Prefix Uri}
    {objs : List (Serialisation E)} {g : XMPPXMLGenerator}
    (hx0 : xmlstream ≠ "") (hx : xmlstream ≠ xmlNamespace)
    (hb : ∀ o ∈ objs, Balanced o.calls ∧ o.raises = none)
    (hd : ∀ o ∈ objs, ∀ c ∈ o.calls, c.declaresPrefix = false)
    (hrun : exec (do onWriter (writeHeader xmlstream nsmap); objs.forM sendObject : WriteM E Unit)
      (XMPPXMLGenerator.init true) = (.ok (), g)) :
    scan ⟨[], none⟩ (written (runWriteObjects xmlstream nsmap objs .close).2.out).data =
      some ⟨[], none⟩ := by
  obtain ⟨_, gH, hH, hO⟩ := exec_bind_ok _ hrun
  obtain ⟨hgH, hpH, q, o, hq, hoH, hsH⟩ := writeHeader_scan hx0 hx (exec_onWriter_ok hH)
  obtain ⟨hg, o₁, ⟨st, tag⟩, ho₁, hs₁, hr₁, hn₁, hp₁⟩ :=
    forM_sendObject_scanStep hb hd hO hgH (s := ⟨[q.data], none⟩) (.inl ⟨hpH, rfl⟩)
  obtain ⟨-, q₀, o₀, ho₀, hout⟩ := close_after_objects hx0 hx hb hrun hg.quiet.closed
  -- The end tag `close()` writes names the stream element.
  obtain rfl : q = q₀ := by
    rw [ho₁, hoH] at ho₀
    simp only [List.append_assoc, List.cons_append, List.cons.injEq, SinkOp.write.injEq] at ho₀
    exact ho₀.2.1
  have hp : g.pendingStartElement = none := hp₁.elim id fun h => h.1.trans hpH
  obtain rfl : tag = none := (hr₁.resolve_right fun h => h.1 hp).2
  obtain rfl : st = [q.data] := hn₁
  rw [hout, written_append, String.data_append, scan_append, ho₁, written_append,
    String.data_append, scan_append, hsH, Option.some_bind, hs₁, Option.some_bind,
    show (written [.write "</", .write q, .write ">", .flush]).data = '<' :: '/' :: q.data ++ ['>'] by
      simp [written], scan_endTag hq]

theorem closed_stream_well_nested_empty_element :
    scan ⟨[], none⟩ (written (runWriteObjects "urn:s" defaultClientNsmap [emptyElementObject] .close).2.out).data =
      some ⟨[], none⟩ :=
  closed_stream_well_nested (g := afterEmptyElement) (by decide) (by decide)
    (fun o ho => by rw [List.mem_singleton.mp ho]; exact ⟨.element .nil .nil, rfl⟩)
    (fun o ho c hc => by
      rw [List.mem_singleton.mp ho] at hc
      rcases List.mem_pair.mp hc with rfl | rfl <;> rfl)
    (Prod.ext (by rfl) rfl)

end XmppXml
