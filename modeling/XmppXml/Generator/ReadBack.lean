import XmppXml.Generator.StartTag
import XmppXml.Generator.Declarations

/-!
# Names read back

What a whole run of the writer means to a reader with namespaces (`nsScan`): on a well-nested run
whose declarations keep the discipline of `DeclScope`, every element is read with the namespace
and local name it was started with, and with the names and values of its attributes, in order.
Each start follows `readStartTag_written`; between calls the reader follows the writer
(`NsReads`): the scopes the reader is in agree with the writer's map, and every binding in them is
an automatic prefix or one the caller declared (`Scoped`), so the declarations the caller announces
shadow no binding in use. Over a well-nested run the reader reads every element started
(`balanced_nsStep`).

* `startedElements`: the elements a run should be read as;
* `Scoped`, `NsReads`, `NsStep`: the reader follows the writer between calls, and over a run;
* `prefix_free_run_reads_back`: a fresh writer's document is read back with its names;
* `declared_run_reads_back`: so is one whose declarations keep the discipline;
* `closed_stream_reads_back`: so is the stream `write_objects` writes and `close()` ends, with
  the prefixes its header announces.
-/

namespace XmppXml

open XMPPXMLGenerator

/-! ### What the reader should read of a run -/

/-- The elements a call starts. -/
def Call.started : Call → List ReadElement
  | .startElementNS n a => [expectElement n a]
  | _ => []

/-- The elements a sequence of calls starts, in order. -/
def startedElements (cs : List Call) : List ReadElement := cs.flatMap Call.started

/-- The namespaces of the names of a call and the values of its attributes are as a document with
namespaces can hold them, and no two of its attributes have one expanded name. -/
def Call.XmlText : Call → Prop
  | .startElementNS n a => n.XmlUri ∧ (∀ x ∈ a.items, x.1.XmlUri ∧ x.2.data.all isXmlChar = true) ∧
      (a.items.map fun x => expectName x.1).Nodup
  | _ => True

/-! ### The scopes of the writer, the caller and the reader -/

/-- The writer `g`, the caller's scopes `ds` and the reader's scopes `S` agree: every pending prefix
is a valid one the caller announced, and the announced ones keep the discipline; the pending
declarations are the pending prefixes read the other way; the scopes `S` agree with the writer's
map; every binding in them is an automatic prefix or one an open element declares; and every
namespace the map gives a prefix is in scope by an open element. -/
structure Scoped (g : XMPPXMLGenerator) (ds : DeclScope) (S : List Bindings) : Prop where
  pending : ∀ p u, g.nsPrefixesFloatingIn.get? p = some u → ∃ ps us, p = some ps ∧ u = some us ∧
    isValidPrefix (some ps) = true ∧ (ps, us) ∈ ds.pending
  fresh : ds.Fresh
  decls : ∀ u p, g.nsDeclsFloatingIn.get? u = some p → g.nsPrefixesFloatingIn.get? p = some u
  agree : Agree g.currNsMap g.nsCounter S
  declared : ∀ b ∈ S, ∀ x ∈ b, (∃ K, x.1 = some (nsName K).data) ∨
    ∃ f ∈ ds.frames, ∃ d ∈ f.1, x = (some d.1.data, d.2.data)
  inScope : ∀ u p, g.currNsMap.get? u = some p → ∃ us, u = some us ∧ ∃ f ∈ ds.frames, us ∈ f.2

section Scopes

variable {g : XMPPXMLGenerator} {ds : DeclScope} {S : List Bindings}

/-- The pending prefixes are fresh for the start that pins them: a prefix the caller announced is
bound in the scopes, if at all, to the namespace announced. -/
theorem Scoped.freshPending (h : Scoped g ds S) : FreshPending g.nsCounter S g where
  prefixes p u hp := by
    obtain ⟨ps, us, rfl, rfl, hv, hm⟩ := h.pending p u hp
    obtain ⟨hK, hx, hc⟩ := h.fresh _ hm
    refine ⟨ps, us, rfl, rfl, hv, hx, fun v hl => ?_, fun K hK' => absurd hK' (hK K)⟩
    obtain ⟨b, hb, hx'⟩ := mem_of_lookupPrefix hl
    rcases h.declared b hb _ hx' with ⟨K, hK'⟩ | ⟨f, hf, d, hd, hde⟩
    · exact absurd (String.ext (Option.some.inj hK')) (hK K)
    · simp only [Prod.mk.injEq, Option.some.injEq] at hde
      rw [hde.2, hc f hf d hd (String.ext hde.1.symm)]
  decls := h.decls
  counter := le_rfl

/-- An announcement the discipline allows keeps the scopes in agreement. -/
theorem Scoped.declare (h : Scoped g ds S) {p u : String} (hv : isValidPrefix (some p) = true)
    (hc : g.nsPrefixesFloatingIn.contains (some p) = false) (hK : ∀ K, p ≠ nsName K)
    (hx : DeclarableUri u) (hf : ∀ f ∈ ds.frames, ∀ d ∈ f.1, d.1 = p → d.2 = u) :
    Scoped (g.declare (some p) (some u) false) { ds with pending := (p, u) :: ds.pending } S where
  pending p' u' hp := by
    simp only [XMPPXMLGenerator.declare, PyDict.get?_assign] at hp
    split_ifs at hp with he
    · obtain rfl : u' = some u := (Option.some.inj hp).symm
      exact ⟨p, u, he.symm, rfl, hv, .head _⟩
    · obtain ⟨ps, us, h₁, h₂, hv', hm⟩ := h.pending p' u' hp
      exact ⟨ps, us, h₁, h₂, hv', .tail _ hm⟩
  fresh := by
    rintro d (_ | ⟨_, hd⟩)
    · exact ⟨hK, hx, hf⟩
    · exact h.fresh d hd
  decls u' p' hp := by
    simp only [XMPPXMLGenerator.declare, PyDict.get?_assign] at hp ⊢
    split_ifs at hp with he
    · cases hp; simpa using he
    · have hpu := h.decls u' p' hp
      have hne : some p ≠ p' := by
        rintro rfl
        simp [PyDict.contains, hpu] at hc
      rw [if_neg hne]
      exact hpu
  agree := h.agree
  declared := h.declared
  inScope := h.inScope

/-- A writer that agrees with `g` on the pending prefixes and declarations, the map and the
counter is in the same scopes. -/
theorem Scoped.of_eq {g' : XMPPXMLGenerator} (h : Scoped g ds S)
    (hp : g'.nsPrefixesFloatingIn = g.nsPrefixesFloatingIn) (hd : g'.nsDeclsFloatingIn = g.nsDeclsFloatingIn)
    (hm : g'.currNsMap = g.currNsMap) (hc : g'.nsCounter = g.nsCounter) : Scoped g' ds S where
  pending := by rw [hp]; exact h.pending
  fresh := h.fresh
  decls := by rw [hp, hd]; exact h.decls
  agree := by rw [hm, hc]; exact h.agree
  declared := h.declared
  inScope := by rw [hm]; exact h.inScope

end Scopes

/-! ### The reader follows the writer -/

/-- The reader has read, up to `s`, what the writer `g` wrote, in scopes that agree (`Scoped`): when
no start tag is deferred the reader is outside any tag, has read the elements `E` and is in the
scopes `S`; when one is deferred the reader is inside it, and reading it gives the element that ends
`E` and the bindings `S` adds. -/
structure NsReads (g : XMPPXMLGenerator) (ds : DeclScope) (s : NsScan) (E : List ReadElement)
    (S : List Bindings) : Prop where
  scoping : Scoped g ds S
  reads : (g.pendingStartElement = none ∧ s.tags.tag = none ∧ s.read = E ∧ s.scopes = S) ∨
    (g.pendingStartElement ≠ none ∧ ∃ t b e, s.tags.tag = some t ∧ OpenTag t ∧
      readStartTag s.scopes t.reverse = some (b, e) ∧ s.read ++ [e] = E ∧ b :: s.scopes = S)

section Reading

variable {g g' : XMPPXMLGenerator} {ds ds' : DeclScope} {s : NsScan} {E : List ReadElement}
  {S : List Bindings}

/-- Finishing the deferred start tag: the reader reads it, and is then outside any tag, has read
the elements `E` and is in the scopes `S`. -/
theorem nsScan_finishPending (hr : NsReads g ds s E S) :
    ∃ o, g.finishPending.out = g.out ++ o ∧
      nsScan s (written o).data = some ⟨⟨s.tags.names, none⟩, S, E⟩ ∧
      NsReads g.finishPending ds ⟨⟨s.tags.names, none⟩, S, E⟩ E S := by
  have hr' : NsReads g.finishPending ds ⟨⟨s.tags.names, none⟩, S, E⟩ E S :=
    ⟨hr.scoping.of_eq (finishPending_nsPrefixesFloatingIn g) (finishPending_nsDeclsFloatingIn g)
      (finishPending_currNsMap g) (finishPending_nsCounter g),
      .inl ⟨finishPending_pendingStartElement g, rfl, rfl, rfl⟩⟩
  obtain ⟨⟨st, tag⟩, sc, rd⟩ := s
  rcases hr.reads with ⟨hp, ht, hrd, hsc⟩ | ⟨hp, t, b, e, ht, hot, hrt, hrd, hsc⟩ <;>
    simp only at ht hrd hsc <;> subst ht hrd hsc
  · exact ⟨[], by simp [finishPending, hp], rfl, hr'⟩
  · refine ⟨[.write ">"], by simp [finishPending, Option.isSome_iff_ne_none.mpr hp], ?_, hr'⟩
    rw [show (written [.write ">"]).data = ['>'] from rfl, nsScan_startTag rfl hot hrt]
    rfl

/-- Text with no `<`, outside any tag, is read as text. -/
theorem nsScan_text (hs : s.tags.tag = none) {l : List Char} (hl : '<' ∉ l) : nsScan s l = some s := by
  obtain ⟨⟨st, tag⟩, sc, rd⟩ := s
  simp only at hs
  subst hs
  induction l with
  | nil => rfl
  | cons c l ih =>
    rw [List.mem_cons, not_or] at hl
    rw [nsScan_cons]
    simp only [NsScan.feed, feed_text (Ne.symm hl.1), Option.some_bind]
    exact ih hl.2

/-- `<` outside any tag, then text with no `<` or `>`: the reader is inside a tag with that text. -/
theorem nsScan_openTag {st : List (List Char)} {sc : List Bindings} {rd : List ReadElement}
    {l : List Char} (hl : NoAngle l) :
    nsScan ⟨⟨st, none⟩, sc, rd⟩ ('<' :: l) = some ⟨⟨st, some l.reverse⟩, sc, rd⟩ := by
  rw [nsScan_of_not_gt fun hgt => ?_, scan_cons, feed_open, Option.some_bind, scan_inTag hl]
  · simp
  · rcases List.mem_cons.mp hgt with h | h
    · cases h
    · exact (hl _ h).2 rfl

/-- From the writer `g`, read up to `s` with the elements `E` read and in the scopes `S`, the writer
reaches `g'` with the caller's scopes at `ds'`, and the reader reads what was written without
error: it has then read the elements `new` more, in the same scopes with the same elements open,
and the start tag deferred at the end, if any, is the one deferred at the start, with nothing read
since. -/
def NsStep (g g' : XMPPXMLGenerator) (ds' : DeclScope) (s : NsScan) (E : List ReadElement)
    (S : List Bindings) (new : List ReadElement) : Prop :=
  ∃ o s', g'.out = g.out ++ o ∧ nsScan s (written o).data = some s' ∧
    NsReads g' ds' s' (E ++ new) S ∧ s'.tags.names = s.tags.names ∧
    (g'.pendingStartElement = none ∨
      (g'.pendingStartElement = g.pendingStartElement ∧ s' = s ∧ new = []))

/-- A call that writes nothing and keeps the pending start tag is a step that reads nothing. -/
theorem NsStep.of_silent (hout : g'.out = g.out) (hp : g'.pendingStartElement = g.pendingStartElement)
    (hr : NsReads g' ds' s E S) : NsStep g g' ds' s E S [] :=
  ⟨[], s, by simp [hout], rfl, by simpa using hr, rfl, .inr ⟨hp, rfl, rfl⟩⟩

theorem NsStep.trans {g₁ g₂ g₃ : XMPPXMLGenerator} {ds₂ ds₃ : DeclScope}
    {new₁ new₂ : List ReadElement} (h₁ : NsStep g₁ g₂ ds₂ s E S new₁)
    (h₂ : ∀ s', NsReads g₂ ds₂ s' (E ++ new₁) S → s'.tags.names = s.tags.names →
      NsStep g₂ g₃ ds₃ s' (E ++ new₁) S new₂) :
    NsStep g₁ g₃ ds₃ s E S (new₁ ++ new₂) := by
  obtain ⟨o₁, s₁, ho₁, hs₁, hr₁, hn₁, hp₁⟩ := h₁
  obtain ⟨o₂, s₂, ho₂, hs₂, hr₂, hn₂, hp₂⟩ := h₂ s₁ hr₁ hn₁
  refine ⟨o₁ ++ o₂, s₂, by simp [ho₂, ho₁], ?_, by simpa using hr₂, hn₂.trans hn₁, ?_⟩
  · rw [written_append, String.data_append, nsScan_append, hs₁]
    exact hs₂
  · rcases hp₂ with hp₂ | ⟨hp₂, rfl, rfl⟩
    · exact .inl hp₂
    · rcases hp₁ with hp₁ | ⟨hp₁, rfl, rfl⟩
      · exact .inl (hp₂.trans hp₁)
      · exact .inr ⟨hp₂.trans hp₁, rfl, rfl⟩

/-- A call other than a start or an end, under the discipline: what it writes is read, and it reads
no element. -/
theorem dispatch_ok_nsStep {c : Call} (h : exec (dispatch c) g = (.ok (), g')) (hc : c.depth = 0)
    (hds : ds.step c = some ds') (hr : NsReads g ds s E S) : NsStep g g' ds' s E S [] := by
  cases hd : c.declaresPrefix
  · rw [DeclScope.step_of_depth hc hd] at hds
    cases hds
    rcases dispatch_ok_text h hc hd with ⟨fo, rfl⟩ | ⟨o, ho, rfl⟩
    · exact .of_silent rfl rfl ⟨hr.scoping.of_eq rfl rfl rfl rfl, hr.reads⟩
    obtain ⟨o₀, hf, hs₀, hr₀⟩ := nsScan_finishPending hr
    refine ⟨o₀ ++ o, ⟨⟨s.tags.names, none⟩, S, E⟩, by simp [hf], ?_,
      by rw [List.append_nil]; exact ⟨hr₀.scoping.of_eq rfl rfl rfl rfl, hr₀.reads⟩, rfl,
      .inl (finishPending_pendingStartElement g)⟩
    rw [written_append, String.data_append, nsScan_append, hs₀, Option.some_bind]
    exact nsScan_text rfl ho
  · cases c <;> simp [Call.declaresPrefix] at hd
    obtain ⟨p, u, rfl, rfl, hK, hx, hf, rfl⟩ := DeclScope.step_startPrefixMapping hds
    simp only [dispatch, exec_startPrefixMapping] at h
    split_ifs at h with hv hcon <;> simp only [Prod.mk.injEq, reduceCtorEq, false_and, true_and] at h
    subst h
    exact .of_silent rfl rfl
      ⟨hr.scoping.declare (by simpa using hv) (by simpa using hcon) hK hx hf, hr.reads⟩

/-- A start from a writer whose pending prefixes are fresh in the scopes `S`, with which its map
agrees: it writes after the deferred start tag `<`, a name and the declarations and attributes of
a tag that the reader reads, in the scopes `S`, as the element given, with bindings `b`, and `>` as
well without short empty elements. After it nothing is pending, the map agrees with the scopes `b`
extends, every binding in `b` is an automatic prefix or one pending before, and the map gives a
prefix to a namespace it did not before only where that namespace was pending or is one of the
element's names. -/
theorem startElementNS_ok_tag {n : Name} {a : PyDict Name String}
    (h : exec (startElementNS n a) g = (.ok (), g')) (hF : FreshPending g.nsCounter S g)
    (hS : Agree g.currNsMap g.nsCounter S) (hx : (Call.startElementNS n a).XmlText) :
    ∃ (q : String) (o : List SinkOp) (b : Bindings),
      g'.out = g.finishPending.out ++ [.write "<", .write q] ++ o ++
        (if g.shortEmptyElements then [] else [.write ">"]) ∧
      g'.pendingStartElement = (if g.shortEmptyElements then some n else none) ∧
      NameText q.data ∧ q.data ≠ [] ∧ AttrText (written o).data ∧
      readStartTag S (q.data ++ (written o).data) = some (b, expectElement n a) ∧
      (∀ p, g'.nsPrefixesFloatingIn.get? p = none) ∧ Agree g'.currNsMap g'.nsCounter (b :: S) ∧
      (∀ x ∈ b, (∃ K, x.1 = some (nsName K).data) ∨
        ∃ p u, g.nsPrefixesFloatingIn.get? (some p) = some (some u) ∧ x = (some p.data, u.data)) ∧
      ∀ u p, g'.currNsMap.get? u = some p → g.currNsMap.get? u = some p ∨ ∃ us, u = some us ∧
        ((∃ p', g.nsPrefixesFloatingIn.get? p' = some (some us)) ∨ us ∈ elementUris n a) := by
  obtain ⟨hxn, hxa, hnd⟩ := hx
  obtain ⟨q, g₃, attrib, gq, g₆, h₃, h₄, -, h₆, rfl⟩ := startElementNS_ok h
  obtain ⟨o₀, hf⟩ := finishPending_eq g
  have hA₀ : FreshPending g.nsCounter S g.finishPending := by
    rw [hf]; exact ⟨hF.prefixes, hF.decls, hF.counter⟩
  have hS₀ : Agree g.finishPending.currNsMap g.nsCounter S := by rw [hf]; exact hS
  -- The names, resolved: the element's, then the attributes'.
  obtain ⟨hA₃, hE₃, hwq⟩ := qname_writtenAs hS₀ hA₀ hxn h₃
  obtain ⟨hAq, hEq, hns, hwa⟩ :=
    qnameAttributes_writtenAs (hE₃.map ▸ hS₀) hA₃ (fun x hx' => (hxa x hx').1) h₄
  rw [hE₃.map] at hwa
  have hE : Extends (elementUris n a) g.finishPending gq :=
    (hE₃.mono fun _ h => List.mem_append_left _ h).trans (hEq.mono fun _ h => List.mem_append_right _ h)
  have hnames := attribNames_written hwa hns
  -- The tag.
  obtain ⟨o, ho, hwo⟩ := writeStartTag_written (gq.pin g.finishPending.nsCounter) q hAq.declared attrib
  rw [h₆, Prod.mk.injEq] at ho
  obtain ⟨-, rfl⟩ := ho
  obtain ⟨_, _, _, _, hgq⟩ := ((rel_of_exec (qname_resolves _ n false) h₃).trans
    (rel_of_exec (qnameAttributes_resolves _ a) h₄)).pendingOnly
  have hsh : gq.shortEmptyElements = g.shortEmptyElements := by rw [hgq, hf]
  have hag := hS₀.pin hAq
  rw [← hEq.map.trans hE₃.map] at hag
  -- A pending prefix of the start: one pending before, or an automatic one for a name.
  have hnew : ∀ p u, gq.nsPrefixesFloatingIn.get? p = some u → ∃ us, u = some us ∧
      (g.nsPrefixesFloatingIn.get? p = some (some us) ∨ (∃ K, p = some (nsName K)) ∧ us ∈ elementUris n a) := by
    intro p u hp
    rcases hE.fresh p u hp with hp₀ | ⟨hK, us, rfl, hus⟩
    · obtain ⟨-, us, -, rfl, -⟩ := hA₀.prefixes p u hp₀
      exact ⟨us, rfl, .inl (by rwa [hf] at hp₀)⟩
    · exact ⟨us, rfl, .inr ⟨hK, hus⟩⟩
  have hmap : ∀ g'' : XMPPXMLGenerator, g''.currNsMap = (gq.pin g.finishPending.nsCounter).currNsMap →
      ∀ u p, g''.currNsMap.get? u = some p → g.currNsMap.get? u = some p ∨ ∃ us, u = some us ∧
        ((∃ p', g.nsPrefixesFloatingIn.get? p' = some (some us)) ∨ us ∈ elementUris n a) := by
    intro g'' hg'' u p hp
    rw [hg'', pin, PyDict.get?_update] at hp
    cases hd : gq.nsDeclsFloatingIn.get? u with
    | some p' =>
      rw [hd, Option.or_some] at hp
      cases hp
      obtain ⟨us, rfl, hp₀ | ⟨-, hus⟩⟩ := hnew _ _ (hAq.decls u p hd)
      · exact .inr ⟨us, rfl, .inl ⟨p, hp₀⟩⟩
      · exact .inr ⟨us, rfl, .inr hus⟩
    | none =>
      rw [hd, Option.none_or, hE.map, hf] at hp
      exact .inl hp
  refine ⟨q, o, declBindings gq.nsPrefixesFloatingIn, ?_, ?_, hwq.nameText, qname_ok_ne_nil h₃,
    hwo ▸ attrText_chunks (tagRaws_written hAq fun x hx => (hnames x hx).1),
    hwo ▸ readStartTag_written hS₀ hAq (hwq.mono hEq.pending) hwa hns (fun y hy => (hxa y hy).2) hnd, ?_, ?_,
    fun x hx => ?_, hmap _ (by split_ifs <;> rfl)⟩
  · by_cases hs : g.shortEmptyElements <;> simp [pin, hsh, hs, hgq, hf]
  · by_cases hs : g.shortEmptyElements <;> simp [pin, hsh, hs, hgq, hf]
  · by_cases hs : g.shortEmptyElements <;> simp [pin, hsh, hs]
  · split_ifs <;> exact hag
  · obtain ⟨p, u, hp, rfl⟩ := mem_declBindings.mp hx
    obtain ⟨us, rfl, hp₀ | ⟨⟨K, hK⟩, -⟩⟩ := hnew _ _ hp
    · exact .inr ⟨p, us, hp₀, rfl⟩
    · cases hK
      exact .inl ⟨K, rfl⟩

/-- A start under the discipline, from a writer read up to `s`: what it writes is read, and the
reader reads the element with its name and attributes as they were given; the bindings of its start
tag are in scope until its end, and resolving its name again from the map the start left gives
the name of the tag. -/
theorem startElementNS_ok_nsRead {n : Name} {a : PyDict Name String}
    (h : exec (startElementNS n a) g = (.ok (), g')) (hds : ds.step (.startElementNS n a) = some ds')
    (hr : NsReads g ds s E S) (hx : (Call.startElementNS n a).XmlText) :
    ∃ (q : String) (b : Bindings), NoAngle q.data ∧
      (∀ g₂ s' g₂', g₂.currNsMap = g'.currNsMap → exec (qname n false) g₂ = (.ok s', g₂') →
        s' = q ∧ g₂' = g₂) ∧
      (g'.pendingStartElement = none ∨ g'.pendingStartElement = some n) ∧
      ∃ o s', g'.out = g.out ++ o ∧ nsScan s (written o).data = some s' ∧
        NsReads g' ds' s' (E ++ [expectElement n a]) (b :: S) ∧ s'.tags.names = q.data :: s.tags.names := by
  obtain ⟨hc, rfl⟩ := DeclScope.step_startElementNS hds
  have hsc := hr.scoping
  obtain ⟨q, o, b, ho, hpend, hq, hq0, ht, hread, hn', hag, hb, hm⟩ :=
    startElementNS_ok_tag h hsc.freshPending hsc.agree hx
  -- The element's namespace, if mapped, is in scope, so not declared again for it.
  have hnd : g.currNsMap.get? n.uri = none ∨ g.nsDeclsFloatingIn.get? n.uri = none := by
    cases hmp : g.currNsMap.get? n.uri with
    | none => exact .inl rfl
    | some p =>
      refine .inr ?_
      cases hdp : g.nsDeclsFloatingIn.get? n.uri with
      | none => rfl
      | some p' =>
        obtain ⟨us, hus, hin⟩ := hsc.inScope _ _ hmp
        obtain ⟨ps, us', -, hu', -, hmem⟩ := hsc.pending _ _ (hsc.decls _ _ hdp)
        rw [hus] at hu'
        cases hu'
        exact absurd rfl (hc us hus hin _ hmem)
  obtain ⟨q', ⟨o', ho'⟩, -, hs⟩ := startElementNS_ok_qname h hnd
  obtain rfl : q = q' := by
    rw [ho] at ho'
    simp only [List.append_assoc, List.append_cancel_left_eq, List.cons_append, List.cons.injEq,
      SinkOp.write.injEq] at ho'
    exact ho'.2.1
  -- The scopes after the start: the new frame holds the announced declarations.
  have hsc' : Scoped g' ⟨(ds.pending, ds.pending.map Prod.snd ++ elementUris n a) :: ds.frames, []⟩ (b :: S) :=
    ⟨fun p u hp => by simp [hn' p] at hp, fun d hd => (nomatch hd),
      fun u p hp => by simp [startElementNS_ok_noDecls h u] at hp, hag, fun b' hb' x hx' => ?_,
      fun u p hp => ?_⟩
  rotate_left
  · rcases List.mem_cons.mp hb' with rfl | hb'
    · rcases hb x hx' with hK | ⟨p, u, hp, rfl⟩
      · exact .inl hK
      · obtain ⟨ps, us, hps, hus, -, hmem⟩ := hsc.pending _ _ hp
        cases hps; cases hus
        exact .inr ⟨_, .head _, _, hmem, rfl⟩
    · exact (hsc.declared b' hb' x hx').imp_right fun ⟨f, hf, hd⟩ => ⟨f, .tail _ hf, hd⟩
  · rcases hm u p hp with hp₀ | ⟨us, rfl, ⟨p', hp'⟩ | hus⟩
    · obtain ⟨us, hus, f, hf, hin⟩ := hsc.inScope u p hp₀
      exact ⟨us, hus, f, .tail _ hf, hin⟩
    · obtain ⟨ps, us', -, hu', -, hmem⟩ := hsc.pending _ _ hp'
      cases hu'
      exact ⟨us, rfl, _, .head _, List.mem_append_left _ (List.mem_map.mpr ⟨_, hmem, rfl⟩)⟩
    · exact ⟨us, rfl, _, .head _, List.mem_append_right _ hus⟩
  obtain ⟨o₀, hf, hs₀, -⟩ := nsScan_finishPending hr
  have hot := openTag_startTag hq hq0 ht
  have hname : tagName (q.data ++ (written o).data) = q.data := tagName_append hq ht.blank
  have hna : NoAngle (q.data ++ (written o).data) := hq.noAngle.append ht.noAngle
  -- The reader inside the new start tag, after its name, declarations and attributes.
  have hin : nsScan s (written (o₀ ++ [.write "<", .write q] ++ o)).data =
      some ⟨⟨s.tags.names, some (q.data ++ (written o).data).reverse⟩, S, E⟩ := by
    have hw : (written (o₀ ++ [.write "<", .write q] ++ o)).data =
        (written o₀).data ++ '<' :: (q.data ++ (written o).data) := by
      simp [written_append, written]
    rw [hw, nsScan_append, hs₀, Option.some_bind, nsScan_openTag hna]
  refine ⟨q, b, hq.noAngle, hs, by split_ifs at hpend <;> simp [hpend], ?_⟩
  by_cases hsh : g.shortEmptyElements = true
  · simp only [hsh, if_true, List.append_nil] at ho hpend
    refine ⟨o₀ ++ [.write "<", .write q] ++ o, _, by rw [ho, hf]; simp, hin,
      ⟨hsc', .inr ⟨by simp [hpend], _, b, _, rfl, hot, by rwa [List.reverse_reverse], rfl, rfl⟩⟩, ?_⟩
    simp [TagScan.names, hname]
  · simp only [hsh, if_false] at ho hpend
    refine ⟨o₀ ++ [.write "<", .write q] ++ o ++ [.write ">"],
      ⟨⟨q.data :: s.tags.names, none⟩, b :: S, E ++ [expectElement n a]⟩, by rw [ho, hf]; simp, ?_,
      ⟨hsc', .inl ⟨hpend, rfl, rfl, rfl⟩⟩, rfl⟩
    rw [written_append, String.data_append, nsScan_append, hin, Option.some_bind,
      show (written [.write ">"]).data = ['>'] from rfl,
      nsScan_startTag rfl hot (by rwa [List.reverse_reverse]), List.reverse_reverse, hname]

/-- An element read by the reader, given that its body is: the reader reads the element with its
name and attributes, then its content, and its end, `/>` after the still deferred start tag or the
closing tag with the name of the start tag, closes it and the scope of its bindings. -/
theorem element_nsStep {n : Name} {a : PyDict Name String} {body : List Call} (hb : Balanced body)
    (hx : (Call.startElementNS n a).XmlText)
    (ih : ∀ {g g' : XMPPXMLGenerator} {ds ds' : DeclScope} {s : NsScan} {E : List ReadElement}
      {S : List Bindings}, exec (runCalls body) g = (.ok (), g') → ds.run body = some ds' →
        NsReads g ds s E S → NsStep g g' ds' s E S (startedElements body))
    (h : exec (runCalls (.startElementNS n a :: body ++ [.endElementNS n])) g = (.ok (), g'))
    (hds : ds.run (.startElementNS n a :: body ++ [.endElementNS n]) = some ds')
    (hr : NsReads g ds s E S) :
    NsStep g g' ds' s E S (expectElement n a :: startedElements body) := by
  have hres := element_restores hb h
  obtain ⟨ds₂, hds₁, hds₂, rfl⟩ := DeclScope.run_element hb hds
  obtain ⟨g₁, h₁, h⟩ := runCalls_cons_ok h
  obtain ⟨g₂, h₂, h⟩ := runCalls_append_ok h
  obtain ⟨g₃, h₃, h⟩ := runCalls_cons_ok h
  simp only [exec_runCalls_nil, Prod.mk.injEq, true_and] at h
  subst h
  obtain ⟨q, b, hqa, hs, hp₁, o₁, s₁, ho₁, hs₁, hr₁, hn₁⟩ :=
    startElementNS_ok_nsRead h₁ hds₁ hr hx
  obtain ⟨o₂, s₂, ho₂, hs₂, hr₂, hn₂, hp₂⟩ := ih h₂ hds₂ hr₁
  obtain ⟨-, g₄, f, rest, h₄, -, rfl⟩ := endElementNS_ok h₃
  -- The end restores the map and the counter; the announcements made inside stay pending.
  have hsc : ∀ g₅ : XMPPXMLGenerator, g₅.nsPrefixesFloatingIn = g₂.nsPrefixesFloatingIn →
      g₅.nsDeclsFloatingIn = g₂.nsDeclsFloatingIn →
      Scoped (g₅.restore f rest) { ds₂ with frames := ds.frames } S := by
    intro g₅ hp hd
    have hsc₂ := hr₂.scoping
    refine ⟨fun p u hq => hsc₂.pending p u (by rwa [← hp]), DeclScope.run_fresh hds hr.scoping.fresh,
      fun u p hq => by rw [restore, hp]; exact hsc₂.decls u p (by rwa [← hd]), ?_, hr.scoping.declared, ?_⟩
    · show Agree f.nsMap f.counter S
      rw [show f.nsMap = g.currNsMap from hres.2.1, show f.counter = g.nsCounter from hres.2.2.1]
      exact hr.scoping.agree
    · show ∀ u p, f.nsMap.get? u = some p → _
      rw [show f.nsMap = g.currNsMap from hres.2.1]
      exact hr.scoping.inScope
  rcases writeEndTag_ok h₄ with ⟨hp, rfl⟩ | ⟨hp, q', g₅, h₅, rfl⟩
  · -- `/>`: the start tag is still deferred, and nothing was read since.
    obtain ⟨hpq, rfl, hnew⟩ := hp₂.resolve_left (by simp [hp])
    obtain ⟨-, t, b', e, ht, hot, hrt, hrd, hsc'⟩ :=
      hr₁.reads.resolve_left fun h => by simp [← hpq, hp] at h
    obtain ⟨⟨st, tag⟩, sc, rd⟩ := s₂
    simp only at ht hrd hsc'
    subst ht
    obtain ⟨rfl, hsc'⟩ := List.cons.inj hsc'
    obtain ⟨hrd, he⟩ := List.append_inj' hrd rfl
    simp only [List.cons.injEq, and_true] at he
    subst sc rd he
    have hn₁' : tagName t.reverse :: st = q.data :: s.tags.names := hn₁
    obtain rfl := (List.cons.inj hn₁').2
    refine ⟨o₁ ++ o₂ ++ [.write "/>"], ⟨⟨s.tags.names, none⟩, S, E ++ [expectElement n a]⟩,
      by simp [restore, ho₂, ho₁], ?_, ⟨hsc _ rfl rfl, .inl ⟨rfl, rfl, by simp [hnew], rfl⟩⟩, rfl, .inl rfl⟩
    rw [written_append, String.data_append, nsScan_append, written_append, String.data_append,
      nsScan_append, hs₁, Option.some_bind, hs₂, Option.some_bind,
      show (written [.write "/>"]).data = ['/', '>'] from rfl, nsScan_emptyTag rfl hot hrt]
  · -- `</q>`: the name resolves as it did at the start, and no start tag is deferred.
    have hm₂ := balanced_currNsMap hb h₂
    obtain ⟨rfl, rfl⟩ := hs { g₂ with out := g₂.out ++ [.write "</"] } q' g₅ hm₂ h₅
    have hpn : g₂.pendingStartElement = none := by
      rcases hp₂ with hp₂ | ⟨hp₂, -⟩
      · exact hp₂
      · rw [hp₂] at hp ⊢
        exact hp₁.resolve_right hp
    obtain ⟨-, ht, hrd, hsc'⟩ := hr₂.reads.resolve_right fun h => h.1 hpn
    obtain ⟨⟨st, tag⟩, sc, rd⟩ := s₂
    simp only at ht hrd hsc'
    subst ht hrd hsc'
    obtain rfl : st = q'.data :: s.tags.names := hn₂.trans hn₁
    refine ⟨o₁ ++ o₂ ++ [.write "</", .write q', .write ">"],
      ⟨⟨s.tags.names, none⟩, S, E ++ [expectElement n a] ++ startedElements body⟩,
      by simp [restore, ho₂, ho₁], ?_, ⟨hsc _ rfl rfl, .inl ⟨hpn, rfl, by simp, rfl⟩⟩, rfl, .inl hpn⟩
    rw [written_append, String.data_append, nsScan_append, written_append, String.data_append,
      nsScan_append, hs₁, Option.some_bind, hs₂, Option.some_bind,
      show (written [.write "</", .write q', .write ">"]).data = '<' :: '/' :: q'.data ++ ['>'] by
        simp [written], nsScan_endTag rfl hqa rfl]

theorem Call.started_of_depth {c : Call} (hc : c.depth = 0) : c.started = [] := by
  cases c <;> simp_all [Call.depth, Call.started]

/-- **The reader follows a well-nested run under the discipline of declarations.** From a writer
read up to `s`, of names and values a document can hold: what the run writes is read, with every
element it starts read with its name and attributes, in order. -/
theorem balanced_nsStep {body : List Call} (hb : Balanced body) (hx : ∀ c ∈ body, c.XmlText) :
    ∀ {g g' : XMPPXMLGenerator} {ds ds' : DeclScope} {s : NsScan} {E : List ReadElement}
      {S : List Bindings}, exec (runCalls body) g = (.ok (), g') → ds.run body = some ds' →
        NsReads g ds s E S → NsStep g g' ds' s E S (startedElements body) := by
  induction hb with
  | nil =>
    intro g g' ds ds' s E S h hds hr
    simp only [exec_runCalls_nil, Prod.mk.injEq, true_and] at h
    cases hds
    subst h
    exact .of_silent rfl rfl (by simpa using hr)
  | @other c cs hc _ ih =>
    intro g g' ds ds' s E S h hds hr
    obtain ⟨g₁, h₁, h₂⟩ := runCalls_cons_ok h
    obtain ⟨ds₁, hds₁, hds₂⟩ := Option.bind_eq_some.mp hds
    have hs₁ := dispatch_ok_nsStep h₁ hc hds₁ hr
    rw [startedElements, List.flatMap_cons, Call.started_of_depth hc]
    exact hs₁.trans fun s' hr' _ => ih (fun c hc' => hx c (.tail _ hc')) h₂ hds₂ hr'
  | @element n a body cs hbody _ ihb ihc =>
    intro g g' ds ds' s E S h hds hr
    have hnew : startedElements (.startElementNS n a :: body ++ .endElementNS n :: cs) =
        (expectElement n a :: startedElements body) ++ startedElements cs := by
      simp [startedElements, Call.started]
    rw [hnew]
    rw [show Call.startElementNS n a :: body ++ Call.endElementNS n :: cs =
      (Call.startElementNS n a :: body ++ [Call.endElementNS n]) ++ cs by simp] at h hds hx
    obtain ⟨g₃, h₃, h⟩ := runCalls_append_ok h
    rw [DeclScope.run_append] at hds
    obtain ⟨ds₃, hds₃, hds⟩ := Option.bind_eq_some.mp hds
    have hs₃ := element_nsStep hbody (hx _ (by simp))
      (ihb fun c hc => hx c (by simp [hc])) h₃ hds₃ hr
    exact hs₃.trans fun s' hr' _ => ihc (fun c hc => hx c (List.mem_append_right _ hc)) h hds hr'

end Reading

/-! ### Documents read back -/

/-- A new writer, read from the start, with nothing open and nothing announced. -/
theorem NsReads.init (b : Bool) :
    NsReads (XMPPXMLGenerator.init b) .empty ⟨⟨[], none⟩, [], []⟩ [] [] :=
  ⟨⟨fun _ _ hp => (nomatch hp), fun _ hd => (nomatch hd), fun _ _ hp => (nomatch hp),
    ⟨fun _ _ hp => (nomatch hp), fun _ hb => (nomatch hb)⟩, fun _ hb => (nomatch hb),
    fun _ _ hp => (nomatch hp)⟩, .inl ⟨rfl, rfl, rfl, rfl⟩⟩

/-- A well-nested run of a new writer, under the discipline of declarations, of names and values a
document can hold: all it writes is read, every element closed and every scope left, with the
elements it starts. -/
theorem run_reads_back {body : List Call} (hb : Balanced body) (hx : ∀ c ∈ body, c.XmlText)
    {ds' : DeclScope} (hds : DeclScope.empty.run body = some ds') {b : Bool} {g' : XMPPXMLGenerator}
    (h : exec (runCalls body) (XMPPXMLGenerator.init b) = (.ok (), g')) :
    nsScan ⟨⟨[], none⟩, [], []⟩ (written g'.out).data = some ⟨⟨[], none⟩, [], startedElements body⟩ := by
  obtain ⟨o, ⟨⟨st, tag⟩, sc, rd⟩, ho, hs, hr, hn, hp⟩ := balanced_nsStep hb hx h hds (NsReads.init b)
  have hpn : g'.pendingStartElement = none := hp.elim id fun h => h.1
  obtain ⟨-, ht, hrd, hsc⟩ := hr.reads.resolve_right fun h => h.1 hpn
  simp only at ht hrd hsc hn
  subst ht hrd hsc hn
  rw [ho]
  simpa using hs

/-- **A document written without declared prefixes is read back with its names.** A well-nested
sequence of calls none of which is `startPrefixMapping`, whose names are in namespaces other than
that of `xmlns`, whose namespaces and attribute values are made of XML characters, and no two of
whose attributes share an expanded name (`Call.XmlText`), run on a fresh writer: when it returns, a
reader of tags with namespaces, which refuses what the namespaces recommendation forbids, reads all
that was written without error, every element closed and every scope left, and reads, in order,
each element started with its namespace, its local name and its attributes' names and values, as
they were given. -/
theorem prefix_free_run_reads_back {body : List Call} (hb : Balanced body)
    (hd : ∀ c ∈ body, c.declaresPrefix = false) (hx : ∀ c ∈ body, c.XmlText) {b : Bool}
    {g' : XMPPXMLGenerator} (h : exec (runCalls body) (XMPPXMLGenerator.init b) = (.ok (), g')) :
    nsScan ⟨⟨[], none⟩, [], []⟩ (written g'.out).data = some ⟨⟨[], none⟩, [], startedElements body⟩ :=
  run_reads_back hb hx (DeclScope.run_prefixFree hb hd rfl) h

/-- An element `x` in `urn:a` with an attribute `y` in `urn:b`, the text `t`, and an empty child `z`
in `urn:a`. -/
def attributedElement : List Call :=
  [.startElementNS ⟨some "urn:a", "x"⟩ ⟨[(⟨some "urn:b", "y"⟩, "v")], by decide⟩, .characters "t",
    .startElementNS ⟨some "urn:a", "z"⟩ .empty, .endElementNS ⟨some "urn:a", "z"⟩,
    .endElementNS ⟨some "urn:a", "x"⟩]

theorem prefix_free_run_reads_back_attributed :
    nsScan ⟨⟨[], none⟩, [], []⟩
        (written (exec (runCalls attributedElement) (XMPPXMLGenerator.init true)).2.out).data =
      some ⟨⟨[], none⟩, [], startedElements attributedElement⟩ :=
  prefix_free_run_reads_back (.element (.other (c := .characters "t") rfl (.element .nil .nil)) .nil)
    (by decide) (by simp [attributedElement, Call.XmlText, Name.XmlUri, PyDict.empty]; decide)
    (Prod.ext (by rfl) rfl)

example : written (exec (runCalls attributedElement) (XMPPXMLGenerator.init true)).2.out =
    "<ns0:x xmlns:ns0=\"urn:a\" xmlns:ns1=\"urn:b\" ns1:y=\"v\">t<ns0:z/></ns0:x>" := by decide

example : startedElements attributedElement =
    [((some "urn:a".data, "x".data), [((some "urn:b".data, "y".data), "v".data)]),
      ((some "urn:a".data, "z".data), [])] := by decide

/-- **A document whose declarations keep the discipline is read back with its names.** A
well-nested sequence of calls as `Call.XmlText` asks, whose `startPrefixMapping` calls each
declare a true prefix not of the form `nsN`, for a declarable namespace, rebind no prefix an
enclosing element declares to another namespace, and declare no namespace in scope again for an
element in it (`DeclScope.run`), run on a fresh writer: when it returns, a reader of tags with
namespaces, which refuses what the namespaces recommendation forbids, reads all that was written
without error, every element closed and every scope left, and reads, in order, each element
started with its namespace, its local name and its attributes' names and values, as they were
given. -/
theorem declared_run_reads_back {body : List Call} (hb : Balanced body) (hx : ∀ c ∈ body, c.XmlText)
    (hds : (DeclScope.empty.run body).isSome = true) {b : Bool} {g' : XMPPXMLGenerator}
    (h : exec (runCalls body) (XMPPXMLGenerator.init b) = (.ok (), g')) :
    nsScan ⟨⟨[], none⟩, [], []⟩ (written g'.out).data = some ⟨⟨[], none⟩, [], startedElements body⟩ := by
  obtain ⟨ds', hds'⟩ := Option.isSome_iff_exists.mp hds
  exact run_reads_back hb hx hds' h

/-- The prefix `a` declared for an element `x` in `urn:a` with an attribute `y` in `urn:b`, the
text `t`, then `b` declared for `urn:b`, already in scope, for an empty child `z` in `urn:c`. -/
def declaredElement : List Call :=
  [.startPrefixMapping (some "a") (some "urn:a"),
    .startElementNS ⟨some "urn:a", "x"⟩ ⟨[(⟨some "urn:b", "y"⟩, "v")], by decide⟩, .characters "t",
    .startPrefixMapping (some "b") (some "urn:b"), .startElementNS ⟨some "urn:c", "z"⟩ .empty,
    .endElementNS ⟨some "urn:c", "z"⟩, .endPrefixMapping (some "b"),
    .endElementNS ⟨some "urn:a", "x"⟩, .endPrefixMapping (some "a")]

theorem declared_run_reads_back_nested :
    nsScan ⟨⟨[], none⟩, [], []⟩
        (written (exec (runCalls declaredElement) (XMPPXMLGenerator.init true)).2.out).data =
      some ⟨⟨[], none⟩, [], startedElements declaredElement⟩ :=
  declared_run_reads_back
    (.other (by rfl) (.element (.other (by rfl) (.other (by rfl) (.element .nil (.other (by rfl) .nil))))
      (.other (by rfl) .nil)))
    (by simp [declaredElement, Call.XmlText, Name.XmlUri, PyDict.empty]; decide) (by decide)
    (Prod.ext (by rfl) rfl)

example : written (exec (runCalls declaredElement) (XMPPXMLGenerator.init true)).2.out =
    "<a:x xmlns:a=\"urn:a\" xmlns:ns0=\"urn:b\" ns0:y=\"v\">t<ns1:z xmlns:b=\"urn:b\" xmlns:ns1=\"urn:c\"/></a:x>" := by
  decide

/-! ### The stream `write_objects` writes -/

/-- The announcements of the header, as calls. -/
def declarationCalls (d : PyDict Prefix Uri) : List Call :=
  d.items.map fun x => .startPrefixMapping x.1 x.2

@[simp] theorem startedElements_declarationCalls (d : PyDict Prefix Uri) :
    startedElements (declarationCalls d) = [] := by
  rw [startedElements, declarationCalls, List.flatMap_eq_nil_iff]
  intro c hc
  obtain ⟨x, -, rfl⟩ := List.mem_map.mp hc
  rfl

theorem exec_declarePrefixes (d : PyDict Prefix Uri) (g : XMPPXMLGenerator) :
    exec (declarePrefixes d) g = exec (runCalls (declarationCalls d)) g := by
  unfold declarePrefixes declarationCalls
  generalize d.items = l
  induction l generalizing g with
  | nil => rfl
  | cons x l ih =>
    simp only [List.forM, List.map_cons, runCalls, dispatch, exec_bind, ih]

/-- An automatic prefix begins with `n`. -/
theorem ne_nsName_of_head {ps : String} (h : ps.data.head? ≠ some 'n') (K : Int) : ps ≠ nsName K := by
  rintro rfl
  simp [nsName] at h

theorem stream_ne_nsName : ∀ K, "stream" ≠ nsName K := ne_nsName_of_head (by decide)

/-- The prefixes the header announces: those of `nsmap`, and `stream` unless `nsmap` has it. -/
theorem nsmapToUse_items {xmlstream : String} {nsmap : PyDict Prefix Uri}
    (hxs : DeclarableUri xmlstream)
    (hns : ∀ x ∈ nsmap.items, ∃ p u, x = (some p, some u) ∧ (∀ K, p ≠ nsName K) ∧ DeclarableUri u) :
    ∀ x ∈ (nsmapToUse xmlstream nsmap).items,
      ∃ p u, x = (some p, some u) ∧ (∀ K, p ≠ nsName K) ∧ DeclarableUri u := by
  rintro ⟨k, v⟩ hx
  rw [PyDict.mem_items_iff, nsmapToUse, PyDict.get?_update] at hx
  cases hk : nsmap.get? k with
  | some v' =>
    rw [hk, Option.or_some] at hx
    cases hx
    exact hns _ (PyDict.mem_items_iff.mpr hk)
  | none =>
    rw [hk, Option.none_or, PyDict.get?_assign] at hx
    split_ifs at hx with h
    · cases hx; subst h
      exact ⟨_, _, rfl, stream_ne_nsName, hxs⟩
    · cases hx

/-- Announcements of true prefixes for URIs, as the pairs of strings they announce. -/
theorem exists_pairs {l : List (Prefix × Uri)} {P : String → String → Prop}
    (h : ∀ x ∈ l, ∃ p u, x = (some p, some u) ∧ P p u) :
    ∃ l' : List (String × String), l = l'.map (fun x => (some x.1, some x.2)) ∧ ∀ x ∈ l', P x.1 x.2 := by
  induction l with
  | nil => exact ⟨[], rfl, fun _ h => (nomatch h)⟩
  | cons x l ih =>
    obtain ⟨p, u, rfl, hp⟩ := h x (.head _)
    obtain ⟨l', rfl, hl'⟩ := ih fun y hy => h y (.tail _ hy)
    exact ⟨(p, u) :: l', rfl, fun y hy => (List.mem_cons.mp hy).elim (fun e => e ▸ hp) (hl' y)⟩

/-- **The header read by the reader.** Announced true prefixes none of which is of the form `nsN`,
for declarable URIs, and the stream element in a declarable namespace: the reader is then inside
the stream element, read with its name, in the scope of its bindings, with nothing announced. -/
theorem writeHeader_nsRead {xmlstream : String} {nsmap : PyDict Prefix Uri}
    {gH : XMPPXMLGenerator} (hxs : DeclarableUri xmlstream)
    (hns : ∀ x ∈ nsmap.items, ∃ p u, x = (some p, some u) ∧ (∀ K, p ≠ nsName K) ∧ DeclarableUri u)
    (h : exec (writeHeader xmlstream nsmap) (XMPPXMLGenerator.init true) = (.ok (), gH)) :
    ∃ (t : TagScan) (b : Bindings) (dsH : DeclScope), dsH.pending = [] ∧
      nsScan ⟨⟨[], none⟩, [], []⟩ (written gH.out).data =
        some ⟨t, [b], [expectElement ⟨some xmlstream, "stream"⟩ .empty]⟩ ∧
      NsReads gH dsH ⟨t, [b], [expectElement ⟨some xmlstream, "stream"⟩ .empty]⟩
        [expectElement ⟨some xmlstream, "stream"⟩ .empty] [b] := by
  unfold writeHeader at h
  obtain ⟨_, g₁, h₁, h⟩ := exec_bind_ok _ h
  simp only [startDocument, exec_pure, Prod.mk.injEq] at h₁
  obtain ⟨-, rfl⟩ := h₁
  obtain ⟨_, g₂, h₂, h⟩ := exec_bind_ok _ h
  obtain ⟨_, g₃, h₃, h⟩ := exec_bind_ok _ h
  rw [exec_declarePrefixes] at h₂
  -- The announcements: read as nothing, and pending.
  obtain ⟨l, hl, hlP⟩ := exists_pairs (nsmapToUse_items hxs hns)
  have hds₂ : DeclScope.empty.run (declarationCalls (nsmapToUse xmlstream nsmap)) =
      some { DeclScope.empty with pending := l.reverse ++ [] } := by
    rw [declarationCalls, hl, List.map_map]
    exact DeclScope.run_declarations l fun x hx => ⟨(hlP x hx).1, (hlP x hx).2, fun f hf => (nomatch hf)⟩
  have hcalls : ∀ c ∈ declarationCalls (nsmapToUse xmlstream nsmap), c.depth = 0 := fun c hc => by
    obtain ⟨x, -, rfl⟩ := List.mem_map.mp hc
    rfl
  obtain ⟨o₂, ⟨⟨st, tag⟩, sc, rd⟩, ho₂, hs₂, hr₂, hn₂, hp₂⟩ := balanced_nsStep (Balanced.of_depth hcalls)
    (fun c hc => by obtain ⟨x, -, rfl⟩ := List.mem_map.mp hc; trivial) h₂ hds₂
    (NsReads.init true)
  rw [startedElements_declarationCalls, List.nil_append] at hr₂
  have hpend₂ : g₂.pendingStartElement = none := hp₂.elim id fun h => h.1
  obtain ⟨-, ht, hrd, hsc⟩ := hr₂.reads.resolve_right fun h => h.1 hpend₂
  simp only at ht hrd hsc hn₂
  subst ht hrd hsc hn₂
  -- The stream element, then the flush.
  have hds₃ : DeclScope.step { DeclScope.empty with pending := l.reverse ++ [] }
      (.startElementNS ⟨some xmlstream, "stream"⟩ .empty) =
        some ⟨[(l.reverse ++ [], (l.reverse ++ []).map Prod.snd ++
          elementUris ⟨some xmlstream, "stream"⟩ .empty)], []⟩ := by
    simp [DeclScope.step, DeclScope.empty]
  obtain ⟨-, b, -, -, -, o₃, s₃, ho₃, hs₃, hr₃, -⟩ := startElementNS_ok_nsRead h₃ hds₃ hr₂
    ⟨fun us hu => by cases hu; exact ⟨hxs.1, hxs.2.2.2⟩, fun x hx => (nomatch hx), List.nodup_nil⟩
  obtain ⟨o₄, ⟨⟨st, tag⟩, sc, rd⟩, ho₄, hs₄, hr₄, -, -⟩ :=
    dispatch_ok_nsStep (c := .flush) h rfl (DeclScope.step_of_depth rfl rfl) hr₃
  have hpH : gH.pendingStartElement = none := by
    rw [exec_flush, Prod.mk.injEq] at h
    rw [← h.2]
    exact finishPending_pendingStartElement g₃
  obtain ⟨-, ht, hrd, hsc⟩ := hr₄.reads.resolve_right fun h => h.1 hpH
  simp only [List.nil_append, List.append_nil] at ht hrd hsc hr₄
  subst ht hrd hsc
  refine ⟨_, b, _, rfl, ?_, hr₄⟩
  rw [ho₄, ho₃, ho₂, show (XMPPXMLGenerator.init true).out = [] from rfl, List.nil_append]
  simp only [written_append, String.data_append, nsScan_append]
  rw [hs₂, Option.some_bind, hs₃, Option.some_bind, hs₄]

/-- Objects that declare no prefix, of names and values a document can hold, sent to a writer read
by the reader with nothing announced: what they write is read, with every element they start, in
order. -/
theorem forM_sendObject_nsStep {ε : Type} {objs : List (Serialisation ε)}
    (hb : ∀ o ∈ objs, Balanced o.calls ∧ o.raises = none)
    (hd : ∀ o ∈ objs, ∀ c ∈ o.calls, c.declaresPrefix = false)
    (hxt : ∀ o ∈ objs, ∀ c ∈ o.calls, c.XmlText) {g g' : XMPPXMLGenerator} {ds : DeclScope} {s : NsScan}
    {E : List ReadElement} {S : List Bindings} (hp : ds.pending = [])
    (h : exec (objs.forM sendObject : WriteM ε Unit) g = (.ok (), g')) (hr : NsReads g ds s E S) :
    NsStep g g' ds s E S (objs.flatMap fun o => startedElements o.calls) := by
  induction objs generalizing g s E with
  | nil =>
    simp only [List.forM, exec_pure, Prod.mk.injEq, true_and] at h
    subst h
    exact .of_silent rfl rfl hr
  | cons o objs ih =>
    simp only [List.forM] at h
    obtain ⟨_, g₁, h₁, h⟩ := exec_bind_ok g h
    obtain ⟨g₂, h₂, rfl⟩ := sendObject_ok_run (hb o (.head _)).2 h₁
    have hs₂ := balanced_nsStep (hb o (.head _)).1 (hxt o (.head _)) h₂
      (DeclScope.run_prefixFree (hb o (.head _)).1 (hd o (.head _)) hp) hr
    have hs₁ := hs₂.trans fun s' hr' _ =>
      dispatch_ok_nsStep (c := .flush) (exec_flush (g := g₂)) rfl (DeclScope.step_of_depth rfl rfl) hr'
    rw [List.flatMap_cons, ← List.append_nil (startedElements o.calls)]
    exact hs₁.trans fun s' hr' _ => ih (fun o ho => hb o (.tail _ ho)) (fun o ho => hd o (.tail _ ho))
      (fun o ho => hxt o (.tail _ ho)) h hr'

/-- **A closed stream is read back with its names.** Let the stream namespace be declarable, and
let `nsmap` announce only true prefixes (no `None`), none of the form `nsN`, each for a declarable
namespace. Let the writer accept the header and every call of the objects sent, each a well-nested
sequence that raises nothing and calls no `startPrefixMapping`, whose names are in namespaces other
than that of `xmlns`, whose namespaces and values are made of XML characters, and no two of whose
attributes share an expanded name. Then a reader of tags with namespaces, which refuses what the
namespaces recommendation forbids, reads what `write_objects` writes when it is closed without
error, ending with every element closed and every scope left. It reads the stream element with its
namespace and no attribute, then, in order, every element the objects start, with its namespace,
its local name and its attributes' names and values, as they were given. -/
theorem closed_stream_reads_back {xmlstream : String} {nsmap : PyDict Prefix Uri}
    {objs : List (Serialisation E)} {g : XMPPXMLGenerator} (hxs : DeclarableUri xmlstream)
    (hns : ∀ x ∈ nsmap.items, ∃ p u, x = (some p, some u) ∧ (∀ K, p ≠ nsName K) ∧ DeclarableUri u)
    (hb : ∀ o ∈ objs, Balanced o.calls ∧ o.raises = none)
    (hd : ∀ o ∈ objs, ∀ c ∈ o.calls, c.declaresPrefix = false)
    (hxt : ∀ o ∈ objs, ∀ c ∈ o.calls, c.XmlText)
    (hrun : exec (do onWriter (writeHeader xmlstream nsmap); objs.forM sendObject : WriteM E Unit)
      (XMPPXMLGenerator.init true) = (.ok (), g)) :
    nsScan ⟨⟨[], none⟩, [], []⟩ (written (runWriteObjects xmlstream nsmap objs .close).2.out).data =
      some ⟨⟨[], none⟩, [], expectElement ⟨some xmlstream, "stream"⟩ .empty ::
        objs.flatMap fun o => startedElements o.calls⟩ := by
  obtain ⟨_, gH, hH, hO⟩ := exec_bind_ok _ hrun
  have hH' := exec_onWriter_ok hH
  obtain ⟨hgH, hpH, q, o, hq, hoH, hsH⟩ := writeHeader_scan hxs.2.1 hxs.2.2.1 hH'
  obtain ⟨t, b, dsH, hpd, hsN, hrN⟩ := writeHeader_nsRead hxs hns hH'
  -- The reader with namespaces reads the tag structure of the header as `scan` does.
  obtain rfl : t = ⟨[q.data], none⟩ := by
    have ht := nsScan_tags hsN
    rw [hsH] at ht
    exact (Option.some.inj ht).symm
  obtain ⟨o₁, ⟨⟨st, tag⟩, sc, rd⟩, ho₁, hs₁, hr₁, hn₁, hp₁⟩ := forM_sendObject_nsStep hb hd hxt hpd hO hrN
  obtain ⟨-, q₀, o₀, ho₀, hout⟩ :=
    close_after_objects hxs.2.1 hxs.2.2.1 hb hrun (forM_sendObject_quiet hb hd hO hgH.quiet).closed
  -- The end tag `close()` writes names the stream element.
  obtain rfl : q = q₀ := by
    rw [ho₁, hoH] at ho₀
    simp only [List.append_assoc, List.cons_append, List.cons.injEq, SinkOp.write.injEq] at ho₀
    exact ho₀.2.1
  have hp : g.pendingStartElement = none := hp₁.elim id fun h => h.1.trans hpH
  obtain ⟨-, ht, hrd, hsc⟩ := hr₁.reads.resolve_right fun h => h.1 hp
  simp only at ht hrd hsc hn₁
  subst ht hrd hsc hn₁
  rw [hout, written_append, String.data_append, nsScan_append, ho₁, written_append,
    String.data_append, nsScan_append, hsN, Option.some_bind, hs₁, Option.some_bind,
    show (written [.write "</", .write q, .write ">", .flush]).data = '<' :: '/' :: q.data ++ ['>'] by
      simp [written], nsScan_endTag rfl hq rfl]
  rfl

/-- A message in `jabber:client` to `b` with the text `hi`, as an object. -/
def messageObject : Serialisation Unit :=
  ⟨[.startElementNS ⟨some "jabber:client", "message"⟩ ⟨[(⟨none, "to"⟩, "b")], by decide⟩,
    .characters "hi", .endElementNS ⟨some "jabber:client", "message"⟩], none⟩

/-- The prefix `c` for `jabber:client`. -/
def clientNsmap : PyDict Prefix Uri := ⟨[(some "c", some "jabber:client")], by decide⟩

/-- The writer after the header on `urn:s` announcing `clientNsmap`, and `messageObject`. -/
def afterMessage : XMPPXMLGenerator :=
  (exec (do onWriter (writeHeader "urn:s" clientNsmap); [messageObject].forM sendObject :
    WriteM Unit Unit) (XMPPXMLGenerator.init true)).2

theorem closed_stream_reads_back_message :
    nsScan ⟨⟨[], none⟩, [], []⟩
        (written (runWriteObjects "urn:s" clientNsmap [messageObject] .close).2.out).data =
      some ⟨⟨[], none⟩, [], expectElement ⟨some "urn:s", "stream"⟩ .empty ::
        [messageObject].flatMap fun o => startedElements o.calls⟩ :=
  closed_stream_reads_back (g := afterMessage) (by decide)
    (fun x hx => by
      rw [List.mem_singleton.mp hx]
      exact ⟨"c", "jabber:client", rfl, ne_nsName_of_head (by decide), by decide⟩)
    (fun o ho => by
      rw [List.mem_singleton.mp ho]
      exact ⟨.element (.other (c := .characters "hi") rfl .nil) .nil, rfl⟩)
    (by decide) (by simp [messageObject, Call.XmlText, Name.XmlUri]; decide)
    (Prod.ext (by rfl) rfl)

example : written (runWriteObjects "urn:s" clientNsmap [messageObject] .close).2.out =
    "<stream:stream xmlns:c=\"jabber:client\" xmlns:stream=\"urn:s\"><c:message to=\"b\">hi</c:message></stream:stream>" := by
  decide

end XmppXml
