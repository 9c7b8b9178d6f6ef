import XmppXml.Generator.ReadBack

/-!
# Names read in another namespace

Two ways in which `startElementNS` returns and writes a name that a reader of Namespaces in XML
gives another namespace than the one the writer was given. The discipline of `DeclScope`, under
which a run is read back (`declared_run_reads_back`), refuses both.

* `_qname` writes an attribute with no prefix when the prefix it finds for the attribute's
  namespace is `None`, and an attribute name with no prefix is in no namespace (Namespaces in XML,
  §6.2): `default_namespace_attribute_unqualified`, for every start from every writer where the
  map, or a declaration pending for the next element, gives the namespace the prefix `None`.
* `_roll_prefix` skips only the prefixes pending for the next element, so it hands out the prefix
  `nsN` after the counter while the map still gives it to another namespace: the start tag
  declares it again for the new namespace, and the map then gives it to both, so a later name in
  the first namespace is written with a prefix the document binds to the second:
  `rolled_prefix_shadows_mapped`.

A run of each, from `XMPPXMLGenerator(out)`, is kept after the general theorem, with what a
reader makes of the whole document.
-/

namespace XmppXml

open XMPPXMLGenerator

/-! ### What a start tag writes -/

/-- A loop of rounds that only write, which returns, has written what the round of each of its
elements writes. -/
theorem forM_ok_chunk_written {α : Type} {f : α → GenM Unit}
    (hf : ∀ b (g : XMPPXMLGenerator), g.OutOnly (exec (f b) g).2)
    {a : α} {w : List SinkOp}
    (hw : ∀ g : XMPPXMLGenerator, exec (f a) g = (.ok (), { g with out := g.out ++ w })) :
    ∀ {l : List α} {g g' : XMPPXMLGenerator}, a ∈ l → exec (l.forM f) g = (.ok (), g') →
      w <:+: g'.out := by
  intro l
  induction l with
  | nil => intro _ _ ha; cases ha
  | cons b l ih =>
    intro g g' ha h
    obtain ⟨_, g₁, h₁, h⟩ := exec_bind_ok _ h
    rcases List.mem_cons.mp ha with rfl | ha
    · rw [hw] at h₁
      obtain ⟨-, rfl⟩ := Prod.mk.inj h₁
      obtain ⟨o, rfl⟩ := rel_of_exec (exec_forM_rel OutOnly.refl OutOnly.trans hf l _) h
      exact ⟨g.out, o, rfl⟩
    · exact ih ha h

/-- Each true prefix pending for a start tag that is written, for a namespace, is declared in what
the start writes, as ` xmlns:p="uri"`, whether the end of the tag is deferred or not. -/
theorem startTag_decl_written {q : String} {pp : PyDict Prefix Uri} {attrib : List (String × String)}
    {n : Name} {g₅ g₆ g' : XMPPXMLGenerator} (h₆ : exec (writeStartTag q pp attrib) g₅ = (.ok (), g₆))
    (hg' : g' = if g₆.shortEmptyElements then { g₆ with pendingStartElement := some n }
      else { g₆ with out := g₆.out ++ [.write ">"] }) {ps us : String} (hps : ps ≠ "")
    (hp : pp.get? (some ps) = some (some us)) :
    [SinkOp.write " xmlns", .write ":", .write ps, .write "=", .write (quoteattr us)] <:+: g'.out := by
  obtain ⟨_, g₄, -, hdecls, hout⟩ := writeStartTag_ok h₆
  have hmem : (some ps, some us) ∈ sortedItems (pp.erase none) := by
    rw [sortedItems, List.mem_insertionSort, PyDict.mem_items_iff, PyDict.get?_erase, if_neg (by simp)]
    exact hp
  have hc := (forM_ok_chunk_written
    (w := [.write " xmlns", .write ":", .write ps, .write "=", .write (quoteattr us)])
    (fun (d : Prefix × Uri) g₀ => writeDecl_outOnly g₀ d.1 d.2)
    (fun g₀ => by simp [writeDecl, writePrefix, writeQuoted, truthy_some, hps]) hmem hdecls)
  exact (hc.trans (List.IsPrefix.isInfix ⟨_, hout.symm⟩)).trans (startTag_end_extends hg').isInfix

/-! ### Attributes in the prefixless namespace -/

namespace XMPPXMLGenerator

/-- `_qname` finds the prefix `None` for the namespace `u`: the map gives it `None`, or gives it
nothing and a declaration pending for the next element gives it `None`. -/
def PrefixlessFor (g : XMPPXMLGenerator) (u : Uri) : Prop :=
  g.currNsMap.get? u = some none ∨ g.currNsMap.get? u = none ∧ g.nsDeclsFloatingIn.get? u = some none

instance (g : XMPPXMLGenerator) (u : Uri) : Decidable (g.PrefixlessFor u) :=
  inferInstanceAs (Decidable (_ ∨ _ ∧ _))

theorem PrefixlessFor.resolve_eq {g : XMPPXMLGenerator} {u : Uri} (h : g.PrefixlessFor u) :
    g.resolve u = (none, g) := by
  rcases h with h | ⟨h, hd⟩
  · simp [resolve, h]
  · simp [resolve, h, hd]

/-- Resolving names keeps the prefix `None` found for a namespace. -/
theorem PrefixlessFor.of_resolves {g g' : XMPPXMLGenerator} {u : Uri} (h : g.PrefixlessFor u)
    (hr : g.Resolves g') (hk : KeepsDecls g g') : g'.PrefixlessFor u := by
  obtain ⟨⟨_, _, _, _, rfl⟩, -, -, -⟩ := hr
  rcases h with h | ⟨hm, hd⟩
  exacts [.inl h, .inr ⟨hm, hk _ _ hd⟩]

end XMPPXMLGenerator

section Prefixless

variable {us : String} (hne : us ≠ "") (hx : us ≠ xmlNamespace)
include hne hx

/-- An attribute name in a namespace that `_qname` finds the prefix `None` for is written as its
local name, which is a valid one, and nothing changes. -/
theorem qname_attr_prefixless {g g' : XMPPXMLGenerator} {l q : String}
    (hp : g.PrefixlessFor (some us)) (h : exec (qname ⟨some us, l⟩ true) g = (.ok q, g')) :
    isValidLocalName l = true ∧ q = l ∧ g' = g := by
  rw [exec_qname] at h
  simp only [hp.resolve_eq, truthy_some, hne, hx] at h
  split_ifs at h with hl <;> simp_all [joinPrefix]

/-- The attribute names resolved from a writer where `_qname` finds the prefix `None` for `us`:
each attribute in `us` is written as its local name, with its value. -/
theorem qnameAttributes_prefixless {g g' : XMPPXMLGenerator} {a : PyDict Name String}
    {attrib : List (String × String)} (hp : g.PrefixlessFor (some us))
    (h : exec (qnameAttributes a) g = (.ok attrib, g')) {l v : String}
    (hmem : (⟨some us, l⟩, v) ∈ a.items) : isValidLocalName l = true ∧ (l, v) ∈ attrib := by
  have hround : ∀ (y : Name × String) (s : XMPPXMLGenerator) b s', s.PrefixlessFor (some us) →
      exec (do return (← qname y.1 true, y.2)) s = (.ok b, s') →
      (y.1.uri = some us → isValidLocalName y.1.localName = true ∧ b = (y.1.localName, y.2)) ∧
        s'.PrefixlessFor (some us) := by
    intro y s b s' hs hy
    obtain ⟨q, s₁, hq, hy⟩ := exec_bind_ok _ hy
    simp only [exec_pure, Prod.mk.injEq, Except.ok.injEq] at hy
    obtain ⟨rfl, rfl⟩ := hy
    refine ⟨fun hu => ?_, hs.of_resolves (rel_of_exec (qname_resolves _ _ true) hq)
      (rel_of_exec (qname_keepsDecls _ _ true) hq)⟩
    obtain ⟨⟨u, l'⟩, v'⟩ := y
    obtain rfl : u = some us := hu
    obtain ⟨hv, rfl, -⟩ := qname_attr_prefixless hne hx hs hq
    exact ⟨hv, rfl⟩
  obtain ⟨b, hb, hl⟩ := exec_mapM_ok_exists (R := fun (y : Name × String) b =>
    y.1.uri = some us → isValidLocalName y.1.localName = true ∧ b = (y.1.localName, y.2))
    hround _ hp (qnameAttributes_ok_mapM h) _ hmem
  obtain ⟨hv, rfl⟩ := hl rfl
  exact ⟨hv, hb⟩

/-- An attribute in a namespace that `_qname` finds the prefix `None` for is written with no
prefix, as ` l="v"`, by every start that returns; a reader of namespaces, in any scopes, gives an
attribute named `l` no namespace. -/
theorem default_namespace_attribute_unqualified {g g' : XMPPXMLGenerator} {n : Name}
    {a : PyDict Name String} {l v : String} (hp : g.PrefixlessFor (some us))
    (hmem : (⟨some us, l⟩, v) ∈ a.items) (h : exec (startElementNS n a) g = (.ok (), g')) :
    [SinkOp.write " ", .write l, .write "=", .write (quoteattr v)] <:+: g'.out ∧
      ∀ S, resolveName S true l.data = some (none, l.data) := by
  obtain ⟨q, g₃, attrib, gq, g₆, h₃, h₄, -, h₆, hg'⟩ := startElementNS_ok h
  have hp₀ : g.finishPending.PrefixlessFor (some us) := by
    simpa only [PrefixlessFor, finishPending_currNsMap, finishPending_nsDeclsFloatingIn] using hp
  have hp₃ := hp₀.of_resolves (rel_of_exec (qname_resolves _ n false) h₃)
    (rel_of_exec (qname_keepsDecls _ n false) h₃)
  obtain ⟨hl, hb⟩ := qnameAttributes_prefixless hne hx hp₃ h₄ hmem
  refine ⟨startTag_attr_written h₆ hg' hb, fun S => ?_⟩
  simp only [isValidLocalName, Bool.not_eq_true', Bool.or_eq_false_iff, decide_eq_false_iff_not] at hl
  simp [resolveName, splitPrefix_eq_none hl.1]

end Prefixless

/-- An attribute `y` in `urn:a`. -/
def defaultNsAttrs : PyDict Name String := ⟨[(⟨some "urn:a", "y"⟩, "v")], by decide⟩

/-- The prefixless namespace `urn:a` declared for an element `x` in it, with the attribute `y`. -/
def defaultNsElement : List Call :=
  [.startPrefixMapping none (some "urn:a"), .startElementNS ⟨some "urn:a", "x"⟩ defaultNsAttrs,
    .endElementNS ⟨some "urn:a", "x"⟩, .endPrefixMapping none]

/-- The writer after `startPrefixMapping(None, "urn:a")`. -/
def defaultNsDeclared : XMPPXMLGenerator :=
  (exec (startPrefixMapping none (some "urn:a") false) (XMPPXMLGenerator.init true)).2

/-- The run `defaultNsElement` returns, and its document `<x xmlns="urn:a" y="v"/>` is read without
error, but with `y` in no namespace where `startElementNS` gave `urn:a`; the discipline refuses the
run. -/
theorem default_namespace_attribute_run :
    (exec (runCalls defaultNsElement) (XMPPXMLGenerator.init true)).1 = .ok () ∧
    written (exec (runCalls defaultNsElement) (XMPPXMLGenerator.init true)).2.out =
      "<x xmlns=\"urn:a\" y=\"v\"/>" ∧
    nsScan ⟨⟨[], none⟩, [], []⟩
        (written (exec (runCalls defaultNsElement) (XMPPXMLGenerator.init true)).2.out).data =
      some ⟨⟨[], none⟩, [], [(expectName ⟨some "urn:a", "x"⟩, [(expectName ⟨none, "y"⟩, "v".data)])]⟩ ∧
    startedElements defaultNsElement =
      [(expectName ⟨some "urn:a", "x"⟩, [(expectName ⟨some "urn:a", "y"⟩, "v".data)])] ∧
    DeclScope.empty.run defaultNsElement = none ∧
    [SinkOp.write " ", .write "y", .write "=", .write (quoteattr "v")] <:+:
        (exec (startElementNS ⟨some "urn:a", "x"⟩ defaultNsAttrs) defaultNsDeclared).2.out ∧
      ∀ S, resolveName S true "y".data = some (none, "y".data) :=
  ⟨rfl, by decide, by decide, by decide, rfl,
    default_namespace_attribute_unqualified (g := defaultNsDeclared) (a := defaultNsAttrs)
      (by decide) (by decide) (by decide) (.head _) (Prod.ext (by rfl) rfl)⟩

/-! ### Prefixes `_roll_prefix` hands out again -/

/-- `g'` has every prefix pending in `g`, for the same namespace. -/
def KeepsPending (g g' : XMPPXMLGenerator) : Prop :=
  ∀ p u, g.nsPrefixesFloatingIn.get? p = some u → g'.nsPrefixesFloatingIn.get? p = some u

theorem KeepsPending.refl (g : XMPPXMLGenerator) : KeepsPending g g := fun _ _ h => h

theorem KeepsPending.trans {g₁ g₂ g₃ : XMPPXMLGenerator} (h₁ : KeepsPending g₁ g₂)
    (h₂ : KeepsPending g₂ g₃) : KeepsPending g₁ g₃ := fun p u h => h₂ p u (h₁ p u h)

/-- `_qname` declares only a prefix that is not pending. -/
theorem resolve_keepsPending (g : XMPPXMLGenerator) (uri : Uri) : KeepsPending g (g.resolve uri).2 := by
  intro p u hp
  unfold resolve
  split
  · exact hp
  · split
    · exact hp
    · have hfree := rollFrom_not_mem g.nsPrefixesFloatingIn (g.nsCounter + 1)
      have : some (nsName g.rolled) ≠ p := by
        rintro rfl
        simp only [rolled] at hp
        simp [PyDict.contains, hp] at hfree
      simp [declare, this, hp]

theorem qname_keepsPending (g : XMPPXMLGenerator) (n : Name) (attr : Bool) :
    KeepsPending g (exec (qname n attr) g).2 := by
  rw [exec_qname]
  split_ifs
  all_goals first | exact .refl g | exact resolve_keepsPending g n.uri

theorem qnameAttributes_keepsPending (g : XMPPXMLGenerator) (attributes : PyDict Name String) :
    KeepsPending g (exec (qnameAttributes attributes) g).2 := by
  unfold qnameAttributes
  refine exec_bind_rel (R := KeepsPending) KeepsPending.trans
    (exec_mapM_rel KeepsPending.refl KeepsPending.trans (fun a g => ?_) _ g) fun attrib g₁ => ?_
  · exact exec_bind_rel (R := KeepsPending) KeepsPending.trans (qname_keepsPending g a.1 true)
      fun _ g' => .refl g'
  · split_ifs <;> exact .refl g₁

/-- A start of an element in a namespace `us` that has no prefix, mapped or pending, from a writer
whose map gives the prefix after the counter, `p`, to another namespace `u₁` while `p` is not
pending: `_roll_prefix` hands out `p`, the start tag is written with it and declares it for `us`,
and the map then gives it to both `u₁` and `us`. -/
theorem rolled_prefix_shadows_mapped {g g' : XMPPXMLGenerator} {n : Name} {a : PyDict Name String}
    {u₁ : Uri} {us p : String} (hK : p = nsName (g.nsCounter + 1))
    (hm : g.currNsMap.get? u₁ = some (some p)) (hd : g.nsDeclsFloatingIn.get? u₁ = none)
    (hf : g.nsPrefixesFloatingIn.contains (some p) = false)
    (hu : n.uri = some us) (hne : us ≠ "") (hx : us ≠ xmlNamespace)
    (hum : g.currNsMap.get? (some us) = none) (hud : g.nsDeclsFloatingIn.get? (some us) = none)
    (h : exec (startElementNS n a) g = (.ok (), g')) :
    (∃ o, g'.out = g.finishPending.out ++ [.write "<", .write (p ++ ":" ++ n.localName)] ++ o) ∧
      [SinkOp.write " xmlns", .write ":", .write p, .write "=", .write (quoteattr us)] <:+: g'.out ∧
      g'.currNsMap.get? u₁ = some (some p) ∧ g'.currNsMap.get? (some us) = some (some p) := by
  subst hK
  obtain ⟨q, g₃, attrib, gq, g₆, h₃, h₄, -, h₆, hg'⟩ := startElementNS_ok h
  have hu₁ : u₁ ≠ some us := by rintro rfl; simp [hum] at hm
  -- `_qname` rolls `p` for `us`, writes the name with it and declares it.
  have hroll : g.finishPending.rolled = g.nsCounter + 1 := by
    simp [rolled, rollFuel, rollFrom, finishPending_nsPrefixesFloatingIn, finishPending_nsCounter, hf]
  rw [exec_qname, hu] at h₃
  simp only [truthy_some, hne, hx, ne_eq, not_false_eq_true, decide_True, Option.some.injEq,
    if_true, if_false] at h₃
  split_ifs at h₃ with hl
  · simp at h₃
  simp only [resolve, finishPending_currNsMap, finishPending_nsDeclsFloatingIn, hu, hum, hud, hroll,
    Prod.mk.injEq, Except.ok.injEq] at h₃
  obtain ⟨rfl, rfl⟩ := h₃
  -- The attributes keep the declaration, and give `u₁` none.
  have hr := rel_of_exec (qnameAttributes_resolves _ a) h₄
  have hdecl := rel_of_exec (qnameAttributes_keepsDecls _ a) h₄ (some us) (some (nsName (g.nsCounter + 1)))
    (by simp [declare])
  have hpend := rel_of_exec (qnameAttributes_keepsPending _ a) h₄ (some (nsName (g.nsCounter + 1))) (some us)
    (by simp [declare])
  have hd₁ : gq.nsDeclsFloatingIn.get? u₁ = none := by
    rw [hr.decls_of_mapped u₁ (by simp [declare, finishPending_currNsMap, hm])]
    simp [declare, finishPending_nsDeclsFloatingIn, hd, Ne.symm hu₁]
  obtain ⟨_, _, _, _, hgq⟩ := hr.pendingOnly
  have hmap : gq.currNsMap = g.currNsMap := by rw [hgq]; rfl
  have hout₀ : gq.out = g.finishPending.out := by rw [hgq]; rfl
  -- The start tag, with the declaration of `p` among the pending ones.
  have hK : nsName (g.nsCounter + 1) ≠ "" := fun h => by simpa [h] using nsName_data (g.nsCounter + 1)
  refine ⟨?_, startTag_decl_written h₆ hg' hK hpend, ?_⟩
  · obtain ⟨o, rfl⟩ := writeStartTag_ok_out h₆
    rw [joinPrefix_some (isValidPrefix_nsName _)] at hg'
    subst hg'
    split_ifs
    exacts [⟨o, by simp [pin, hout₀]⟩, ⟨o ++ [.write ">"], by simp [pin, hout₀]⟩]
  · obtain ⟨o, rfl⟩ := writeStartTag_ok_out h₆
    have hmap' : g'.currNsMap = gq.currNsMap.update gq.nsDeclsFloatingIn := by
      subst hg'; split_ifs <;> rfl
    simp [hmap', hmap, hd₁, hm, hdecl]

/-- The prefix `ns0` for `urn:b`, announced on the stream element. -/
def ns0Nsmap : PyDict Prefix Uri := ⟨[(some "ns0", some "urn:b")], by decide⟩

/-- The writer after the header of a stream that announces `ns0` for `urn:b`. -/
def ns0Header : XMPPXMLGenerator :=
  (exec (writeHeader "urn:s" ns0Nsmap) (XMPPXMLGenerator.init true)).2

/-- The writer after it starts an element `x` in `urn:c`. -/
def ns0Started : XMPPXMLGenerator :=
  (exec (startElementNS ⟨some "urn:c", "x"⟩ .empty) ns0Header).2

/-- An element `x` in `urn:c` around an empty element `y` in `urn:b`, as an object. -/
def shadowedObject : Serialisation Unit :=
  ⟨[.startElementNS ⟨some "urn:c", "x"⟩ .empty, .startElementNS ⟨some "urn:b", "y"⟩ .empty,
    .endElementNS ⟨some "urn:b", "y"⟩, .endElementNS ⟨some "urn:c", "x"⟩], none⟩

/-- With `ns0` announced for `urn:b`, the start of `x` in `urn:c` after the header declares `ns0`
again, for `urn:c`, and leaves the map giving it to both namespaces. The object `shadowedObject` is
sent without error, but `y` is then written `ns0:y` inside `x`, so the document is read with `y` in
`urn:c` where `startElementNS` gave `urn:b`. -/
theorem announced_nsName_shadowed :
    ((∃ o, ns0Started.out =
        ns0Header.finishPending.out ++ [.write "<", .write ("ns0" ++ ":" ++ "x")] ++ o) ∧
      [SinkOp.write " xmlns", .write ":", .write "ns0", .write "=", .write (quoteattr "urn:c")] <:+:
        ns0Started.out ∧
      ns0Started.currNsMap.get? (some "urn:b") = some (some "ns0") ∧
      ns0Started.currNsMap.get? (some "urn:c") = some (some "ns0")) ∧
    (exec (do onWriter (writeHeader "urn:s" ns0Nsmap); [shadowedObject].forM sendObject :
      WriteM Unit Unit) (XMPPXMLGenerator.init true)).1 = .ok () ∧
    written (runWriteObjects "urn:s" ns0Nsmap [shadowedObject] .close).2.out =
      "<stream:stream xmlns:ns0=\"urn:b\" xmlns:stream=\"urn:s\"><ns0:x xmlns:ns0=\"urn:c\"><ns0:y/></ns0:x></stream:stream>" ∧
    nsScan ⟨⟨[], none⟩, [], []⟩
        (written (runWriteObjects "urn:s" ns0Nsmap [shadowedObject] .close).2.out).data =
      some ⟨⟨[], none⟩, [], [expectElement ⟨some "urn:s", "stream"⟩ .empty,
        expectElement ⟨some "urn:c", "x"⟩ .empty, expectElement ⟨some "urn:c", "y"⟩ .empty]⟩ ∧
    startedElements shadowedObject.calls =
      [expectElement ⟨some "urn:c", "x"⟩ .empty, expectElement ⟨some "urn:b", "y"⟩ .empty] :=
  ⟨rolled_prefix_shadows_mapped (g := ns0Header) (n := ⟨some "urn:c", "x"⟩) (a := .empty)
      (by decide) (by decide) (by decide) (by decide) rfl (by decide) (by decide) (by decide)
      (by decide) (Prod.ext (by rfl) rfl),
    rfl, by decide, by decide, by decide⟩

end XmppXml
