import XmppXml.Generator.Run

/-!
# End tags

`endElementNS` writes `/>` when the element's own start tag is still deferred, and otherwise a
closing tag whose name `_qname` resolves again, from the state at the end of the element. By then
`_pin_floating_ns_decls` has added the element's own declarations to `_curr_ns_map`, while the start
tag's name was resolved before them, from `_curr_ns_map` first. An element that declares a second
prefix for a URI that already has one is therefore opened with the old prefix and closed with the
new one.

* `startElementNS_ok_mapped`, `writeEndTag_ok_mapped`: what the two ends of such an element write;
* `endTag_resolved_inside`: over a whole element with well-nested content, the start tag carries the
  old prefix and the end tag, unless it is `/>`, the new one; without short empty elements it is
  never `/>`;
* `endTag_repeats_startTag`: in every other case the end tag, unless it is `/>`, repeats the name of
  the start tag. `_qname` only declares a prefix for a URI that has none pending (`KeepsDecls`), so
  the map a start leaves gives the element's namespace the prefix its tag was written with.
-/

namespace XmppXml

open XMPPXMLGenerator

variable {n : Name} {p q : Prefix}

/-- A start that returns, of an element in a namespace that has the prefix `p` and for which the
caller declared the prefix `q`: the tag is written with `p`, the map then gives the namespace `q`,
and without short empty elements nothing is left deferred. -/
theorem startElementNS_ok_mapped {a : PyDict Name String} {g g' : XMPPXMLGenerator}
    (h : exec (startElementNS n a) g = (.ok (), g')) (hn : truthy n.uri = true)
    (hx : n.uri ≠ some xmlNamespace) (hp : g.currNsMap.get? n.uri = some p)
    (hq : g.nsDeclsFloatingIn.get? n.uri = some q) :
    isValidLocalName n.localName = true ∧
      (∃ o, g'.out = g.finishPending.out ++ [.write "<", .write (joinPrefix p n.localName)] ++ o) ∧
      g'.currNsMap.get? n.uri = some q ∧
      (g.shortEmptyElements = false → g'.pendingStartElement = none) := by
  obtain ⟨q₀, g₃, attrib, gq, g₆, h₃, h₄, -, h₆, rfl⟩ := startElementNS_ok h
  have hl : isValidLocalName n.localName = true := by
    by_contra hl
    rw [exec_qname] at h₃
    simp [hl] at h₃
  have hpf : g.finishPending.currNsMap.get? n.uri = some p := by rw [finishPending_currNsMap]; exact hp
  rw [exec_qname_mapped _ hl hn hx hpf, Prod.mk.injEq, Except.ok.injEq] at h₃
  obtain ⟨rfl, rfl⟩ := h₃
  have hr := rel_of_exec (qnameAttributes_resolves _ a) h₄
  have hdq := hr.decls_of_mapped n.uri (by simp [hpf])
  rw [finishPending_nsDeclsFloatingIn, hq] at hdq
  obtain ⟨o, ho⟩ := writeStartTag_out (gq.pin g.finishPending.nsCounter) _ gq.nsPrefixesFloatingIn attrib
  rw [h₆] at ho
  simp only at ho
  subst ho
  obtain ⟨_, _, _, _, rfl⟩ := hr.pendingOnly
  simp only at hdq
  obtain ⟨o₀, hf⟩ := finishPending_eq g
  refine ⟨hl, ?_⟩
  split_ifs with hs
  · refine ⟨⟨o, by simp [pin]⟩, by simp [pin, hdq], fun h' => ?_⟩
    simp [pin, hf, h'] at hs
  · exact ⟨⟨o ++ [.write ">"], by simp [pin]⟩, by simp [pin, hdq], fun _ => by simp [pin, hf]⟩

/-- The end of an element in a namespace that has the prefix `q` in `_curr_ns_map`: `/>` after its
own deferred start tag, else `</`, the name with `q`, and `>`. -/
theorem writeEndTag_ok_mapped {g g' : XMPPXMLGenerator} (h : exec (writeEndTag n) g = (.ok (), g'))
    (hl : isValidLocalName n.localName = true) (hn : truthy n.uri = true)
    (hx : n.uri ≠ some xmlNamespace) (hq : g.currNsMap.get? n.uri = some q) :
    (g.pendingStartElement = some n ∧ g'.out = g.out ++ [.write "/>"]) ∨
      (g.pendingStartElement ≠ some n ∧
        g'.out = g.out ++ [.write "</", .write (joinPrefix q n.localName), .write ">"]) := by
  rcases writeEndTag_ok h with ⟨hp, rfl⟩ | ⟨hp, q', g₁, h₁, rfl⟩
  · exact .inl ⟨hp, rfl⟩
  · rw [exec_qname_mapped { g with out := g.out ++ [.write "</"] } hl hn hx hq, Prod.mk.injEq,
      Except.ok.injEq] at h₁
    obtain ⟨rfl, rfl⟩ := h₁
    exact .inr ⟨hp, by simp⟩

/-- **End tags are resolved from the map inside the element.** Let an element in a namespace (true,
not the XML namespace) start where `_curr_ns_map` gives the namespace the prefix `p` and the caller
has declared the prefix `q` for it. If the element and its well-nested content run without raising,
its start tag is written with `p`, and its end is `/>` or a closing tag with `q`; without short
empty elements it is always the closing tag with `q`. -/
theorem endTag_resolved_inside {a : PyDict Name String} {body : List Call} (hb : Balanced body)
    {g g' : XMPPXMLGenerator}
    (h : exec (runCalls (.startElementNS n a :: body ++ [.endElementNS n])) g = (.ok (), g'))
    (hn : truthy n.uri = true) (hx : n.uri ≠ some xmlNamespace)
    (hp : g.currNsMap.get? n.uri = some p) (hq : g.nsDeclsFloatingIn.get? n.uri = some q) :
    ∃ o e, g'.out = g.finishPending.out ++ [.write "<", .write (joinPrefix p n.localName)] ++ o ++ e ∧
      (e = [.write "/>"] ∨ e = [.write "</", .write (joinPrefix q n.localName), .write ">"]) ∧
      (g.shortEmptyElements = false →
        e = [.write "</", .write (joinPrefix q n.localName), .write ">"]) := by
  obtain ⟨g₁, h₁, h⟩ := runCalls_cons_ok h
  obtain ⟨g₂, h₂, h⟩ := runCalls_append_ok h
  obtain ⟨g₃, h₃, h⟩ := runCalls_cons_ok h
  simp only [exec_runCalls_nil, Prod.mk.injEq, true_and] at h
  subst h
  obtain ⟨hl, ⟨o₁, ho₁⟩, hq₁, hlong⟩ := startElementNS_ok_mapped h₁ hn hx hp hq
  obtain ⟨o₂, ho₂⟩ := (runCalls_out h₂).1
  have hq₂ : g₂.currNsMap.get? n.uri = some q := by rw [balanced_currNsMap hb h₂]; exact hq₁
  obtain ⟨-, g₄, f, rest, h₄, -, rfl⟩ := endElementNS_ok h₃
  rcases writeEndTag_ok_mapped h₄ hl hn hx hq₂ with ⟨hp₂, ho⟩ | ⟨-, ho⟩
  · refine ⟨o₁ ++ o₂, _, by simp [restore, ho, ← ho₂, ho₁], .inl rfl, fun hs => ?_⟩
    have := runCalls_long h₂ ((dispatch_ok_out h₁).2.trans hs) (hlong hs)
    simp [this] at hp₂
  · exact ⟨o₁ ++ o₂, _, by simp [restore, ho, ← ho₂, ho₁], .inr rfl, fun _ => rfl⟩

/-- The prefix `p` declared for `urn:a` on an element `x`, then a second prefix `q` for `urn:a`
declared for the next element. -/
def redeclaredPrefix : List Call :=
  [.startDocument, .startPrefixMapping (some "p") (some "urn:a"), .startElementNS ⟨some "urn:a", "x"⟩ .empty,
    .startPrefixMapping (some "q") (some "urn:a")]

theorem endTag_resolved_inside_redeclared :
    ∃ o e, (exec (runCalls [.startElementNS ⟨some "urn:a", "y"⟩ .empty, .endElementNS ⟨some "urn:a", "y"⟩])
        (exec (runCalls redeclaredPrefix) (XMPPXMLGenerator.init false)).2).2.out =
      (exec (runCalls redeclaredPrefix) (XMPPXMLGenerator.init false)).2.finishPending.out ++
        [.write "<", .write (joinPrefix (some "p") "y")] ++ o ++ e ∧
      (e = [.write "/>"] ∨ e = [.write "</", .write (joinPrefix (some "q") "y"), .write ">"]) ∧
      ((exec (runCalls redeclaredPrefix) (XMPPXMLGenerator.init false)).2.shortEmptyElements = false →
        e = [.write "</", .write (joinPrefix (some "q") "y"), .write ">"]) :=
  @endTag_resolved_inside ⟨some "urn:a", "y"⟩ (some "p") (some "q") .empty [] .nil
    (exec (runCalls redeclaredPrefix) (XMPPXMLGenerator.init false)).2 _ rfl rfl (by decide) rfl rfl

/-- `redeclaredPrefix`, then the element `y` in `urn:a` with the content `body`, closed, and the
document ended with every prefix closed. -/
def redeclaredRun (body : List Call) : List Call :=
  redeclaredPrefix ++ .startElementNS ⟨some "urn:a", "y"⟩ .empty :: body ++
    [.endElementNS ⟨some "urn:a", "y"⟩, .endPrefixMapping (some "q"), .endElementNS ⟨some "urn:a", "x"⟩,
      .endPrefixMapping (some "p"), .endDocument]

/-- With text in `y`, `redeclaredRun` raises nothing and writes a document whose end tag `</q:y>`
does not repeat the start tag `<p:y`. -/
theorem end_tag_differs_from_start_tag :
    (exec (runCalls (redeclaredRun [.characters "t"])) (XMPPXMLGenerator.init true)).1 = .ok () ∧
      written (exec (runCalls (redeclaredRun [.characters "t"])) (XMPPXMLGenerator.init true)).2.out =
        "<p:x xmlns:p=\"urn:a\"><p:y xmlns:q=\"urn:a\">t</q:y></p:x>" :=
  ⟨rfl, by decide⟩

/-- With `y` empty, the short form closes `y` as `/>`, and the long form closes it with `</q:y>`,
not with the name `p:y` of its start tag. -/
theorem long_form_closes_with_other_prefix :
    (exec (runCalls (redeclaredRun [])) (XMPPXMLGenerator.init true)).1 = .ok () ∧
      (exec (runCalls (redeclaredRun [])) (XMPPXMLGenerator.init false)).1 = .ok () ∧
      written (exec (runCalls (redeclaredRun [])) (XMPPXMLGenerator.init true)).2.out =
        "<p:x xmlns:p=\"urn:a\"><p:y xmlns:q=\"urn:a\"/></p:x>" ∧
      written (exec (runCalls (redeclaredRun [])) (XMPPXMLGenerator.init false)).2.out =
        "<p:x xmlns:p=\"urn:a\"><p:y xmlns:q=\"urn:a\"></q:y></p:x>" :=
  ⟨rfl, rfl, by decide, by decide⟩

/-! ### End tags that repeat the start tag -/

/-- `g'` keeps every declaration pending in `g`. -/
def KeepsDecls (g g' : XMPPXMLGenerator) : Prop :=
  ∀ u p, g.nsDeclsFloatingIn.get? u = some p → g'.nsDeclsFloatingIn.get? u = some p

theorem KeepsDecls.refl (g : XMPPXMLGenerator) : KeepsDecls g g := fun _ _ h => h

theorem KeepsDecls.trans {g₁ g₂ g₃ : XMPPXMLGenerator} (h₁ : KeepsDecls g₁ g₂)
    (h₂ : KeepsDecls g₂ g₃) : KeepsDecls g₁ g₃ := fun u p h => h₂ u p (h₁ u p h)

/-- `_qname` declares a prefix only for a URI that has none pending. -/
theorem resolve_keepsDecls (g : XMPPXMLGenerator) (uri : Uri) : KeepsDecls g (g.resolve uri).2 := by
  intro u p hu
  unfold resolve
  split
  · exact hu
  · split
    · exact hu
    · have : uri ≠ u := by rintro rfl; simp_all
      simp [declare, this, hu]

/-- For a URI without a prefix in the map, the prefix `_qname` finds is then pending for it. -/
theorem resolve_decl {g : XMPPXMLGenerator} {u : Uri} (hc : g.currNsMap.get? u = none) :
    (g.resolve u).2.nsDeclsFloatingIn.get? u = some (g.resolve u).1 := by
  unfold resolve
  simp only [hc]
  cases hd : g.nsDeclsFloatingIn.get? u <;> simp [declare, hd]

theorem qname_keepsDecls (g : XMPPXMLGenerator) (n : Name) (attr : Bool) :
    KeepsDecls g (exec (qname n attr) g).2 := by
  rw [exec_qname]
  split_ifs
  all_goals first | exact .refl g | exact resolve_keepsDecls g n.uri

theorem qnameAttributes_keepsDecls (g : XMPPXMLGenerator) (attributes : PyDict Name String) :
    KeepsDecls g (exec (qnameAttributes attributes) g).2 := by
  unfold qnameAttributes
  refine exec_bind_rel (R := KeepsDecls) KeepsDecls.trans
    (exec_mapM_rel KeepsDecls.refl KeepsDecls.trans (fun a g => ?_) _ g) fun attrib g₁ => ?_
  · exact exec_bind_rel (R := KeepsDecls) KeepsDecls.trans (qname_keepsDecls g a.1 true)
      fun _ g' => .refl g'
  · split_ifs <;> exact .refl g₁


/-- The name `_qname` gives an element outside every namespace, or in the XML namespace, depends
on the name alone, and resolving it changes nothing. -/
theorem qname_ok_unresolved {n : Name} (hn : truthy n.uri = false ∨ n.uri = some xmlNamespace)
    {g₁ g₂ g₁' g₂' : XMPPXMLGenerator} {s₁ s₂ : String} (h₁ : exec (qname n false) g₁ = (.ok s₁, g₁'))
    (h₂ : exec (qname n false) g₂ = (.ok s₂, g₂')) : s₁ = s₂ ∧ g₁' = g₁ := by
  rw [exec_qname] at h₁ h₂
  rcases hn with hn | hn <;> split_ifs at h₁ h₂ <;> simp_all

/-- A start that returns, of an element whose namespace is not both mapped and declared again: its
tag is written with a name `s`, and resolving the element's name again, from any state with the
map the start left, gives `s` and changes nothing whenever it returns. -/
theorem startElementNS_ok_qname {n : Name} {a : PyDict Name String} {g g' : XMPPXMLGenerator}
    (h : exec (startElementNS n a) g = (.ok (), g'))
    (hc : g.currNsMap.get? n.uri = none ∨ g.nsDeclsFloatingIn.get? n.uri = none) :
    ∃ s, (∃ o, g'.out = g.finishPending.out ++ [.write "<", .write s] ++ o) ∧
      (g.shortEmptyElements = false → g'.pendingStartElement = none) ∧
      ∀ g₂ s' g₂', g₂.currNsMap = g'.currNsMap → exec (qname n false) g₂ = (.ok s', g₂') →
        s' = s ∧ g₂' = g₂ := by
  obtain ⟨q, g₃, attrib, gq, g₆, h₃, h₄, -, h₆, rfl⟩ := startElementNS_ok h
  have hr₃ := rel_of_exec (qname_resolves _ n false) h₃
  obtain ⟨_, _, _, _, hgq⟩ := (hr₃.trans (rel_of_exec (qnameAttributes_resolves _ a) h₄)).pendingOnly
  obtain ⟨o, ho⟩ := writeStartTag_out (gq.pin g.finishPending.nsCounter) q gq.nsPrefixesFloatingIn attrib
  rw [h₆] at ho
  subst ho
  obtain ⟨o₀, hf⟩ := finishPending_eq g
  refine ⟨q, ?_, ?_, fun g₂ s' g₂' hm h₂ => ?_⟩
  · split_ifs
    · exact ⟨o, by simp [pin, hgq]⟩
    · exact ⟨o ++ [.write ">"], by simp [pin, hgq]⟩
  · intro hs
    split_ifs with h'
    · simp [pin, hgq, hf, hs] at h'
    · simp [pin, hgq, hf]
  -- The map the start leaves: the one before it, updated with the declarations then pending.
  replace hm : g₂.currNsMap = g.currNsMap.update gq.nsDeclsFloatingIn := by
    split_ifs at hm <;> simpa [pin, hgq, hf] using hm
  have hk := rel_of_exec (qnameAttributes_keepsDecls _ a) h₄
  have hra := rel_of_exec (qnameAttributes_resolves _ a) h₄
  by_cases hl : isValidLocalName n.localName = false
  · rw [exec_qname] at h₃; simp [hl] at h₃
  by_cases hn : truthy n.uri = true
  swap
  · exact qname_ok_unresolved (.inl (by simpa using hn)) h₂ h₃
  by_cases hx : n.uri = some xmlNamespace
  · exact qname_ok_unresolved (.inr hx) h₂ h₃
  simp only [Bool.not_eq_false] at hl
  rw [exec_qname] at h₃
  simp only [hl, hn, hx, Bool.true_eq_false, ↓reduceIte, Prod.mk.injEq, Except.ok.injEq] at h₃
  obtain ⟨rfl, rfl⟩ := h₃
  -- The element's namespace has, in the map the start leaves, the prefix its tag was written with.
  have hp : g₂.currNsMap.get? n.uri = some (g.finishPending.resolve n.uri).1 := by
    rw [hm, PyDict.get?_update]
    cases hu : g.currNsMap.get? n.uri with
    | none =>
      have hu' : g.finishPending.currNsMap.get? n.uri = none := by rwa [finishPending_currNsMap]
      rw [hk _ _ (resolve_decl hu'), Option.or_some]
    | some p₀ =>
      have hu' : g.finishPending.currNsMap.get? n.uri = some p₀ := by rwa [finishPending_currNsMap]
      have hd : g.nsDeclsFloatingIn.get? n.uri = none := hc.resolve_left (by simp [hu])
      have hres : g.finishPending.resolve n.uri = (p₀, g.finishPending) := by simp [resolve, hu']
      rw [hra.decls_of_mapped _ (by simp [hres, hu']), hres, finishPending_nsDeclsFloatingIn, hd]
      rfl
  rw [exec_qname_mapped g₂ hl hn hx hp, Prod.mk.injEq, Except.ok.injEq] at h₂
  exact ⟨h₂.1.symm, h₂.2.symm⟩

/-- **The end tag repeats the start tag.** Let an element start where its namespace is not both
mapped in `_curr_ns_map` and declared again for it. If the element and its well-nested content run
without raising, its start tag is written as `<` and a name `s`, and its end is `/>` or the closing
tag `</s>`; without short empty elements it is always `</s>`. -/
theorem endTag_repeats_startTag {n : Name} {a : PyDict Name String} {body : List Call}
    (hb : Balanced body) {g g' : XMPPXMLGenerator}
    (h : exec (runCalls (.startElementNS n a :: body ++ [.endElementNS n])) g = (.ok (), g'))
    (hc : g.currNsMap.get? n.uri = none ∨ g.nsDeclsFloatingIn.get? n.uri = none) :
    ∃ s o e, g'.out = g.finishPending.out ++ [.write "<", .write s] ++ o ++ e ∧
      (e = [.write "/>"] ∨ e = [.write "</", .write s, .write ">"]) ∧
      (g.shortEmptyElements = false → e = [.write "</", .write s, .write ">"]) := by
  obtain ⟨g₁, h₁, h⟩ := runCalls_cons_ok h
  obtain ⟨g₂, h₂, h⟩ := runCalls_append_ok h
  obtain ⟨g₃, h₃, h⟩ := runCalls_cons_ok h
  simp only [exec_runCalls_nil, Prod.mk.injEq, true_and] at h
  subst h
  obtain ⟨s, ⟨o₁, ho₁⟩, hlong, hs⟩ := startElementNS_ok_qname h₁ hc
  obtain ⟨o₂, ho₂⟩ := (runCalls_out h₂).1
  obtain ⟨-, g₄, f, rest, h₄, -, rfl⟩ := endElementNS_ok h₃
  rcases writeEndTag_ok h₄ with ⟨hp₂, rfl⟩ | ⟨-, s', g₅, h₅, rfl⟩
  · refine ⟨s, o₁ ++ o₂, _, by simp [restore, ← ho₂, ho₁], .inl rfl, fun hsh => ?_⟩
    have := runCalls_long h₂ ((dispatch_ok_out h₁).2.trans hsh) (hlong hsh)
    simp [this] at hp₂
  · obtain ⟨_, _, _, _, e⟩ := (rel_of_exec (qname_resolves _ n false) h₅).pendingOnly
    have hm₂ := balanced_currNsMap hb h₂
    rw [(hs { g₂ with out := g₂.out ++ [.write "</"] } s' g₅ hm₂ h₅).1]
    exact ⟨s, o₁ ++ o₂, _, by simp [restore, e, ← ho₂, ho₁], .inr rfl, fun _ => rfl⟩

/-- An element `x` in `urn:a`, which has no prefix yet, with the text `t`. -/
def rolledElement : List Call :=
  .startElementNS ⟨some "urn:a", "x"⟩ .empty :: [.characters "t"] ++ [.endElementNS ⟨some "urn:a", "x"⟩]

theorem endTag_repeats_startTag_rolled :
    ∃ s o e, (exec (runCalls rolledElement) (XMPPXMLGenerator.init false)).2.out =
        (XMPPXMLGenerator.init false).finishPending.out ++ [.write "<", .write s] ++ o ++ e ∧
      (e = [.write "/>"] ∨ e = [.write "</", .write s, .write ">"]) ∧
      ((XMPPXMLGenerator.init false).shortEmptyElements = false →
        e = [.write "</", .write s, .write ">"]) :=
  endTag_repeats_startTag (.other (c := .characters "t") rfl .nil) (Prod.ext (by rfl) rfl) (.inl rfl)

example : written (exec (runCalls rolledElement) (XMPPXMLGenerator.init false)).2.out =
    "<ns0:x xmlns:ns0=\"urn:a\">t</ns0:x>" := by decide

end XmppXml
