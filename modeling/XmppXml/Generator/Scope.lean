import XmppXml.Generator.MustClose

/-!
# Unnamespaced elements and the URI-to-prefix map

`_curr_ns_map` maps namespace URIs to prefixes. Before an element whose namespace is false,
`_qname` tests `None in self._curr_ns_map or None in self._ns_prefixes_floating_in`: the first test
asks whether some prefix is bound to the URI `None`, the second whether the element itself declares
a prefixless namespace. A prefixless namespace declared by an enclosing element is a value of the
map, not a key, and is not seen.

* `startElementNS_unnamespaced_iff`: exactly when `startElementNS` raises the `ValueError` of the
  unnamespaced check, whatever the attributes;
* `inherited_default_namespace_undetected`: an unnamespaced element inside an element that declares
  a prefixless namespace is written without error, and lands in that namespace.
-/

namespace XmppXml

open XMPPXMLGenerator

/-! ### What the steps of `startElementNS` raise -/

section Raises

/-- The `ValueError` of `_qname` on an unnamespaced element under a prefixless namespace. -/
def unnamespacedError : PyError :=
  .valueError "cannot create unnamespaced element when prefixless namespace is bound"

/-- A message that starts with `invalid name: ` is not the unnamespaced one. -/
theorem invalidName_ne_unnamespaced (s : String) :
    PyError.valueError ("invalid name: " ++ s) ≠ unnamespacedError := by
  intro h
  have h₁ : ("invalid name: " ++ s).data.head? = some 'i' := rfl
  have h₂ : ("cannot create unnamespaced element when prefixless namespace is bound").data.head? =
    some 'c' := rfl
  injection h with h
  rw [h, h₂] at h₁
  exact absurd h₁ (by decide)

/-- The name of an attribute raises only `invalid name`. -/
theorem qname_attr_raises (n : Name) : RaisesOnly (· ≠ unnamespacedError) (qname n true) := by
  intro g e g' h
  rw [exec_qname] at h
  split_ifs at h with h₁ h₂ h₃ h₄ <;>
    simp only [Prod.mk.injEq, Except.error.injEq, reduceCtorEq, false_and] at h
  · rw [← h.1]; exact invalidName_ne_unnamespaced _
  · simp at h₄

theorem qnameAttributes_raises (a : PyDict Name String) :
    RaisesOnly (· ≠ unnamespacedError) (qnameAttributes a) := by
  have hx : ∀ x : Name × String,
      RaisesOnly (· ≠ unnamespacedError) (do return (← qname x.1 true, x.2) : GenM (String × String)) :=
    fun x => .bind (qname_attr_raises x.1) fun _ => .pure _
  unfold qnameAttributes
  refine .bind (.mapM hx a.items) fun _ => ?_
  split
  · exact .throw (by simp [unnamespacedError])
  · exact .pure _

theorem pinFloatingNsDecls_raises (c : Int) :
    RaisesOnly (· ≠ unnamespacedError) (pinFloatingNsDecls c) := by
  intro g e g' h
  rw [exec_pinFloatingNsDecls] at h
  split_ifs at h <;> simp only [Prod.mk.injEq] at h <;> obtain ⟨h, -⟩ := h <;> cases h
  simp [unnamespacedError]

theorem writeQuoted_raises (uri : Uri) : RaisesOnly (· ≠ unnamespacedError) (writeQuoted uri) := by
  cases uri
  · exact .throw (by simp [unnamespacedError])
  · exact .write _

theorem writeDecl_raises (pfx : Prefix) (uri : Uri) :
    RaisesOnly (· ≠ unnamespacedError) (writeDecl pfx uri) := by
  refine .bind (.write _) fun _ => .bind ?_ fun _ => .bind (.write _) fun _ => writeQuoted_raises uri
  unfold writePrefix
  split
  · exact .bind (.write _) fun _ => .write _
  · exact .pure _

theorem writeStartTag_raises (q : String) (pp : PyDict Prefix Uri) (attrib : List (String × String)) :
    RaisesOnly (· ≠ unnamespacedError) (writeStartTag q pp attrib) := by
  have hdefault : RaisesOnly (· ≠ unnamespacedError) (writeDefaultDecl pp) := by
    unfold writeDefaultDecl
    split
    · exact .bind (.write _) fun _ => writeQuoted_raises _
    · exact .pure _
  exact .bind (.write _) fun _ => .bind (.write _) fun _ => .bind hdefault fun _ =>
    .bind (.forM (fun (d : Prefix × Uri) => writeDecl_raises d.1 d.2) _) fun _ => .forM (fun _ => .bind (.write _)
      fun _ => .bind (.write _) fun _ => .bind (.write _) fun _ => .write _) _

end Raises

/-! ### The unnamespaced check -/

/-- **When an unnamespaced element is refused.** For an element with a false namespace and a valid
local name, `startElementNS` raises the `ValueError` of the unnamespaced check exactly when some
prefix is bound to the URI `None` in `_curr_ns_map` or a prefixless namespace is pending for the
element itself; attributes never make it raise so. -/
theorem startElementNS_unnamespaced_iff (g : XMPPXMLGenerator) {n : Name} (a : PyDict Name String)
    (hu : truthy n.uri = false) (hl : isValidLocalName n.localName = true) :
    (exec (startElementNS n a) g).1 = .error unnamespacedError ↔
      (g.currNsMap.contains none || g.nsPrefixesFloatingIn.contains none) = true := by
  have hq := exec_qname g.finishPending n false
  simp only [hl, hu, finishPending_currNsMap, finishPending_nsPrefixesFloatingIn, Bool.not_false,
    Bool.true_and, if_false, Bool.false_eq_true, Bool.true_eq_false] at hq
  constructor
  · intro h
    rcases hs : exec (startElementNS n a) g with ⟨_ | _, g'⟩ <;> rw [hs] at h <;> cases h
    unfold startElementNS at hs
    have hs := exec_bind_error_of_ok _ (exec_finishPendingStartElement g) hs
    have hs := exec_bind_error_of_ok _ (exec_get _) hs
    have hx := @RaisesOnly.bind_error _ _ _ _ (· ≠ unnamespacedError) _ _ _ _ _ (fun q => ?_)
      (fun h => h rfl) hs
    · rw [hq] at hx
      split_ifs at hx with hc
      · exact hc
      · simp at hx
    · exact .bind (qnameAttributes_raises a) fun _ => .bind (pinFloatingNsDecls_raises _) fun _ =>
        .bind (writeStartTag_raises _ _ _) fun _ => .get fun _ => by
          split
          · exact .modify _
          · exact .write _
  · intro hc
    simp only [startElementNS, exec_bind, exec_finishPendingStartElement, exec_get, hq, hc,
      ↓reduceIte]
    rfl

theorem startElementNS_unnamespaced_iff_pending :
    ((exec (startElementNS ⟨none, "y"⟩ .empty)
        ((XMPPXMLGenerator.init true).declare none (some "urn:a") false)).1 = .error unnamespacedError ↔
      (((XMPPXMLGenerator.init true).declare none (some "urn:a") false).currNsMap.contains none ||
        ((XMPPXMLGenerator.init true).declare none (some "urn:a") false).nsPrefixesFloatingIn.contains
          none) = true) :=
  startElementNS_unnamespaced_iff _ .empty rfl (by decide)

/-- A prefixless namespace declared for an enclosing element, then an unnamespaced child. -/
def inheritedDefault : List Call :=
  [.startDocument, .startPrefixMapping none (some "urn:a"), .startElementNS ⟨some "urn:a", "x"⟩ .empty,
    .startElementNS ⟨none, "y"⟩ .empty]

/-- The unnamespaced child of `inheritedDefault` is written without error, inside the declaration
`xmlns="urn:a"` of its parent, which puts it in that namespace. -/
theorem inherited_default_namespace_undetected :
    (exec (runCalls inheritedDefault) (XMPPXMLGenerator.init true)).1 = .ok () ∧
      written (exec (runCalls inheritedDefault) (XMPPXMLGenerator.init true)).2.out =
        "<x xmlns=\"urn:a\"><y" :=
  ⟨rfl, by decide⟩

/-! ### Prefixes rebound by a nested element -/

/-- **A URI keeps its prefix.** An element whose start returns leaves every URI that had a prefix
and is not declared again for the element itself with that prefix, whatever the element declares
for the prefix. -/
theorem startElementNS_keeps_prefix_of_uri {n : Name} {a : PyDict Name String}
    {g g' : XMPPXMLGenerator} (h : exec (startElementNS n a) g = (.ok (), g')) {u : Uri} {p : Prefix}
    (hu : g.currNsMap.get? u = some p) (hd : g.nsDeclsFloatingIn.get? u = none) :
    g'.currNsMap.get? u = some p := by
  obtain ⟨q, g₃, attrib, gq, g₆, h₃, h₄, -, h₆, rfl⟩ := startElementNS_ok h
  have hr := (rel_of_exec (qname_resolves _ n false) h₃).trans
    (rel_of_exec (qnameAttributes_resolves _ a) h₄)
  obtain ⟨o, rfl⟩ := rel_of_exec (writeStartTag_outOnly _ _ _ _) h₆
  obtain ⟨_, hf⟩ := finishPending_eq g
  rw [hf] at hr
  have hdq := hr.decls_of_mapped u (by simp [hu])
  obtain ⟨_, _, _, _, rfl⟩ := hr.pendingOnly
  split_ifs <;> simp [pin, hdq, hd, hu]

/-- The prefix `a` bound to `urn:1` for an element, and bound again to `urn:2` for its child. -/
def reboundPrefix : List Call :=
  [.startDocument, .startPrefixMapping (some "a") (some "urn:1"),
    .startElementNS ⟨some "urn:1", "e"⟩ .empty, .startPrefixMapping (some "a") (some "urn:2")]

theorem startElementNS_keeps_prefix_of_uri_rebound :
    (exec (startElementNS ⟨some "urn:2", "f"⟩ .empty)
      (exec (runCalls reboundPrefix) (XMPPXMLGenerator.init true)).2).2.currNsMap.get? (some "urn:1") =
      some (some "a") :=
  @startElementNS_keeps_prefix_of_uri ⟨some "urn:2", "f"⟩ .empty
    (exec (runCalls reboundPrefix) (XMPPXMLGenerator.init true)).2 _ rfl (some "urn:1") (some "a")
    rfl rfl

/-- `reboundPrefix`, the child `f` in `urn:2` and a grandchild `g` in `urn:1`. -/
def reboundThenReused : List Call :=
  reboundPrefix ++ [.startElementNS ⟨some "urn:2", "f"⟩ .empty, .startElementNS ⟨some "urn:1", "g"⟩ .empty]

/-- After the child `f` of `reboundThenReused`, whose start tag binds `a` to `urn:2`, the map still
gives `urn:1` the prefix `a`, and the grandchild in `urn:1` is written as `a:g`, which the
declaration of `f` puts in `urn:2`. -/
theorem rebound_prefix_keeps_stale_entry :
    (exec (runCalls reboundThenReused) (XMPPXMLGenerator.init true)).1 = .ok () ∧
      (exec (runCalls reboundThenReused) (XMPPXMLGenerator.init true)).2.currNsMap.get?
        (some "urn:1") = some (some "a") ∧
      written (exec (runCalls reboundThenReused) (XMPPXMLGenerator.init true)).2.out =
        "<a:e xmlns:a=\"urn:1\"><a:f xmlns:a=\"urn:2\"><a:g" :=
  ⟨rfl, rfl, by decide⟩

end XmppXml
