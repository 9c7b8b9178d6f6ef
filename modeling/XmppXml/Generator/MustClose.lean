import XmppXml.Generator.Run

/-!
# Prefixes left to close after an element

`_pin_floating_ns_decls` stores with an element's frame the prefixes pending for it that are not in
`_ns_auto_prefixes_floating_in`, and `endElementNS` hands them on in `_ns_prefixes_floating_out`:
`endPrefixMapping` removes them one by one, and the next element boundary raises `RuntimeError`
while one is left.

`_ns_auto_prefixes_floating_in` is filled by every automatic declaration and never emptied
(`runCalls_autoPrefixes`): it holds every prefix `_roll_prefix` has handed out since the generator
was made, not only those of the element being started.

* `endElementNS_runtimeError_iff`: `endElementNS` raises `RuntimeError` exactly when a prefix is
  left to close;
* `endPrefixMapping_after_element`: after a well-nested element, `endPrefixMapping` accepts exactly
  the prefixes pending at its start that are not automatic ones;
* `autoPrefix_never_closable`: a prefix once handed out automatically is never again one that an
  element leaves to close, even when the caller declares it.
-/

namespace XmppXml

open XMPPXMLGenerator

section Errors

variable {g g' : XMPPXMLGenerator} {e : PyError}

/-- `_qname` raises only `ValueError`. -/
theorem qname_raises (n : Name) (attr : Bool) :
    RaisesOnly (fun e => ∃ msg, e = .valueError msg) (qname n attr) := by
  intro g e g' h
  rw [exec_qname] at h
  split_ifs at h <;> simp only [Prod.mk.injEq, Except.error.injEq, reduceCtorEq, false_and] at h <;>
    exact ⟨_, h.1.symm⟩

/-- Writing the end of an element raises only the `ValueError` of `_qname`. -/
theorem writeEndTag_raises (n : Name) :
    RaisesOnly (fun e => ∃ msg, e = .valueError msg) (writeEndTag n) := by
  unfold writeEndTag
  refine .get fun g => ?_
  split
  · exact .bind (.set _) fun _ => .write _
  · exact .bind (.write _) fun _ => .bind (qname_raises n false) fun _ => .bind (.write _) fun _ => .write _

/-- `endElementNS` raises `RuntimeError` exactly when a prefix is left to close. -/
theorem endElementNS_runtimeError_iff (g : XMPPXMLGenerator) (n : Name) :
    (∃ msg, (exec (endElementNS n) g).1 = .error (.runtimeError msg)) ↔
      outstanding g.nsPrefixesFloatingOut = true := by
  by_cases hout : outstanding g.nsPrefixesFloatingOut = true
  · simp [endElementNS, hout]
  · simp only [endElementNS, exec_bind, exec_get, hout, Bool.false_eq_true, if_false, iff_false,
      not_exists]
    intro msg
    rcases hw : exec (writeEndTag n) g with ⟨e | _, g₁⟩
    · obtain ⟨_, rfl⟩ := writeEndTag_raises n _ _ _ hw
      simp
    · simp only [exec_popFrame]
      split <;> simp

end Errors

/-- `endPrefixMapping` returns exactly when the prefix is in the must-close set. -/
theorem endPrefixMapping_ok_iff (g : XMPPXMLGenerator) (p : Prefix) (s : Finset Prefix)
    (hs : g.nsPrefixesFloatingOut = some s) :
    (exec (endPrefixMapping p) g).1 = .ok () ↔ p ∈ s := by
  simp only [exec_endPrefixMapping, hs]
  split_ifs with hp <;> simp [hp]

/-- **The prefixes an element leaves to close.** After a well-nested element, `endPrefixMapping`
accepts exactly the prefixes that were pending at its start and are not in
`_ns_auto_prefixes_floating_in`, and the next `endElementNS` raises `RuntimeError` exactly when one
of them is left. -/
theorem endPrefixMapping_after_element {n : Name} {a : PyDict Name String} {body : List Call}
    (hb : Balanced body) {g g' : XMPPXMLGenerator}
    (h : exec (runCalls (.startElementNS n a :: body ++ [.endElementNS n])) g = (.ok (), g')) :
    (∀ p, (exec (endPrefixMapping p) g').1 = .ok () ↔
      g.nsPrefixesFloatingIn.contains p = true ∧ p ∉ g.nsAutoPrefixesFloatingIn) ∧
    ∀ m, (∃ msg, (exec (endElementNS m) g').1 = .error (.runtimeError msg)) ↔
      ∃ p, g.nsPrefixesFloatingIn.contains p = true ∧ p ∉ g.nsAutoPrefixesFloatingIn := by
  have ho := (element_restores hb h).2.2.2
  refine ⟨fun p => by rw [endPrefixMapping_ok_iff g' p _ ho, mem_explicitPending], fun m => ?_⟩
  rw [endElementNS_runtimeError_iff, ho]
  simp [outstanding, Finset.eq_empty_iff_forall_not_mem]

theorem endPrefixMapping_after_element_declared :
    ((exec (endPrefixMapping (some "p")) (exec (runCalls [.startElementNS ⟨some "urn:a", "x"⟩ .empty,
        .endElementNS ⟨some "urn:a", "x"⟩])
        ((XMPPXMLGenerator.init true).declare (some "p") (some "urn:a") false)).2).1 = .ok () ↔
      ((XMPPXMLGenerator.init true).declare (some "p") (some "urn:a") false).nsPrefixesFloatingIn.contains
          (some "p") = true ∧
        some "p" ∉ ((XMPPXMLGenerator.init true).declare (some "p") (some "urn:a")
          false).nsAutoPrefixesFloatingIn) :=
  (@endPrefixMapping_after_element ⟨some "urn:a", "x"⟩ .empty [] .nil
    ((XMPPXMLGenerator.init true).declare (some "p") (some "urn:a") false) _ rfl).1 (some "p")

/-- Along a run that raises nothing, `_ns_auto_prefixes_floating_in` only grows. -/
theorem runCalls_autoPrefixes {cs : List Call} {g g' : XMPPXMLGenerator}
    (h : exec (runCalls cs) g = (.ok (), g')) :
    g.nsAutoPrefixesFloatingIn ⊆ g'.nsAutoPrefixesFloatingIn := by
  induction cs generalizing g with
  | nil => simp only [exec_runCalls_nil, Prod.mk.injEq] at h; rw [h.2]
  | cons c cs ih =>
    obtain ⟨g₁, h₁, h₂⟩ := runCalls_cons_ok h
    exact (dispatch_ok_autoPrefixes h₁).trans (ih h₂)

/-- **An automatic prefix is never closable again.** Once `_roll_prefix` has handed out a prefix,
`endPrefixMapping` refuses it after every later well-nested element of the run, also when the
caller declared it for that element. -/
theorem autoPrefix_never_closable {pre body : List Call} {n : Name} {a : PyDict Name String}
    {p : Prefix} {g g₁ g' : XMPPXMLGenerator} (hp : p ∈ g.nsAutoPrefixesFloatingIn)
    (hpre : exec (runCalls pre) g = (.ok (), g₁)) (hb : Balanced body)
    (h : exec (runCalls (.startElementNS n a :: body ++ [.endElementNS n])) g₁ = (.ok (), g')) :
    (exec (endPrefixMapping p) g').1 ≠ .ok () := by
  rw [Ne, endPrefixMapping_ok_iff g' p _ (element_restores hb h).2.2.2, mem_explicitPending]
  exact fun hq => hq.2 (runCalls_autoPrefixes hpre hp)

theorem autoPrefix_never_closable_after_sibling :
    (exec (endPrefixMapping (some "ns0")) (exec (runCalls [.startElementNS ⟨some "urn:b", "y"⟩ .empty,
      .endElementNS ⟨some "urn:b", "y"⟩]) ((exec (runCalls [.startElementNS ⟨some "urn:a", "x"⟩ .empty,
      .endElementNS ⟨some "urn:a", "x"⟩]) (XMPPXMLGenerator.init true)).2.declare (some "ns0")
      (some "urn:b") false)).2).1 ≠ .ok () :=
  @autoPrefix_never_closable [] [] ⟨some "urn:b", "y"⟩ .empty (some "ns0")
    ((exec (runCalls [.startElementNS ⟨some "urn:a", "x"⟩ .empty, .endElementNS ⟨some "urn:a", "x"⟩])
      (XMPPXMLGenerator.init true)).2.declare (some "ns0") (some "urn:b") false) _ _ (by decide) rfl
    .nil rfl

/-- A sibling given `ns0` automatically, then `ns0` declared by the caller for the next element. -/
def autoThenExplicit : List Call :=
  [.startDocument, .startElementNS ⟨some "urn:a", "x"⟩ .empty, .endElementNS ⟨some "urn:a", "x"⟩,
    .startPrefixMapping (some "ns0") (some "urn:b"), .startElementNS ⟨some "urn:b", "y"⟩ .empty,
    .endElementNS ⟨some "urn:b", "y"⟩]

/-- After the second element of `autoThenExplicit`, closing the caller's prefix `ns0` raises
`KeyError`, and the next element starts although `ns0` was never closed. -/
theorem explicit_prefix_after_auto_sibling :
    (exec (runCalls autoThenExplicit) (XMPPXMLGenerator.init true)).1 = .ok () ∧
      written (exec (runCalls autoThenExplicit) (XMPPXMLGenerator.init true)).2.out =
        "<ns0:x xmlns:ns0=\"urn:a\"/><ns0:y xmlns:ns0=\"urn:b\"/>" ∧
      (exec (runCalls (autoThenExplicit ++ [.endPrefixMapping (some "ns0")]))
        (XMPPXMLGenerator.init true)).1 = .error (.keyError (some "ns0")) ∧
      (exec (runCalls (autoThenExplicit ++ [.startElementNS ⟨some "urn:c", "z"⟩ .empty]))
        (XMPPXMLGenerator.init true)).1 = .ok () :=
  ⟨rfl, by decide, rfl, by rw [exec_runCalls_append_of_ok] <;> rfl⟩

/-! ### Runs that declare no prefix -/

/-- A call that declares a prefix for the next element. -/
def Call.declaresPrefix : Call → Bool
  | .startPrefixMapping _ _ => true
  | _ => false

/-- No prefix declared with `auto=False` is pending, and none is left to close. -/
structure XMPPXMLGenerator.Quiet (g : XMPPXMLGenerator) : Prop where
  nothingPending : g.explicitPending = ∅
  closed : outstanding g.nsPrefixesFloatingOut = false

theorem XMPPXMLGenerator.Quiet.of_eq {g g' : XMPPXMLGenerator} (hq : g.Quiet)
    (hi : g'.nsPrefixesFloatingIn = g.nsPrefixesFloatingIn)
    (ha : g'.nsAutoPrefixesFloatingIn = g.nsAutoPrefixesFloatingIn)
    (ho : g'.nsPrefixesFloatingOut = g.nsPrefixesFloatingOut) : g'.Quiet :=
  ⟨by rw [XMPPXMLGenerator.explicitPending, hi, ha]; exact hq.1, by rw [ho]; exact hq.2⟩

/-- Finishing the deferred start tag and writing more keeps a quiet state quiet. -/
theorem XMPPXMLGenerator.Quiet.finishPending {g : XMPPXMLGenerator} (hq : g.Quiet) (o : List SinkOp) :
    ({ g.finishPending with out := g.finishPending.out ++ o } : XMPPXMLGenerator).Quiet := by
  obtain ⟨o₀, hf⟩ := finishPending_eq g
  exact hq.of_eq (by simp [hf]) (by simp [hf]) (by simp [hf])

/-- A start that returns has pinned every pending prefix, and leaves the prefixes to close alone. -/
theorem startElementNS_ok_pinned {n : Name} {a : PyDict Name String} {g g' : XMPPXMLGenerator}
    (h : exec (startElementNS n a) g = (.ok (), g')) :
    g'.explicitPending = ∅ ∧ g'.nsPrefixesFloatingOut = g.nsPrefixesFloatingOut := by
  obtain ⟨q, g₃, attrib, gq, g₆, h₃, h₄, -, h₆, rfl⟩ := startElementNS_ok h
  obtain ⟨_, _, _, _, rfl⟩ := ((rel_of_exec (qname_resolves _ n false) h₃).trans
    (rel_of_exec (qnameAttributes_resolves _ a) h₄)).pendingOnly
  obtain ⟨o, rfl⟩ := rel_of_exec (writeStartTag_outOnly _ _ _ _) h₆
  obtain ⟨o₀, hf⟩ := finishPending_eq g
  split_ifs <;> simp [explicitPending, pin, hf, PyDict.keys, PyDict.empty]

/-- An end that returns keeps the prefixes pending with `auto=False`. -/
theorem endElementNS_ok_explicitPending {n : Name} {g g' : XMPPXMLGenerator}
    (h : exec (endElementNS n) g = (.ok (), g')) : g'.explicitPending = g.explicitPending := by
  obtain ⟨-, g₁, f, rest, h₁, -, rfl⟩ := endElementNS_ok h
  rcases writeEndTag_ok h₁ with ⟨-, rfl⟩ | ⟨-, q, g₂, h₂, rfl⟩
  · rfl
  · exact (rel_of_exec (qname_resolves _ n false) h₂).explicitPending_eq

/-- A call other than a start or an end, and not a declaration, keeps a quiet state quiet:
`endPrefixMapping` finds nothing to close there and raises. -/
theorem dispatch_ok_quiet {c : Call} {g g' : XMPPXMLGenerator}
    (h : exec (dispatch c) g = (.ok (), g')) (hc : c.depth = 0) (hd : c.declaresPrefix = false)
    (hq : g.Quiet) : g'.Quiet := by
  cases c with
  | startElementNS | endElementNS => simp [Call.depth] at hc
  | startPrefixMapping => simp [Call.declaresPrefix] at hd
  | endPrefixMapping pfx =>
    have hc := hq.closed
    simp only [dispatch, exec_endPrefixMapping] at h
    split at h <;> rename_i hs
    · simp at h
    · simp only [hs, outstanding, decide_eq_false_iff_not, not_not] at hc
      subst hc; simp at h
  | characters chars =>
    simp only [dispatch, exec_characters] at h
    split_ifs at h <;> simp only [Prod.mk.injEq, reduceCtorEq, false_and] at h
    rw [← h.2]; exact hq.finishPending _
  | flush =>
    simp only [dispatch, exec_flush, Prod.mk.injEq] at h
    rw [← h.2]; exact hq.finishPending _
  | startDocument | endDocument =>
    simp only [dispatch, startDocument, endDocument, exec_pure, Prod.mk.injEq] at h
    rw [← h.2]; exact hq
  | startElement | endElement | processingInstruction | skippedEntity | setDocumentLocator
    | ignorableWhitespace => cases h

/-- **A run that declares no prefix stays quiet.** A well-nested sequence of calls none of which
is `startPrefixMapping`, run from a state where no prefix declared with `auto=False` is pending
and none is left to close, leaves such a state when it returns: every element it opens and
closes leaves nothing to close. -/
theorem balanced_quiet {body : List Call} (hb : Balanced body)
    (hd : ∀ c ∈ body, c.declaresPrefix = false) :
    ∀ {g g' : XMPPXMLGenerator}, exec (runCalls body) g = (.ok (), g') → g.Quiet → g'.Quiet := by
  induction hb with
  | nil => intro g g' h hq; simp only [exec_runCalls_nil, Prod.mk.injEq] at h; rw [← h.2]; exact hq
  | other hc _ ih =>
    intro g g' h hq
    obtain ⟨g₁, h₁, h₂⟩ := runCalls_cons_ok h
    exact ih (fun c hc' => hd c (.tail _ hc')) h₂
      (dispatch_ok_quiet h₁ hc (hd _ (.head _)) hq)
  | @element n a body cs hbody _ ihb ihc =>
    intro g g' h hq
    rw [show Call.startElementNS n a :: body ++ Call.endElementNS n :: cs =
      (Call.startElementNS n a :: body ++ [Call.endElementNS n]) ++ cs by simp] at h
    obtain ⟨g₃, h₃, h⟩ := runCalls_append_ok h
    refine ihc (fun c hc => hd c (by simp [hc])) h ⟨?_, ?_⟩
    · obtain ⟨g₁, h₁, h₂⟩ := runCalls_append_ok h₃
      obtain ⟨g₀, h₀, h₁⟩ := runCalls_cons_ok h₁
      obtain ⟨g₄, h₄, h₄'⟩ := runCalls_cons_ok h₂
      simp only [exec_runCalls_nil, Prod.mk.injEq, true_and] at h₄'
      subst h₄'
      have hp := startElementNS_ok_pinned h₀
      rw [endElementNS_ok_explicitPending h₄]
      exact (ihb (fun c hc => hd c (by simp [hc])) h₁ ⟨hp.1, hp.2 ▸ hq.closed⟩).nothingPending
    · rw [(element_restores hbody h₃).2.2.2, hq.nothingPending]; rfl

end XmppXml
