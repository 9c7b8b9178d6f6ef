import XmppXml.Generator.Run
import XmppXml.Tags

/-!
# Every prefix the writer holds is valid

`startPrefixMapping` refuses a prefix that is not a valid XML name without a colon, and the
prefixes `_qname` makes up, `ns0`, `ns1`, …, are valid. `PrefixesValid` says so of every prefix
the writer holds, pending or mapped, and `runCalls_prefixesValid` shows that every run keeps it.
So every name the writer puts into a tag, `prefix:local` or `local`, is made of XML name characters
(`qname_ok_nameText`, `qnameAttributes_ok_nameText`): it holds no blank, `<`, `>` or `/`.
-/

namespace XmppXml

open XMPPXMLGenerator

/-! ### Every prefix the writer holds is valid -/

/-- Every prefix the writer holds is one `startPrefixMapping` accepts: those pending for the next
element, and those the current map and every saved map give a URI. -/
structure XMPPXMLGenerator.PrefixesValid (g : XMPPXMLGenerator) : Prop where
  pending : ∀ p ∈ g.nsPrefixesFloatingIn.keys, isValidPrefix p = true
  decls : ∀ u p, g.nsDeclsFloatingIn.get? u = some p → isValidPrefix p = true
  curr : ∀ u p, g.currNsMap.get? u = some p → isValidPrefix p = true
  saved : ∀ f ∈ g.nsMapStack, ∀ u p, f.nsMap.get? u = some p → isValidPrefix p = true

namespace XMPPXMLGenerator.PrefixesValid

variable {g g' : XMPPXMLGenerator}

theorem of_eq (hv : g.PrefixesValid) (hi : g'.nsPrefixesFloatingIn = g.nsPrefixesFloatingIn)
    (hd : g'.nsDeclsFloatingIn = g.nsDeclsFloatingIn) (hc : g'.currNsMap = g.currNsMap)
    (hs : g'.nsMapStack = g.nsMapStack) : g'.PrefixesValid :=
  ⟨hi ▸ hv.pending, hd ▸ hv.decls, hc ▸ hv.curr, hs ▸ hv.saved⟩

theorem declare (hv : g.PrefixesValid) {p : Prefix} (hp : isValidPrefix p = true) (u : Uri)
    (auto : Bool) : (g.declare p u auto).PrefixesValid where
  pending q hq := by
    simp only [XMPPXMLGenerator.declare, PyDict.mem_keys_iff, PyDict.contains_assign,
      Bool.or_eq_true, decide_eq_true_eq] at hq
    rcases hq with rfl | hq
    · exact hp
    · exact hv.pending q ((PyDict.mem_keys_iff _ _).2 hq)
  decls u' q hq := by
    simp only [XMPPXMLGenerator.declare, PyDict.get?_assign] at hq
    split_ifs at hq
    · cases hq; exact hp
    · exact hv.decls u' q hq
  curr := hv.curr
  saved := hv.saved

theorem pin (hv : g.PrefixesValid) (c : Int) : (g.pin c).PrefixesValid where
  pending q hq := by simp [XMPPXMLGenerator.pin, PyDict.keys, PyDict.empty] at hq
  decls u q hq := by simp [XMPPXMLGenerator.pin] at hq
  curr u q hq := by
    simp only [XMPPXMLGenerator.pin, PyDict.get?_update] at hq
    cases hd : g.nsDeclsFloatingIn.get? u with
    | none => rw [hd, Option.none_or] at hq; exact hv.curr u q hq
    | some q' => rw [hd, Option.or_some] at hq; cases hq; exact hv.decls u _ hd
  saved f hf := by
    rcases List.mem_cons.mp hf with rfl | hf
    · exact hv.curr
    · exact hv.saved f hf

theorem restore (hv : g.PrefixesValid) {f : Frame} {rest : List Frame}
    (hs : g.nsMapStack = f :: rest) : (g.restore f rest).PrefixesValid where
  pending := hv.pending
  decls := hv.decls
  curr := hv.saved f (by simp [hs])
  saved f' hf' := hv.saved f' (by rw [hs]; exact .tail _ hf')

end XMPPXMLGenerator.PrefixesValid

/-- `g'` holds only valid prefixes when `g` does. -/
def KeepsValid (g g' : XMPPXMLGenerator) : Prop := g.PrefixesValid → g'.PrefixesValid

theorem KeepsValid.refl (g : XMPPXMLGenerator) : KeepsValid g g := id

theorem KeepsValid.trans {g₁ g₂ g₃ : XMPPXMLGenerator} (h₁ : KeepsValid g₁ g₂)
    (h₂ : KeepsValid g₂ g₃) : KeepsValid g₁ g₃ := h₂ ∘ h₁

/-- An automatic prefix is a valid one. -/
theorem resolve_keepsValid (g : XMPPXMLGenerator) (uri : Uri) : KeepsValid g (g.resolve uri).2 := by
  intro hv
  unfold resolve
  split
  · exact hv
  · split
    · exact hv
    · exact (hv.of_eq rfl rfl rfl rfl : ({ g with nsCounter := g.rolled }).PrefixesValid).declare
        (isValidPrefix_nsName _) uri true

theorem qname_keepsValid (g : XMPPXMLGenerator) (n : Name) (attr : Bool) :
    KeepsValid g (exec (qname n attr) g).2 := by
  rw [exec_qname]
  split_ifs
  all_goals first | exact .refl g | exact resolve_keepsValid g n.uri

theorem qnameAttributes_keepsValid (g : XMPPXMLGenerator) (attributes : PyDict Name String) :
    KeepsValid g (exec (qnameAttributes attributes) g).2 := by
  unfold qnameAttributes
  refine exec_bind_rel (R := KeepsValid) KeepsValid.trans
    (exec_mapM_rel KeepsValid.refl KeepsValid.trans (fun a g => ?_) _ g) fun attrib g₁ => ?_
  · exact exec_bind_rel (R := KeepsValid) KeepsValid.trans (qname_keepsValid g a.1 true)
      fun _ g' => .refl g'
  · split_ifs <;> exact .refl g₁

section Steps

variable {g g' : XMPPXMLGenerator}

theorem startElementNS_ok_prefixesValid {n : Name} {a : PyDict Name String}
    (h : exec (startElementNS n a) g = (.ok (), g')) (hv : g.PrefixesValid) : g'.PrefixesValid := by
  obtain ⟨q, g₃, attrib, gq, g₆, h₃, h₄, -, h₆, rfl⟩ := startElementNS_ok h
  obtain ⟨o, hf⟩ := finishPending_eq g
  have hv₁ : g.finishPending.PrefixesValid := hv.of_eq (by rw [hf]) (by rw [hf]) (by rw [hf]) (by rw [hf])
  have hvq := rel_of_exec (qnameAttributes_keepsValid _ a) h₄
    (rel_of_exec (qname_keepsValid _ n false) h₃ hv₁)
  obtain ⟨o', rfl⟩ := rel_of_exec (writeStartTag_outOnly _ _ _ _) h₆
  have hvp := hvq.pin g.finishPending.nsCounter
  split_ifs <;> exact hvp.of_eq rfl rfl rfl rfl

theorem endElementNS_ok_prefixesValid {n : Name} (h : exec (endElementNS n) g = (.ok (), g'))
    (hv : g.PrefixesValid) : g'.PrefixesValid := by
  obtain ⟨-, g₁, f, rest, h₁, hs, rfl⟩ := endElementNS_ok h
  have hv₁ : g₁.PrefixesValid := by
    rcases writeEndTag_ok h₁ with ⟨-, rfl⟩ | ⟨-, q, g₂, h₂, rfl⟩
    · exact hv.of_eq rfl rfl rfl rfl
    · exact (rel_of_exec (qname_keepsValid _ n false) h₂ (hv.of_eq rfl rfl rfl rfl)).of_eq
        rfl rfl rfl rfl
  exact hv₁.restore hs

/-- Every call that returns keeps every prefix valid: `startPrefixMapping` checks the prefixes
the caller declares, and the automatic ones are valid. -/
theorem dispatch_ok_prefixesValid {c : Call} (h : exec (dispatch c) g = (.ok (), g'))
    (hv : g.PrefixesValid) : g'.PrefixesValid := by
  obtain ⟨o, hf⟩ := finishPending_eq g
  cases c with
  | startElementNS n a => exact startElementNS_ok_prefixesValid h hv
  | endElementNS n => exact endElementNS_ok_prefixesValid h hv
  | startPrefixMapping pfx uri =>
    simp only [dispatch, exec_startPrefixMapping] at h
    split_ifs at h with h₁ <;> simp only [Prod.mk.injEq, reduceCtorEq, false_and] at h
    rw [← h.2]; exact hv.declare (by simpa using h₁) uri false
  | endPrefixMapping pfx =>
    simp only [dispatch, exec_endPrefixMapping] at h
    split at h
    · simp at h
    · split_ifs at h <;> simp only [Prod.mk.injEq, reduceCtorEq, false_and] at h
      rw [← h.2]; exact hv.of_eq rfl rfl rfl rfl
  | characters chars =>
    simp only [dispatch, exec_characters] at h
    split_ifs at h <;> simp only [Prod.mk.injEq, reduceCtorEq, false_and] at h
    rw [← h.2]; exact hv.of_eq (by simp [hf]) (by simp [hf]) (by simp [hf]) (by simp [hf])
  | flush =>
    simp only [dispatch, exec_flush, Prod.mk.injEq] at h
    rw [← h.2]; exact hv.of_eq (by simp [hf]) (by simp [hf]) (by simp [hf]) (by simp [hf])
  | startDocument | endDocument =>
    simp only [dispatch, startDocument, endDocument, exec_pure, Prod.mk.injEq] at h
    rw [← h.2]; exact hv
  | startElement | endElement | processingInstruction | skippedEntity | setDocumentLocator
    | ignorableWhitespace => cases h

theorem runCalls_prefixesValid {cs : List Call} (h : exec (runCalls cs) g = (.ok (), g'))
    (hv : g.PrefixesValid) : g'.PrefixesValid := by
  induction cs generalizing g with
  | nil => simp only [exec_runCalls_nil, Prod.mk.injEq] at h; rw [← h.2]; exact hv
  | cons c cs ih =>
    obtain ⟨g₁, h₁, h₂⟩ := runCalls_cons_ok h
    exact ih h₂ (dispatch_ok_prefixesValid h₁ hv)

end Steps

/-! ### The names the writer writes -/

theorem nameText_of_isValidLocalName {s : String} (h : isValidLocalName s = true) :
    NameText s.data :=
  nameText_of_validate (by simp_all [isValidLocalName])

theorem nameText_joinPrefix {p : Prefix} {l : String} (hp : isValidPrefix p = true)
    (hl : NameText l.data) : NameText (joinPrefix p l).data := by
  unfold joinPrefix
  split_ifs
  · obtain ⟨s, rfl⟩ : ∃ s, p = some s := Option.ne_none_iff_exists'.mp (by rintro rfl; simp_all [truthy])
    exact ((nameText_of_validate (isValidPrefix_some.mp hp).2.2.1).append
      (show NameText [':'] by simp [NameText]; rfl)).append hl
  · exact hl

theorem joinPrefix_ne_nil (p : Prefix) {l : String} (hl : l ≠ "") : (joinPrefix p l).data ≠ [] := by
  have hl' : l.data ≠ [] := fun h => hl (String.ext h)
  unfold joinPrefix
  split_ifs <;> simp [hl']

theorem nameText_of_isValidPrefix {p : Prefix} (hp : isValidPrefix p = true) :
    NameText (p.getD "").data := by
  cases p with
  | none => simp [NameText]
  | some s => exact nameText_of_validate (isValidPrefix_some.mp hp).2.2.1

/-- The prefix `_qname` finds for a URI is valid. -/
theorem resolve_valid {g : XMPPXMLGenerator} (hv : g.PrefixesValid) (u : Uri) :
    isValidPrefix (g.resolve u).1 = true := by
  unfold resolve
  split
  · exact hv.curr u _ ‹_›
  · split
    · exact hv.decls u _ ‹_›
    · exact isValidPrefix_nsName _

/-- Every name `_qname` returns is made of name characters. -/
theorem qname_ok_nameText {g g' : XMPPXMLGenerator} {n : Name} {attr : Bool} {q : String}
    (hv : g.PrefixesValid) (h : exec (qname n attr) g = (.ok q, g')) : NameText q.data := by
  rw [exec_qname] at h
  split_ifs at h with hl hn hx <;> simp only [Prod.mk.injEq, reduceCtorEq, false_and,
    Except.ok.injEq] at h <;> obtain ⟨rfl, -⟩ := h
  · exact (show NameText "xml:".data by simp [NameText]; decide).append
      (nameText_of_isValidLocalName (by simpa using hl))
  · exact nameText_joinPrefix (resolve_valid hv _) (nameText_of_isValidLocalName (by simpa using hl))
  · exact nameText_of_isValidLocalName (by simpa using hl)

/-- Every name `_qname` returns is not empty. -/
theorem qname_ok_ne_nil {g g' : XMPPXMLGenerator} {n : Name} {attr : Bool} {q : String}
    (h : exec (qname n attr) g = (.ok q, g')) : q.data ≠ [] := by
  rw [exec_qname] at h
  split_ifs at h with hl hn hx <;> simp only [Prod.mk.injEq, reduceCtorEq, false_and,
    Except.ok.injEq] at h <;> obtain ⟨rfl, -⟩ := h
  · simp
  · exact joinPrefix_ne_nil _ (xmlValidateNameValueStr_ne_empty (by simp_all [isValidLocalName]))
  · exact fun h => xmlValidateNameValueStr_ne_empty (by simp_all [isValidLocalName]) (String.ext h)

/-- Every attribute name `startElementNS` writes is made of name characters. -/
theorem qnameAttributes_ok_nameText {g g' : XMPPXMLGenerator} {a : PyDict Name String}
    {attrib : List (String × String)} (hv : g.PrefixesValid)
    (h : exec (qnameAttributes a) g = (.ok attrib, g')) : ∀ x ∈ attrib, NameText x.1.data := by
  unfold qnameAttributes at h
  obtain ⟨r, g₁, h₁, h⟩ := exec_bind_ok _ h
  split_ifs at h
  · simp at h
  simp only [exec_pure, Prod.mk.injEq, Except.ok.injEq] at h
  rw [← h.1]
  refine exec_mapM_ok_forall (I := PrefixesValid) (fun x s b s' hs hx => ?_) _ hv h₁
  obtain ⟨q, s₁, hq, hx⟩ := exec_bind_ok _ hx
  simp only [exec_pure, Prod.mk.injEq, Except.ok.injEq] at hx
  obtain ⟨rfl, rfl⟩ := hx
  exact ⟨qname_ok_nameText hs hq, rel_of_exec (qname_keepsValid _ _ _) hq hs⟩

end XmppXml
