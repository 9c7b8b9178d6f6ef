import XmppXml.Generator.Roll

/-!
# What each method does

One lemma per method of `XMPPXMLGenerator` giving its outcome and the state after it, so that
the proofs about runs never unfold a method:

* the prefix bookkeeping: `exec_startPrefixMapping`, `exec_rollPrefix`, `exec_resolvePrefix`
  (with the freshness of `_roll_prefix`, the automatic declaration never raises), `exec_qname`;
* the element boundaries: `exec_pinFloatingNsDecls`, `exec_popFrame`, and the relations
  `PendingOnly` (only the declarations pending for the next element and the counter change),
  `Resolves` (the same, with the prefixes declared with `auto=False` unchanged) and `OutOnly`
  (only the sink receives something) that the loops of `startElementNS` keep.
-/

namespace XmppXml

namespace XMPPXMLGenerator

variable (g : XMPPXMLGenerator)

/-- The number `_roll_prefix` takes. -/
def rolled : Int := rollFrom g.nsPrefixesFloatingIn (g.nsCounter + 1) (rollFuel g.nsPrefixesFloatingIn)

/-- The prefix `_qname` finds for a URI, and the state after it: an automatic prefix is declared
for the next element. -/
def resolve (uri : Uri) : Prefix × XMPPXMLGenerator :=
  match g.currNsMap.get? uri with
  | some p => (p, g)
  | none =>
    match g.nsDeclsFloatingIn.get? uri with
    | some p => (p, g)
    | none => (some (nsName g.rolled),
        ({ g with nsCounter := g.rolled }).declare (some (nsName g.rolled)) uri true)

/-- The state after `_finish_pending_start_element`. -/
def finishPending : XMPPXMLGenerator :=
  if g.pendingStartElement.isSome then
    { g with pendingStartElement := none, out := g.out ++ [.write ">"] }
  else g

/-- `g'` is `g` with at most the declarations pending for the next element and the counter
changed. -/
def PendingOnly (g' : XMPPXMLGenerator) : Prop :=
  ∃ fi de au c, g' = { g with
    nsPrefixesFloatingIn := fi, nsDeclsFloatingIn := de, nsAutoPrefixesFloatingIn := au, nsCounter := c }

/-- `g'` is `g` with at most something more received by the sink. -/
def OutOnly (g' : XMPPXMLGenerator) : Prop := ∃ o, g' = { g with out := g.out ++ o }

theorem PendingOnly.refl : g.PendingOnly g := ⟨_, _, _, _, rfl⟩

theorem PendingOnly.trans {g g₁ g₂ : XMPPXMLGenerator} (h₁ : g.PendingOnly g₁)
    (h₂ : g₁.PendingOnly g₂) : g.PendingOnly g₂ := by
  obtain ⟨_, _, _, _, rfl⟩ := h₁; obtain ⟨_, _, _, _, rfl⟩ := h₂; exact ⟨_, _, _, _, rfl⟩

theorem OutOnly.refl : g.OutOnly g := ⟨[], by simp⟩

theorem OutOnly.trans {g g₁ g₂ : XMPPXMLGenerator} (h₁ : g.OutOnly g₁) (h₂ : g₁.OutOnly g₂) :
    g.OutOnly g₂ := by
  obtain ⟨o₁, rfl⟩ := h₁; obtain ⟨o₂, rfl⟩ := h₂; exact ⟨o₁ ++ o₂, by simp⟩

/-- `_finish_pending_start_element` touches only the sink and the deferred start tag. -/
theorem finishPending_eq :
    ∃ o, g.finishPending = { g with out := g.out ++ o, pendingStartElement := none } := by
  unfold finishPending
  split_ifs with h
  · exact ⟨_, rfl⟩
  · exact ⟨[], by cases g; simp_all⟩

/-- What resolving names does: `g'` is `g` with at most the pending declarations and the counter
changed, the same prefixes counted as declared with `auto=False`, more automatic prefixes, and no
new pending declaration for a URI that already has a prefix. -/
structure Resolves (g' : XMPPXMLGenerator) : Prop where
  pendingOnly : g.PendingOnly g'
  explicitPending_eq : g'.explicitPending = g.explicitPending
  autoPrefixes_subset : g.nsAutoPrefixesFloatingIn ⊆ g'.nsAutoPrefixesFloatingIn
  decls_of_mapped : ∀ u, g.currNsMap.get? u ≠ none →
    g'.nsDeclsFloatingIn.get? u = g.nsDeclsFloatingIn.get? u

theorem Resolves.refl : g.Resolves g := ⟨.refl g, rfl, subset_rfl, fun _ _ => rfl⟩

theorem Resolves.trans {g g₁ g₂ : XMPPXMLGenerator} (h₁ : g.Resolves g₁) (h₂ : g₁.Resolves g₂) :
    g.Resolves g₂ := by
  refine ⟨h₁.pendingOnly.trans h₂.pendingOnly, h₂.explicitPending_eq.trans h₁.explicitPending_eq,
    h₁.autoPrefixes_subset.trans h₂.autoPrefixes_subset, fun u hu => ?_⟩
  obtain ⟨_, _, _, _, rfl⟩ := h₁.pendingOnly
  exact (h₂.decls_of_mapped u hu).trans (h₁.decls_of_mapped u hu)

theorem PendingOnly.nsMapStack_eq {g g' : XMPPXMLGenerator} (h : g.PendingOnly g') :
    g'.nsMapStack = g.nsMapStack := by
  obtain ⟨_, _, _, _, rfl⟩ := h; rfl

/-- Resolving names leaves the frame that the next `_pin_floating_ns_decls` pushes as it was. -/
theorem Resolves.frame_eq {g g' : XMPPXMLGenerator} (h : g.Resolves g') (c : Int) :
    g'.frame c = g.frame c := by
  obtain ⟨⟨_, _, _, _, rfl⟩, he, -, -⟩ := h
  unfold frame; rw [he]

@[simp] theorem mem_explicitPending (p : Prefix) :
    p ∈ g.explicitPending ↔ g.nsPrefixesFloatingIn.contains p = true ∧ p ∉ g.nsAutoPrefixesFloatingIn := by
  simp [explicitPending, PyDict.mem_keys_iff]

/-- An automatic declaration of a prefix not yet pending leaves the explicit ones as they are. -/
theorem explicitPending_declare_auto {p : Prefix} (h : g.nsPrefixesFloatingIn.contains p = false)
    (uri : Uri) : (g.declare p uri true).explicitPending = g.explicitPending := by
  ext q
  by_cases hq : p = q
  · subst hq; simp [declare, h]
  · simp [declare, hq, Ne.symm hq]

theorem resolve_resolves (uri : Uri) : g.Resolves (g.resolve uri).2 := by
  unfold resolve
  split
  · exact .refl g
  · split
    · exact .refl g
    · refine ⟨⟨_, _, _, _, rfl⟩,
        explicitPending_declare_auto { g with nsCounter := g.rolled } (rollFrom_not_mem _ _) uri,
        by simp [declare], fun u hu => ?_⟩
      have : uri ≠ u := by rintro rfl; contradiction
      simp [declare, this]

end XMPPXMLGenerator

open XMPPXMLGenerator

section Methods

variable (g : XMPPXMLGenerator)

theorem exec_startPrefixMapping (pfx : Prefix) (uri : Uri) (auto : Bool) :
    exec (startPrefixMapping pfx uri auto) g =
      if isValidPrefix pfx = false then
        (.error (.valueError ("not a valid prefix: " ++ pyRepr (pfx.getD ""))), g)
      else if g.nsPrefixesFloatingIn.contains pfx then
        (.error (.valueError "prefix already declared for next element"), g)
      else (.ok (), g.declare pfx uri auto) := by
  simp only [startPrefixMapping]
  by_cases h1 : isValidPrefix pfx <;> by_cases h2 : g.nsPrefixesFloatingIn.contains pfx <;>
    simp [h1, h2]

theorem exec_rollPrefix : exec rollPrefix g = (.ok (nsName g.rolled), { g with nsCounter := g.rolled }) :=
  rfl

theorem exec_resolvePrefix (uri : Uri) :
    exec (resolvePrefix uri) g = (.ok (g.resolve uri).1, (g.resolve uri).2) := by
  simp only [resolvePrefix, resolve, exec_bind, exec_get]
  rcases g.currNsMap.get? uri with _ | p
  · rcases g.nsDeclsFloatingIn.get? uri with _ | p
    · simp [exec_rollPrefix, exec_startPrefixMapping, isValidPrefix_nsName, rollFrom_not_mem, rolled]
    · simp
  · simp

theorem exec_qname (n : Name) (attr : Bool) :
    exec (qname n attr) g =
      if isValidLocalName n.localName = false then
        (.error (.valueError ("invalid name: " ++ pyRepr n.localName)), g)
      else if truthy n.uri then
        if n.uri = some xmlNamespace then (.ok ("xml:" ++ n.localName), g)
        else (.ok (joinPrefix (g.resolve n.uri).1 n.localName), (g.resolve n.uri).2)
      else if (!attr && (g.currNsMap.contains none || g.nsPrefixesFloatingIn.contains none)) then
        (.error (.valueError "cannot create unnamespaced element when prefixless namespace is bound"), g)
      else (.ok n.localName, g) := by
  simp only [qname]
  by_cases h1 : isValidLocalName n.localName <;> simp only [h1] <;> simp
  by_cases h2 : truthy n.uri <;> simp only [h2] <;> simp
  · by_cases h3 : n.uri = some xmlNamespace <;> simp [h3, exec_resolvePrefix]
  · split_ifs <;> simp

/-- The name of an element in a namespace that has the prefix `p` in `_curr_ns_map`. -/
theorem exec_qname_mapped {n : Name} {p : Prefix} (hl : isValidLocalName n.localName = true)
    (hn : truthy n.uri = true) (hx : n.uri ≠ some xmlNamespace)
    (hp : g.currNsMap.get? n.uri = some p) :
    exec (qname n false) g = (.ok (joinPrefix p n.localName), g) := by
  rw [exec_qname]; simp [hl, hn, hx, resolve, hp]

@[simp] theorem exec_finishPendingStartElement :
    exec finishPendingStartElement g = (.ok (), g.finishPending) := by
  simp only [finishPendingStartElement, finishPending]
  split_ifs <;> simp [*]

theorem exec_pinFloatingNsDecls (oldCounter : Int) :
    exec (pinFloatingNsDecls oldCounter) g =
      if outstanding g.nsPrefixesFloatingOut then
        (.error (.runtimeError "namespace prefix has not been closed"), g)
      else (.ok g.nsPrefixesFloatingIn, g.pin oldCounter) := by
  simp only [pinFloatingNsDecls]
  split_ifs <;> simp [*]

theorem exec_popFrame :
    exec popFrame g = match g.nsMapStack with
      | [] => (.error (.indexError "pop from empty list"), g)
      | f :: rest => (.ok (), g.restore f rest) := by
  simp only [popFrame, exec_bind, exec_get]
  rcases g.nsMapStack with _ | ⟨f, rest⟩ <;> simp

theorem exec_characters (chars : String) :
    exec (characters chars) g =
      if chars.data.any isRestrictedChar then
        (.error (.valueError "control characters are not allowed in well-formed XML"), g.finishPending)
      else (.ok (), { g.finishPending with out := g.finishPending.out ++ [.write (escape chars)] }) := by
  simp only [characters, exec_bind, exec_finishPendingStartElement]
  split_ifs <;> simp

theorem exec_flush :
    exec flush g = (.ok (), { g.finishPending with out := g.finishPending.out ++ [.flush] }) := by
  simp [flush]

theorem exec_endPrefixMapping (pfx : Prefix) :
    exec (endPrefixMapping pfx) g = match g.nsPrefixesFloatingOut with
      | none => (.error (.attributeError
          (⟨[apos]⟩ ++ "dict" ++ ⟨[apos]⟩ ++ " object has no attribute " ++ ⟨[apos]⟩ ++ "remove" ++
            ⟨[apos]⟩)), g)
      | some s => if pfx ∈ s then (.ok (), { g with nsPrefixesFloatingOut := some (s.erase pfx) })
          else (.error (.keyError pfx), g) := by
  simp only [endPrefixMapping, exec_bind, exec_get]
  rcases g.nsPrefixesFloatingOut with _ | s
  · simp
  · simp only
    split_ifs <;> simp

theorem qname_resolves (n : Name) (attr : Bool) : g.Resolves (exec (qname n attr) g).2 := by
  rw [exec_qname]
  split_ifs <;> first | exact .refl g | exact resolve_resolves g n.uri

end Methods

/-! ### Loops -/

section Loops

variable {α : Type} {P : PyError → Prop}

theorem RaisesOnly.write (data : String) : RaisesOnly P (write data) := .modify _

end Loops

/-! ### Writing a tag -/

section Writing

variable (g : XMPPXMLGenerator)

theorem write_outOnly (data : String) : g.OutOnly (exec (write data) g).2 := ⟨[.write data], rfl⟩

theorem writeQuoted_outOnly (uri : Uri) : g.OutOnly (exec (writeQuoted uri) g).2 := by
  cases uri
  · exact .refl g
  · exact write_outOnly g _

theorem writeDecl_outOnly (pfx : Prefix) (uri : Uri) : g.OutOnly (exec (writeDecl pfx uri) g).2 := by
  refine exec_bind_rel (R := OutOnly) OutOnly.trans (write_outOnly g _) fun _ g₁ => ?_
  refine exec_bind_rel (R := OutOnly) OutOnly.trans ?_ fun _ g₂ =>
    exec_bind_rel (R := OutOnly) OutOnly.trans (write_outOnly g₂ _) fun _ g₃ => writeQuoted_outOnly g₃ _
  unfold writePrefix
  split
  · exact exec_bind_rel (R := OutOnly) OutOnly.trans (write_outOnly g₁ _) fun _ g₂ => write_outOnly g₂ _
  · exact .refl g₁

theorem writeAttr_outOnly (attrname value : String) :
    g.OutOnly (exec (writeAttr attrname value) g).2 :=
  exec_bind_rel (R := OutOnly) OutOnly.trans (write_outOnly g _) fun _ g₁ =>
    exec_bind_rel (R := OutOnly) OutOnly.trans (write_outOnly g₁ _) fun _ g₂ =>
      exec_bind_rel (R := OutOnly) OutOnly.trans (write_outOnly g₂ _) fun _ g₃ => write_outOnly g₃ _

theorem writeDefaultDecl_outOnly (pp : PyDict Prefix Uri) :
    g.OutOnly (exec (writeDefaultDecl pp) g).2 := by
  unfold writeDefaultDecl
  split
  · exact exec_bind_rel (R := OutOnly) OutOnly.trans (write_outOnly g _) fun _ g' =>
      writeQuoted_outOnly g' _
  · exact .refl g

/-- A start tag begins with `<` and the name. -/
theorem writeStartTag_out (q : String) (pp : PyDict Prefix Uri) (attrib : List (String × String)) :
    ∃ o, (exec (writeStartTag q pp attrib) g).2 =
      { g with out := g.out ++ [.write "<", .write q] ++ o } := by
  obtain ⟨o, ho⟩ := exec_bind_rel (R := OutOnly) OutOnly.trans
    (writeDefaultDecl_outOnly { g with out := g.out ++ [.write "<", .write q] } pp)
    fun _ g₃ => exec_bind_rel (R := OutOnly) OutOnly.trans
      (exec_forM_rel OutOnly.refl OutOnly.trans
        (fun (d : Prefix × Uri) g => writeDecl_outOnly g d.1 d.2) (sortedItems (pp.erase none)) g₃)
      fun _ g₄ => exec_forM_rel OutOnly.refl OutOnly.trans
        (fun (a : String × String) g => writeAttr_outOnly g a.1 a.2) attrib g₄
  refine ⟨o, Eq.trans ?_ ho⟩
  simp only [writeStartTag, exec_bind, exec_write, List.append_assoc, List.singleton_append]

theorem writeStartTag_outOnly (q : String) (pp : PyDict Prefix Uri) (attrib : List (String × String)) :
    g.OutOnly (exec (writeStartTag q pp attrib) g).2 := by
  obtain ⟨o, ho⟩ := writeStartTag_out g q pp attrib
  exact ⟨_, by rw [ho, List.append_assoc]⟩

end Writing

/-! ### Element boundaries -/

section Boundaries

variable {g g' : XMPPXMLGenerator}

theorem qnameAttributes_resolves (g : XMPPXMLGenerator) (attributes : PyDict Name String) :
    g.Resolves (exec (qnameAttributes attributes) g).2 := by
  unfold qnameAttributes
  refine exec_bind_rel (R := Resolves) Resolves.trans
    (exec_mapM_rel Resolves.refl Resolves.trans (fun a g => ?_) _ g) fun attrib g₁ => ?_
  · exact exec_bind_rel (R := Resolves) Resolves.trans (qname_resolves g a.1 true)
      fun _ g' => .refl g'
  · split_ifs <;> exact .refl g₁

/-- The steps of a successful `startElementNS`: the deferred start tag finished, the element name
and the attribute names resolved, the pending declarations pinned with the counter from before the
call, the start tag written, and its end written or deferred. -/
theorem startElementNS_ok {n : Name} {a : PyDict Name String}
    (h : exec (startElementNS n a) g = (.ok (), g')) :
    ∃ q g₃ attrib gq g₆, exec (qname n false) g.finishPending = (.ok q, g₃) ∧
      exec (qnameAttributes a) g₃ = (.ok attrib, gq) ∧
      outstanding gq.nsPrefixesFloatingOut = false ∧
      exec (writeStartTag q gq.nsPrefixesFloatingIn attrib) (gq.pin g.finishPending.nsCounter) =
        (.ok (), g₆) ∧
      g' = if g₆.shortEmptyElements then { g₆ with pendingStartElement := some n }
        else { g₆ with out := g₆.out ++ [.write ">"] } := by
  unfold startElementNS at h
  obtain ⟨_, g₁, h₁, h⟩ := exec_bind_ok _ h
  simp only [exec_finishPendingStartElement, Prod.mk.injEq] at h₁
  obtain ⟨-, rfl⟩ := h₁
  obtain ⟨_, g₂, h₂, h⟩ := exec_bind_ok _ h
  simp only [exec_get, Prod.mk.injEq, Except.ok.injEq] at h₂
  obtain ⟨rfl, rfl⟩ := h₂
  obtain ⟨q, g₃, h₃, h⟩ := exec_bind_ok _ h
  obtain ⟨attrib, g₄, h₄, h⟩ := exec_bind_ok _ h
  obtain ⟨pp, g₅, h₅, h⟩ := exec_bind_ok _ h
  rw [exec_pinFloatingNsDecls] at h₅
  split_ifs at h₅ with hout
  · simp at h₅
  simp only [Prod.mk.injEq, Except.ok.injEq] at h₅
  obtain ⟨rfl, rfl⟩ := h₅
  obtain ⟨_, g₆, h₆, h⟩ := exec_bind_ok _ h
  obtain ⟨_, g₇, h₇, h⟩ := exec_bind_ok _ h
  simp only [exec_get, Prod.mk.injEq, Except.ok.injEq] at h₇
  obtain ⟨rfl, rfl⟩ := h₇
  refine ⟨q, g₃, attrib, g₄, g₆, h₃, h₄, by simpa using hout, h₆, ?_⟩
  by_cases hs : g₆.shortEmptyElements <;> simp [hs] at h ⊢ <;> exact h.symm

/-- The end of an element, when it is written: `/>` after the element's own deferred start tag,
else `</`, the name resolved again from the state at the end, and `>`. -/
theorem writeEndTag_ok {n : Name} (h : exec (writeEndTag n) g = (.ok (), g')) :
    (g.pendingStartElement = some n ∧
      g' = { g with pendingStartElement := none, out := g.out ++ [.write "/>"] }) ∨
    (g.pendingStartElement ≠ some n ∧ ∃ q g₁,
      exec (qname n false) { g with out := g.out ++ [.write "</"] } = (.ok q, g₁) ∧
      g' = { g₁ with out := g₁.out ++ [.write q, .write ">"] }) := by
  unfold writeEndTag at h
  obtain ⟨_, g₀, h₀, h⟩ := exec_bind_ok _ h
  simp only [exec_get, Prod.mk.injEq, Except.ok.injEq] at h₀
  obtain ⟨rfl, rfl⟩ := h₀
  split_ifs at h with hp
  · simp only [exec_bind, exec_set, exec_write, Prod.mk.injEq] at h
    exact .inl ⟨hp, h.2.symm⟩
  · obtain ⟨_, g₁, h₁, h⟩ := exec_bind_ok _ h
    simp only [exec_write, Prod.mk.injEq] at h₁
    obtain ⟨-, rfl⟩ := h₁
    obtain ⟨q, g₂, h₂, h⟩ := exec_bind_ok _ h
    simp only [exec_bind, exec_write, Prod.mk.injEq] at h
    exact .inr ⟨hp, q, g₂, h₂, by rw [← h.2]; simp⟩

/-- A successful `writeEndTag` keeps the frame stack and the map, and only adds automatic
prefixes. -/
theorem writeEndTag_ok_scope {n : Name} (h : exec (writeEndTag n) g = (.ok (), g')) :
    g'.nsMapStack = g.nsMapStack ∧ g'.currNsMap = g.currNsMap ∧
      g.nsAutoPrefixesFloatingIn ⊆ g'.nsAutoPrefixesFloatingIn := by
  rcases writeEndTag_ok h with ⟨-, rfl⟩ | ⟨-, q, g₁, h₁, rfl⟩
  · exact ⟨rfl, rfl, subset_rfl⟩
  · obtain ⟨⟨_, _, _, _, rfl⟩, -, hau, -⟩ := rel_of_exec (qname_resolves _ n false) h₁
    exact ⟨rfl, rfl, hau⟩

/-- The steps of a successful `endElementNS`: no prefix was left to close, the end of the element
was written, and the top frame was popped. -/
theorem endElementNS_ok {n : Name} (h : exec (endElementNS n) g = (.ok (), g')) :
    outstanding g.nsPrefixesFloatingOut = false ∧ ∃ g₁ f rest, exec (writeEndTag n) g = (.ok (), g₁) ∧
      g₁.nsMapStack = f :: rest ∧ g' = g₁.restore f rest := by
  unfold endElementNS at h
  obtain ⟨_, g₀, h₀, h⟩ := exec_bind_ok _ h
  simp only [exec_get, Prod.mk.injEq, Except.ok.injEq] at h₀
  obtain ⟨rfl, rfl⟩ := h₀
  split_ifs at h with hout
  · simp at h
  obtain ⟨_, g₁, h₁, h⟩ := exec_bind_ok _ h
  rw [exec_popFrame] at h
  rcases hs : g₁.nsMapStack with _ | ⟨f, rest⟩ <;> rw [hs] at h
  · simp at h
  · simp only [Prod.mk.injEq] at h
    exact ⟨by simpa using hout, g₁, f, rest, h₁, hs, h.2.symm⟩

end Boundaries

end XmppXml
