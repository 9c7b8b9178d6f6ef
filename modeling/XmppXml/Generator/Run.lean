import XmppXml.Generator.Spec

/-!
# Runs of calls and the frame stack

`runCalls` executes calls one after another. A *well-nested* sequence (`Balanced`) closes every
element it opens, with the same name, and everything between a start and its end is itself
well-nested.

* `dispatch_ok_frames`: what one call that returns does to `_ns_map_stack`;
* `balanced_nsMapStack`: a well-nested sequence that returns leaves the stack as it found it;
* `element_restores`: an element that closes restores the URI-to-prefix map and the counter
  from before its start, whatever its content;
* `nsMapStack_tracks_elements`: on every run of a fresh generator the stack holds one entry
  more than there are open elements, and every `endElementNS` restores the map and the counter.
-/

namespace XmppXml

open XMPPXMLGenerator

/-! ### Sequences of calls -/

/-- The change a call makes to the number of open elements. -/
def Call.depth : Call → Int
  | .startElementNS _ _ => 1
  | .endElementNS _ => -1
  | _ => 0

/-- The number of elements a sequence of calls leaves open (negative when it closes more). -/
def openCount (cs : List Call) : Int := (cs.map Call.depth).sum

@[simp] theorem openCount_nil : openCount [] = 0 := rfl

@[simp] theorem openCount_cons (c : Call) (cs : List Call) :
    openCount (c :: cs) = c.depth + openCount cs := by
  simp [openCount]

/-- A well-nested sequence of calls. -/
inductive Balanced : List Call → Prop
  | nil : Balanced []
  | other {c : Call} {cs : List Call} : c.depth = 0 → Balanced cs → Balanced (c :: cs)
  | element {n : Name} {a : PyDict Name String} {body cs : List Call} :
      Balanced body → Balanced cs → Balanced (.startElementNS n a :: body ++ .endElementNS n :: cs)

section Runs

variable {g g' g'' : XMPPXMLGenerator}

@[simp] theorem exec_runCalls_nil : exec (runCalls []) g = (.ok (), g) := rfl

theorem exec_runCalls_cons (c : Call) (cs : List Call) :
    exec (runCalls (c :: cs)) g = match exec (dispatch c) g with
      | (.ok _, g') => exec (runCalls cs) g'
      | (.error e, g') => (.error e, g') := by
  rw [runCalls, exec_bind]
  rcases exec (dispatch c) g with ⟨_ | _, _⟩ <;> rfl

theorem exec_runCalls_append (l₁ l₂ : List Call) :
    exec (runCalls (l₁ ++ l₂)) g = match exec (runCalls l₁) g with
      | (.ok _, g') => exec (runCalls l₂) g'
      | (.error e, g') => (.error e, g') := by
  induction l₁ generalizing g with
  | nil => rfl
  | cons c l₁ ih =>
    rw [List.cons_append, exec_runCalls_cons, exec_runCalls_cons]
    rcases exec (dispatch c) g with ⟨_ | _, g₁⟩
    · rfl
    · exact ih

/-- A run whose first part returns goes on from the state that part leaves. -/
theorem exec_runCalls_append_of_ok {l₁ l₂ : List Call} (h : (exec (runCalls l₁) g).1 = .ok ()) :
    exec (runCalls (l₁ ++ l₂)) g = exec (runCalls l₂) (exec (runCalls l₁) g).2 := by
  rw [exec_runCalls_append, ← Prod.mk.eta (p := exec (runCalls l₁) g), h]

theorem runCalls_cons_ok {c : Call} {cs : List Call} (h : exec (runCalls (c :: cs)) g = (.ok (), g'')) :
    ∃ g', exec (dispatch c) g = (.ok (), g') ∧ exec (runCalls cs) g' = (.ok (), g'') := by
  rw [exec_runCalls_cons] at h
  rcases hc : exec (dispatch c) g with ⟨_ | _, g₁⟩ <;> rw [hc] at h
  · cases h
  · exact ⟨g₁, rfl, h⟩

theorem runCalls_append_ok {l₁ l₂ : List Call} (h : exec (runCalls (l₁ ++ l₂)) g = (.ok (), g'')) :
    ∃ g', exec (runCalls l₁) g = (.ok (), g') ∧ exec (runCalls l₂) g' = (.ok (), g'') := by
  rw [exec_runCalls_append] at h
  rcases h₁ : exec (runCalls l₁) g with ⟨_ | _, g₁⟩ <;> rw [h₁] at h
  · cases h
  · exact ⟨g₁, rfl, h⟩

end Runs

/-! ### One call -/

section Calls

variable {g g' : XMPPXMLGenerator}

theorem finishPending_nsMapStack (g : XMPPXMLGenerator) :
    g.finishPending.nsMapStack = g.nsMapStack := by
  obtain ⟨_, h⟩ := finishPending_eq g; rw [h]

theorem finishPending_currNsMap (g : XMPPXMLGenerator) :
    g.finishPending.currNsMap = g.currNsMap := by
  obtain ⟨_, h⟩ := finishPending_eq g; rw [h]

theorem finishPending_nsCounter (g : XMPPXMLGenerator) :
    g.finishPending.nsCounter = g.nsCounter := by
  obtain ⟨_, h⟩ := finishPending_eq g; rw [h]

theorem finishPending_nsPrefixesFloatingIn (g : XMPPXMLGenerator) :
    g.finishPending.nsPrefixesFloatingIn = g.nsPrefixesFloatingIn := by
  obtain ⟨_, h⟩ := finishPending_eq g; rw [h]

theorem finishPending_nsDeclsFloatingIn (g : XMPPXMLGenerator) :
    g.finishPending.nsDeclsFloatingIn = g.nsDeclsFloatingIn := by
  obtain ⟨_, h⟩ := finishPending_eq g; rw [h]

theorem finishPending_frame (g : XMPPXMLGenerator) (c : Int) : g.finishPending.frame c = g.frame c := by
  obtain ⟨_, h⟩ := finishPending_eq g; rw [h]; rfl

/-- A `startElementNS` that returns pushes the frame of the state it found: the map, the prefixes
declared for the element with `auto=False`, and the counter. -/
theorem startElementNS_ok_push {n : Name} {a : PyDict Name String}
    (h : exec (startElementNS n a) g = (.ok (), g')) :
    g'.nsMapStack = g.frame g.nsCounter :: g.nsMapStack := by
  obtain ⟨q, g₃, attrib, gq, g₆, h₃, h₄, -, h₆, rfl⟩ := startElementNS_ok h
  have hr := (rel_of_exec (qname_resolves _ n false) h₃).trans
    (rel_of_exec (qnameAttributes_resolves _ a) h₄)
  obtain ⟨o, rfl⟩ := rel_of_exec (writeStartTag_outOnly _ _ _ _) h₆
  have hs : (gq.pin g.finishPending.nsCounter).nsMapStack = g.frame g.nsCounter :: g.nsMapStack := by
    show gq.frame _ :: gq.nsMapStack = _
    rw [hr.frame_eq, hr.pendingOnly.nsMapStack_eq, finishPending_frame, finishPending_nsCounter,
      finishPending_nsMapStack]
  split_ifs <;> exact hs

/-- What a call other than a start or an end does: the sink only receives more, the deferred start
tag is finished or left alone, and the frame stack, the map, the counter, the automatic prefixes
and the mode are kept. -/
structure XMPPXMLGenerator.KeepsScope (g g' : XMPPXMLGenerator) : Prop where
  out : g.out <+: g'.out
  pending : g'.pendingStartElement = none ∨ g'.pendingStartElement = g.pendingStartElement
  nsMapStack : g'.nsMapStack = g.nsMapStack
  currNsMap : g'.currNsMap = g.currNsMap
  nsCounter : g'.nsCounter = g.nsCounter
  autoPrefixes : g'.nsAutoPrefixesFloatingIn = g.nsAutoPrefixesFloatingIn
  short : g'.shortEmptyElements = g.shortEmptyElements

theorem XMPPXMLGenerator.KeepsScope.finishPending (g : XMPPXMLGenerator) (o : List SinkOp) :
    g.KeepsScope { g.finishPending with out := g.finishPending.out ++ o } := by
  obtain ⟨o₀, h⟩ := finishPending_eq g
  rw [h]
  exact ⟨by simp, .inl rfl, rfl, rfl, rfl, rfl, rfl⟩

theorem XMPPXMLGenerator.KeepsScope.of_out {g g' : XMPPXMLGenerator}
    (ho : g.out <+: g'.out) (hp : g'.pendingStartElement = g.pendingStartElement)
    (hs : g'.nsMapStack = g.nsMapStack) (hm : g'.currNsMap = g.currNsMap)
    (hc : g'.nsCounter = g.nsCounter) (ha : g'.nsAutoPrefixesFloatingIn = g.nsAutoPrefixesFloatingIn)
    (he : g'.shortEmptyElements = g.shortEmptyElements) : g.KeepsScope g' :=
  ⟨ho, .inr hp, hs, hm, hc, ha, he⟩

/-- A call other than a start or an end that returns keeps the frame stack, the map, the counter
and the automatic prefixes. -/
theorem dispatch_ok_keepsScope {c : Call} (h : exec (dispatch c) g = (.ok (), g')) (hc : c.depth = 0) :
    g.KeepsScope g' := by
  cases c with
  | startElementNS | endElementNS => simp [Call.depth] at hc
  | startPrefixMapping pfx uri =>
    simp only [dispatch, exec_startPrefixMapping] at h
    split_ifs at h <;> simp only [Prod.mk.injEq, reduceCtorEq, false_and] at h
    rw [← h.2]; exact .of_out (List.prefix_refl _) rfl rfl rfl rfl rfl rfl
  | characters chars =>
    simp only [dispatch, exec_characters] at h
    split_ifs at h <;> simp only [Prod.mk.injEq, reduceCtorEq, false_and] at h
    rw [← h.2]; exact .finishPending g _
  | endPrefixMapping pfx =>
    simp only [dispatch, exec_endPrefixMapping] at h
    split at h
    · simp at h
    · split_ifs at h <;> simp only [Prod.mk.injEq, reduceCtorEq, false_and] at h
      rw [← h.2]; exact .of_out (List.prefix_refl _) rfl rfl rfl rfl rfl rfl
  | flush =>
    simp only [dispatch, exec_flush, Prod.mk.injEq] at h
    rw [← h.2]; exact .finishPending g _
  | startDocument | endDocument =>
    simp only [dispatch, startDocument, endDocument, exec_pure, Prod.mk.injEq] at h
    rw [← h.2]; exact .of_out (List.prefix_refl _) rfl rfl rfl rfl rfl rfl
  | startElement | endElement | processingInstruction | skippedEntity | setDocumentLocator
    | ignorableWhitespace => cases h

/-- What a call that returns does to `_ns_map_stack`: a start pushes the frame of the state it
found, an end pops the top frame into the map, the must-close set and the counter, any other call
leaves the stack alone. -/
def Call.Frames : Call → XMPPXMLGenerator → XMPPXMLGenerator → Prop
  | .startElementNS _ _, g, g' => g'.nsMapStack = g.frame g.nsCounter :: g.nsMapStack
  | .endElementNS _, g, g' => ∃ f, g.nsMapStack = f :: g'.nsMapStack ∧ g'.currNsMap = f.nsMap ∧
      g'.nsCounter = f.counter ∧ g'.nsPrefixesFloatingOut = f.mustClose
  | _, g, g' => g'.nsMapStack = g.nsMapStack

theorem dispatch_ok_frames {c : Call} (h : exec (dispatch c) g = (.ok (), g')) : c.Frames g g' := by
  cases c
  case startElementNS n a => exact startElementNS_ok_push h
  case endElementNS n =>
    obtain ⟨-, g₁, f, rest, h₁, hs, rfl⟩ := endElementNS_ok h
    rw [(writeEndTag_ok_scope h₁).1] at hs
    exact ⟨f, hs, rfl, rfl, rfl⟩
  all_goals exact (dispatch_ok_keepsScope h rfl).nsMapStack

/-- A call that returns only adds automatic prefixes: `_ns_auto_prefixes_floating_in` is never
emptied. -/
theorem dispatch_ok_autoPrefixes {c : Call} (h : exec (dispatch c) g = (.ok (), g')) :
    g.nsAutoPrefixesFloatingIn ⊆ g'.nsAutoPrefixesFloatingIn := by
  cases c
  case startElementNS n a =>
    obtain ⟨q, g₃, attrib, gq, g₆, h₃, h₄, -, h₆, rfl⟩ := startElementNS_ok h
    have hr := (rel_of_exec (qname_resolves _ n false) h₃).trans
      (rel_of_exec (qnameAttributes_resolves _ a) h₄)
    obtain ⟨o, rfl⟩ := rel_of_exec (writeStartTag_outOnly _ _ _ _) h₆
    obtain ⟨_, h⟩ := finishPending_eq g
    rw [h] at hr
    split_ifs <;> exact hr.autoPrefixes_subset
  case endElementNS n =>
    obtain ⟨-, g₁, f, rest, h₁, -, rfl⟩ := endElementNS_ok h
    exact (writeEndTag_ok_scope h₁).2.2
  all_goals rw [(dispatch_ok_keepsScope h rfl).autoPrefixes]

/-- A call that returns only adds to the sink, and keeps the mode. -/
theorem dispatch_ok_out {c : Call} (h : exec (dispatch c) g = (.ok (), g')) :
    g.out <+: g'.out ∧ g'.shortEmptyElements = g.shortEmptyElements := by
  cases c
  case startElementNS n a =>
    obtain ⟨q, g₃, attrib, gq, g₆, h₃, h₄, -, h₆, rfl⟩ := startElementNS_ok h
    obtain ⟨_, _, _, _, rfl⟩ := ((rel_of_exec (qname_resolves _ n false) h₃).trans
      (rel_of_exec (qnameAttributes_resolves _ a) h₄)).pendingOnly
    obtain ⟨o, rfl⟩ := rel_of_exec (writeStartTag_outOnly _ _ _ _) h₆
    obtain ⟨o₀, hf⟩ := finishPending_eq g
    split_ifs <;> simp [pin, hf]
  case endElementNS n =>
    obtain ⟨-, g₁, f, rest, h₁, -, rfl⟩ := endElementNS_ok h
    rcases writeEndTag_ok h₁ with ⟨-, rfl⟩ | ⟨-, q, g₂, h₂, rfl⟩
    · simp [restore]
    · obtain ⟨_, _, _, _, rfl⟩ := (rel_of_exec (qname_resolves _ n false) h₂).pendingOnly
      simp [restore]
  all_goals exact ⟨(dispatch_ok_keepsScope h rfl).out, (dispatch_ok_keepsScope h rfl).short⟩

/-- Without short empty elements, a call that returns leaves no start tag deferred. -/
theorem dispatch_ok_long {c : Call} (h : exec (dispatch c) g = (.ok (), g'))
    (hs : g.shortEmptyElements = false) (hp : g.pendingStartElement = none) :
    g'.pendingStartElement = none := by
  cases c
  case startElementNS n a =>
    obtain ⟨q, g₃, attrib, gq, g₆, h₃, h₄, -, h₆, rfl⟩ := startElementNS_ok h
    obtain ⟨_, _, _, _, rfl⟩ := ((rel_of_exec (qname_resolves _ n false) h₃).trans
      (rel_of_exec (qnameAttributes_resolves _ a) h₄)).pendingOnly
    obtain ⟨o, rfl⟩ := rel_of_exec (writeStartTag_outOnly _ _ _ _) h₆
    obtain ⟨o₀, hf⟩ := finishPending_eq g
    split_ifs with h' <;> simp [pin, hf, hs] at h' ⊢
  case endElementNS n =>
    obtain ⟨-, g₁, f, rest, h₁, -, rfl⟩ := endElementNS_ok h
    rcases writeEndTag_ok h₁ with ⟨h', rfl⟩ | ⟨-, q, g₂, h₂, rfl⟩
    · simp [hp] at h'
    · obtain ⟨_, _, _, _, rfl⟩ := (rel_of_exec (qname_resolves _ n false) h₂).pendingOnly
      exact hp
  all_goals exact (dispatch_ok_keepsScope h rfl).pending.elim id (·.trans hp)

theorem Call.Frames.length {c : Call} (h : c.Frames g g') :
    (g'.nsMapStack.length : Int) = g.nsMapStack.length + c.depth := by
  cases c <;> simp only [Call.Frames] at h
  case startElementNS => simp [h, Call.depth]
  case endElementNS => obtain ⟨f, hf, -⟩ := h; simp [hf, Call.depth]
  all_goals simp [h, Call.depth]


end Calls

/-! ### Whole runs -/

section Frames

/-- The stack grows by one at each start and shrinks by one at each end. -/
theorem runCalls_nsMapStack_length {cs : List Call} {g g' : XMPPXMLGenerator}
    (h : exec (runCalls cs) g = (.ok (), g')) :
    (g'.nsMapStack.length : Int) = g.nsMapStack.length + openCount cs := by
  induction cs generalizing g with
  | nil => simp only [exec_runCalls_nil, Prod.mk.injEq] at h; simp [h.2]
  | cons c cs ih =>
    obtain ⟨g₁, h₁, h₂⟩ := runCalls_cons_ok h
    rw [ih h₂, (dispatch_ok_frames h₁).length, openCount_cons]
    ring

/-- An element whose content keeps the stack restores the map and the counter at its end, and
leaves to be closed the prefixes declared for it with `auto=False`. -/
theorem element_restores_of {n : Name} {a : PyDict Name String} {body : List Call}
    (hb : ∀ {g g' : XMPPXMLGenerator}, exec (runCalls body) g = (.ok (), g') →
      g'.nsMapStack = g.nsMapStack)
    {g g' : XMPPXMLGenerator}
    (h : exec (runCalls (.startElementNS n a :: body ++ [.endElementNS n])) g = (.ok (), g')) :
    g'.nsMapStack = g.nsMapStack ∧ g'.currNsMap = g.currNsMap ∧ g'.nsCounter = g.nsCounter ∧
      g'.nsPrefixesFloatingOut = some g.explicitPending := by
  obtain ⟨g₁, h₁, h⟩ := runCalls_cons_ok h
  obtain ⟨g₂, h₂, h⟩ := runCalls_append_ok h
  obtain ⟨g₃, h₃, h⟩ := runCalls_cons_ok h
  simp only [exec_runCalls_nil, Prod.mk.injEq, true_and] at h
  subst h
  have hm := dispatch_ok_frames (c := .startElementNS n a) h₁
  obtain ⟨f, hf, hc, hk, ho⟩ := dispatch_ok_frames (c := .endElementNS n) h₃
  rw [hb h₂, hm, List.cons.injEq] at hf
  obtain ⟨rfl, hs⟩ := hf
  exact ⟨hs.symm, hc, hk, ho⟩

/-- A well-nested sequence that returns leaves the stack as it found it. -/
theorem balanced_nsMapStack {body : List Call} (hb : Balanced body) :
    ∀ {g g' : XMPPXMLGenerator}, exec (runCalls body) g = (.ok (), g') → g'.nsMapStack = g.nsMapStack := by
  induction hb with
  | nil => intro g g' h; simp only [exec_runCalls_nil, Prod.mk.injEq] at h; rw [h.2]
  | other hc _ ih =>
    intro g g' h
    obtain ⟨g₁, h₁, h₂⟩ := runCalls_cons_ok h
    rw [ih h₂, (dispatch_ok_keepsScope h₁ hc).nsMapStack]
  | @element n a body cs _ _ ihb ihc =>
    intro g g' h
    rw [show Call.startElementNS n a :: body ++ .endElementNS n :: cs =
      (.startElementNS n a :: body ++ [.endElementNS n]) ++ cs by simp] at h
    obtain ⟨g₁, h₁, h₂⟩ := runCalls_append_ok h
    rw [ihc h₂, (element_restores_of ihb h₁).1]

/-- A run that returns only adds to the sink, and keeps the mode. -/
theorem runCalls_out {cs : List Call} {g g' : XMPPXMLGenerator}
    (h : exec (runCalls cs) g = (.ok (), g')) :
    g.out <+: g'.out ∧ g'.shortEmptyElements = g.shortEmptyElements := by
  induction cs generalizing g with
  | nil => simp only [exec_runCalls_nil, Prod.mk.injEq] at h; rw [h.2]; exact ⟨List.prefix_refl _, rfl⟩
  | cons c cs ih =>
    obtain ⟨g₁, h₁, h₂⟩ := runCalls_cons_ok h
    have h₁' := dispatch_ok_out h₁
    exact ⟨h₁'.1.trans (ih h₂).1, (ih h₂).2.trans h₁'.2⟩

/-- Without short empty elements, no start tag is ever deferred. -/
theorem runCalls_long {cs : List Call} {g g' : XMPPXMLGenerator}
    (h : exec (runCalls cs) g = (.ok (), g')) (hs : g.shortEmptyElements = false)
    (hp : g.pendingStartElement = none) : g'.pendingStartElement = none := by
  induction cs generalizing g with
  | nil => simp only [exec_runCalls_nil, Prod.mk.injEq] at h; rw [← h.2]; exact hp
  | cons c cs ih =>
    obtain ⟨g₁, h₁, h₂⟩ := runCalls_cons_ok h
    exact ih h₂ ((dispatch_ok_out h₁).2.trans hs) (dispatch_ok_long h₁ hs hp)

/-- An element that closes restores the URI-to-prefix map and the counter from before its start,
and leaves to be closed the prefixes `_pin_floating_ns_decls` counted as declared for it. -/
theorem element_restores {n : Name} {a : PyDict Name String} {body : List Call} (hb : Balanced body)
    {g g' : XMPPXMLGenerator}
    (h : exec (runCalls (.startElementNS n a :: body ++ [.endElementNS n])) g = (.ok (), g')) :
    g'.nsMapStack = g.nsMapStack ∧ g'.currNsMap = g.currNsMap ∧ g'.nsCounter = g.nsCounter ∧
      g'.nsPrefixesFloatingOut = some g.explicitPending :=
  element_restores_of (balanced_nsMapStack hb) h

/-- **The frame stack follows the nesting.** On a run of a fresh generator that raises nothing,
`_ns_map_stack` holds one entry more than there are open elements, and right after each
`endElementNS` the map `_curr_ns_map` and `_ns_counter` are what they were right before the
`startElementNS` it closes. -/
theorem nsMapStack_tracks_elements (s : Bool) (cs : List Call) (g' : XMPPXMLGenerator)
    (h : exec (runCalls cs) (XMPPXMLGenerator.init s) = (.ok (), g')) :
    (g'.nsMapStack.length : Int) = 1 + openCount cs ∧
    ∀ pre n a body post, Balanced body →
      cs = pre ++ .startElementNS n a :: body ++ .endElementNS n :: post →
      (exec (runCalls (pre ++ .startElementNS n a :: body ++ [.endElementNS n]))
          (XMPPXMLGenerator.init s)).2.currNsMap =
        (exec (runCalls pre) (XMPPXMLGenerator.init s)).2.currNsMap ∧
      (exec (runCalls (pre ++ .startElementNS n a :: body ++ [.endElementNS n]))
          (XMPPXMLGenerator.init s)).2.nsCounter =
        (exec (runCalls pre) (XMPPXMLGenerator.init s)).2.nsCounter := by
  refine ⟨by rw [runCalls_nsMapStack_length h]; rfl, fun pre n a body post hb hcs => ?_⟩
  subst hcs
  rw [show pre ++ .startElementNS n a :: body ++ .endElementNS n :: post =
    (pre ++ .startElementNS n a :: body ++ [.endElementNS n]) ++ post by simp] at h
  obtain ⟨g₁, h₁, -⟩ := runCalls_append_ok h
  have h₁' := h₁
  rw [List.append_assoc] at h₁'
  obtain ⟨g₀, h₀, h₂⟩ := runCalls_append_ok h₁'
  rw [h₁, h₀]
  exact ⟨(element_restores hb h₂).2.1, (element_restores hb h₂).2.2.1⟩

/-- One element in `urn:a`, started and ended. -/
def oneElement : List Call :=
  [.startElementNS ⟨some "urn:a", "x"⟩ .empty, .endElementNS ⟨some "urn:a", "x"⟩]

theorem nsMapStack_tracks_elements_on_one_element :
    ((exec (runCalls oneElement) (XMPPXMLGenerator.init true)).2.nsMapStack.length : Int) =
        1 + openCount oneElement ∧
      (exec (runCalls oneElement) (XMPPXMLGenerator.init true)).2.currNsMap =
        (exec (runCalls []) (XMPPXMLGenerator.init true)).2.currNsMap :=
  let h := nsMapStack_tracks_elements true oneElement _ rfl
  ⟨h.1, (h.2 [] _ _ [] [] .nil rfl).1⟩

/-- A well-nested sequence that returns leaves the map as it found it. -/
theorem balanced_currNsMap {body : List Call} (hb : Balanced body) :
    ∀ {g g' : XMPPXMLGenerator}, exec (runCalls body) g = (.ok (), g') → g'.currNsMap = g.currNsMap := by
  induction hb with
  | nil => intro g g' h; simp only [exec_runCalls_nil, Prod.mk.injEq] at h; rw [h.2]
  | other hc _ ih =>
    intro g g' h
    obtain ⟨g₁, h₁, h₂⟩ := runCalls_cons_ok h
    rw [ih h₂, (dispatch_ok_keepsScope h₁ hc).currNsMap]
  | @element n a body cs hbody _ _ ihc =>
    intro g g' h
    rw [show Call.startElementNS n a :: body ++ .endElementNS n :: cs =
      (.startElementNS n a :: body ++ [.endElementNS n]) ++ cs by simp] at h
    obtain ⟨g₁, h₁, h₂⟩ := runCalls_append_ok h
    rw [ihc h₂, (element_restores hbody h₁).2.1]

end Frames

end XmppXml
