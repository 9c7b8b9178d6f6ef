import XmppXml.Namespaces
import XmppXml.Generator.Document

/-!
# Start tags read back

What the names the writer writes in one start tag mean to a reader with namespaces (`nsScan`).

The writer declares an automatic prefix `nsN` for each namespace it has no prefix for, on the
element that first uses it, with `N` past the counter (`_roll_prefix`). The names resolved during
a start (`qname_writtenAs`, `qnameAttributes_writtenAs`) are written with a prefix the map gives
or one pending for the element (`WrittenAs`). The reader's scopes agree with the writer's map
(`Agree`): each prefix the map gives is bound, innermost, to its namespace, and every automatic
prefix bound is numbered at most the counter. So an automatic prefix made up during a start is
bound in none of the scopes, and the pending prefixes stay fresh (`FreshPending`): the bindings of
the new start tag shadow none that the map uses (`Agree.pin`). Then the text of the start tag is
read as the element given (`readStartTag_written`).

* `expectName`, `expectElement`: what the reader should read;
* `writeStartTag_ok`, `startTag_attr_written`: what a start tag writes, and that each attribute is
  in the output of the start;
* `readAttValue_quoteattr`: every attribute value a start writes is read back as it was given when
  it is made of XML characters;
* `Agree`, `FreshPending`, `WrittenAs`: the invariants of a start;
* `readStartTag_written`: a start tag is read back with its names and its attributes.
-/

namespace XmppXml

open XMPPXMLGenerator

/-! ### What the reader should read -/

/-- The name the reader should report for a name given to the writer: a false URI is no
namespace. -/
def expectName (n : Name) : RName :=
  (if truthy n.uri then n.uri.map String.data else none, n.localName.data)

/-- The element the reader should report for `startElementNS(name, attributes)`. -/
def expectElement (n : Name) (a : PyDict Name String) : ReadElement :=
  (expectName n, a.items.map fun x => (expectName x.1, x.2.data))

/-- A name whose namespace, if it has one, is made of XML characters and is not the namespace of
`xmlns`, which no prefix may be declared for. -/
def Name.XmlUri (n : Name) : Prop :=
  ∀ us, n.uri = some us → us.data.all isXmlChar = true ∧ us ≠ xmlnsNamespace

/-! ### The text of a start tag -/

/-- A loop each of whose rounds writes `w a`, from any state, writes them all. -/
theorem exec_forM_writes {α : Type} {f : α → GenM Unit} {w : α → List SinkOp} (l : List α)
    (hf : ∀ a ∈ l, ∀ g : XMPPXMLGenerator, exec (f a) g = (.ok (), { g with out := g.out ++ w a }))
    (g : XMPPXMLGenerator) : exec (l.forM f) g = (.ok (), { g with out := g.out ++ l.flatMap w }) := by
  induction l generalizing g with
  | nil => simp [List.forM]
  | cons a l ih =>
    simp only [List.forM, exec_bind, hf a (.head _)]
    rw [ih fun b hb => hf b (.tail _ hb)]
    simp

theorem written_flatMap_data {α : Type} (l : List α) (w : α → List SinkOp) :
    (written (l.flatMap w)).data = l.flatMap fun a => (written (w a)).data := by
  induction l with
  | nil => rfl
  | cons a l ih => simp [List.flatMap_cons, written_append, ih]

/-- The declarations of the pending prefixes `pp`, as the reader of a start tag finds them. -/
def declRaws (pp : PyDict Prefix Uri) : List RawAttr :=
  (sortedItems (pp.erase none)).map fun d =>
    ("xmlns".data ++ ':' :: (d.1.getD "").data, (quoteattr (d.2.getD "")).data)

/-- The attributes `attrib`, as the reader of a start tag finds them. -/
def attrRaws (attrib : List (String × String)) : List RawAttr :=
  attrib.map fun a => (a.1.data, (quoteattr a.2).data)

/-- What `writeStartTag` writes when no prefixless namespace is pending and every pending prefix is
a true one with a URI: `<`, the name, the declarations and the attributes. -/
theorem writeStartTag_written (g : XMPPXMLGenerator) (q : String) {pp : PyDict Prefix Uri}
    (hpp : ∀ p u, pp.get? p = some u → ∃ ps us, p = some ps ∧ ps ≠ "" ∧ u = some us)
    (attrib : List (String × String)) :
    ∃ o, exec (writeStartTag q pp attrib) g =
        (.ok (), { g with out := g.out ++ [.write "<", .write q] ++ o }) ∧
      (written o).data = (declRaws pp ++ attrRaws attrib).flatMap fun x => attrChunk x.1 x.2 := by
  have hnone : pp.get? none = none := by
    cases h : pp.get? none with
    | none => rfl
    | some u => obtain ⟨_, _, h, -⟩ := hpp _ _ h; cases h
  have hd : ∀ d ∈ sortedItems (pp.erase none), ∀ g : XMPPXMLGenerator,
      exec (writeDecl d.1 d.2) g = (.ok (), { g with out := g.out ++ [.write " xmlns", .write ":",
        .write (d.1.getD ""), .write "=", .write (quoteattr (d.2.getD ""))] }) := by
    intro d hd g
    rw [sortedItems, List.mem_insertionSort] at hd
    have hg := PyDict.mem_items_iff.mp hd
    rw [PyDict.get?_erase] at hg
    split_ifs at hg
    obtain ⟨ps, us, h₁, h₂, h₃⟩ := hpp _ _ hg
    obtain ⟨p, u⟩ := d
    simp only at h₁ h₃
    subst h₁ h₃
    simp [writeDecl, writePrefix, writeQuoted, truthy, h₂]
  refine ⟨(sortedItems (pp.erase none)).flatMap (fun d => [.write " xmlns",
    .write ":", .write (d.1.getD ""), .write "=", .write (quoteattr (d.2.getD ""))]) ++
    attrib.flatMap (fun a => [.write " ", .write a.1, .write "=", .write (quoteattr a.2)]), ?_, ?_⟩
  · have ha : ∀ a ∈ attrib, ∀ g : XMPPXMLGenerator, exec (writeAttr a.1 a.2) g = (.ok (),
        { g with out := g.out ++ [.write " ", .write a.1, .write "=", .write (quoteattr a.2)] }) :=
      fun a _ g => by simp [writeAttr]
    simp [writeStartTag, writeDefaultDecl, hnone, exec_forM_writes _ hd, exec_forM_writes _ ha]
  · simp only [written_append, String.data_append, written_flatMap_data, declRaws, attrRaws,
      List.flatMap_append, List.flatMap_map]
    simp [written, attrChunk]

/-- A start tag that is written: the declarations of the pending prefixes, by a loop that returns
from a state that has only received more, then the attributes, in their order. -/
theorem writeStartTag_ok {q : String} {pp : PyDict Prefix Uri} {attrib : List (String × String)}
    {g g' : XMPPXMLGenerator} (h : exec (writeStartTag q pp attrib) g = (.ok (), g')) :
    ∃ g₃ g₄, g.OutOnly g₃ ∧
      exec ((sortedItems (pp.erase none)).forM fun d => writeDecl d.1 d.2) g₃ = (.ok (), g₄) ∧
      g'.out = g₄.out ++ attrib.flatMap fun a =>
        [.write " ", .write a.1, .write "=", .write (quoteattr a.2)] := by
  unfold writeStartTag at h
  obtain ⟨_, g₁, h₁, h⟩ := exec_bind_ok _ h
  obtain ⟨_, g₂, h₂, h⟩ := exec_bind_ok _ h
  obtain ⟨_, g₃, h₃, h⟩ := exec_bind_ok _ h
  obtain ⟨_, g₄, h₄, h⟩ := exec_bind_ok _ h
  rw [exec_forM_writes (w := fun a => [.write " ", .write a.1, .write "=", .write (quoteattr a.2)])
    _ (fun a _ g => by simp [writeAttr])] at h
  obtain ⟨-, rfl⟩ := Prod.mk.inj h
  exact ⟨g₃, g₄, ((rel_of_exec (write_outOnly g _) h₁).trans (rel_of_exec (write_outOnly g₁ _) h₂)).trans
    (rel_of_exec (writeDefaultDecl_outOnly g₂ pp) h₃), h₄, rfl⟩

/-- The end of a start, deferred or written, only adds to what the start tag wrote. -/
theorem startTag_end_extends {n : Name} {g₆ g' : XMPPXMLGenerator}
    (hg' : g' = if g₆.shortEmptyElements then { g₆ with pendingStartElement := some n }
      else { g₆ with out := g₆.out ++ [.write ">"] }) : g₆.out <+: g'.out := by
  subst hg'
  split_ifs
  exacts [List.prefix_refl _, List.prefix_append _ _]

/-- Each attribute of a start tag that is written is in what the start writes, as ` name="value"`,
whether the end of the tag is deferred or not. -/
theorem startTag_attr_written {q : String} {pp : PyDict Prefix Uri} {attrib : List (String × String)}
    {n : Name} {g₅ g₆ g' : XMPPXMLGenerator} (h₆ : exec (writeStartTag q pp attrib) g₅ = (.ok (), g₆))
    (hg' : g' = if g₆.shortEmptyElements then { g₆ with pendingStartElement := some n }
      else { g₆ with out := g₆.out ++ [.write ">"] }) {b : String × String} (hb : b ∈ attrib) :
    [SinkOp.write " ", .write b.1, .write "=", .write (quoteattr b.2)] <:+: g'.out := by
  obtain ⟨_, g₄, -, -, hout⟩ := writeStartTag_ok h₆
  have hc : [SinkOp.write " ", .write b.1, .write "=", .write (quoteattr b.2)] <:+: g₆.out := by
    rw [hout, List.flatMap_def]
    refine List.IsInfix.trans ?_ (List.suffix_append _ _).isInfix
    exact List.infix_of_mem_flatten (List.mem_map.mpr ⟨_, hb, rfl⟩)
  exact hc.trans (startTag_end_extends hg').isInfix

/-- The attributes `qnameAttributes` returns are those its loop resolved. -/
theorem qnameAttributes_ok_mapM {g g' : XMPPXMLGenerator} {a : PyDict Name String}
    {attrib : List (String × String)} (h : exec (qnameAttributes a) g = (.ok attrib, g')) :
    exec (a.items.mapM fun x => do return (← qname x.1 true, x.2)) g = (.ok attrib, g') := by
  unfold qnameAttributes at h
  obtain ⟨r, g₁, hr, h⟩ := exec_bind_ok _ h
  split_ifs at h
  · simp at h
  simp only [exec_pure, Prod.mk.injEq, Except.ok.injEq] at h
  obtain ⟨rfl, rfl⟩ := h
  exact hr

/-- The reader's scopes `S` agree with the map `m` of a writer whose counter is `c`: the innermost
binding of each prefix the map gives is to the namespace the map gives it, and every bound prefix
is a true one, with an automatic one numbered at most `c`. -/
structure Agree (m : PyDict Uri Prefix) (c : Int) (S : List Bindings) : Prop where
  mapped : ∀ u p, m.get? u = some p → ∃ us ps, u = some us ∧ p = some ps ∧
    isValidPrefix (some ps) = true ∧ lookupPrefix (some ps.data) S = some us.data
  bound : ∀ b ∈ S, ∀ x ∈ b, ∃ ps, x.1 = some ps ∧ ∀ K, ps = (nsName K).data → K ≤ c

theorem mem_of_lookupPrefix {p : Option (List Char)} {S : List Bindings} {v : List Char}
    (h : lookupPrefix p S = some v) : ∃ b ∈ S, (p, v) ∈ b := by
  induction S with
  | nil => cases h
  | cons b S ih =>
    simp only [lookupPrefix] at h
    cases hl : lookup p b with
    | none =>
      rw [hl, Option.none_or] at h
      obtain ⟨b', hb', hv⟩ := ih h
      exact ⟨b', .tail _ hb', hv⟩
    | some w =>
      rw [hl, Option.or_some] at h
      cases h
      exact ⟨b, .head _, mem_of_lookup_eq_some hl⟩

/-- During a start whose element is read in the scopes `S`, from a writer whose counter was `c₀`:
every pending prefix is a true one that `startPrefixMapping` accepts, for a declarable URI,
bound in the scopes, if at all, to that URI, and an automatic one is numbered at most the counter;
the pending declarations are the pending prefixes read the other way. -/
structure FreshPending (c₀ : Int) (S : List Bindings) (g : XMPPXMLGenerator) : Prop where
  prefixes : ∀ p u, g.nsPrefixesFloatingIn.get? p = some u → ∃ ps us, p = some ps ∧ u = some us ∧
    isValidPrefix (some ps) = true ∧ DeclarableUri us ∧
    (∀ v, lookupPrefix (some ps.data) S = some v → v = us.data) ∧ ∀ K, ps = nsName K → K ≤ g.nsCounter
  decls : ∀ u p, g.nsDeclsFloatingIn.get? u = some p → g.nsPrefixesFloatingIn.get? p = some u
  counter : c₀ ≤ g.nsCounter

/-- `g'` is `g` with more names, of the namespaces `U`, resolved: the same map, every pending
prefix still pending for the same URI, and every new one automatic, for a namespace of `U`. -/
structure Extends (U : List String) (g g' : XMPPXMLGenerator) : Prop where
  map : g'.currNsMap = g.currNsMap
  pending : ∀ p u, g.nsPrefixesFloatingIn.get? p = some u → g'.nsPrefixesFloatingIn.get? p = some u
  fresh : ∀ p u, g'.nsPrefixesFloatingIn.get? p = some u → g.nsPrefixesFloatingIn.get? p = some u ∨
    (∃ K, p = some (nsName K)) ∧ ∃ us, u = some us ∧ us ∈ U

theorem Extends.refl (U : List String) (g : XMPPXMLGenerator) : Extends U g g :=
  ⟨rfl, fun _ _ => id, fun _ _ => .inl⟩

theorem Extends.trans {U : List String} {g₁ g₂ g₃ : XMPPXMLGenerator} (h₁ : Extends U g₁ g₂)
    (h₂ : Extends U g₂ g₃) : Extends U g₁ g₃ :=
  ⟨h₂.map.trans h₁.map, fun p u h => h₂.pending p u (h₁.pending p u h), fun p u h =>
    (h₂.fresh p u h).elim (h₁.fresh p u) .inr⟩

theorem Extends.mono {U U' : List String} {g g' : XMPPXMLGenerator} (h : Extends U g g')
    (hU : ∀ us ∈ U, us ∈ U') : Extends U' g g' :=
  ⟨h.map, h.pending, fun p u hp => (h.fresh p u hp).imp_right fun ⟨hK, us, hu, hus⟩ =>
    ⟨hK, us, hu, hU us hus⟩⟩

/-- How the writer wrote the name `n` as `q`, with the map `m` at the start and the prefixes `pp`
pending at the end: with no namespace as its local name, in the XML namespace as `xml:` and the
local name, and else as a prefix, `:` and the local name, where the map gives the namespace that
prefix or the prefix is pending for it. -/
def WrittenAs (m : PyDict Uri Prefix) (pp : PyDict Prefix Uri) (n : Name) (q : String) : Prop :=
  isValidLocalName n.localName = true ∧
    ((truthy n.uri = false ∧ q = n.localName) ∨
      (n.uri = some xmlNamespace ∧ q = "xml:" ++ n.localName) ∨
      ∃ p, isValidPrefix (some p) = true ∧ truthy n.uri = true ∧ n.uri ≠ some xmlNamespace ∧
        q = p ++ ":" ++ n.localName ∧
        (m.get? n.uri = some (some p) ∨ pp.get? (some p) = some n.uri))

theorem WrittenAs.mono {m : PyDict Uri Prefix} {pp pp' : PyDict Prefix Uri} {n : Name} {q : String}
    (h : WrittenAs m pp n q) (hpp : ∀ p u, pp.get? p = some u → pp'.get? p = some u) :
    WrittenAs m pp' n q := by
  obtain ⟨hl, h | h | ⟨p, hp, hu, hx, hq, hm | hm⟩⟩ := h
  · exact ⟨hl, .inl h⟩
  · exact ⟨hl, .inr (.inl h)⟩
  · exact ⟨hl, .inr (.inr ⟨p, hp, hu, hx, hq, .inl hm⟩)⟩
  · exact ⟨hl, .inr (.inr ⟨p, hp, hu, hx, hq, .inr (hpp _ _ hm)⟩)⟩

section Resolve

variable {m : PyDict Uri Prefix} {c₀ : Int} {S : List Bindings}

/-- An automatic prefix numbered past the counter is bound in none of the scopes. -/
theorem Agree.lookupPrefix_nsName (hS : Agree m c₀ S) {K : Int} (hK : c₀ < K) :
    lookupPrefix (some (nsName K).data) S = none := by
  cases hl : lookupPrefix (some (nsName K).data) S with
  | none => rfl
  | some v =>
    obtain ⟨b, hb, hx⟩ := mem_of_lookupPrefix hl
    obtain ⟨ps, hps, hle⟩ := hS.bound b hb _ hx
    cases hps
    have := hle K rfl
    omega

/-- Resolving a declarable namespace keeps the pending prefixes fresh, and gives a prefix that the
map gives it or that is then pending for it. -/
theorem resolve_freshPending {g : XMPPXMLGenerator} {u : Uri} (hS : Agree m c₀ S)
    (hA : FreshPending c₀ S g) (hu : truthy u = true)
    (hx : ∀ us, u = some us → DeclarableUri us) :
    FreshPending c₀ S (g.resolve u).2 ∧ Extends u.toList g (g.resolve u).2 ∧
      (g.currNsMap.get? u = some (g.resolve u).1 ∨
        (g.resolve u).2.nsPrefixesFloatingIn.get? (g.resolve u).1 = some u) := by
  unfold resolve
  rcases hm : g.currNsMap.get? u with _ | p
  · rcases hd : g.nsDeclsFloatingIn.get? u with _ | p
    · -- A new automatic prefix, with a number past the counter and not pending yet.
      obtain ⟨us, rfl⟩ : ∃ us, u = some us := Option.ne_none_iff_exists'.mp (by rintro rfl; cases hu)
      have hle := le_rollFrom g.nsPrefixesFloatingIn (g.nsCounter + 1) (rollFuel g.nsPrefixesFloatingIn)
      have hc := hA.counter
      have hfree := rollFrom_not_mem g.nsPrefixesFloatingIn (g.nsCounter + 1)
      have hne : ∀ p v, g.nsPrefixesFloatingIn.get? p = some v → p ≠ some (nsName g.rolled) := by
        rintro p v hp rfl
        simp only [rolled] at hp
        simp [PyDict.contains, hp] at hfree
      refine ⟨⟨fun p v hp => ?_, fun v p hp => ?_, ?_⟩, ⟨rfl, fun p v hp => ?_, fun p v hp => ?_⟩,
        .inr ?_⟩
      · simp only [declare, PyDict.get?_assign] at hp
        split_ifs at hp with h
        · cases hp
          refine ⟨_, us, h.symm, rfl, isValidPrefix_nsName _, hx us rfl, fun v hv => ?_, fun K hK => ?_⟩
          · rw [hS.lookupPrefix_nsName (by simp only [rolled]; omega)] at hv
            cases hv
          rw [nsName_injective hK]
          rfl
        · obtain ⟨ps, us', h₁, h₂, hv, hxs, hl, hK⟩ := hA.prefixes p v hp
          exact ⟨ps, us', h₁, h₂, hv, hxs, hl, fun K hK' => by
            have := hK K hK'; simp only [declare, rolled]; omega⟩
      · simp only [declare, PyDict.get?_assign] at hp ⊢
        split_ifs at hp with h
        · cases hp; simp [h]
        · have := hA.decls v p hp
          rw [if_neg (Ne.symm (hne p v this))]
          exact this
      · simp only [declare, rolled]; omega
      · simp only [declare, PyDict.get?_assign]
        rw [if_neg (Ne.symm (hne p v hp))]
        exact hp
      · simp only [declare, PyDict.get?_assign] at hp
        split_ifs at hp with h
        · cases hp
          exact .inr ⟨⟨_, h.symm⟩, us, rfl, by simp⟩
        · exact .inl hp
      · simp [declare]
    · exact ⟨hA, .refl _ g, .inr (hA.decls u p hd)⟩
  · exact ⟨hA, .refl _ g, .inl rfl⟩

theorem joinPrefix_some {p : String} (hp : isValidPrefix (some p) = true) (l : String) :
    joinPrefix (some p) l = p ++ ":" ++ l := by
  have := xmlValidateNameValueStr_ne_empty (isValidPrefix_some.mp hp).2.2.1
  simp [joinPrefix, truthy, this]

/-- Resolving a name keeps the pending prefixes fresh, and the name is written as `WrittenAs` says,
with the map the writer had and the prefixes pending after it. -/
theorem qname_writtenAs {g g' : XMPPXMLGenerator} {n : Name} {attr : Bool} {q : String}
    (hS : Agree g.currNsMap c₀ S) (hA : FreshPending c₀ S g) (hx : n.XmlUri)
    (h : exec (qname n attr) g = (.ok q, g')) :
    FreshPending c₀ S g' ∧ Extends n.uri.toList g g' ∧
      WrittenAs g.currNsMap g'.nsPrefixesFloatingIn n q := by
  rw [exec_qname] at h
  split_ifs at h with hl hn hxn <;> simp only [Prod.mk.injEq, reduceCtorEq, false_and,
    Except.ok.injEq] at h <;> obtain ⟨rfl, rfl⟩ := h <;> simp only [Bool.not_eq_false] at hl
  · exact ⟨hA, .refl _ g, hl, .inr (.inl ⟨hxn, rfl⟩)⟩
  · have hd : ∀ us, n.uri = some us → DeclarableUri us := fun us hus =>
      ⟨(hx us hus).1, by rintro rfl; simp [hus, truthy] at hn, fun h => hxn (by rw [hus, h]),
        (hx us hus).2⟩
    obtain ⟨hA', hE, hr⟩ := resolve_freshPending hS hA hn hd
    -- The prefix is a true one: from the map, or pending.
    obtain ⟨p, hp, hv⟩ : ∃ p, (g.resolve n.uri).1 = some p ∧ isValidPrefix (some p) = true := by
      rcases hr with hr | hr
      · obtain ⟨-, ps, -, hp, hv, -⟩ := hS.mapped _ _ hr
        exact ⟨ps, hp, hv⟩
      · obtain ⟨ps, -, hp, -, hv, -⟩ := hA'.prefixes _ _ hr
        exact ⟨ps, hp, hv⟩
    rw [hp] at hr ⊢
    exact ⟨hA', hE, hl, .inr (.inr ⟨p, hv, hn, hxn, joinPrefix_some hv _, hr⟩)⟩
  · exact ⟨hA, .refl _ g, hl, .inl ⟨by simpa using hn, rfl⟩⟩

/-- The loop of `qnameAttributes` over attributes whose namespaces are made of XML characters. -/
theorem mapM_qname_writtenAs (l : List (Name × String)) (hx : ∀ x ∈ l, x.1.XmlUri) :
    ∀ {g g' : XMPPXMLGenerator} {attrib : List (String × String)}, Agree g.currNsMap c₀ S →
      FreshPending c₀ S g → exec (l.mapM fun a => do return (← qname a.1 true, a.2)) g = (.ok attrib, g') →
      FreshPending c₀ S g' ∧ Extends (l.filterMap fun x => x.1.uri) g g' ∧
        List.Forall₂ (fun x y => WrittenAs g.currNsMap g'.nsPrefixesFloatingIn y.1 x.1 ∧ x.2 = y.2)
          attrib l := by
  induction l with
  | nil =>
    intro g g' attrib _ hA h
    simp only [List.mapM_nil, exec_pure, Prod.mk.injEq, Except.ok.injEq] at h
    obtain ⟨rfl, rfl⟩ := h
    exact ⟨hA, .refl _ g, .nil⟩
  | cons y l ih =>
    intro g g' attrib hS hA h
    rw [List.mapM_cons] at h
    obtain ⟨b, g₁, h₁, h⟩ := exec_bind_ok _ h
    obtain ⟨bs, g₂, h₂, h⟩ := exec_bind_ok _ h
    simp only [exec_pure, Prod.mk.injEq, Except.ok.injEq] at h
    obtain ⟨rfl, rfl⟩ := h
    obtain ⟨q, g₀, h₀, h₁⟩ := exec_bind_ok _ h₁
    simp only [exec_pure, Prod.mk.injEq, Except.ok.injEq] at h₁
    obtain ⟨rfl, rfl⟩ := h₁
    obtain ⟨hA₁, hE₁, hw⟩ := qname_writtenAs hS hA (hx y (.head _)) h₀
    obtain ⟨hA₂, hE₂, hws⟩ := ih (fun x hx' => hx x (.tail _ hx')) (hE₁.map ▸ hS) hA₁ h₂
    rw [hE₁.map] at hws
    have hU : ∀ us ∈ y.1.uri.toList, us ∈ (y :: l).filterMap fun x => x.1.uri := by
      intro us hus
      simp only [Option.mem_toList, Option.mem_def] at hus
      simp [List.filterMap_cons, hus]
    have hU' : ∀ us ∈ l.filterMap (fun x => x.1.uri), us ∈ (y :: l).filterMap fun x => x.1.uri := by
      intro us hus
      rw [List.filterMap_cons]
      split <;> simp [hus]
    exact ⟨hA₂, (hE₁.mono hU).trans (hE₂.mono hU'), .cons ⟨hw.mono hE₂.pending, rfl⟩ hws⟩

/-- Resolving the attribute names keeps the pending prefixes fresh; each name is written as
`WrittenAs` says, with the prefixes pending after them all, and none is `xmlns`. -/
theorem qnameAttributes_writtenAs {g g' : XMPPXMLGenerator} {a : PyDict Name String}
    {attrib : List (String × String)} (hS : Agree g.currNsMap c₀ S) (hA : FreshPending c₀ S g)
    (hx : ∀ x ∈ a.items, x.1.XmlUri) (h : exec (qnameAttributes a) g = (.ok attrib, g')) :
    FreshPending c₀ S g' ∧ Extends (a.items.filterMap fun x => x.1.uri) g g' ∧
      (∀ x ∈ attrib, x.1 ≠ "xmlns") ∧
      List.Forall₂ (fun x y => WrittenAs g.currNsMap g'.nsPrefixesFloatingIn y.1 x.1 ∧ x.2 = y.2)
        attrib a.items := by
  unfold qnameAttributes at h
  obtain ⟨r, g₁, h₁, h⟩ := exec_bind_ok _ h
  split_ifs at h with hxmlns
  · simp at h
  simp only [exec_pure, Prod.mk.injEq, Except.ok.injEq] at h
  obtain ⟨rfl, rfl⟩ := h
  obtain ⟨hA', hE, hw⟩ := mapM_qname_writtenAs _ hx hS hA h₁
  exact ⟨hA', hE, fun x hx' h => hxmlns (List.any_eq_true.mpr ⟨x, hx', by simp [h]⟩), hw⟩

end Resolve

/-! ### Reading the start tag -/

theorem NameText.eq_not_mem {l : List Char} (h : NameText l) : '=' ∉ l := fun he => by
  have := h _ he; revert this; decide

/-- The bindings the declarations of the pending prefixes `pp` make. -/
def declBindings (pp : PyDict Prefix Uri) : Bindings :=
  (sortedItems (pp.erase none)).map fun d => (some (d.1.getD "").data, (d.2.getD "").data)

theorem mem_declBindings {pp : PyDict Prefix Uri} {x : Option (List Char) × List Char} :
    x ∈ declBindings pp ↔ ∃ p u, pp.get? (some p) = some u ∧ x = (some p.data, (u.getD "").data) := by
  simp only [declBindings, sortedItems, List.mem_map, List.mem_insertionSort, Prod.exists]
  constructor
  · rintro ⟨_ | p, u, hd, rfl⟩ <;> rw [PyDict.mem_items_iff, PyDict.get?_erase] at hd
    · simp at hd
    · exact ⟨p, u, by simpa using hd, rfl⟩
  · rintro ⟨p, u, h, rfl⟩
    exact ⟨some p, u, by simpa [PyDict.mem_items_iff] using h, rfl⟩

/-- The bindings of a start tag are of distinct prefixes. -/
theorem declBindings_nodup (pp : PyDict Prefix Uri) : ((declBindings pp).map Prod.fst).Nodup := by
  have hk : ((sortedItems (pp.erase none)).map Prod.fst).Nodup :=
    ((List.perm_insertionSort _ _).map Prod.fst).nodup_iff.mpr (pp.erase none).nodup
  have heq : (declBindings pp).map Prod.fst =
      ((sortedItems (pp.erase none)).map Prod.fst).map fun p => some (p.getD "").data := by
    simp [declBindings]
  rw [heq]
  refine hk.map_on fun x hx y hy hxy => ?_
  obtain ⟨d, hd, rfl⟩ := List.mem_map.mp hx
  obtain ⟨e, he, rfl⟩ := List.mem_map.mp hy
  rw [sortedItems, List.mem_insertionSort, PyDict.mem_items_iff, PyDict.get?_erase] at hd he
  obtain ⟨_ | p, u⟩ := d <;> obtain ⟨_ | p', u'⟩ := e <;> simp at hd he hxy ⊢
  exact String.ext hxy

/-- Each declaration of a start tag declares the prefix of its binding. -/
theorem declOf_declRaws (pp : PyDict Prefix Uri) :
    (declRaws pp).map (fun x => declOf x.1) = (declBindings pp).map fun x => some x.1 := by
  simp only [declRaws, declBindings, List.map_map]
  exact List.map_congr_left fun d _ => declOf_xmlns _

/-- The bindings of a start tag give each declared prefix its pending URI. -/
theorem lookup_declBindings (pp : PyDict Prefix Uri) (ps : String) :
    lookup (some ps.data) (declBindings pp) = (pp.get? (some ps)).map fun u => (u.getD "").data := by
  have hnd := declBindings_nodup pp
  cases h : pp.get? (some ps) with
  | none =>
    refine lookup_eq_none_of_not_mem fun hm => ?_
    obtain ⟨x, hx, hx1⟩ := List.mem_map.mp hm
    obtain ⟨p, u, hp, rfl⟩ := mem_declBindings.mp hx
    obtain rfl : p = ps := String.ext (Option.some.inj hx1)
    simp [hp] at h
  | some u => exact lookup_eq_some_of_mem hnd (mem_declBindings.mpr ⟨ps, u, h, rfl⟩)

theorem lookup_none_declBindings (pp : PyDict Prefix Uri) : lookup none (declBindings pp) = none :=
  lookup_eq_none_of_not_mem fun hm => by
    obtain ⟨x, hx, hx1⟩ := List.mem_map.mp hm
    obtain ⟨p, u, -, rfl⟩ := mem_declBindings.mp hx
    cases hx1

section Agree

variable {m : PyDict Uri Prefix} {c₀ : Int} {S : List Bindings} {g : XMPPXMLGenerator}

/-- No default namespace is bound. -/
theorem Agree.lookupPrefix_none (h : Agree m c₀ S) : lookupPrefix none S = none := by
  cases hl : lookupPrefix none S with
  | none => rfl
  | some v =>
    obtain ⟨b, hb, hx⟩ := mem_of_lookupPrefix hl
    obtain ⟨ps, hps, -⟩ := h.bound b hb _ hx
    cases hps

/-- A prefix bound in the scopes keeps its namespace under the bindings of the pending prefixes. -/
theorem FreshPending.lookupPrefix_cons (hA : FreshPending c₀ S g) {ps : String} {v : List Char}
    (h : lookupPrefix (some ps.data) S = some v) :
    lookupPrefix (some ps.data) (declBindings g.nsPrefixesFloatingIn :: S) = some v := by
  cases hp : g.nsPrefixesFloatingIn.get? (some ps) with
  | none => simp [lookupPrefix, lookup_declBindings, hp, h]
  | some u =>
    obtain ⟨ps', us, hps, rfl, -, -, hl, -⟩ := hA.prefixes _ _ hp
    obtain rfl := Option.some.inj hps
    simp [lookupPrefix, lookup_declBindings, hp, hl v h]

/-- Pinning the pending declarations: the map updated with them agrees with the scopes the start
tag's bindings extend, with the counter the writer then has. -/
theorem Agree.pin (hS : Agree m c₀ S) (hA : FreshPending c₀ S g) :
    Agree (m.update g.nsDeclsFloatingIn) g.nsCounter (declBindings g.nsPrefixesFloatingIn :: S) where
  mapped u p hp := by
    rw [PyDict.get?_update] at hp
    cases hd : g.nsDeclsFloatingIn.get? u with
    | some p' =>
      rw [hd, Option.or_some] at hp
      cases hp
      have hpu := hA.decls _ _ hd
      obtain ⟨ps, us, rfl, rfl, hv, -⟩ := hA.prefixes _ _ hpu
      exact ⟨us, ps, rfl, rfl, hv, by simp [lookupPrefix, lookup_declBindings, hpu]⟩
    | none =>
      rw [hd, Option.none_or] at hp
      obtain ⟨us, ps, rfl, rfl, hv, hl⟩ := hS.mapped u p hp
      exact ⟨us, ps, rfl, rfl, hv, hA.lookupPrefix_cons hl⟩
  bound b hb x hx := by
    rcases List.mem_cons.mp hb with rfl | hb
    · obtain ⟨p, u, hp, rfl⟩ := mem_declBindings.mp hx
      obtain ⟨ps, -, hps, -, -, -, -, hK⟩ := hA.prefixes _ _ hp
      obtain rfl := Option.some.inj hps
      exact ⟨_, rfl, fun K hK' => hK K (String.ext hK')⟩
    · obtain ⟨ps, hps, hle⟩ := hS.bound b hb x hx
      exact ⟨ps, hps, fun K hK => (hle K hK).trans hA.counter⟩

theorem WrittenAs.nameText {pp : PyDict Prefix Uri} {n : Name} {q : String} (hw : WrittenAs m pp n q) :
    NameText q.data := by
  obtain ⟨hl, ⟨-, rfl⟩ | ⟨-, rfl⟩ | ⟨p, hp, -, -, rfl, -⟩⟩ := hw
  · exact nameText_of_isValidLocalName hl
  · exact (show NameText "xml:".data by simp [NameText]; decide).append (nameText_of_isValidLocalName hl)
  · simpa [joinPrefix_some hp] using nameText_joinPrefix hp (nameText_of_isValidLocalName hl)

theorem isNCName_of_isValidLocalName {s : String} (h : isValidLocalName s = true) :
    isNCName s.data = true := by
  simp only [isValidLocalName, Bool.not_eq_true', Bool.or_eq_false_iff, decide_eq_false_iff_not,
    Bool.not_eq_false'] at h
  exact isNCName_of_valid h.2 h.1

theorem isNCName_of_isValidPrefix {p : String} (h : isValidPrefix (some p) = true) :
    isNCName p.data = true :=
  isNCName_of_valid (isValidPrefix_some.mp h).2.2.1 (isValidPrefix_some.mp h).2.2.2

/-- A name the writer wrote is a qualified name. -/
theorem WrittenAs.qnameOk_data {pp : PyDict Prefix Uri} {n : Name} {q : String}
    (hw : WrittenAs m pp n q) : qnameOk q.data = true := by
  obtain ⟨hl, ⟨-, rfl⟩ | ⟨-, rfl⟩ | ⟨p, hp, -, -, rfl, -⟩⟩ := hw
  · exact qnameOk_of_isNCName (isNCName_of_isValidLocalName hl)
  · simpa using qnameOk_append (p := "xml".data) (by decide) (isNCName_of_isValidLocalName hl)
  · simpa using qnameOk_append (isNCName_of_isValidPrefix hp) (isNCName_of_isValidLocalName hl)

/-- A name the writer wrote, other than `xmlns`, declares nothing. -/
theorem WrittenAs.declOf {pp : PyDict Prefix Uri} {n : Name} {q : String} (hw : WrittenAs m pp n q)
    (hx : q ≠ "xmlns") : declOf q.data = none := by
  obtain ⟨hl, ⟨-, rfl⟩ | ⟨-, rfl⟩ | ⟨p, hp, -, -, rfl, -⟩⟩ := hw
  · simp only [isValidLocalName, Bool.not_eq_true', Bool.or_eq_false_iff, decide_eq_false_iff_not,
      Bool.not_eq_false'] at hl
    exact declOf_unprefixed hl.1 fun h => hx (String.ext h)
  · exact declOf_prefixed (p := "xml".data) (by decide) (by decide) n.localName.data
  · obtain ⟨-, hxmlns, -, hc⟩ := isValidPrefix_some.mp hp
    simpa using declOf_prefixed hc (fun h => hxmlns (String.ext h)) n.localName.data

/-- The reader gives a name the writer wrote its namespace: in the scopes agreeing with the map
the writer had, extended by the bindings of the pending prefixes. -/
theorem resolveName_writtenAs (hS : Agree m c₀ S) (hA : FreshPending c₀ S g) {n : Name} {q : String}
    (hw : WrittenAs m g.nsPrefixesFloatingIn n q) (attr : Bool) :
    resolveName (declBindings g.nsPrefixesFloatingIn :: S) attr q.data = some (expectName n) := by
  obtain ⟨hl, ⟨hu, rfl⟩ | ⟨hu, rfl⟩ | ⟨p, hp, hu, hxn, rfl, hm⟩⟩ := hw
  · simp only [isValidLocalName, Bool.not_eq_true', Bool.or_eq_false_iff, decide_eq_false_iff_not,
      Bool.not_eq_false'] at hl
    cases attr <;> simp [resolveName, splitPrefix_eq_none hl.1, lookupPrefix, lookup_none_declBindings,
      hS.lookupPrefix_none, expectName, hu]
  · have hs : splitPrefix ("xml:" ++ n.localName).data = some ("xml".data, n.localName.data) :=
      splitPrefix_append (p := "xml".data) (by decide) _
    rw [resolveName, hs]
    simp [expectName, hu, xmlNamespace, truthy]
  · obtain ⟨us, hus⟩ : ∃ us, n.uri = some us :=
      Option.ne_none_iff_exists'.mp fun h => by simp [h] at hu
    rw [hus] at hm
    obtain ⟨hxml, -, -, hc⟩ := isValidPrefix_some.mp hp
    have hs : splitPrefix (p ++ ":" ++ n.localName).data = some (p.data, n.localName.data) := by
      simpa using splitPrefix_append hc n.localName.data
    have hlook : lookupPrefix (some p.data) (declBindings g.nsPrefixesFloatingIn :: S) = some us.data := by
      rcases hm with hm | hm
      · obtain ⟨us', ps, h₁, h₂, -, hl'⟩ := hS.mapped _ _ hm
        cases h₁; cases h₂
        exact hA.lookupPrefix_cons hl'
      · simp [lookupPrefix, lookup_declBindings, hm]
    have hxml' : p.data ≠ "xml".data := fun h => hxml (String.ext h)
    rw [resolveName, hs]
    simp [hxml', hlook, expectName, hus ▸ hu, hus]

/-- The attributes the writer wrote are read with their names resolved and their values. -/
theorem attrsOf_written (hS : Agree m c₀ S) (hA : FreshPending c₀ S g) :
    ∀ {attrib : List (String × String)} {items : List (Name × String)},
      List.Forall₂ (fun x y => WrittenAs m g.nsPrefixesFloatingIn y.1 x.1 ∧ x.2 = y.2) attrib items →
      (∀ x ∈ attrib, x.1 ≠ "xmlns") → (∀ y ∈ items, y.2.data.all isXmlChar = true) →
      attrsOf (declBindings g.nsPrefixesFloatingIn :: S) (attrRaws attrib) =
        some (items.map fun y => (expectName y.1, y.2.data))
  | _, _, .nil, _, _ => rfl
  | x :: _, y :: _, .cons ⟨hw, hv⟩ hr, hns, hx => by
    have hval : readAttValue ⟨(quoteattr x.2).data⟩ = some y.2 := by
      rw [show (⟨(quoteattr x.2).data⟩ : String) = quoteattr x.2 from rfl, readAttValue_quoteattr_eq, hv,
        if_pos (hx y (.head _))]
    rw [attrRaws, List.map_cons, attrsOf, hw.declOf (hns x (.head _))]
    simp only [resolveName_writtenAs hS hA hw, Option.bind_eq_bind, Option.some_bind, hval]
    rw [← attrRaws, attrsOf_written hS hA hr (fun x hx' => hns x (.tail _ hx'))
      (fun y hy => hx y (.tail _ hy))]
    rfl

/-- The pending declarations of a start: true prefixes, for declarable URIs. -/
theorem FreshPending.sorted (hA : FreshPending c₀ S g) :
    ∀ d ∈ sortedItems (g.nsPrefixesFloatingIn.erase none), ∃ ps us,
      d = (some ps, some us) ∧ isValidPrefix (some ps) = true ∧ DeclarableUri us := by
  intro d hd
  rw [sortedItems, List.mem_insertionSort, PyDict.mem_items_iff, PyDict.get?_erase] at hd
  split_ifs at hd
  obtain ⟨ps, us, h₁, h₂, hv, hus, -⟩ := hA.prefixes _ _ hd
  exact ⟨ps, us, Prod.ext h₁ h₂, hv, hus⟩

/-- The pending prefixes of a start are true ones, each with a URI. -/
theorem FreshPending.declared (hA : FreshPending c₀ S g) :
    ∀ p u, g.nsPrefixesFloatingIn.get? p = some u → ∃ ps us, p = some ps ∧ ps ≠ "" ∧ u = some us := by
  intro p u hp
  obtain ⟨ps, us, rfl, rfl, hv, -⟩ := hA.prefixes p u hp
  exact ⟨ps, us, rfl, xmlValidateNameValueStr_ne_empty (isValidPrefix_some.mp hv).2.2.1, rfl⟩

/-- The attribute names of a start: qualified names of name characters, and no declaration. -/
theorem attribNames_written {pp : PyDict Prefix Uri} {attrib : List (String × String)}
    {items : List (Name × String)}
    (hat : List.Forall₂ (fun x y => WrittenAs m pp y.1 x.1 ∧ x.2 = y.2) attrib items)
    (hns : ∀ x ∈ attrib, x.1 ≠ "xmlns") :
    ∀ x ∈ attrib, NameText x.1.data ∧ declOf x.1.data = none ∧ qnameOk x.1.data = true := by
  have := (List.forall₂_and_left (p := fun x : String × String =>
    NameText x.1.data ∧ (x.1 ≠ "xmlns" → declOf x.1.data = none) ∧ qnameOk x.1.data = true) _ _).mp
      (hat.imp fun _ _ h => ⟨⟨h.1.nameText, h.1.declOf, h.1.qnameOk_data⟩, h⟩)
  exact fun x hx' => ⟨(this.1 x hx').1, (this.1 x hx').2.1 (hns x hx'), (this.1 x hx').2.2⟩

/-- The declarations and attributes of a start tag have distinct names: the declarations are of
distinct prefixes, and attributes of distinct expanded names are written with distinct names. -/
theorem tagRaws_nodup (hS : Agree m c₀ S) (hA : FreshPending c₀ S g) {attrib : List (String × String)}
    {items : List (Name × String)}
    (hat : List.Forall₂ (fun x y => WrittenAs m g.nsPrefixesFloatingIn y.1 x.1 ∧ x.2 = y.2) attrib items)
    (hns : ∀ x ∈ attrib, x.1 ≠ "xmlns") (hu : (items.map fun y => expectName y.1).Nodup) :
    ((declRaws g.nsPrefixesFloatingIn ++ attrRaws attrib).map Prod.fst).Nodup := by
  have hdecl : ((declRaws g.nsPrefixesFloatingIn).map Prod.fst).Nodup := by
    refine List.Nodup.of_map declOf ?_
    rw [List.map_map, show declOf ∘ Prod.fst = fun x : RawAttr => declOf x.1 from rfl, declOf_declRaws]
    simpa [Function.comp_def] using (declBindings_nodup _).map (Option.some_injective _)
  -- Attribute names are read as the expanded names given, so distinct ones are distinct.
  have hattr : ((attrRaws attrib).map Prod.fst).Nodup := by
    refine List.Nodup.of_map (resolveName (declBindings g.nsPrefixesFloatingIn :: S) true) ?_
    have heq : ((attrRaws attrib).map Prod.fst).map
        (resolveName (declBindings g.nsPrefixesFloatingIn :: S) true) =
          (items.map fun y => expectName y.1).map some := by
      simp only [attrRaws, List.map_map]
      rw [← List.forall₂_eq_eq_eq]
      exact List.forall₂_map_left_iff.mpr (List.forall₂_map_right_iff.mpr
        (hat.imp fun _ _ h => resolveName_writtenAs hS hA h.1 true))
    rw [heq]
    exact hu.map (Option.some_injective _)
  have hnames := attribNames_written hat hns
  rw [List.map_append]
  refine List.nodup_append.mpr ⟨hdecl, hattr, fun x hd ha => ?_⟩
  obtain ⟨y, hy, rfl⟩ := List.mem_map.mp hd
  obtain ⟨z, hz, hzy⟩ := List.mem_map.mp ha
  obtain ⟨w, hw, rfl⟩ := List.mem_map.mp hz
  have hdy : declOf y.1 ≠ none := by
    have := List.mem_map_of_mem (fun x : RawAttr => declOf x.1) hy
    rw [declOf_declRaws] at this
    obtain ⟨b, -, hb⟩ := List.mem_map.mp this
    exact fun h => Option.some_ne_none b.1 (hb.trans h)
  exact hdy (hzy ▸ (hnames w hw).2.1)

/-- The declarations and attributes of a start tag: names of name characters, and values written by
`quoteattr`. -/
theorem tagRaws_written (hA : FreshPending c₀ S g) {attrib : List (String × String)}
    (hnames : ∀ x ∈ attrib, NameText x.1.data) :
    ∀ x ∈ declRaws g.nsPrefixesFloatingIn ++ attrRaws attrib, NameText x.1 ∧
      ∃ v, x.2 = (quoteattr v).data := by
  intro x hx
  rcases List.mem_append.mp hx with hx | hx
  · obtain ⟨d, hd, rfl⟩ := List.mem_map.mp hx
    obtain ⟨ps, us, rfl, hv, -⟩ := hA.sorted d hd
    refine ⟨?_, _, rfl⟩
    have hK := nameText_of_isValidPrefix hv
    exact (show NameText ("xmlns".data ++ [':']) by simp [NameText]; decide).append hK
  · obtain ⟨y, hy, rfl⟩ := List.mem_map.mp hx
    exact ⟨hnames y hy, _, rfl⟩

/-- The declarations and attributes of a start tag, written, follow its name in the tag. -/
theorem attrText_chunks {xs : List RawAttr} (hx : ∀ x ∈ xs, NameText x.1 ∧ ∃ v, x.2 = (quoteattr v).data) :
    AttrText (xs.flatMap fun x => attrChunk x.1 x.2) := by
  induction xs with
  | nil => exact .nil
  | cons x xs ih =>
    obtain ⟨hn, v, hv⟩ := hx x (.head _)
    rw [List.flatMap_cons]
    refine .append ?_ (ih fun y hy => hx y (.tail _ hy))
    rw [attrChunk, hv, show ' ' :: x.1 ++ '=' :: (quoteattr v).data =
      ' ' :: ((x.1 ++ ['=']) ++ (quoteattr v).data) by simp]
    exact .chunk ((hn.noAngle.append (by decide)).append (noAngle_quoteattr v))
      (getLast_append_quoteattr _ v)

/-- The text of the start tag the writer wrote, up to its end, read in scopes agreeing with the
map the writer had: the bindings of the pending prefixes, and the element with its name and
attributes as they were given, when no two attributes have one expanded name. -/
theorem readStartTag_written (hS : Agree m c₀ S) (hA : FreshPending c₀ S g) {n : Name}
    {a : PyDict Name String} {q : String} {attrib : List (String × String)}
    (hq : WrittenAs m g.nsPrefixesFloatingIn n q)
    (hat : List.Forall₂ (fun x y => WrittenAs m g.nsPrefixesFloatingIn y.1 x.1 ∧ x.2 = y.2) attrib a.items)
    (hns : ∀ x ∈ attrib, x.1 ≠ "xmlns") (hx : ∀ y ∈ a.items, y.2.data.all isXmlChar = true)
    (hu : (a.items.map fun y => expectName y.1).Nodup) :
    readStartTag S (q.data ++ (declRaws g.nsPrefixesFloatingIn ++ attrRaws attrib).flatMap
        fun x => attrChunk x.1 x.2) =
      some (declBindings g.nsPrefixesFloatingIn, expectElement n a) := by
  set pp := g.nsPrefixesFloatingIn
  have hnames := attribNames_written hat hns
  have hraws : ∀ x ∈ declRaws pp ++ attrRaws attrib, '=' ∉ x.1 ∧ Literal x.2 := fun x hx' => by
    obtain ⟨hn, v, hv⟩ := tagRaws_written hA (fun x hx => (hnames x hx).1) x hx'
    exact ⟨hn.eq_not_mem, hv ▸ literal_quoteattr v⟩
  have hbind : bindingsOf (declRaws pp ++ attrRaws attrib) = some (declBindings pp) := by
    let ds := (sortedItems (pp.erase none)).map fun d => ((d.1.getD "").data, d.2.getD "")
    have hdecl : declRaws pp = ds.map fun d => ("xmlns".data ++ ':' :: d.1, (quoteattr d.2).data) := by
      simp [ds, declRaws]
    have hok : ∀ d ∈ ds, d.2.data.all isXmlChar = true ∧ declAllowed (some d.1) d.2.data = true := by
      intro d hd'
      obtain ⟨e, he, rfl⟩ := List.mem_map.mp hd'
      obtain ⟨ps, us, rfl, hv, hus⟩ := hA.sorted e he
      exact ⟨hus.1, declAllowed_of_declarable hv hus⟩
    rw [bindingsOf_append, hdecl, bindingsOf_decls _ hok, bindingsOf_eq_nil fun y hy => ?_]
    · simp [ds, declBindings]
    · obtain ⟨x, hx', rfl⟩ := List.mem_map.mp hy
      exact (hnames x hx').2.1
  have hattrs : attrsOf (declBindings pp :: S) (declRaws pp ++ attrRaws attrib) =
      some (a.items.map fun y => (expectName y.1, y.2.data)) := by
    rw [attrsOf_decls_append _ (fun y hy => ?_) _, attrsOf_written hS hA hat hns hx]
    obtain ⟨d, -, rfl⟩ := List.mem_map.mp hy
    rw [declOf_xmlns]
    exact Option.some_ne_none _
  have htail : (declRaws pp ++ attrRaws attrib).flatMap (fun x => attrChunk x.1 x.2) = [] ∨
      ((declRaws pp ++ attrRaws attrib).flatMap fun x => attrChunk x.1 x.2).head? = some ' ' := by
    cases declRaws pp ++ attrRaws attrib with
    | nil => exact .inl rfl
    | cons x xs => exact .inr (by simp [attrChunk])
  -- The names of the tag are qualified names.
  have hqok : (q.data :: (declRaws pp ++ attrRaws attrib).map Prod.fst).all qnameOk = true := by
    simp only [List.all_cons, hq.qnameOk_data, Bool.true_and, List.all_eq_true, List.mem_map]
    rintro _ ⟨x, hx', rfl⟩
    rcases List.mem_append.mp hx' with hx' | hx'
    · obtain ⟨d, hd, rfl⟩ := List.mem_map.mp hx'
      obtain ⟨ps, us, rfl, hv, -⟩ := hA.sorted d hd
      exact qnameOk_append (by decide) (isNCName_of_isValidPrefix hv)
    · obtain ⟨y, hy, rfl⟩ := List.mem_map.mp hx'
      exact (hnames y hy).2.2
  rw [readStartTag, tagName_append hq.nameText htail, List.drop_left, parseAttrs_chunks hraws]
  simp only [Option.bind_eq_bind, Option.some_bind, hbind, resolveName_writtenAs hS hA hq false, hattrs]
  rw [if_pos ⟨hqok, tagRaws_nodup hS hA hat hns hu, by simpa [Function.comp_def] using hu⟩]
  rfl

end Agree

end XmppXml
