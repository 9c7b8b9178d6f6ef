import XmppXml.Tags
import XmppXml.Generator.Methods

/-!
# Reading names with namespaces

A reader of the tags of a document with XML namespaces, to say what the names the writer writes
mean. `NsScan` reads the characters as `TagScan` does, and at the end of each start tag it reads
the tag: the element's name up to the first blank, then attributes, each a blank, a name, `=` and
a value literal in double quotes or apostrophes (`parseAttrs`). An attribute `xmlns:p` binds the
prefix `p`, and `xmlns` the default namespace, for the element and its content, to its value read
as an attribute value (`readAttValue`). A name `p:l` is in the namespace the innermost binding of
`p` gives, `xml:l` in the XML namespace, and a name with no prefix in the default namespace if it
names an element and in none if it names an attribute. The reader records, in document order, each
element's name and its other attributes with their values; an unbound prefix, a value it cannot
read and a tag it cannot parse are errors.

It refuses, as a reader conforming to the namespaces recommendation does, a start tag

* with a name that is not an `NCName` or two joined by a colon (`qnameOk`, its section 7);
* with two attributes of one name (XML 1.0, Unique Att Spec);
* with a declaration of `xmlns`, of a prefix for the namespace of `xmlns`, of `xml` for another
  namespace or another prefix for the XML namespace, or of a prefix for the empty value
  (`declAllowed`, its section 3);
* with two attributes of one expanded name (its section 6.3).
-/

namespace XmppXml

/-- A name as the reader reports it: its namespace, if any, and its local name. -/
abbrev RName := Option (List Char) × List Char

/-- An element as the reader reports it: its name, and the names and values of its attributes other
than declarations, in the order of the tag. -/
abbrev ReadElement := RName × List (RName × List Char)

/-- The prefixes one start tag binds (`none` for the default namespace), with their URIs. -/
abbrev Bindings := List (Option (List Char) × List Char)

/-- The URI the innermost binding of `p` gives, in the scopes of the open elements, innermost
first. -/
def lookupPrefix (p : Option (List Char)) : List Bindings → Option (List Char)
  | [] => none
  | b :: bs => (lookup p b).or (lookupPrefix p bs)

/-- A qualified name split at its first colon. -/
def splitPrefix : List Char → Option (List Char × List Char)
  | [] => none
  | c :: cs => if c = ':' then some ([], cs) else (splitPrefix cs).map fun x => (c :: x.1, x.2)

/-- The meaning of a qualified name in the scopes of the open elements: of an element name, or of
an attribute name when `attr` holds. -/
def resolveName (scopes : List Bindings) (attr : Bool) (q : List Char) : Option RName :=
  match splitPrefix q with
  | none =>
    if attr then some (none, q)
    else match lookupPrefix none scopes with
      | some (c :: cs) => some (some (c :: cs), q)
      | _ => some (none, q)
  | some (p, l) =>
    if p = "xml".data then some (some xmlNamespace.data, l)
    else (lookupPrefix (some p) scopes).map fun u => (some u, l)

/-- The namespace the prefix `xmlns` is bound to by definition, which no declaration may bind. -/
def xmlnsNamespace : String := "http://www.w3.org/2000/xmlns/"

/-- A local name or a prefix as the namespaces recommendation allows it: an XML name with no
colon. -/
def isNCName (l : List Char) : Bool := xmlValidateNameValue l && decide (':' ∉ l)

/-- A name as the namespaces recommendation allows it (its section 7): an `NCName`, or a prefix and
a local part joined by one colon. -/
def qnameOk (q : List Char) : Bool :=
  match splitPrefix q with
  | none => isNCName q
  | some (p, l) => isNCName p && isNCName l

/-- A declaration the namespaces recommendation allows (its section 3): `xmlns` is never declared
and its namespace never bound; `xml` is bound to the XML namespace alone, and that namespace to
`xml` alone and never as the default; no prefix is declared for the empty value. -/
def declAllowed : Option (List Char) → List Char → Bool
  | none, u => decide (u ≠ xmlNamespace.data) && decide (u ≠ xmlnsNamespace.data)
  | some p, u => decide (p ≠ "xmlns".data) && decide (u ≠ []) && decide (u ≠ xmlnsNamespace.data) &&
      (decide (p = "xml".data) == decide (u = xmlNamespace.data))

/-- The prefix an attribute of this name declares: `xmlns` the default namespace, `xmlns:p` the
prefix `p`. -/
def declOf (name : List Char) : Option (Option (List Char)) :=
  if name = "xmlns".data then some none
  else match splitPrefix name with
    | some (p, l) => if p = "xmlns".data then some (some l) else none
    | none => none

/-! ### The attributes of a start tag -/

/-- An attribute as the reader of a start tag finds it: its name and its value literal, quotes
included. -/
abbrev RawAttr := List Char × List Char

/-- What the reader of the attributes of a start tag expects next: a blank or the end, the rest of
a name (last character first), an opening quote, or the rest of a value in the quotes `q`. -/
inductive AttrScan
  | gap
  | name (n : List Char)
  | eq (n : List Char)
  | value (n : List Char) (q : Char) (v : List Char)
  deriving DecidableEq

/-- One character of the attributes of a start tag. -/
def AttrScan.feed : AttrScan × List RawAttr → Char → Option (AttrScan × List RawAttr)
  | (.gap, attrs), c => if c = ' ' then some (.name [], attrs) else none
  | (.name n, attrs), c => if c = '=' then some (.eq n, attrs) else some (.name (c :: n), attrs)
  | (.eq n, attrs), c => if c = dquote ∨ c = apos then some (.value n c [], attrs) else none
  | (.value n q v, attrs), c =>
    if c = q then some (.gap, attrs ++ [(n.reverse, q :: v.reverse ++ [q])])
    else some (.value n q (c :: v), attrs)

/-- The attributes of a start tag, from the text after its name. -/
def parseAttrs (l : List Char) : Option (List RawAttr) :=
  match l.foldlM AttrScan.feed (.gap, []) with
  | some (.gap, attrs) => some attrs
  | _ => none

/-- The binding a declaration of `p` with the value literal `v` makes, if it is allowed. -/
def bindingOf (p : Option (List Char)) (v : List Char) : Option (Option (List Char) × List Char) := do
  let u ← readAttValue ⟨v⟩
  if declAllowed p u.data then some (p, u.data) else none

/-- The bindings the declarations among the attributes make. -/
def bindingsOf : List RawAttr → Option Bindings
  | [] => some []
  | (n, v) :: attrs =>
    match declOf n with
    | some p => do
      let x ← bindingOf p v
      let b ← bindingsOf attrs
      some (x :: b)
    | none => bindingsOf attrs

/-- The attributes other than declarations, with their names resolved and their values read. -/
def attrsOf (scopes : List Bindings) : List RawAttr → Option (List (RName × List Char))
  | [] => some []
  | (n, v) :: attrs =>
    match declOf n with
    | some _ => attrsOf scopes attrs
    | none => do
      let r ← resolveName scopes true n
      let u ← readAttValue ⟨v⟩
      let rest ← attrsOf scopes attrs
      some ((r, u.data) :: rest)

/-- The text of a start tag read in the scopes of the elements around it: its bindings, and the
element with its attributes, named in the scopes the tag's own bindings extend. Its names are
qualified names, and no two of its attributes have one name or one expanded name. -/
def readStartTag (scopes : List Bindings) (text : List Char) : Option (Bindings × ReadElement) := do
  let attrs ← parseAttrs (text.drop (tagName text).length)
  let b ← bindingsOf attrs
  let n ← resolveName (b :: scopes) false (tagName text)
  let as ← attrsOf (b :: scopes) attrs
  if (tagName text :: attrs.map Prod.fst).all qnameOk = true ∧ (attrs.map Prod.fst).Nodup ∧
      (as.map Prod.fst).Nodup then some (b, (n, as)) else none

/-! ### The reader -/

/-- What the reader has seen: the tag structure, the bindings of the open elements, innermost
first, and the elements read so far, in document order. -/
structure NsScan where
  tags : TagScan
  scopes : List Bindings
  read : List ReadElement
  deriving DecidableEq

/-- The end of the tag whose text is `text`: an end tag leaves the bindings of its element; a start
tag is read, and its bindings are in scope until its end tag, unless it ends with `/`. -/
def NsScan.closeTag (s : NsScan) (tags : TagScan) (text : List Char) : Option NsScan :=
  if text.head? = some '/' then
    match s.scopes with
    | _ :: rest => some ⟨tags, rest, s.read⟩
    | [] => none
  else if text.getLast? = some '/' then
    (readStartTag s.scopes text.dropLast).map fun r => ⟨tags, s.scopes, s.read ++ [r.2]⟩
  else (readStartTag s.scopes text).map fun r => ⟨tags, r.1 :: s.scopes, s.read ++ [r.2]⟩

/-- One character: read as `TagScan` reads it, and at the `>` that ends a tag, the tag. -/
def NsScan.feed (s : NsScan) (c : Char) : Option NsScan :=
  (s.tags.feed c).bind fun tags =>
    match s.tags.tag with
    | some t => if c = '>' then s.closeTag tags t.reverse else some { s with tags }
    | none => some { s with tags }

/-- The reader over a text. -/
def nsScan (s : NsScan) (l : List Char) : Option NsScan := l.foldlM NsScan.feed s

set_option maxRecDepth 4000 in
example : nsScan ⟨⟨[], none⟩, [], []⟩
    "<a:x xmlns:a=\"urn:1\" a:y='v' z=\"w\"><b/></a:x>".data =
      some ⟨⟨[], none⟩, [], [((some "urn:1".data, "x".data),
        [((some "urn:1".data, "y".data), "v".data), ((none, "z".data), "w".data)]),
        ((none, "b".data), [])]⟩ := by decide

example : nsScan ⟨⟨[], none⟩, [], []⟩ "<a:x><b/></a:x>".data = none := by decide

example : nsScan ⟨⟨[], none⟩, [], []⟩ "<x y=\"1\" y=\"2\"/>".data = none := by decide

example : nsScan ⟨⟨[], none⟩, [], []⟩
    "<x xmlns:a=\"urn:1\" xmlns:b=\"urn:1\" a:y=\"1\" b:y=\"2\"/>".data = none := by decide

example : nsScan ⟨⟨[], none⟩, [], []⟩ "<x xmlns:p=\"\"/>".data = none := by decide

set_option maxRecDepth 4000 in
example : nsScan ⟨⟨[], none⟩, [], []⟩
    "<x xmlns:q=\"http://www.w3.org/XML/1998/namespace\"/>".data = none := by decide

/-! ### The reader over text -/

theorem nsScan_append (s : NsScan) (l₁ l₂ : List Char) :
    nsScan s (l₁ ++ l₂) = (nsScan s l₁).bind fun s' => nsScan s' l₂ := List.foldlM_append _ _ _ _

theorem nsScan_cons (s : NsScan) (c : Char) (l : List Char) :
    nsScan s (c :: l) = (s.feed c).bind fun s' => nsScan s' l := rfl

theorem nsScan_singleton (s : NsScan) (c : Char) : nsScan s [c] = s.feed c := by
  rw [nsScan_cons]; exact Option.bind_some _

/-- The reader with namespaces reads the tag structure as `TagScan` does. -/
theorem NsScan.feed_tags {s s' : NsScan} {c : Char} (h : s.feed c = some s') : s.tags.feed c = some s'.tags := by
  obtain ⟨tags, htags, h⟩ := Option.bind_eq_some.mp h
  rw [htags]
  split at h
  · split_ifs at h
    · unfold NsScan.closeTag at h
      split_ifs at h
      · split at h <;> cases h; rfl
      · obtain ⟨r, -, rfl⟩ := Option.map_eq_some'.mp h; rfl
      · obtain ⟨r, -, rfl⟩ := Option.map_eq_some'.mp h; rfl
    · cases h; rfl
  · cases h; rfl

theorem nsScan_tags {s s' : NsScan} {l : List Char} (h : nsScan s l = some s') : scan s.tags l = some s'.tags := by
  induction l generalizing s with
  | nil => cases h; rfl
  | cons c l ih =>
    rw [nsScan_cons] at h
    obtain ⟨s₁, h₁, h⟩ := Option.bind_eq_some.mp h
    rw [scan_cons, NsScan.feed_tags h₁, Option.some_bind]
    exact ih h

/-- A character that ends no tag is read as `TagScan` reads it. -/
theorem NsScan.feed_of_ne {s : NsScan} {c : Char} (hc : c ≠ '>') :
    s.feed c = (s.tags.feed c).map fun tags => { s with tags } := by
  obtain ⟨⟨st, _ | t⟩, sc, r⟩ := s <;> simp only [NsScan.feed, hc, if_false] <;>
    cases TagScan.feed _ c <;> rfl

/-- Text with no `>` is read as `TagScan` reads it. -/
theorem nsScan_of_not_gt {s : NsScan} {l : List Char} (hl : '>' ∉ l) :
    nsScan s l = (scan s.tags l).map fun tags => { s with tags } := by
  induction l generalizing s with
  | nil => rfl
  | cons c l ih =>
    rw [List.mem_cons, not_or] at hl
    rw [nsScan_cons, scan_cons, NsScan.feed_of_ne (Ne.symm hl.1)]
    cases s.tags.feed c with
    | none => rfl
    | some t => exact ih hl.2

/-- `>` after a start tag reads it and opens its element in the scope of its bindings. -/
theorem nsScan_startTag {s : NsScan} {st : List (List Char)} {t : List Char} {b : Bindings}
    {e : ReadElement} (hs : s.tags = ⟨st, some t⟩) (ht : OpenTag t)
    (hr : readStartTag s.scopes t.reverse = some (b, e)) :
    nsScan s ['>'] = some ⟨⟨tagName t.reverse :: st, none⟩, b :: s.scopes, s.read ++ [e]⟩ := by
  obtain ⟨tags, sc, r⟩ := s
  subst hs
  rw [nsScan_singleton]
  simp only [NsScan.feed, feed_startTag ht, Option.some_bind, if_true, NsScan.closeTag,
    List.head?_reverse, List.getLast?_reverse, ht.first, ht.last, if_false, hr, Option.map_some']

/-- `/>` after a start tag reads it, and the element it opens is closed at once. -/
theorem nsScan_emptyTag {s : NsScan} {st : List (List Char)} {t : List Char} {b : Bindings}
    {e : ReadElement} (hs : s.tags = ⟨st, some t⟩) (ht : OpenTag t)
    (hr : readStartTag s.scopes t.reverse = some (b, e)) :
    nsScan s ['/', '>'] = some ⟨⟨st, none⟩, s.scopes, s.read ++ [e]⟩ := by
  obtain ⟨tags, sc, r⟩ := s
  subst hs
  have hl : (t.reverse ++ ['/']).head? ≠ some '/' := by
    rw [List.head?_append, List.head?_reverse]
    obtain ⟨c, t', rfl⟩ := List.exists_cons_of_ne_nil ht.ne_nil
    simpa using ht.first
  rw [nsScan_cons, NsScan.feed_of_ne (by decide), feed_inTag (by decide) (by decide),
    Option.map_some', Option.some_bind, nsScan_singleton]
  simp only [NsScan.feed, feed_close (by rwa [List.reverse_cons]), List.head?_cons, if_true,
    Option.some_bind, NsScan.closeTag, List.reverse_cons, hl, if_false, List.getLast?_concat,
    List.dropLast_concat, hr, Option.map_some']

/-- An end tag naming the innermost open element closes it, and its bindings go out of scope. -/
theorem nsScan_endTag {s : NsScan} {x : List Char} {st : List (List Char)} {b : Bindings}
    {rest : List Bindings} (hs : s.tags = ⟨x :: st, none⟩) (hx : NoAngle x)
    (hsc : s.scopes = b :: rest) :
    nsScan s ('<' :: '/' :: x ++ ['>']) = some ⟨⟨st, none⟩, rest, s.read⟩ := by
  obtain ⟨tags, sc, r⟩ := s
  subst hs hsc
  have hgt : '>' ∉ '<' :: '/' :: x := by
    simp only [List.mem_cons, not_or]
    exact ⟨by decide, by decide, fun h => (hx _ h).2 rfl⟩
  rw [nsScan_append, nsScan_of_not_gt hgt, scan_cons, feed_open, Option.some_bind, scan_cons,
    feed_inTag (by decide) (by decide), Option.some_bind, scan_inTag hx, Option.map_some',
    Option.some_bind, nsScan_singleton]
  simp [NsScan.feed, TagScan.feed, NsScan.closeTag]

/-! ### Reading attributes -/

/-- One attribute of a start tag: a blank, the name, `=` and the value literal. -/
def attrChunk (name lit : List Char) : List Char := ' ' :: name ++ '=' :: lit

/-- A value literal: a value in double quotes or apostrophes that holds no such quote. -/
def Literal (lit : List Char) : Prop :=
  ∃ q body, (q = dquote ∨ q = apos) ∧ q ∉ body ∧ lit = q :: body ++ [q]

theorem literal_quoteattr (s : String) : Literal (quoteattr s).data := by
  unfold quoteattr; dsimp only
  split_ifs with h₁ h₂
  · refine ⟨dquote, _, .inl rfl, fun h => ?_, rfl⟩
    obtain ⟨c, -, hc⟩ := List.mem_flatMap.mp h
    split_ifs at hc with hq
    · exact absurd hc (by decide)
    · exact hq (List.mem_singleton.mp hc).symm
  · exact ⟨apos, _, .inr rfl, h₂, rfl⟩
  · exact ⟨dquote, _, .inl rfl, h₁, rfl⟩

theorem foldlM_feed_name {n acc : List Char} (hn : '=' ∉ n) (attrs : List RawAttr) :
    n.foldlM AttrScan.feed (.name acc, attrs) = some (.name (n.reverse ++ acc), attrs) := by
  induction n generalizing acc with
  | nil => rfl
  | cons c n ih =>
    rw [List.mem_cons, not_or] at hn
    simp only [List.foldlM_cons, AttrScan.feed, Ne.symm hn.1, if_false, Option.bind_eq_bind,
      Option.some_bind]
    rw [ih hn.2]
    simp

theorem foldlM_feed_value {n v body : List Char} {q : Char} (hb : q ∉ body) (attrs : List RawAttr) :
    body.foldlM AttrScan.feed (.value n q v, attrs) = some (.value n q (body.reverse ++ v), attrs) := by
  induction body generalizing v with
  | nil => rfl
  | cons c body ih =>
    rw [List.mem_cons, not_or] at hb
    simp only [List.foldlM_cons, AttrScan.feed, Ne.symm hb.1, if_false, Option.bind_eq_bind,
      Option.some_bind]
    rw [ih hb.2]
    simp

/-- An attribute is read as its name and its literal. -/
theorem foldlM_feed_attrChunk {n lit : List Char} (hn : '=' ∉ n) (hl : Literal lit)
    (attrs : List RawAttr) :
    (attrChunk n lit).foldlM AttrScan.feed (.gap, attrs) = some (.gap, attrs ++ [(n, lit)]) := by
  obtain ⟨q, body, hq, hb, rfl⟩ := hl
  have hq' : q = dquote ∨ q = apos := hq
  simp only [attrChunk, List.foldlM_cons, AttrScan.feed, if_true, Option.bind_eq_bind,
    Option.some_bind, List.foldlM_append, foldlM_feed_name hn, List.append_nil, hq',
    foldlM_feed_value hb]
  simp

/-- Attributes are read as their names and literals, in order. -/
theorem parseAttrs_chunks {xs : List RawAttr} (hx : ∀ x ∈ xs, '=' ∉ x.1 ∧ Literal x.2) :
    parseAttrs (xs.flatMap fun x => attrChunk x.1 x.2) = some xs := by
  suffices h : ∀ attrs, (xs.flatMap fun x => attrChunk x.1 x.2).foldlM AttrScan.feed (.gap, attrs) =
      some (.gap, attrs ++ xs) by
    simp [parseAttrs, h]
  induction xs with
  | nil => simp
  | cons x xs ih =>
    intro attrs
    rw [List.flatMap_cons, List.foldlM_append, foldlM_feed_attrChunk (hx x (.head _)).1
      (hx x (.head _)).2, Option.bind_eq_bind, Option.some_bind, ih fun y hy => hx y (.tail _ hy)]
    simp

/-! ### Names -/

theorem splitPrefix_append {p : List Char} (hp : ':' ∉ p) (l : List Char) :
    splitPrefix (p ++ ':' :: l) = some (p, l) := by
  induction p with
  | nil => simp [splitPrefix]
  | cons c p ih =>
    rw [List.mem_cons, not_or] at hp
    simp [splitPrefix, Ne.symm hp.1, ih hp.2]

theorem splitPrefix_eq_none {l : List Char} (hl : ':' ∉ l) : splitPrefix l = none := by
  induction l with
  | nil => rfl
  | cons c l ih =>
    rw [List.mem_cons, not_or] at hl
    simp [splitPrefix, Ne.symm hl.1, ih hl.2]

theorem isNCName_of_valid {s : String} (h : xmlValidateNameValueStr s = true) (hc : ':' ∉ s.data) :
    isNCName s.data = true := by
  simp only [xmlValidateNameValueStr, xmlValidateNameValueBuf] at h
  split_ifs at h
  simp [isNCName, h, hc]

theorem qnameOk_of_isNCName {l : List Char} (h : isNCName l = true) : qnameOk l = true := by
  have hc : ':' ∉ l := by simp_all [isNCName]
  simp only [qnameOk, splitPrefix_eq_none hc, h]

theorem qnameOk_append {p l : List Char} (hp : isNCName p = true) (hl : isNCName l = true) :
    qnameOk (p ++ ':' :: l) = true := by
  have hc : ':' ∉ p := by simp_all [isNCName]
  simp [qnameOk, splitPrefix_append hc, hp, hl]

/-- A namespace a prefix other than `xml` may be declared for: made of XML characters, not empty,
and neither the XML namespace nor the namespace of `xmlns`. -/
def DeclarableUri (us : String) : Prop :=
  us.data.all isXmlChar = true ∧ us ≠ "" ∧ us ≠ xmlNamespace ∧ us ≠ xmlnsNamespace

instance (us : String) : Decidable (DeclarableUri us) := inferInstanceAs (Decidable (_ ∧ _ ∧ _ ∧ _))

/-- A prefix `startPrefixMapping` accepts may be declared for a declarable namespace. -/
theorem declAllowed_of_declarable {ps us : String} (hv : isValidPrefix (some ps) = true)
    (hu : DeclarableUri us) : declAllowed (some ps.data) us.data = true := by
  have hne : ∀ {a b : String}, a ≠ b → a.data ≠ b.data := fun h e => h (String.ext e)
  obtain ⟨-, h₁, h₂, h₃⟩ := hu
  simp only [isValidPrefix, Bool.not_eq_true', Bool.or_eq_false_iff, decide_eq_false_iff_not] at hv
  simp [declAllowed, hne hv.1.1.1, hne hv.1.1.2, hne h₂, hne h₃, hne h₁]

/-- `xmlns:p` declares `p`. -/
theorem declOf_xmlns (p : List Char) : declOf ("xmlns".data ++ ':' :: p) = some (some p) := by
  rw [declOf, if_neg (by simp), splitPrefix_append (by decide)]
  rfl

/-- A name with no colon other than `xmlns` declares nothing. -/
theorem declOf_unprefixed {n : List Char} (hc : ':' ∉ n) (hx : n ≠ "xmlns".data) : declOf n = none := by
  rw [declOf, if_neg hx, splitPrefix_eq_none hc]

/-- A name with a prefix other than `xmlns` declares nothing. -/
theorem declOf_prefixed {p : List Char} (hc : ':' ∉ p) (hx : p ≠ "xmlns".data) (l : List Char) :
    declOf (p ++ ':' :: l) = none := by
  have hn : p ++ ':' :: l ≠ "xmlns".data := fun h =>
    absurd (h ▸ List.mem_append_right p (.head l) : ':' ∈ "xmlns".data) (by decide)
  simp [declOf, hn, splitPrefix_append hc, hx]

theorem bindingsOf_append (xs ys : List RawAttr) :
    bindingsOf (xs ++ ys) = (bindingsOf xs).bind fun b => (bindingsOf ys).map (b ++ ·) := by
  induction xs with
  | nil => simp [bindingsOf]
  | cons x xs ih =>
    obtain ⟨n, v⟩ := x
    rcases hd : declOf n with _ | p <;> simp only [List.cons_append, bindingsOf, hd, List.append_eq, ih]
    cases bindingOf p v <;> cases bindingsOf xs <;> cases bindingsOf ys <;> rfl

/-- Attributes none of which is a declaration bind nothing. -/
theorem bindingsOf_eq_nil {ys : List RawAttr} (h : ∀ y ∈ ys, declOf y.1 = none) :
    bindingsOf ys = some [] := by
  induction ys with
  | nil => rfl
  | cons y ys ih =>
    obtain ⟨n, v⟩ := y
    simp only [bindingsOf, h _ (.head _)]
    exact ih fun y hy => h y (.tail _ hy)

/-- Allowed declarations `xmlns:p` of values written by `quoteattr` bind each `p` to its value. -/
theorem bindingsOf_decls (ds : List (List Char × String))
    (hd : ∀ d ∈ ds, d.2.data.all isXmlChar = true ∧ declAllowed (some d.1) d.2.data = true) :
    bindingsOf (ds.map fun d => ("xmlns".data ++ ':' :: d.1, (quoteattr d.2).data)) =
      some (ds.map fun d => (some d.1, d.2.data)) := by
  induction ds with
  | nil => rfl
  | cons d ds ih =>
    rw [List.map_cons, bindingsOf, declOf_xmlns]
    simp only [bindingOf, show (⟨(quoteattr d.2).data⟩ : String) = quoteattr d.2 from rfl,
      readAttValue_quoteattr_eq, (hd d (.head _)).1, (hd d (.head _)).2, if_true, Option.bind_eq_bind,
      Option.some_bind, ih fun d hd' => hd d (.tail _ hd'), List.map_cons]

/-- Declarations are not attributes. -/
theorem attrsOf_decls_append (scopes : List Bindings) {xs : List RawAttr}
    (h : ∀ x ∈ xs, declOf x.1 ≠ none) (ys : List RawAttr) :
    attrsOf scopes (xs ++ ys) = attrsOf scopes ys := by
  induction xs with
  | nil => rfl
  | cons x xs ih =>
    obtain ⟨n, v⟩ := x
    obtain ⟨p, hp⟩ := Option.ne_none_iff_exists'.mp (h _ (.head _))
    simp only [List.cons_append, attrsOf, hp]
    exact ih fun x hx => h x (.tail _ hx)

end XmppXml
