import XmppXml.Reader

/-!
# The tag structure of markup

An abstract reader of markup, to say what the writer's output is for. `TagScan.feed` reads one
character. Outside a tag, `<` opens one. Inside a tag, `>` closes it: as an end tag when its text
begins with `/`, which must name the innermost open element; as an empty-element tag when it ends
with `/`; and else as a start tag, which opens the element named by its text up to the first blank.
`scan` reads a text, and fails at a `<` inside a tag and at an end tag that names another element.

The lemmas here are about text alone:

* XML name characters, escaped text and quoted values hold no `<` or `>` (`isNameChar_not_markup`,
  `lt_not_mem_escape`, `quoteattr_angle`);
* `AttrText` is the text of the declarations and attributes of a start tag, after its name;
* `scan` reads a start tag, an empty-element tag and an end tag as they should be read
  (`feed_startTag`, `scan_emptyTag`, `scan_endTag`), and a start tag written as a name and
  `AttrText` opens the element of that name (`openTag_startTag`, `tagName_append`).
-/

namespace XmppXml

/-! ### The characters of names -/

/-- A text made of XML name characters. -/
def NameText (l : List Char) : Prop := ∀ c ∈ l, isNameChar c = true

theorem NameText.append {l₁ l₂ : List Char} (h₁ : NameText l₁) (h₂ : NameText l₂) :
    NameText (l₁ ++ l₂) := by
  intro c hc
  rcases List.mem_append.mp hc with hc | hc
  exacts [h₁ c hc, h₂ c hc]

/-- No name character is markup: a blank, `<`, `>` or `/`. -/
theorem isNameChar_not_markup {c : Char} (h : isNameChar c = true) :
    c ≠ ' ' ∧ c ≠ '<' ∧ c ≠ '>' ∧ c ≠ '/' := by
  refine ⟨?_, ?_, ?_, ?_⟩ <;> rintro rfl <;> revert h <;> decide

theorem nameText_of_validate {s : String} (h : xmlValidateNameValueStr s = true) :
    NameText s.data := by
  unfold xmlValidateNameValueStr xmlValidateNameValueBuf at h
  split_ifs at h
  cases hs : s.data with
  | nil => simp [hs, xmlValidateNameValue] at h
  | cons c l =>
    simp only [hs, xmlValidateNameValue, Bool.and_eq_true, List.all_eq_true] at h
    intro x hx
    rcases List.mem_cons.mp hx with rfl | hx
    · simp [isNameChar, h.1]
    · exact h.2 x hx

/-! ### Text with no `<` or `>` -/

/-- Text with no `<` or `>`. -/
def NoAngle (l : List Char) : Prop := ∀ c ∈ l, c ≠ '<' ∧ c ≠ '>'

instance (l : List Char) : Decidable (NoAngle l) :=
  inferInstanceAs (Decidable (∀ c ∈ l, c ≠ '<' ∧ c ≠ '>'))

theorem NoAngle.append {l₁ l₂ : List Char} (h₁ : NoAngle l₁) (h₂ : NoAngle l₂) :
    NoAngle (l₁ ++ l₂) := fun c hc => (List.mem_append.mp hc).elim (h₁ c) (h₂ c)

theorem NameText.noAngle {l : List Char} (h : NameText l) : NoAngle l := fun c hc =>
  ⟨(isNameChar_not_markup (h c hc)).2.1, (isNameChar_not_markup (h c hc)).2.2.1⟩

theorem lt_not_mem_escapeChar (c : Char) : '<' ∉ escapeChar c := by
  unfold escapeChar; split_ifs <;> first | decide | simpa [eq_comm] using ‹¬c = '<'›

theorem lt_not_mem_quoteattrChar (c : Char) : '<' ∉ quoteattrChar c := by
  unfold quoteattrChar; split_ifs <;> first | decide | exact lt_not_mem_escapeChar c

/-- Text that `characters` writes opens no tag. -/
theorem lt_not_mem_escape (s : String) : '<' ∉ (escape s).data := by
  simp [escape, List.mem_flatMap, lt_not_mem_escapeChar]

/-- A quoted value holds no `<` or `>`, and ends with its quote. -/
theorem quoteattr_angle (s : String) : ∀ c ∈ (quoteattr s).data, c ≠ '<' ∧ c ≠ '>' := by
  have hd : ∀ c ∈ s.data.flatMap quoteattrChar, c ≠ '<' ∧ c ≠ '>' := by
    intro c hc
    obtain ⟨x, -, hx⟩ := List.mem_flatMap.mp hc
    exact ⟨fun h => lt_not_mem_quoteattrChar x (h ▸ hx), fun h => gt_not_mem_quoteattrChar x (h ▸ hx)⟩
  have hquoted : ∀ (q : Char) (d : List Char), q ≠ '<' ∧ q ≠ '>' → (∀ c ∈ d, c ≠ '<' ∧ c ≠ '>') →
      ∀ c ∈ q :: d ++ [q], c ≠ '<' ∧ c ≠ '>' := by
    intro q d hq hd c hc
    rcases List.mem_append.mp hc with hc | hc
    · rcases List.mem_cons.mp hc with rfl | hc
      exacts [hq, hd c hc]
    · rw [List.mem_singleton.mp hc]; exact hq
  unfold quoteattr
  dsimp only
  split_ifs
  · refine hquoted _ _ (by decide) fun c hc => ?_
    obtain ⟨x, hx, hc⟩ := List.mem_flatMap.mp hc
    split_ifs at hc
    · exact (by decide : ∀ c ∈ ['&', 'q', 'u', 'o', 't', ';'], c ≠ '<' ∧ c ≠ '>') c hc
    · rw [List.mem_singleton.mp hc]; exact hd x hx
  · exact hquoted _ _ (by decide) hd
  · exact hquoted _ _ (by decide) hd

theorem noAngle_quoteattr (s : String) : NoAngle (quoteattr s).data := quoteattr_angle s

theorem quoteattr_getLast (s : String) : (quoteattr s).data.getLast? ≠ some '/' := by
  have hquoted : ∀ (q : Char) (d : List Char), q ≠ '/' → (q :: d ++ [q]).getLast? ≠ some '/' := by
    intro q d hq
    rw [List.getLast?_append, List.getLast?_singleton, Option.or_some]
    simpa using hq
  unfold quoteattr
  dsimp only
  split_ifs <;> exact hquoted _ _ (by decide)

/-! ### The text of a start tag after its name -/

/-- The text a start tag has after its name: declarations and attributes, each a blank, a name,
`=` and a quoted value. It holds no `<` or `>`, starts with a blank and does not end with `/`. -/
structure AttrText (l : List Char) : Prop where
  noAngle : NoAngle l
  blank : l = [] ∨ l.head? = some ' '
  last : l.getLast? ≠ some '/'

theorem AttrText.nil : AttrText [] := ⟨by simp [NoAngle], .inl rfl, by simp⟩

theorem AttrText.append {l₁ l₂ : List Char} (h₁ : AttrText l₁) (h₂ : AttrText l₂) :
    AttrText (l₁ ++ l₂) where
  noAngle := h₁.noAngle.append h₂.noAngle
  blank := by
    cases l₁ with
    | nil => simpa using h₂.blank
    | cons c l => exact .inr (by simpa using h₁.blank)
  last := by
    rw [List.getLast?_append]
    cases h : l₂.getLast? with
    | none => simpa using h₁.last
    | some c => simpa [h] using h₂.last

/-- One declaration or attribute: a blank, then text with no `<` or `>` that does not end with
`/`. -/
theorem AttrText.chunk {x : List Char} (hx : NoAngle x) (hl : x.getLast? ≠ some '/') :
    AttrText (' ' :: x) where
  noAngle c hc := by
    rcases List.mem_cons.mp hc with rfl | hc
    · decide
    · exact hx c hc
  blank := .inr rfl
  last := by
    cases x with
    | nil => decide
    | cons c x => simpa using hl

/-- A quoted value ends the text it is appended to. -/
theorem getLast_append_quoteattr (l : List Char) (s : String) :
    (l ++ (quoteattr s).data).getLast? ≠ some '/' := by
  rw [List.getLast?_append]
  cases h : (quoteattr s).data.getLast? with
  | none => simp [quoteattr] at h; split_ifs at h
  | some c => simpa [h] using quoteattr_getLast s

/-! ### A reader of the markup -/

/-- What a reader of the markup of a document has seen: the names of the elements open, innermost
first, and, inside a tag, the text of the tag so far, last character first. -/
structure TagScan where
  stack : List (List Char)
  tag : Option (List Char)
  deriving DecidableEq

/-- The name of a tag: its text up to the first blank. -/
def tagName (t : List Char) : List Char := t.takeWhile (· ≠ ' ')

/-- The reader after one more character, or `none` where the document is not well nested: a `<`
inside a tag, or an end tag that does not name the innermost open element. A tag `<…/>` opens
and closes an element; `>` outside a tag is text. -/
def TagScan.feed (s : TagScan) (c : Char) : Option TagScan :=
  match s.tag with
  | none => if c = '<' then some ⟨s.stack, some []⟩ else some s
  | some t =>
    if c = '<' then none
    else if c = '>' then
      match t.reverse with
      | '/' :: name =>
        match s.stack with
        | top :: rest => if top = name then some ⟨rest, none⟩ else none
        | [] => none
      | text =>
        if t.head? = some '/' then some ⟨s.stack, none⟩ else some ⟨tagName text :: s.stack, none⟩
    else some ⟨s.stack, some (c :: t)⟩

/-- The reader run over a text. -/
def scan (s : TagScan) (l : List Char) : Option TagScan := l.foldlM TagScan.feed s

example : scan ⟨[], none⟩ "<a x=\"1\"><b/>t&gt;</a>".data = some ⟨[], none⟩ := by decide

example : scan ⟨[], none⟩ "<p:y xmlns:q=\"urn:a\">t</q:y>".data = none := by decide

theorem scan_append (s : TagScan) (l₁ l₂ : List Char) :
    scan s (l₁ ++ l₂) = (scan s l₁).bind fun s' => scan s' l₂ := List.foldlM_append _ _ _ _

theorem scan_cons (s : TagScan) (c : Char) (l : List Char) :
    scan s (c :: l) = (s.feed c).bind fun s' => scan s' l := rfl

theorem feed_open (st : List (List Char)) : TagScan.feed ⟨st, none⟩ '<' = some ⟨st, some []⟩ := rfl

theorem feed_text {st : List (List Char)} {c : Char} (h : c ≠ '<') :
    TagScan.feed ⟨st, none⟩ c = some ⟨st, none⟩ := by
  simp [TagScan.feed, h]

theorem feed_inTag {st : List (List Char)} {t : List Char} {c : Char} (h₁ : c ≠ '<') (h₂ : c ≠ '>') :
    TagScan.feed ⟨st, some t⟩ c = some ⟨st, some (c :: t)⟩ := by
  simp [TagScan.feed, h₁, h₂]

/-- Text without `<` leaves the reader outside every tag. -/
theorem scan_text {st : List (List Char)} {l : List Char} (hl : '<' ∉ l) :
    scan ⟨st, none⟩ l = some ⟨st, none⟩ := by
  induction l with
  | nil => rfl
  | cons c l ih =>
    rw [List.mem_cons, not_or] at hl
    rw [scan_cons, feed_text (Ne.symm hl.1), Option.some_bind, ih hl.2]

/-- Inside a tag, text without `<` or `>` is the tag's. -/
theorem scan_inTag {st : List (List Char)} {t l : List Char} (hl : NoAngle l) :
    scan ⟨st, some t⟩ l = some ⟨st, some (l.reverse ++ t)⟩ := by
  induction l generalizing t with
  | nil => rfl
  | cons c l ih =>
    rw [scan_cons, feed_inTag (hl c (.head _)).1 (hl c (.head _)).2, Option.some_bind,
      ih fun c' hc' => hl c' (.tail _ hc')]
    simp

/-- The text of a start tag read so far, last character first: no `<` or `>`, not empty, and
neither beginning nor ending with `/`. -/
structure OpenTag (t : List Char) : Prop where
  noAngle : NoAngle t
  ne_nil : t ≠ []
  first : t.getLast? ≠ some '/'
  last : t.head? ≠ some '/'

/-- `>` after the text `t` of a tag that does not begin with `/`: a start tag opens its element,
and a tag ending with `/` opens and closes one. -/
theorem feed_close {st : List (List Char)} {t : List Char} (hr : t.reverse.head? ≠ some '/') :
    TagScan.feed ⟨st, some t⟩ '>' =
      if t.head? = some '/' then some ⟨st, none⟩ else some ⟨tagName t.reverse :: st, none⟩ := by
  simp only [TagScan.feed, show ('>' : Char) ≠ '<' by decide, if_false, if_true]
  split
  · rename_i h; simp [h] at hr
  · rfl

/-- `>` after a start tag opens its element. -/
theorem feed_startTag {st : List (List Char)} {t : List Char} (ht : OpenTag t) :
    TagScan.feed ⟨st, some t⟩ '>' = some ⟨tagName t.reverse :: st, none⟩ := by
  rw [feed_close (by rw [List.head?_reverse]; exact ht.first), if_neg ht.last]

/-- `/>` ends a start tag and closes its element at once. -/
theorem scan_emptyTag {st : List (List Char)} {t : List Char} (ht : OpenTag t) :
    scan ⟨st, some t⟩ ['/', '>'] = some ⟨st, none⟩ := by
  have hr : ('/' :: t).reverse.head? ≠ some '/' := by
    rw [List.reverse_cons, List.head?_append, List.head?_reverse]
    cases h : t.getLast? with
    | none => exact absurd (List.getLast?_eq_none_iff.mp h) ht.ne_nil
    | some c => simpa [h] using ht.first
  rw [scan_cons, feed_inTag (by decide) (by decide), Option.some_bind, scan_cons, feed_close hr]
  rfl

/-- An end tag naming the innermost open element closes it. -/
theorem scan_endTag {st : List (List Char)} {x : List Char} (hx : NoAngle x) :
    scan ⟨x :: st, none⟩ ('<' :: '/' :: x ++ ['>']) = some ⟨st, none⟩ := by
  rw [scan_append, scan_cons, feed_open, Option.some_bind, scan_cons,
    feed_inTag (by decide) (by decide), Option.some_bind, scan_inTag hx]
  simp [scan, TagScan.feed]

/-- The elements the reader counts as open once the tag it is in is closed as a start tag. -/
def TagScan.names (s : TagScan) : List (List Char) :=
  match s.tag with
  | none => s.stack
  | some t => tagName t.reverse :: s.stack

/-- The name of a start tag is the name it was written with. -/
theorem tagName_append {q tail : List Char} (hq : NameText q) (ht : tail = [] ∨ tail.head? = some ' ') :
    tagName (q ++ tail) = q := by
  induction q with
  | nil =>
    rcases ht with rfl | ht
    · rfl
    · rcases tail with _ | ⟨c, tail⟩
      · rfl
      · obtain rfl : c = ' ' := by simpa using ht
        simp [tagName]
  | cons c q ih =>
    have hc := (isNameChar_not_markup (hq c (.head _))).1
    simp only [tagName, List.cons_append, List.takeWhile_cons, ne_eq, hc, not_false_eq_true,
      decide_True, ↓reduceIte, List.cons.injEq, true_and]
    exact ih fun c' hc' => hq c' (.tail _ hc')

/-- The text of a start tag, a name and declarations and attributes, is an open start tag. -/
theorem openTag_startTag {q tail : List Char} (hq : NameText q) (hq0 : q ≠ []) (ht : AttrText tail) :
    OpenTag (q ++ tail).reverse where
  noAngle c hc := (hq.noAngle.append ht.noAngle) c (List.mem_reverse.mp hc)
  ne_nil := by simp [hq0]
  first := by
    rw [List.getLast?_reverse]
    obtain ⟨c, q, rfl⟩ := List.exists_cons_of_ne_nil hq0
    simpa using (isNameChar_not_markup (hq c (.head _))).2.2.2
  last := by
    rw [List.head?_reverse, List.getLast?_append]
    cases h : tail.getLast? with
    | some c => simpa [h] using ht.last
    | none =>
      rw [Option.none_or]
      cases hq' : q.getLast? with
      | none => exact absurd (List.getLast?_eq_none_iff.mp hq') hq0
      | some c =>
        simpa using (isNameChar_not_markup (hq c (List.mem_of_getLast?_eq_some hq'))).2.2.2

end XmppXml
