import XmppXml.Lexical

/-!
# Reading back what the writer writes

The meaning of the text the generator writes is fixed by an XML 1.0 reader. This module states
that reader; no code of the source stands behind it. It does end-of-line handling (a carriage
return, alone or before a line feed, is read as a line feed) and expands references (the five
predefined entities, and decimal and hexadecimal character references). It accepts only the
characters XML allows. In an attribute value it also normalises white space: a literal tab, line
feed or carriage return is read as a space, while one written as a character reference is kept.

`escape` (the text `characters` writes) and `quoteattr` (attribute values and namespace URIs)
are checked against the reader. An attribute value made of XML characters is read back exactly
(`readAttValue_quoteattr_eq`). Text is read back with its line ends normalised
(`readCharData_escape_eq`), so a carriage return written by `characters` comes back as a line feed
(`readCharData_escape_eq_iff`). What `characters` and `startElementNS` write is read with these
(`readCharData_escape`, `readAttValue_quoteattr`).
-/

namespace XmppXml

/-! ### The reader -/

/-- XML 1.0 `Char`: tab, line feed, carriage return, and the code points from `U+0020` on except
the surrogates (which `Char` excludes) and `U+FFFE`, `U+FFFF`. -/
def isXmlChar (c : Char) : Bool :=
  c = '\t' || c = '\n' || c = '\r' || (0x20 ≤ c.toNat && c.toNat ≤ 0xFFFD) || 0x10000 ≤ c.toNat

/-- End-of-line handling: a carriage return, alone or before a line feed, becomes a line feed. -/
def normalizeNewlines : List Char → List Char
  | '\r' :: '\n' :: rest => '\n' :: normalizeNewlines rest
  | '\r' :: rest => '\n' :: normalizeNewlines rest
  | c :: rest => c :: normalizeNewlines rest
  | [] => []

/-- The value of a hexadecimal digit, either case. -/
def hexDigitValue (c : Char) : Option Nat :=
  if '0' ≤ c ∧ c ≤ '9' then some (c.toNat - '0'.toNat)
  else if 'a' ≤ c ∧ c ≤ 'f' then some (c.toNat - 'a'.toNat + 10)
  else if 'A' ≤ c ∧ c ≤ 'F' then some (c.toNat - 'A'.toNat + 10)
  else none

/-- The value of a non-empty numeral in base `b` (10 or 16). -/
def numeralValue (b : Nat) (ds : List Char) : Option Nat :=
  if ds = [] then none
  else ds.foldl (fun acc d => acc.bind fun n => (hexDigitValue d).bind fun v =>
    if v < b then some (n * b + v) else none) (some 0)

/-- The character a reference names, from what stands between `&` and `;`. -/
def resolveRef (name : List Char) : Option Char :=
  if name = "amp".data then some '&' else if name = "lt".data then some '<'
  else if name = "gt".data then some '>' else if name = "quot".data then some dquote
  else if name = "apos".data then some apos
  else
    let code := match name with
      | '#' :: 'x' :: hex => numeralValue 16 hex
      | '#' :: dec => numeralValue 10 dec
      | _ => none
    code.bind fun n =>
      if (Char.ofNat n).toNat = n ∧ isXmlChar (Char.ofNat n) then some (Char.ofNat n) else none

/-- What the reader is doing: reading characters, or the name of a reference after `&`. -/
inductive ReadState
  | chars
  | ref (name : List Char)

/-- In an attribute value, white space is read as a space. -/
def normalizeSpace (delim : Option Char) (c : Char) : Char :=
  if delim.isSome && (c = '\t' || c = '\n' || c = '\r') then ' ' else c

/-- The reader after end-of-line handling: of character data (`delim = none`) up to the end of
the input, which stands for the next tag; or of an attribute value after its opening quote
(`delim = some q`) up to the closing `q`, which must end the input. A `<`, a character XML does
not allow, an unknown reference, and `]]>` in character data are errors. -/
def readRefs (delim : Option Char) : ReadState → List Char → Option (List Char)
  | .chars, [] => if delim.isNone then some [] else none
  | .chars, c :: cs =>
    if some c = delim then (if cs = [] then some [] else none)
    else if c = '&' then readRefs delim (.ref []) cs
    else if c = '<' || !isXmlChar c || (delim.isNone && c = ']' && cs.take 2 = [']', '>']) then
      none
    else (normalizeSpace delim c :: ·) <$> readRefs delim .chars cs
  | .ref _, [] => none
  | .ref name, c :: cs =>
    if c = ';' then (resolveRef name).bind fun r => (r :: ·) <$> readRefs delim .chars cs
    else readRefs delim (.ref (name ++ [c])) cs

/-- Character data between two tags, as the reader delivers it. -/
def readCharData (data : String) : Option String :=
  (readRefs none .chars (normalizeNewlines data.data)).map String.mk

/-- An attribute value literal, in double quotes or apostrophes, as the reader delivers it. -/
def readAttValue (literal : String) : Option String :=
  match normalizeNewlines literal.data with
  | q :: rest =>
    if q = dquote || q = apos then (readRefs (some q) .chars rest).map String.mk else none
  | [] => none

example : readAttValue "\"a&#9;b\tc\"" = some "a\tb c" := by decide

/-! ### End-of-line handling -/

theorem normalizeNewlines_cons_of_ne {c : Char} (hc : c ≠ '\r') (rest : List Char) :
    normalizeNewlines (c :: rest) = c :: normalizeNewlines rest :=
  normalizeNewlines.eq_3 c rest (fun _ h => absurd h hc) hc

theorem normalizeNewlines_append_of_not_mem {l₁ : List Char} (h : '\r' ∉ l₁) (l₂ : List Char) :
    normalizeNewlines (l₁ ++ l₂) = l₁ ++ normalizeNewlines l₂ := by
  induction l₁ with
  | nil => rfl
  | cons c l₁ ih =>
    rw [List.mem_cons, not_or] at h
    rw [List.cons_append, normalizeNewlines_cons_of_ne (Ne.symm h.1), ih h.2, List.cons_append]

theorem normalizeNewlines_of_not_mem {l : List Char} (h : '\r' ∉ l) : normalizeNewlines l = l := by
  simpa [normalizeNewlines] using normalizeNewlines_append_of_not_mem h []

/-- The reader never sees a carriage return. -/
theorem cr_not_mem_normalizeNewlines (l : List Char) : '\r' ∉ normalizeNewlines l := by
  induction l using normalizeNewlines.induct with
  | case1 rest ih => simp [normalizeNewlines.eq_1, ih]
  | case2 rest h ih => simp [normalizeNewlines.eq_2 rest h, ih]
  | case3 c rest _ hc ih => simp [normalizeNewlines_cons_of_ne hc, ih, Ne.symm hc]
  | case4 => simp [normalizeNewlines]

@[simp] theorem all_isXmlChar_normalizeNewlines (l : List Char) :
    (normalizeNewlines l).all isXmlChar = l.all isXmlChar := by
  have hn : isXmlChar '\n' = true := by decide
  have hr : isXmlChar '\r' = true := by decide
  induction l using normalizeNewlines.induct with
  | case1 rest ih => simp [normalizeNewlines.eq_1, ih, hn, hr]
  | case2 rest h ih => simp [normalizeNewlines.eq_2 rest h, ih, hn, hr]
  | case3 c rest _ hc ih => simp [normalizeNewlines_cons_of_ne hc, ih]
  | case4 => simp [normalizeNewlines]

/-! ### Reading a sequence of encoded characters -/

/-- A reader that reads each encoded character back reads their concatenation back, up to an end
`t` it reads as nothing. -/
theorem readRefs_flatMap {delim : Option Char} {enc : Char → List Char} {t : List Char}
    (l : List Char)
    (henc : ∀ c ∈ l, ∀ rest, '>' ∉ rest → readRefs delim .chars (enc c ++ rest) =
      if isXmlChar c then (c :: ·) <$> readRefs delim .chars rest else none)
    (hgt : ∀ c ∈ l, '>' ∉ enc c) (ht : readRefs delim .chars t = some []) (hgt_t : '>' ∉ t) :
    readRefs delim .chars (l.flatMap enc ++ t) = if l.all isXmlChar then some l else none := by
  induction l with
  | nil => simpa using ht
  | cons c l ih =>
    have hgt' : '>' ∉ l.flatMap enc ++ t := by
      simp only [List.mem_append, List.mem_flatMap, not_or, not_exists, not_and]
      exact ⟨fun a ha => hgt a (.tail _ ha), hgt_t⟩
    rw [List.flatMap_cons, List.append_assoc, henc c (.head _) _ hgt',
      ih (fun a ha => henc a (.tail _ ha)) (fun a ha => hgt a (.tail _ ha))]
    by_cases hc : isXmlChar c <;> by_cases hl : l.all isXmlChar <;> simp [hc, hl]

/-! ### Text: `escape` -/

theorem cr_not_mem_escapeChar {c : Char} (hc : c ≠ '\r') : '\r' ∉ escapeChar c := by
  unfold escapeChar; split_ifs <;> first | decide | simpa using Ne.symm hc

theorem gt_not_mem_escapeChar (c : Char) : '>' ∉ escapeChar c := by
  unfold escapeChar; split_ifs <;> first | decide | simpa [eq_comm] using ‹¬c = '>'›

theorem head?_flatMap_escapeChar (l : List Char) :
    (l.flatMap escapeChar).head? =
      l.head?.map fun c => if c = '&' ∨ c = '>' ∨ c = '<' then '&' else c := by
  cases l with
  | nil => rfl
  | cons c l =>
    simp only [List.flatMap_cons, List.head?_cons, Option.map_some']
    unfold escapeChar; split_ifs <;> simp_all [List.head?_append]

/-- Escaping commutes with end-of-line handling: `escape` leaves line feeds and carriage returns
alone and makes neither. -/
theorem normalizeNewlines_flatMap_escapeChar (l : List Char) :
    normalizeNewlines (l.flatMap escapeChar) = (normalizeNewlines l).flatMap escapeChar := by
  have hr : escapeChar '\r' = ['\r'] := by decide
  have hn : escapeChar '\n' = ['\n'] := by decide
  induction l using normalizeNewlines.induct with
  | case1 rest ih =>
    rw [List.flatMap_cons, List.flatMap_cons, hr, hn, List.singleton_append, List.singleton_append,
      normalizeNewlines.eq_1, ih, normalizeNewlines.eq_1, List.flatMap_cons, hn]; rfl
  | case2 rest h ih =>
    have h' : ∀ r, rest.flatMap escapeChar = '\n' :: r → False := fun r hr' => by
      have := congrArg List.head? hr'
      rw [head?_flatMap_escapeChar] at this
      cases rest with
      | nil => simp at this
      | cons d rest =>
        simp only [List.head?_cons, Option.map_some', List.head?_cons, Option.some.injEq] at this
        split_ifs at this <;> simp_all
    rw [List.flatMap_cons, hr, List.singleton_append, normalizeNewlines.eq_2 _ h', ih,
      normalizeNewlines.eq_2 rest h, List.flatMap_cons, hn]; rfl
  | case3 c rest _ hc ih =>
    rw [List.flatMap_cons, normalizeNewlines_append_of_not_mem (cr_not_mem_escapeChar hc), ih,
      normalizeNewlines_cons_of_ne hc, List.flatMap_cons]
  | case4 => rfl

/-- One character read as itself: not the closing quote, not markup, not changed by the
normalisation of white space, and not the start of `]]>`. -/
theorem readRefs_plain {delim : Option Char} {c : Char} {rest : List Char} (hd : some c ≠ delim)
    (ha : c ≠ '&') (hl : c ≠ '<') (hs : normalizeSpace delim c = c)
    (hb : delim.isNone → c = ']' → rest.take 2 ≠ [']', '>']) :
    readRefs delim .chars (c :: rest) =
      if isXmlChar c then (c :: ·) <$> readRefs delim .chars rest else none := by
  simp only [readRefs, if_neg hd, if_neg ha, hs]
  by_cases hx : isXmlChar c <;> by_cases hn : delim.isNone <;> by_cases hc : c = ']' <;>
    simp_all

theorem readRefs_escapeChar (c : Char) {rest : List Char} (hr : '>' ∉ rest) :
    readRefs none .chars (escapeChar c ++ rest) =
      if isXmlChar c then (c :: ·) <$> readRefs none .chars rest else none := by
  by_cases h₁ : c = '&'; · subst h₁; rfl
  by_cases h₂ : c = '>'; · subst h₂; rfl
  by_cases h₃ : c = '<'; · subst h₃; rfl
  rw [show escapeChar c = [c] by simp [escapeChar, h₁, h₂, h₃], List.singleton_append]
  exact readRefs_plain (by simp) h₁ h₃ rfl fun _ _ h => hr (List.mem_of_mem_take (by rw [h]; simp))

/-- What the reader makes of `escape`: the text `characters` writes for `s` is read back as
`s` with its line ends normalised, and is refused when `s` holds a character XML does not allow
(`U+FFFE` and `U+FFFF` pass the check of `characters`). -/
theorem readCharData_escape_eq (s : String) :
    readCharData (escape s) =
      if s.data.all isXmlChar then some ⟨normalizeNewlines s.data⟩ else none := by
  have h := @readRefs_flatMap none escapeChar [] (normalizeNewlines s.data)
    (fun c _ _ hr => readRefs_escapeChar c hr) (fun c _ => gt_not_mem_escapeChar c) rfl
    (List.not_mem_nil _)
  rw [List.append_nil, all_isXmlChar_normalizeNewlines] at h
  simp only [readCharData, escape, normalizeNewlines_flatMap_escapeChar, h]
  split <;> rfl

/-- A carriage return is the one XML character `escape` does not bring back. -/
theorem readCharData_escape_eq_iff (s : String) :
    readCharData (escape s) = some s ↔ s.data.all isXmlChar ∧ '\r' ∉ s.data := by
  rw [readCharData_escape_eq]
  split <;> rename_i hx
  · simp only [Option.some.injEq, hx, true_and]
    constructor
    · intro h
      have := cr_not_mem_normalizeNewlines s.data
      rwa [show normalizeNewlines s.data = s.data from congrArg String.data h] at this
    · intro h; rw [normalizeNewlines_of_not_mem h]
  · simp [hx]

example : readCharData (escape "a<b\r\nc") = some "a<b\nc" := by decide

example : isRestrictedChar '\uFFFE' = false ∧ readCharData (escape "\uFFFE") = none := by decide

/-! ### Attribute values: `quoteattr` -/

theorem cr_not_mem_quoteattrChar (c : Char) : '\r' ∉ quoteattrChar c := by
  unfold quoteattrChar; split_ifs with h₁ h₂ <;> first | decide | exact cr_not_mem_escapeChar h₂

theorem gt_not_mem_quoteattrChar (c : Char) : '>' ∉ quoteattrChar c := by
  unfold quoteattrChar; split_ifs <;> first | decide | exact gt_not_mem_escapeChar c

/-- `quoteattr` leaves the quotes alone, and writes a quote only for itself. -/
theorem quote_mem_quoteattrChar {q c : Char} (hq : q = dquote ∨ q = apos) :
    q ∈ quoteattrChar c ↔ c = q := by
  by_cases hs : c = '\n' ∨ c = '\r' ∨ c = '\t' ∨ c = '&' ∨ c = '>' ∨ c = '<'
  · rcases hs with rfl | rfl | rfl | rfl | rfl | rfl <;> rcases hq with rfl | rfl <;> decide
  · simp only [not_or] at hs
    rw [show quoteattrChar c = [c] by simp [quoteattrChar, escapeChar, hs], List.mem_singleton,
      eq_comm]

theorem readRefs_quoteattrChar {q c : Char} (hq : q = dquote ∨ q = apos) (hc : c ≠ q)
    (rest : List Char) :
    readRefs (some q) .chars (quoteattrChar c ++ rest) =
      if isXmlChar c then (c :: ·) <$> readRefs (some q) .chars rest else none := by
  by_cases h₁ : c = '\n'; · subst h₁; rcases hq with rfl | rfl <;> rfl
  by_cases h₂ : c = '\r'; · subst h₂; rcases hq with rfl | rfl <;> rfl
  by_cases h₃ : c = '\t'; · subst h₃; rcases hq with rfl | rfl <;> rfl
  by_cases h₄ : c = '&'; · subst h₄; rcases hq with rfl | rfl <;> rfl
  by_cases h₅ : c = '>'; · subst h₅; rcases hq with rfl | rfl <;> rfl
  by_cases h₆ : c = '<'; · subst h₆; rcases hq with rfl | rfl <;> rfl
  rw [show quoteattrChar c = [c] by simp [quoteattrChar, escapeChar, *], List.singleton_append]
  exact readRefs_plain (by simpa using hc) h₄ h₆ (by simp [normalizeSpace, *]) (by simp)

/-- The reader of an attribute value on a literal with no carriage return. -/
theorem readAttValue_delimited {q : Char} (hq : q = dquote ∨ q = apos) {body : List Char}
    (hcr : '\r' ∉ body) :
    readAttValue ⟨q :: body ++ [q]⟩ = (readRefs (some q) .chars (body ++ [q])).map String.mk := by
  have hq' : q ≠ '\r' := by rcases hq with rfl | rfl <;> decide
  unfold readAttValue
  rw [normalizeNewlines_of_not_mem (by simp [hcr, Ne.symm hq'])]
  rcases hq with rfl | rfl <;> simp

/-- When the value holds both quotes, `quoteattr` writes each double quote of the escaped value as
`&quot;`; over the escape of one character that changes only a double quote. -/
theorem flatMap_quot_quoteattrChar (c : Char) :
    (quoteattrChar c).flatMap (fun x => if x = dquote then "&quot;".data else [x]) =
      if c = dquote then "&quot;".data else quoteattrChar c := by
  split_ifs with hc
  · subst hc; decide
  · have hn : dquote ∉ quoteattrChar c := fun h => hc ((quote_mem_quoteattrChar (.inl rfl)).mp h)
    rw [List.flatMap_congr fun x hx => if_neg (ne_of_mem_of_not_mem hx hn),
      List.flatMap_singleton']

theorem cr_gt_not_mem_quot (c : Char) :
    '\r' ∉ (if c = dquote then "&quot;".data else quoteattrChar c) ∧
      '>' ∉ (if c = dquote then "&quot;".data else quoteattrChar c) := by
  split_ifs
  · decide
  · exact ⟨cr_not_mem_quoteattrChar c, gt_not_mem_quoteattrChar c⟩

theorem readRefs_quot (c : Char) (rest : List Char) :
    readRefs (some dquote) .chars ((if c = dquote then "&quot;".data else quoteattrChar c) ++ rest) =
      if isXmlChar c then (c :: ·) <$> readRefs (some dquote) .chars rest else none := by
  by_cases hc : c = dquote
  · subst hc; rfl
  · rw [if_neg hc]; exact readRefs_quoteattrChar (.inl rfl) hc rest

/-- The reader of attribute values on what `quoteattr` writes: tab, line feed and carriage return
survive the normalisation of white space because they are written as character references, and a
quote inside the value never closes the literal early. -/
theorem readAttValue_quoteattr_eq (s : String) :
    readAttValue (quoteattr s) = if s.data.all isXmlChar then some s else none := by
  have hend : ∀ q : Char, readRefs (some q) .chars [q] = some [] := fun q => by simp [readRefs]
  have hcr : '\r' ∉ s.data.flatMap quoteattrChar := by simp [cr_not_mem_quoteattrChar]
  have hmap : ∀ r : Option (List Char), r = (if s.data.all isXmlChar then some s.data else none) →
      r.map String.mk = if s.data.all isXmlChar then some s else none := by
    rintro _ rfl; split <;> rfl
  -- A literal in quotes `q` whose value holds no `q`.
  have hplain : ∀ q, (q = dquote ∨ q = apos) → q ∉ s.data.flatMap quoteattrChar →
      readAttValue ⟨q :: s.data.flatMap quoteattrChar ++ [q]⟩ =
        if s.data.all isXmlChar then some s else none := fun q hq hn => by
    rw [readAttValue_delimited hq hcr]
    refine hmap _ (readRefs_flatMap _ (fun c hc rest _ => readRefs_quoteattrChar hq ?_ rest)
      (fun c _ => gt_not_mem_quoteattrChar c) (hend q) (by rcases hq with rfl | rfl <;> decide))
    rintro rfl
    exact hn (List.mem_flatMap.mpr ⟨c, hc, (quote_mem_quoteattrChar hq).mpr rfl⟩)
  unfold quoteattr; dsimp only
  by_cases h₁ : dquote ∈ s.data.flatMap quoteattrChar
  swap
  · rw [if_neg h₁]; exact hplain dquote (.inl rfl) h₁
  rw [if_pos h₁]
  by_cases h₂ : apos ∈ s.data.flatMap quoteattrChar
  swap
  · rw [if_neg h₂]; exact hplain apos (.inr rfl) h₂
  -- Both quotes: double quotes, and `&quot;` for each double quote.
  rw [if_pos h₂, List.flatMap_assoc]
  simp only [flatMap_quot_quoteattrChar]
  rw [readAttValue_delimited (.inl rfl)
    fun h => (List.mem_flatMap.mp h).elim fun c hc => (cr_gt_not_mem_quot c).1 hc.2]
  exact hmap _ (readRefs_flatMap _ (fun c _ rest _ => readRefs_quot c rest)
    (fun c _ => (cr_gt_not_mem_quot c).2) (hend dquote) (by decide))

example : readAttValue (quoteattr "a\"b\x27c\td") = some "a\"b\x27c\td" := by decide

end XmppXml
