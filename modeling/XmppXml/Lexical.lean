import Mathlib.Data.Nat.Digits

/-!
# Names, escaping and Python's string helpers

The character-level functions the generator calls:

* `xmlValidateNameValueStr`, the wrapper `xmlValidateNameValue_str` of the source around
  libxml2's `xmlValidateNameValue`, which is the XML 1.0 `Name` production;
* `escape` and `quoteattr` of `xml.sax.saxutils`, character by character;
* `isRestrictedChar`, the control characters `characters` refuses;
* `pyRepr`, Python's `repr` of a `str`, which the error messages use;
* `truthy`, Python's truth value of `None` or a `str`.

Python's sequential `str.replace` calls in `escape` and `quoteattr` act on distinct characters and
insert none of the characters replaced after them, so they are one substitution per character.
-/

namespace XmppXml

/-- The double quote. -/
def dquote : Char := Char.ofNat 34

/-- The apostrophe. -/
def apos : Char := Char.ofNat 39

/-! ### XML names -/

/-- XML 1.0 `NameStartChar`. -/
def isNameStartChar (c : Char) : Bool :=
  let n := c.toNat
  c = ':' || ('A' ≤ c && c ≤ 'Z') || c = '_' || ('a' ≤ c && c ≤ 'z') ||
    (0xC0 ≤ n && n ≤ 0xD6) || (0xD8 ≤ n && n ≤ 0xF6) || (0xF8 ≤ n && n ≤ 0x2FF) ||
    (0x370 ≤ n && n ≤ 0x37D) || (0x37F ≤ n && n ≤ 0x1FFF) || (0x200C ≤ n && n ≤ 0x200D) ||
    (0x2070 ≤ n && n ≤ 0x218F) || (0x2C00 ≤ n && n ≤ 0x2FEF) || (0x3001 ≤ n && n ≤ 0xD7FF) ||
    (0xF900 ≤ n && n ≤ 0xFDCF) || (0xFDF0 ≤ n && n ≤ 0xFFFD) || (0x10000 ≤ n && n ≤ 0xEFFFF)

/-- XML 1.0 `NameChar`. -/
def isNameChar (c : Char) : Bool :=
  let n := c.toNat
  isNameStartChar c || c = '-' || c = '.' || ('0' ≤ c && c ≤ '9') || n = 0xB7 ||
    (0x300 ≤ n && n ≤ 0x36F) || (0x203F ≤ n && n ≤ 0x2040)

/-- Modelled from the spec: libxml2's `xmlValidateNameValue`, which is not part of the source;
the spec gives it the XML 1.0 `Name` production. -/
def xmlValidateNameValue : List Char → Bool
  | [] => false
  | c :: cs => isNameStartChar c && cs.all isNameChar

/-- `xmlValidateNameValue_buf`: a NUL byte fails before libxml2 is asked. -/
def xmlValidateNameValueBuf (b : List Char) : Bool :=
  if Char.ofNat 0 ∈ b then false else xmlValidateNameValue b

/-- `xmlValidateNameValue_str`. The UTF-8 encoding has a NUL byte exactly where the string has
the character `U+0000`, so the model passes the characters on. -/
def xmlValidateNameValueStr (s : String) : Bool := xmlValidateNameValueBuf s.data

theorem xmlValidateNameValueStr_ne_empty {s : String} (h : xmlValidateNameValueStr s = true) :
    s ≠ "" := by
  rintro rfl; exact absurd h (by decide)

/-! ### Escaping -/

/-- `escape` of one character: `&`, `>` and `<` become entity references. -/
def escapeChar (c : Char) : List Char :=
  if c = '&' then "&amp;".data else if c = '>' then "&gt;".data
  else if c = '<' then "&lt;".data else [c]

/-- `xml.sax.saxutils.escape`. -/
def escape (s : String) : String := ⟨s.data.flatMap escapeChar⟩

/-- `escape` of one character with the entities `quoteattr` adds for tab, newline and return. -/
def quoteattrChar (c : Char) : List Char :=
  if c = '\n' then "&#10;".data else if c = '\r' then "&#13;".data
  else if c = '\t' then "&#9;".data else escapeChar c

/-- `xml.sax.saxutils.quoteattr`: the escaped value in double quotes, or in apostrophes when it
holds a double quote and no apostrophe, or in double quotes with `&quot;` when it holds both. -/
def quoteattr (s : String) : String :=
  let d := s.data.flatMap quoteattrChar
  if dquote ∈ d then
    if apos ∈ d then ⟨dquote :: d.flatMap (fun c => if c = dquote then "&quot;".data else [c]) ++ [dquote]⟩
    else ⟨apos :: d ++ [apos]⟩
  else ⟨dquote :: d ++ [dquote]⟩

/-- The control characters `characters` refuses: `0`–`8`, `11`, `12` and `14`–`31`. -/
def isRestrictedChar (c : Char) : Bool :=
  c.toNat ≤ 8 || (11 ≤ c.toNat && c.toNat ≤ 12) || (14 ≤ c.toNat && c.toNat ≤ 31)

/-! ### Python -/

/-- Python's truth value of `None` or a `str`. -/
def truthy : Option String → Bool
  | none => false
  | some s => s ≠ ""

@[simp] theorem truthy_none : truthy none = false := rfl

theorem truthy_some (s : String) : truthy (some s) = decide (s ≠ "") := rfl

/-- Python's `<` on `str`: lexicographic on code points. -/
def pyStrLt : List Char → List Char → Bool
  | [], [] => false
  | [], _ :: _ => true
  | _ :: _, [] => false
  | a :: as, b :: bs => a.toNat < b.toNat || (a = b && pyStrLt as bs)

/-- Python's `<=` on `str`. -/
def pyStrLe (s t : String) : Bool := !pyStrLt t.data s.data

/-- The two lowercase hex digits of `'\\x%02x'`. -/
def hex2 (n : Nat) : List Char := [Nat.digitChar (n / 16), Nat.digitChar (n % 16)]

/-- One character of `repr` of a `str` quoted with `q`. -/
def reprChar (q c : Char) : List Char :=
  if c = q ∨ c = '\\' then ['\\', c]
  else if c = '\t' then ['\\', 't']
  else if c = '\n' then ['\\', 'n']
  else if c = '\r' then ['\\', 'r']
  else if c.toNat < 0x20 ∨ c.toNat = 0x7F then '\\' :: 'x' :: hex2 c.toNat
  else [c]

/-- `repr` of a `str`: in apostrophes unless it holds an apostrophe and no double quote. Outside
ASCII every character is printed as it is, as Python prints the printable ones. -/
def pyRepr (s : String) : String :=
  let q := if apos ∈ s.data ∧ dquote ∉ s.data then dquote else apos
  ⟨q :: s.data.flatMap (reprChar q) ++ [q]⟩

end XmppXml
