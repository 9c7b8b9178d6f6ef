import XmppXml.Generator.MustClose
import XmppXml.Namespaces

/-!
# The discipline of declarations

`startPrefixMapping` accepts declarations that a reader of the written document does not read as
they were meant:

* a prefix of the form `nsN`, which `_roll_prefix`, consulting only the pending prefixes, may hand
  out again inside the element that declares it;
* a prefix bound again, to another namespace, inside an element that declares it: `_curr_ns_map`
  keeps the entry of the old namespace;
* a namespace declared again, with another prefix, for an element in it while it is in scope: the
  end tag is resolved after the new declaration is pinned;
* the prefixless namespace, whose attributes `_qname` writes unprefixed;
* a prefix for a namespace a reader of namespaces refuses to bind: the empty value, the XML
  namespace or the namespace of `xmlns`.

`DeclScope.run` follows a sequence of calls with what the caller alone knows (the prefixes it
declared for each open element, and the namespaces in scope by each) and refuses a call that does
one of these.

* `isNsName`: the prefixes `_roll_prefix` makes, decided;
* `DeclScope.step`, `DeclScope.run`: the discipline, call by call;
* `DeclScope.run_frames`: a well-nested sequence leaves the caller's frames as it found them;
* `DeclScope.run_prefixFree`: a sequence that declares nothing keeps the discipline.
-/

namespace XmppXml

/-! ### Automatic prefixes, decided -/

/-- The integer a text of `str(n)` stands for: a minus sign and digits, or digits. -/
def parseIntChars (r : List Char) : Int :=
  if r.head? = some '-' then -((ofDigitChars 0 r.tail : Nat) : Int) else (ofDigitChars 0 r : Nat)

theorem parseIntChars_toString (K : Int) : parseIntChars (toString K).data = K := by
  cases K with
  | ofNat m =>
    have hd : (toString (Int.ofNat m)).data.head? ≠ some '-' := fun h => by
      have := isDigit_of_mem_natRepr (List.mem_of_mem_head? h)
      revert this; decide
    rw [parseIntChars, if_neg hd, intToString_ofNat, ofDigitChars_natRepr]
    rfl
  | negSucc m =>
    rw [parseIntChars, intToString_negSucc]
    simp [String.data_append, ofDigitChars_natRepr, Int.negSucc_eq]

/-- The prefix is one `_roll_prefix` makes: `ns` and the text of an integer. -/
def isNsName (p : String) : Bool :=
  match p.data with
  | 'n' :: 's' :: r => decide ((toString (parseIntChars r)).data = r)
  | _ => false

theorem isNsName_eq_false_iff {p : String} : isNsName p = false ↔ ∀ K, p ≠ nsName K := by
  constructor
  · rintro h K rfl
    simp [isNsName, nsName_data, parseIntChars_toString] at h
  · intro h
    rw [isNsName]
    split
    · rename_i r hp
      exact decide_eq_false fun hr => h (parseIntChars r) (String.ext (by rw [hp, nsName_data, hr]))
    · rfl

/-- A sequence of calls that neither start nor end is well-nested. -/
theorem Balanced.of_depth {l : List Call} (h : ∀ c ∈ l, c.depth = 0) : Balanced l := by
  induction l with
  | nil => exact .nil
  | cons c l ih => exact .other (h c (.head _)) (ih fun c hc => h c (.tail _ hc))

/-! ### The caller's scopes -/

/-- What the caller knows of the scopes: for each open element, innermost first, the prefixes it
declared for it with their namespaces, and the namespaces in scope by it (those it declared, and
those of its names); and the prefixes announced for the next element, with their namespaces. -/
structure DeclScope where
  frames : List (List (String × String) × List String)
  pending : List (String × String)

/-- Nothing open and nothing announced. -/
def DeclScope.empty : DeclScope := ⟨[], []⟩

/-- The namespaces of the names of an element: its own and its attributes'. -/
def elementUris (n : Name) (a : PyDict Name String) : List String :=
  n.uri.toList ++ a.items.filterMap fun x => x.1.uri

/-- One call under the discipline of declarations, or `none` where the call breaks it. A
declaration is of a prefix other than `None` and not of the form `nsN`, for a namespace a prefix
may be declared for (`DeclarableUri`: made of XML characters, not empty, and neither the XML
namespace nor that of `xmlns`), and binds no prefix an open element declares to another namespace.
A start does not declare again the namespace of its element while it is in scope, and opens a
frame with the announced declarations and the namespaces of its names; an end closes the innermost
frame. -/
def DeclScope.step (ds : DeclScope) : Call → Option DeclScope
  | .startPrefixMapping (some p) (some u) =>
    if !isNsName p && decide (DeclarableUri u) &&
        ds.frames.all (fun f => f.1.all fun d => decide (d.1 = p → d.2 = u)) then
      some { ds with pending := (p, u) :: ds.pending }
    else none
  | .startPrefixMapping _ _ => none
  | .startElementNS n a =>
    if n.uri.all fun us => !ds.frames.any (fun f => decide (us ∈ f.2)) ||
        ds.pending.all fun d => decide (d.2 ≠ us) then
      some ⟨(ds.pending, ds.pending.map Prod.snd ++ elementUris n a) :: ds.frames, []⟩
    else none
  | .endElementNS _ =>
    match ds.frames with
    | _ :: fs => some { ds with frames := fs }
    | [] => none
  | _ => some ds

/-- A sequence of calls under the discipline of declarations. -/
def DeclScope.run (ds : DeclScope) : List Call → Option DeclScope
  | [] => some ds
  | c :: cs => (ds.step c).bind fun ds' => ds'.run cs

/-- The announced declarations keep the discipline: each of a prefix not of the form `nsN`, for a
declarable namespace, binding no prefix an open element declares to another namespace. -/
def DeclScope.Fresh (ds : DeclScope) : Prop :=
  ∀ d ∈ ds.pending, (∀ K, d.1 ≠ nsName K) ∧ DeclarableUri d.2 ∧
    ∀ f ∈ ds.frames, ∀ d' ∈ f.1, d'.1 = d.1 → d'.2 = d.2

namespace DeclScope

variable {ds ds' : DeclScope}

@[simp] theorem run_nil : ds.run [] = some ds := rfl

@[simp] theorem run_cons (c : Call) (cs : List Call) : ds.run (c :: cs) = (ds.step c).bind (·.run cs) :=
  rfl

theorem run_append (l₁ l₂ : List Call) : ds.run (l₁ ++ l₂) = (ds.run l₁).bind (·.run l₂) := by
  induction l₁ generalizing ds with
  | nil => rfl
  | cons c l₁ ih =>
    simp only [List.cons_append, run_cons]
    cases ds.step c <;> simp [ih]

theorem step_startPrefixMapping {pfx : Prefix} {uri : Uri}
    (h : ds.step (.startPrefixMapping pfx uri) = some ds') :
    ∃ p u, pfx = some p ∧ uri = some u ∧ (∀ K, p ≠ nsName K) ∧ DeclarableUri u ∧
      (∀ f ∈ ds.frames, ∀ d ∈ f.1, d.1 = p → d.2 = u) ∧ ds' = { ds with pending := (p, u) :: ds.pending } := by
  rcases pfx with _ | p <;> rcases uri with _ | u <;> simp only [step, reduceCtorEq] at h
  split_ifs at h with hc
  simp only [Bool.and_eq_true, Bool.not_eq_true', List.all_eq_true, decide_eq_true_eq] at hc
  exact ⟨p, u, rfl, rfl, isNsName_eq_false_iff.mp hc.1.1, hc.1.2, hc.2,
    (Option.some.inj h).symm⟩

theorem step_startElementNS {n : Name} {a : PyDict Name String}
    (h : ds.step (.startElementNS n a) = some ds') :
    (∀ us, n.uri = some us → (∃ f ∈ ds.frames, us ∈ f.2) → ∀ d ∈ ds.pending, d.2 ≠ us) ∧
      ds' = ⟨(ds.pending, ds.pending.map Prod.snd ++ elementUris n a) :: ds.frames, []⟩ := by
  simp only [step] at h
  split_ifs at h with hc
  refine ⟨fun us hu hin d hd => ?_, (Option.some.inj h).symm⟩
  simp only [hu, Option.all_some, Bool.or_eq_true, Bool.not_eq_true', List.any_eq_false,
    decide_eq_true_eq, List.all_eq_true, decide_eq_true_eq] at hc
  obtain ⟨f, hf, hus⟩ := hin
  exact hc.resolve_left (fun h => h f hf hus) d hd

theorem step_endElementNS {n : Name} (h : ds.step (.endElementNS n) = some ds') :
    ∃ f fs, ds.frames = f :: fs ∧ ds' = { ds with frames := fs } := by
  simp only [step] at h
  split at h
  · exact ⟨_, _, ‹_›, (Option.some.inj h).symm⟩
  · cases h

/-- A call that neither declares, starts nor ends is under the discipline, and changes nothing. -/
theorem step_of_depth {c : Call} (hc : c.depth = 0) (hd : c.declaresPrefix = false) :
    ds.step c = some ds := by
  cases c <;> simp_all [step, Call.depth, Call.declaresPrefix]

/-- A call that neither starts nor ends keeps the frames. -/
theorem step_frames {c : Call} (hc : c.depth = 0) (h : ds.step c = some ds') : ds'.frames = ds.frames := by
  cases hd : c.declaresPrefix
  · rw [step_of_depth hc hd] at h
    cases h; rfl
  · cases c <;> simp [Call.declaresPrefix] at hd
    obtain ⟨-, -, -, -, -, -, -, rfl⟩ := step_startPrefixMapping h
    rfl

theorem step_fresh {c : Call} (h : ds.step c = some ds') (hf : ds.Fresh) : ds'.Fresh := by
  cases c with
  | startPrefixMapping =>
    obtain ⟨p, u, -, -, hK, hx, hc, rfl⟩ := step_startPrefixMapping h
    rintro d (_ | ⟨_, hd⟩)
    · exact ⟨hK, hx, fun f hf d' hd' h => hc f hf d' hd' h⟩
    · exact hf d hd
  | startElementNS =>
    obtain ⟨-, rfl⟩ := step_startElementNS h
    exact fun d hd => (nomatch hd)
  | endElementNS =>
    obtain ⟨f, fs, hfs, rfl⟩ := step_endElementNS h
    intro d hd
    obtain ⟨hK, hx, hc⟩ := hf d hd
    exact ⟨hK, hx, fun f' hf' => hc f' (by rw [hfs]; exact .tail _ hf')⟩
  | _ => simp only [step, Option.some.injEq] at h; exact h ▸ hf

theorem run_fresh {cs : List Call} (h : ds.run cs = some ds') (hf : ds.Fresh) : ds'.Fresh := by
  induction cs generalizing ds with
  | nil => cases h; exact hf
  | cons c cs ih =>
    obtain ⟨ds₁, h₁, h⟩ := Option.bind_eq_some.mp h
    exact ih h (step_fresh h₁ hf)

/-- The discipline over a start, a content and an end, call by call. -/
theorem run_element_split {n : Name} {a : PyDict Name String} {body cs : List Call}
    (h : ds.run (.startElementNS n a :: body ++ .endElementNS n :: cs) = some ds') :
    ∃ ds₁ ds₂ ds₃, ds.step (.startElementNS n a) = some ds₁ ∧ ds₁.run body = some ds₂ ∧
      ds₂.step (.endElementNS n) = some ds₃ ∧ ds₃.run cs = some ds' := by
  rw [run_append] at h
  obtain ⟨ds₂, h₂, h⟩ := Option.bind_eq_some.mp h
  rw [run_cons] at h₂ h
  obtain ⟨ds₁, h₁, h₂⟩ := Option.bind_eq_some.mp h₂
  obtain ⟨ds₃, h₃, h⟩ := Option.bind_eq_some.mp h
  exact ⟨ds₁, ds₂, ds₃, h₁, h₂, h₃, h⟩

/-- **A well-nested sequence leaves the caller's frames as it found them.** -/
theorem run_frames {body : List Call} (hb : Balanced body) :
    ∀ {ds ds' : DeclScope}, ds.run body = some ds' → ds'.frames = ds.frames := by
  induction hb with
  | nil => intro ds ds' h; cases h; rfl
  | @other c cs hc _ ih =>
    intro ds ds' h
    obtain ⟨ds₁, h₁, h⟩ := Option.bind_eq_some.mp h
    rw [ih h, step_frames hc h₁]
  | @element n a body cs _ _ ihb ihc =>
    intro ds ds' h
    obtain ⟨ds₁, ds₂, ds₃, h₁, h₂, h₃, h⟩ := run_element_split h
    obtain ⟨-, rfl⟩ := step_startElementNS h₁
    obtain ⟨f, fs, hfs, rfl⟩ := step_endElementNS h₃
    rw [ihc h]
    rw [ihb h₂] at hfs
    exact (List.cons.inj hfs).2.symm

/-- The discipline over an element: its start opens a frame with the announced declarations, its
content runs in it and leaves it, and its end closes it. -/
theorem run_element {n : Name} {a : PyDict Name String} {body : List Call} (hb : Balanced body)
    (h : ds.run (.startElementNS n a :: body ++ [.endElementNS n]) = some ds') :
    ∃ ds₂, ds.step (.startElementNS n a) =
        some ⟨(ds.pending, ds.pending.map Prod.snd ++ elementUris n a) :: ds.frames, []⟩ ∧
      (⟨(ds.pending, ds.pending.map Prod.snd ++ elementUris n a) :: ds.frames, []⟩ : DeclScope).run
        body = some ds₂ ∧ ds' = { ds₂ with frames := ds.frames } := by
  obtain ⟨ds₁, ds₂, ds₃, h₁, h₂, h₃, h⟩ := run_element_split h
  cases h
  obtain ⟨-, rfl⟩ := step_startElementNS h₁
  have hf := run_frames hb h₂
  obtain ⟨f, fs, hfs, rfl⟩ := step_endElementNS h₃
  rw [hf] at hfs
  obtain ⟨-, rfl⟩ := List.cons.inj hfs
  exact ⟨ds₂, h₁, h₂, rfl⟩

/-- **A sequence that declares nothing keeps the discipline**, from any scopes with nothing
announced, and leaves them as they were. -/
theorem run_prefixFree {body : List Call} (hb : Balanced body) (hd : ∀ c ∈ body, c.declaresPrefix = false) :
    ∀ {ds : DeclScope}, ds.pending = [] → ds.run body = some ds := by
  induction hb with
  | nil => intro ds _; rfl
  | @other c cs hc _ ih =>
    intro ds hp
    rw [run_cons, step_of_depth hc (hd c (.head _)), Option.some_bind]
    exact ih (fun c hc' => hd c (.tail _ hc')) hp
  | @element n a body cs _ _ ihb ihc =>
    intro ds hp
    obtain ⟨fs, pd⟩ := ds
    simp only at hp
    subst hp
    have hs : (⟨fs, []⟩ : DeclScope).step (.startElementNS n a) =
        some ⟨([], elementUris n a) :: fs, []⟩ := by
      cases hu : n.uri <;> simp [step, hu]
    rw [run_append, run_cons, hs, Option.some_bind, ihb (fun c hc => hd c (by simp [hc])) rfl,
      Option.some_bind, run_cons]
    exact ihc (fun c hc => hd c (by simp [hc])) rfl

/-- Declarations that keep the discipline, run one after another: they are announced, the last
first. -/
theorem run_declarations (l : List (String × String))
    (hl : ∀ x ∈ l, (∀ K, x.1 ≠ nsName K) ∧ DeclarableUri x.2 ∧
      ∀ f ∈ ds.frames, ∀ d ∈ f.1, d.1 = x.1 → d.2 = x.2) :
    ds.run (l.map fun x => .startPrefixMapping (some x.1) (some x.2)) =
      some { ds with pending := l.reverse ++ ds.pending } := by
  induction l generalizing ds with
  | nil => rfl
  | cons x l ih =>
    obtain ⟨hK, hx, hc⟩ := hl x (.head _)
    have hs : ds.step (.startPrefixMapping (some x.1) (some x.2)) =
        some { ds with pending := x :: ds.pending } := by
      simp only [step, isNsName_eq_false_iff.mpr hK, hx, Bool.not_false, decide_True, Bool.true_and,
        Bool.and_true]
      rw [if_pos (List.all_eq_true.mpr fun f hf => List.all_eq_true.mpr fun d hd =>
        decide_eq_true (hc f hf d hd))]
    have hl' : run ⟨ds.frames, x :: ds.pending⟩ (l.map fun x => .startPrefixMapping (some x.1) (some x.2)) =
        some ⟨ds.frames, l.reverse ++ x :: ds.pending⟩ := ih fun y hy => hl y (.tail _ hy)
    rw [List.map_cons, run_cons, hs, Option.some_bind, hl']
    simp

end DeclScope

end XmppXml
