import XmppXml.Generator.Methods
import Mathlib.Tactic.IntervalCases

/-!
# Automatic prefixes

`_roll_prefix` tries the names `ns{n}` from `_ns_counter + 1` upwards and takes the first one that
is not pending. The names are pairwise distinct (`nsName_injective`, through a decoder of decimal
digits), so among more candidates than there are pending prefixes one is free, and the bounded
loop `rollFrom` never stops on a pending name (`rollFrom_not_mem`): it computes what the `while`
loop of the source computes. Every automatic name is a valid prefix (`isValidPrefix_nsName`).
-/

namespace XmppXml

/-! ### Decimal digits -/

/-- The number the decimal digit characters `l` denote, read after the digits of `a`. -/
def ofDigitChars (a : Nat) (l : List Char) : Nat := l.foldl (fun a c => 10 * a + (c.toNat - 48)) a

theorem digitChar_toNat {k : Nat} (h : k < 10) : (Nat.digitChar k).toNat = 48 + k := by
  interval_cases k <;> rfl

theorem digitChar_isDigit {k : Nat} (h : k < 10) : (Nat.digitChar k).isDigit = true := by
  interval_cases k <;> rfl

theorem ofDigitChars_toDigitsCore (fuel n : Nat) (ds : List Char) (h : n < fuel) :
    ofDigitChars 0 (Nat.toDigitsCore 10 fuel n ds) = ofDigitChars n ds := by
  induction fuel generalizing n ds with
  | zero => omega
  | succ fuel ih =>
    have hd := digitChar_toNat (Nat.mod_lt n (show 10 > 0 by norm_num))
    simp only [Nat.toDigitsCore]
    split_ifs with h0
    · simp only [ofDigitChars, List.foldl_cons, hd]; congr 1; omega
    · rw [ih (n / 10) _ (by omega)]
      simp only [ofDigitChars, List.foldl_cons, hd]; congr 1; omega

theorem isDigit_of_mem_toDigitsCore {fuel n : Nat} {ds : List Char} {c : Char}
    (h : c ∈ Nat.toDigitsCore 10 fuel n ds) : c ∈ ds ∨ c.isDigit = true := by
  induction fuel generalizing n ds with
  | zero => exact .inl h
  | succ fuel ih =>
    have hd := digitChar_isDigit (Nat.mod_lt n (show 10 > 0 by norm_num))
    simp only [Nat.toDigitsCore] at h
    split_ifs at h
    · rcases List.mem_cons.1 h with rfl | h
      · exact .inr hd
      · exact .inl h
    · rcases ih h with h | h
      · rcases List.mem_cons.1 h with rfl | h
        · exact .inr hd
        · exact .inl h
      · exact .inr h

theorem natRepr_data (n : Nat) : (Nat.repr n).data = Nat.toDigits 10 n := rfl

theorem ofDigitChars_natRepr (n : Nat) : ofDigitChars 0 (Nat.repr n).data = n :=
  ofDigitChars_toDigitsCore (n + 1) n [] (by omega)

theorem natRepr_injective : Function.Injective Nat.repr := fun a b h => by
  rw [← ofDigitChars_natRepr a, h, ofDigitChars_natRepr]

theorem isDigit_of_mem_natRepr {n : Nat} {c : Char} (h : c ∈ (Nat.repr n).data) :
    c.isDigit = true :=
  (isDigit_of_mem_toDigitsCore h).resolve_left (List.not_mem_nil c)

theorem intToString_ofNat (m : Nat) : toString (Int.ofNat m) = Nat.repr m := rfl

theorem intToString_negSucc (m : Nat) : toString (Int.negSucc m) = "-" ++ Nat.repr (m + 1) := rfl

theorem natRepr_ne_minus (m k : Nat) : Nat.repr m ≠ "-" ++ Nat.repr k := by
  intro h
  have hmem : '-' ∈ (Nat.repr m).data := by rw [h]; simp [String.data_append]
  exact absurd (isDigit_of_mem_natRepr hmem) (by decide)

theorem string_append_left_cancel {s t u : String} (h : s ++ t = s ++ u) : t = u :=
  String.ext (List.append_cancel_left (by simpa only [String.data_append] using congrArg String.data h))

theorem intToString_injective : Function.Injective (toString : Int → String) := by
  intro a b h
  cases a <;> cases b <;>
    simp only [intToString_ofNat, intToString_negSucc] at h
  · exact congrArg _ (natRepr_injective h)
  · exact absurd h (natRepr_ne_minus _ _)
  · exact absurd h.symm (natRepr_ne_minus _ _)
  · have := natRepr_injective (string_append_left_cancel h)
    simp only [Nat.add_right_cancel_iff] at this; rw [this]

theorem nsName_injective : Function.Injective nsName :=
  fun _ _ h => intToString_injective (string_append_left_cancel h)

/-! ### The loop -/

theorem le_rollFrom (taken : PyDict Prefix Uri) (n : Int) (fuel : Nat) : n ≤ rollFrom taken n fuel := by
  induction fuel generalizing n with
  | zero => exact le_rfl
  | succ fuel ih =>
    simp only [rollFrom]
    split_ifs
    · exact (ih (n + 1)).trans' (by omega)
    · exact le_rfl

/-- When the loop stops on a pending name, every candidate it tried was pending. -/
theorem rollFrom_all_taken {taken : PyDict Prefix Uri} {n : Int} {fuel : Nat}
    (h : taken.contains (some (nsName (rollFrom taken n fuel))) = true) :
    ∀ j ≤ fuel, taken.contains (some (nsName (n + j))) = true := by
  induction fuel generalizing n with
  | zero => intro j hj; simpa [show j = 0 by omega] using h
  | succ fuel ih =>
    simp only [rollFrom] at h
    split_ifs at h with hn
    · intro j hj
      rcases j with _ | j
      · simpa using hn
      · simpa [add_assoc, add_comm (1 : Int)] using ih h j (by omega)
    · exact absurd h (by simpa using hn)

/-- The loop of `_roll_prefix`, given `rollFuel` rounds, ends on a name that is not pending. -/
theorem rollFrom_not_mem (taken : PyDict Prefix Uri) (n : Int) :
    taken.contains (some (nsName (rollFrom taken n (rollFuel taken)))) = false := by
  by_contra h
  have hall := rollFrom_all_taken (Bool.not_eq_false _ ▸ h)
  let cands := (List.range (rollFuel taken + 1)).map fun j : Nat => some (nsName (n + j))
  have hnd : cands.Nodup :=
    (List.nodup_range _).map fun a b hab => by
      simpa using nsName_injective (Option.some.inj hab)
  have hsub : cands ⊆ taken.keys := by
    intro p hp
    obtain ⟨j, hj, rfl⟩ := List.mem_map.1 hp
    exact (PyDict.mem_keys_iff _ _).2 (hall j (by simpa [Nat.lt_succ_iff] using hj))
  have := (hnd.subperm hsub).length_le
  simp only [cands, List.length_map, List.length_range, rollFuel] at this
  omega

/-! ### Automatic names are valid prefixes -/

theorem mem_intToString {n : Int} {c : Char} (h : c ∈ (toString n).data) :
    c.isDigit = true ∨ c = '-' := by
  cases n with
  | ofNat m => exact .inl (isDigit_of_mem_natRepr h)
  | negSucc m =>
    rw [intToString_negSucc, String.data_append] at h
    rcases List.mem_append.1 h with h | h
    · exact .inr (by simpa using h)
    · exact .inl (isDigit_of_mem_natRepr h)

theorem isNameChar_of_digit_or_minus {c : Char} (h : c.isDigit = true ∨ c = '-') :
    isNameChar c = true := by
  rcases h with h | rfl
  · have hd : ('0' ≤ c && c ≤ '9') = true := by simpa [Char.isDigit, Char.le_def] using h
    simp [isNameChar, hd]
  · rfl

theorem nsName_data (n : Int) : (nsName n).data = 'n' :: 's' :: (toString n).data := rfl

theorem isValidPrefix_some {s : String} :
    isValidPrefix (some s) = true ↔
      s ≠ "xml" ∧ s ≠ "xmlns" ∧ xmlValidateNameValueStr s = true ∧ ':' ∉ s.data := by
  simp [isValidPrefix, and_assoc]

theorem isValidPrefix_nsName (n : Int) : isValidPrefix (some (nsName n)) = true := by
  have hc : ∀ c ∈ (toString n).data, isNameChar c = true ∧ c ≠ ':' ∧ c ≠ Char.ofNat 0 := by
    intro c hc
    rcases mem_intToString hc with h | rfl
    · exact ⟨isNameChar_of_digit_or_minus (.inl h), by rintro rfl; exact absurd h (by decide),
        by rintro rfl; exact absurd h (by decide)⟩
    · exact ⟨rfl, by decide, by decide⟩
  have hn : ∀ s : String, s.data.head? ≠ some 'n' → nsName n ≠ s := by
    rintro s hs rfl; simp [nsName_data] at hs
  refine isValidPrefix_some.2 ⟨hn _ (by decide), hn _ (by decide), ?_, ?_⟩
  · have h0 : Char.ofNat 0 ∉ 'n' :: 's' :: (toString n).data := by
      rintro (_ | ⟨_, _ | ⟨_, h⟩⟩)
      exact (hc _ h).2.2 rfl
    simp only [xmlValidateNameValueStr, xmlValidateNameValueBuf, nsName_data, h0, if_false,
      xmlValidateNameValue, List.all_cons, Bool.and_eq_true, List.all_eq_true]
    exact ⟨rfl, rfl, fun c h => (hc c h).1⟩
  · rw [nsName_data]
    rintro (_ | ⟨_, _ | ⟨_, h⟩⟩)
    exact (hc _ h).2.1 rfl

end XmppXml
