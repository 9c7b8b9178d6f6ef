import Mathlib.Logic.Basic

/-!
# Computations that raise

A Python method that raises leaves the object as it was at the `raise`, so the methods of both
classes are computations in `ExceptT ε (StateM σ)`: `exec m s` is the outcome of `m` started in
`s`, and the state after it, whether `m` returned or raised.

* the equations of `exec` on `pure`, `throw`, `get`, `set`, `modify`, `>>=` and `<$>`, and the
  inversions `exec_bind_ok` and `exec_bind_error` of a sequence;
* `exec_bind_rel`, `exec_mapM_rel`, `exec_forM_rel`: a relation between the state before and after
  that every step keeps is kept by a sequence and by a loop, whether it returns or raises;
* `RaisesOnly P m`: every exception `m` raises satisfies `P`, with a rule for each way of building
  a computation.
-/

namespace XmppXml

/-- The outcome of `m` started in `s`, and the state after it. -/
def exec {σ ε α : Type} (m : ExceptT ε (StateM σ) α) (s : σ) : Except ε α × σ :=
  m.run.run s

section Exec

variable {σ ε α β : Type} (s : σ)

@[simp] theorem exec_pure (a : α) : exec (pure a : ExceptT ε (StateM σ) α) s = (.ok a, s) := rfl

@[simp] theorem exec_throw (e : ε) : exec (throw e : ExceptT ε (StateM σ) α) s = (.error e, s) := rfl

@[simp] theorem exec_get : exec (get : ExceptT ε (StateM σ) σ) s = (.ok s, s) := rfl

@[simp] theorem exec_set (s' : σ) : exec (set s' : ExceptT ε (StateM σ) Unit) s = (.ok (), s') := rfl

@[simp] theorem exec_modify (f : σ → σ) :
    exec (modify f : ExceptT ε (StateM σ) Unit) s = (.ok (), f s) := rfl

@[simp] theorem exec_bind (x : ExceptT ε (StateM σ) α) (f : α → ExceptT ε (StateM σ) β) :
    exec (x >>= f) s = match exec x s with
      | (.ok a, s') => exec (f a) s'
      | (.error e, s') => (.error e, s') := by
  simp only [exec, bind, ExceptT.run, ExceptT.bind, ExceptT.mk, StateT.run, StateT.bind]
  rcases x s with ⟨_ | _, _⟩ <;> rfl

@[simp] theorem exec_map (x : ExceptT ε (StateM σ) α) (f : α → β) :
    exec (f <$> x) s = match exec x s with
      | (.ok a, s') => (.ok (f a), s')
      | (.error e, s') => (.error e, s') := by
  rw [map_eq_pure_bind, exec_bind]
  rcases exec x s with ⟨_ | _, _⟩ <;> rfl

/-- An exception of `x` handed on as `g` of it. -/
@[simp] theorem exec_adapt {ε' : Type} (g : ε → ε') (x : ExceptT ε (StateM σ) α) :
    exec (ExceptT.adapt g x) s = match exec x s with
      | (.ok a, s') => (.ok a, s')
      | (.error e, s') => (.error (g e), s') := by
  simp only [exec, ExceptT.adapt, ExceptT.run, ExceptT.mk, StateT.run, Functor.map, StateT.map]
  rcases x s with ⟨_ | _, _⟩ <;> rfl

/-- Python's `try: body finally: fin`. `fin` is told what `body` returned (`none` when it
raised) and runs in the state `body` left; an exception of `fin` replaces the outcome of `body`,
which otherwise stands. -/
def pyTryFinally (body : ExceptT ε (StateM σ) α) (fin : Option α → ExceptT ε (StateM σ) Unit) :
    ExceptT ε (StateM σ) α :=
  ExceptT.mk fun s =>
    match exec body s with
    | (r, s₁) =>
      match exec (fin (match r with | .ok a => some a | .error _ => none)) s₁ with
      | (.ok (), s₂) => (r, s₂)
      | (.error e, s₂) => (.error e, s₂)

@[simp] theorem exec_pyTryFinally (body : ExceptT ε (StateM σ) α)
    (fin : Option α → ExceptT ε (StateM σ) Unit) :
    exec (pyTryFinally body fin) s =
      match exec body s with
      | (r, s₁) =>
        match exec (fin (match r with | .ok a => some a | .error _ => none)) s₁ with
        | (.ok (), s₂) => (r, s₂)
        | (.error e, s₂) => (.error e, s₂) := rfl

variable {x : ExceptT ε (StateM σ) α} {f : α → ExceptT ε (StateM σ) β} {s' : σ}

/-- A computation that returned: its first part returned and the rest ran from there. -/
theorem exec_bind_ok {b : β} (h : exec (x >>= f) s = (.ok b, s')) :
    ∃ a s₁, exec x s = (.ok a, s₁) ∧ exec (f a) s₁ = (.ok b, s') := by
  rw [exec_bind] at h
  rcases hx : exec x s with ⟨_ | a, s₁⟩ <;> rw [hx] at h
  · cases h
  · exact ⟨a, s₁, rfl, h⟩

theorem exec_bind_ok_iff {b : β} : exec (x >>= f) s = (.ok b, s') ↔
    ∃ a s₁, exec x s = (.ok a, s₁) ∧ exec (f a) s₁ = (.ok b, s') :=
  ⟨exec_bind_ok _, fun ⟨_, _, h₁, h₂⟩ => by rw [exec_bind, h₁]; exact h₂⟩

/-- A computation that raised: its first part raised, or it returned and the rest raised. -/
theorem exec_bind_error {e : ε} (h : exec (x >>= f) s = (.error e, s')) :
    exec x s = (.error e, s') ∨ ∃ a s₁, exec x s = (.ok a, s₁) ∧ exec (f a) s₁ = (.error e, s') := by
  rw [exec_bind] at h
  rcases hx : exec x s with ⟨_ | a, s₁⟩ <;> simp only [hx, Prod.mk.injEq, Except.error.injEq] at h
  · obtain ⟨rfl, rfl⟩ := h; exact .inl rfl
  · exact .inr ⟨a, s₁, rfl, h⟩

/-- A sequence whose first part returned raises what its second part raises from there. -/
theorem exec_bind_error_of_ok {a : α} {s₁ : σ} {e : ε} (hx : exec x s = (.ok a, s₁))
    (h : exec (x >>= f) s = (.error e, s')) : exec (f a) s₁ = (.error e, s') := by
  rw [exec_bind, hx] at h; exact h

end Exec

/-! ### Relations kept by every step -/

section Relations

variable {σ ε α β : Type} {R : σ → σ → Prop}

theorem rel_of_exec {m : ExceptT ε (StateM σ) α} {s s' : σ} {r : Except ε α}
    (hm : R s (exec m s).2) (h : exec m s = (r, s')) : R s s' := by
  rw [h] at hm; exact hm

/-- A sequence keeps a transitive relation that both parts keep. -/
theorem exec_bind_rel (ht : ∀ {a b c}, R a b → R b c → R a c) {x : ExceptT ε (StateM σ) α}
    {f : α → ExceptT ε (StateM σ) β} {s : σ} (hx : R s (exec x s).2)
    (hf : ∀ a s', R s' (exec (f a) s').2) : R s (exec (x >>= f) s).2 := by
  rw [exec_bind]
  rcases h : exec x s with ⟨_ | a, s₁⟩ <;> rw [h] at hx
  · exact hx
  · exact ht hx (hf a s₁)

/-- A loop of `mapM` keeps a reflexive and transitive relation that each round keeps. -/
theorem exec_mapM_rel (hr : ∀ s, R s s) (ht : ∀ {a b c}, R a b → R b c → R a c)
    {f : α → ExceptT ε (StateM σ) β} (hf : ∀ a s, R s (exec (f a) s).2) (l : List α) (s : σ) :
    R s (exec (l.mapM f) s).2 := by
  induction l generalizing s with
  | nil => exact hr s
  | cons a l ih =>
    have h₀ := hf a s
    simp only [List.mapM_cons, exec_bind]
    rcases h : exec (f a) s with ⟨_ | b, s₁⟩ <;> rw [h] at h₀
    · exact h₀
    · have h₂ := ih s₁
      simp only [exec_pure]
      rcases hl : exec (l.mapM f) s₁ with ⟨_ | bs, s₂⟩ <;> rw [hl] at h₂ <;> exact ht h₀ h₂

/-- A `for` loop keeps a reflexive and transitive relation that each round keeps. -/
theorem exec_forM_rel (hr : ∀ s, R s s) (ht : ∀ {a b c}, R a b → R b c → R a c)
    {f : α → ExceptT ε (StateM σ) Unit} (hf : ∀ a s, R s (exec (f a) s).2) (l : List α) (s : σ) :
    R s (exec (l.forM f) s).2 := by
  induction l generalizing s with
  | nil => exact hr s
  | cons a l ih =>
    exact exec_bind_rel (R := R) ht (hf a s) fun _ s₁ => ih s₁

/-- A `for` loop keeps a reflexive and transitive relation that each round on an element of the
list keeps. -/
theorem exec_forM_rel_mem (hr : ∀ s, R s s) (ht : ∀ {a b c}, R a b → R b c → R a c)
    {f : α → ExceptT ε (StateM σ) Unit} (l : List α) (hf : ∀ a ∈ l, ∀ s, R s (exec (f a) s).2)
    (s : σ) : R s (exec (l.forM f) s).2 := by
  induction l generalizing s with
  | nil => exact hr s
  | cons a l ih =>
    exact exec_bind_rel (R := R) ht (hf a (.head _) s) fun _ s₁ =>
      ih (fun b hb => hf b (.tail _ hb)) s₁

/-- The results of a `mapM` loop that returns satisfy `P` when each round, from a state of the
invariant `I`, returns a result satisfying `P` and keeps `I`. -/
theorem exec_mapM_ok_forall {I : σ → Prop} {P : β → Prop} {f : α → ExceptT ε (StateM σ) β}
    (hf : ∀ a s b s', I s → exec (f a) s = (.ok b, s') → P b ∧ I s') (l : List α) :
    ∀ {s s' : σ} {bs : List β}, I s → exec (l.mapM f) s = (.ok bs, s') → ∀ b ∈ bs, P b := by
  induction l with
  | nil =>
    intro s s' bs _ h
    simp only [List.mapM_nil, exec_pure, Prod.mk.injEq, Except.ok.injEq] at h
    simp [← h.1]
  | cons a l ih =>
    intro s s' bs hs h
    rw [List.mapM_cons] at h
    obtain ⟨b, s₁, h₁, h⟩ := exec_bind_ok _ h
    obtain ⟨bs', s₂, h₂, h⟩ := exec_bind_ok _ h
    simp only [exec_pure, Prod.mk.injEq, Except.ok.injEq] at h
    obtain ⟨rfl, -⟩ := h
    obtain ⟨hb, hs₁⟩ := hf a s b s₁ hs h₁
    intro x hx
    rcases List.mem_cons.mp hx with rfl | hx
    · exact hb
    · exact ih hs₁ h₂ x hx

/-- Each input of a `mapM` loop that returns has a result related to it, when each round, from a
state of the invariant `I`, returns a result related to its input and keeps `I`. -/
theorem exec_mapM_ok_exists {I : σ → Prop} {R : α → β → Prop} {f : α → ExceptT ε (StateM σ) β}
    (hf : ∀ a s b s', I s → exec (f a) s = (.ok b, s') → R a b ∧ I s') (l : List α) :
    ∀ {s s' : σ} {bs : List β}, I s → exec (l.mapM f) s = (.ok bs, s') → ∀ a ∈ l, ∃ b ∈ bs, R a b := by
  induction l with
  | nil => intro _ _ _ _ _ a ha; cases ha
  | cons a l ih =>
    intro s s' bs hs h
    rw [List.mapM_cons] at h
    obtain ⟨b, s₁, h₁, h⟩ := exec_bind_ok _ h
    obtain ⟨bs', s₂, h₂, h⟩ := exec_bind_ok _ h
    simp only [exec_pure, Prod.mk.injEq, Except.ok.injEq] at h
    obtain ⟨rfl, -⟩ := h
    obtain ⟨hb, hs₁⟩ := hf a s b s₁ hs h₁
    intro x hx
    rcases List.mem_cons.mp hx with rfl | hx
    · exact ⟨b, .head _, hb⟩
    · obtain ⟨b', hb', hr⟩ := ih hs₁ h₂ x hx
      exact ⟨b', .tail _ hb', hr⟩

end Relations

/-! ### What a computation raises -/

section Raises

variable {σ ε α β : Type} {P : ε → Prop}

/-- Every exception `m` raises, from any state, satisfies `P`. -/
def RaisesOnly (P : ε → Prop) (m : ExceptT ε (StateM σ) α) : Prop :=
  ∀ s e s', exec m s = (.error e, s') → P e

theorem RaisesOnly.pure (a : α) : RaisesOnly P (pure a : ExceptT ε (StateM σ) α) := by
  intro s e s' h; simp at h

theorem RaisesOnly.modify (f : σ → σ) : RaisesOnly P (modify f : ExceptT ε (StateM σ) Unit) := by
  intro s e s' h; simp at h

theorem RaisesOnly.set (s₀ : σ) : RaisesOnly P (set s₀ : ExceptT ε (StateM σ) Unit) := by
  intro s e s' h; simp at h

theorem RaisesOnly.mono {Q : ε → Prop} {m : ExceptT ε (StateM σ) α} (hm : RaisesOnly P m)
    (hPQ : ∀ e, P e → Q e) : RaisesOnly Q m :=
  fun s e s' h => hPQ e (hm s e s' h)

theorem RaisesOnly.throw {e : ε} (he : P e) : RaisesOnly P (throw e : ExceptT ε (StateM σ) α) := by
  intro s e' s' h; simp only [exec_throw, Prod.mk.injEq, Except.error.injEq] at h; exact h.1 ▸ he

theorem RaisesOnly.bind {x : ExceptT ε (StateM σ) α} {f : α → ExceptT ε (StateM σ) β}
    (hx : RaisesOnly P x) (hf : ∀ a, RaisesOnly P (f a)) : RaisesOnly P (x >>= f) := by
  intro s e s' h
  rcases exec_bind_error s h with h | ⟨a, s₁, -, h⟩
  · exact hx _ _ _ h
  · exact hf a _ _ _ h

/-- What a sequence raises, when its second part never raises `e`, its first part raised. -/
theorem RaisesOnly.bind_error {x : ExceptT ε (StateM σ) α} {f : α → ExceptT ε (StateM σ) β}
    {s s' : σ} {e : ε} (hf : ∀ a, RaisesOnly P (f a)) (he : ¬P e)
    (h : exec (x >>= f) s = (.error e, s')) : exec x s = (.error e, s') := by
  rcases exec_bind_error s h with h | ⟨a, s₁, -, h⟩
  · exact h
  · exact absurd (hf a _ _ _ h) he

theorem RaisesOnly.get {f : σ → ExceptT ε (StateM σ) α} (hf : ∀ s, RaisesOnly P (f s)) :
    RaisesOnly P (get >>= f) :=
  .bind (fun s e s' h => by simp at h) hf

theorem RaisesOnly.mapM {f : α → ExceptT ε (StateM σ) β} (hf : ∀ a, RaisesOnly P (f a))
    (l : List α) : RaisesOnly P (l.mapM f) := by
  induction l with
  | nil => exact .pure _
  | cons a l ih =>
    rw [List.mapM_cons]
    exact .bind (hf a) fun _ => .bind ih fun _ => .pure _

theorem RaisesOnly.forM {f : α → ExceptT ε (StateM σ) Unit} (hf : ∀ a, RaisesOnly P (f a))
    (l : List α) : RaisesOnly P (l.forM f) := by
  induction l with
  | nil => exact .pure _
  | cons a l ih => exact .bind (hf a) fun _ => ih

end Raises

end XmppXml
