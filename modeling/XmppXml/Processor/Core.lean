import XmppXml.Processor.Machine

/-!
# The core of the processor, and the abstract machine it refines

`Core` abstracts a processor to `_state`, `_depth`, and the calls the current driver has received,
leaving out the stanza parser and what the processor keeps of the remote stream header
(`remote_version`, `remote_to`, `remote_from`, `remote_id`). `Core.step` says what a callback does
to it: the state machine of the stream, with the events inside the stream element handed on to
the driver. Whether a stream header received in `STARTED` is accepted depends on its attributes
and on the collaborators, so `Core.step` takes the answer as an argument.

* `core_dispatchP`: every callback of the processor, from every state, moves its core as
  `Core.step` does for some answer;
* `dispatchP_error_core`: a callback that raises leaves the core as it was.
-/

namespace XmppXml

open XMPPXMLProcessor (forward readHeader readVersion readTo readFrom readId acceptHeader invalidState
  comment startDTD startEntity)

/-- `_state`, `_depth`, and the calls the current driver has received (`none`: no driver). -/
structure Core where
  state : ProcessorState
  depth : Int
  log : Option (List DriverEvent)

variable {P J E : Type}

/-- The core of a processor. -/
def XMPPXMLProcessor.core (s : XMPPXMLProcessor P J) : Core :=
  ⟨s.state, s.depth, s.driver.map SAXDriver.received⟩

/-- What a callback does to the core, `accepted` saying whether a stream header is accepted. A
callback not listed leaves the core alone. -/
def Core.step (accepted : Bool) (k : Core) : PCall P → Core
  | .startDocument => if k.state = .clean then ⟨.started, 0, some []⟩ else k
  | .endDocument => if k.state = .streamFooterProcessed then ⟨.clean, k.depth, none⟩ else k
  | .startElementNS n q a =>
    match k.state, k.log with
    | .started, l => if accepted then ⟨.streamHeaderProcessed, k.depth + 1, l⟩ else k
    | .streamHeaderProcessed, some l =>
      ⟨.streamHeaderProcessed, k.depth + 1, some (l ++ [.startElementNS n q a])⟩
    | _, _ => k
  | .endElementNS n q =>
    match k.state, k.log with
    | .streamHeaderProcessed, some l =>
      if k.depth - 1 > 0 then ⟨.streamHeaderProcessed, k.depth - 1, some (l ++ [.endElementNS n q])⟩
      else ⟨.streamFooterProcessed, k.depth - 1, some l⟩
    | _, _ => k
  | .characters x =>
    match k.state, k.log with
    | .streamHeaderProcessed, some l => ⟨.streamHeaderProcessed, k.depth, some (l ++ [.characters x])⟩
    | _, _ => k
  | _ => k

/-- `s'` has the core of `s`. -/
def XMPPXMLProcessor.SameCore (s s' : XMPPXMLProcessor P J) : Prop := s'.core = s.core

theorem XMPPXMLProcessor.SameCore.trans {s₁ s₂ s₃ : XMPPXMLProcessor P J} (h₁ : s₁.SameCore s₂)
    (h₂ : s₂.SameCore s₃) : s₁.SameCore s₃ :=
  Eq.trans h₂ h₁

section Refinement

variable (env : ProcessorEnv J E) (s : XMPPXMLProcessor P J)

theorem exec_forward (method : String) (ev : DriverEvent) :
    (exec (forward method ev : ProcM P J E Unit) s).2.core =
      match s.driver with
      | some d => ⟨s.state, s.depth, some (d.received ++ [ev])⟩
      | none => s.core := by
  cases h : s.driver <;> simp [forward, h, XMPPXMLProcessor.core]

/-- The attributes of the stream header are read without touching the core. -/
theorem readHeader_core (attributes : PyDict Name String) :
    s.SameCore (exec (readHeader env attributes : ProcM P J E Unit) s).2 := by
  have hv : ∀ s : XMPPXMLProcessor P J, s.SameCore (exec (readVersion env attributes) s).2 := by
    intro s; unfold readVersion; split
    · rfl
    · simp only [exec_bind, exec_modify]; split <;> rfl
  have ht : ∀ s : XMPPXMLProcessor P J, s.SameCore (exec (readTo env attributes) s).2 := by
    intro s; unfold readTo; split
    · rfl
    · split <;> rfl
  have hf : ∀ s : XMPPXMLProcessor P J, s.SameCore (exec (readFrom env attributes) s).2 := by
    intro s; unfold readFrom; split
    · rfl
    · split <;> rfl
  have hi : ∀ s : XMPPXMLProcessor P J, s.SameCore (exec (readId env attributes) s).2 := by
    intro s; unfold readId; split <;> rfl
  exact exec_bind_rel (R := XMPPXMLProcessor.SameCore) .trans (hv s) fun _ s₁ =>
    exec_bind_rel (R := XMPPXMLProcessor.SameCore) .trans (ht s₁) fun _ s₂ =>
      exec_bind_rel (R := XMPPXMLProcessor.SameCore) .trans (hf s₂) fun _ s₃ => hi s₃

/-- The stream header moves the core to `STREAM_HEADER_PROCESSED` when it is accepted and leaves
it alone when it is refused. -/
theorem acceptHeader_core (name : Name) (attributes : PyDict Name String) :
    ∃ accepted : Bool, (exec (acceptHeader env name attributes : ProcM P J E Unit) s).2.core =
      if accepted then ⟨.streamHeaderProcessed, s.depth + 1, s.core.log⟩ else s.core := by
  unfold acceptHeader
  split
  · exact ⟨false, rfl⟩
  · have hr := readHeader_core env s attributes
    rw [exec_bind]
    rcases h : exec (readHeader env attributes) s with ⟨_ | _, s₁⟩ <;> rw [h] at hr
    · exact ⟨false, hr⟩
    · refine ⟨true, ?_⟩
      simp only [XMPPXMLProcessor.SameCore, XMPPXMLProcessor.core, Core.mk.injEq] at hr
      simp [XMPPXMLProcessor.core, hr]

/-- A refused stream header leaves the core as it was. -/
theorem acceptHeader_error_core (name : Name) (attributes : PyDict Name String)
    (e : ProcessorError E) (h : (exec (acceptHeader env name attributes) s).1 = .error e) :
    (exec (acceptHeader env name attributes : ProcM P J E Unit) s).2.core = s.core := by
  unfold acceptHeader at h ⊢
  split_ifs at h ⊢
  · rfl
  · have hr := readHeader_core env s attributes
    rw [exec_bind] at h ⊢
    rcases hx : exec (readHeader env attributes) s with ⟨_ | _, s₁⟩ <;> simp only [hx] at h hr
    · exact hr
    · simp at h

/-- **The processor refines its abstract machine.** Every callback, from every state in which
the stream is open only with a driver, moves the core as `Core.step` does, for some answer to
whether a stream header is accepted. -/
theorem core_dispatchP (hs : s.state = .streamHeaderProcessed → s.driver.isSome) (c : PCall P) :
    ∃ accepted, (exec (dispatchP env c) s).2.core = Core.step accepted s.core c := by
  obtain ⟨st, sp, d, dr, rv, rt, rf, ri⟩ := s
  cases c
  case startElementNS n q a =>
    cases st
    case started =>
      obtain ⟨b, hb⟩ := acceptHeader_core env ⟨.started, sp, d, dr, rv, rt, rf, ri⟩ n a
      exact ⟨b, by simpa [dispatchP, Core.step, XMPPXMLProcessor.core] using hb⟩
    all_goals cases dr <;> first
      | (simp at hs; done)
      | exact ⟨true, by simp [dispatchP, invalidState, Core.step, XMPPXMLProcessor.core]⟩
  case startDocument | endDocument => exact ⟨true, by
    cases st <;> simp [dispatchP, Core.step, XMPPXMLProcessor.core]⟩
  case endElementNS | characters => exact ⟨true, by
    cases st <;> cases dr <;> first
      | (simp at hs; done)
      | (simp [dispatchP, Core.step, XMPPXMLProcessor.core]; try split_ifs <;> simp)⟩
  all_goals exact ⟨true, by
    simp [dispatchP, Core.step, comment, startDTD, startEntity, XMPPXMLProcessor.processingInstruction,
      XMPPXMLProcessor.startElement, XMPPXMLProcessor.endElement]; try split_ifs <;> rfl⟩

/-- A callback that raises, from a state in which the stream is open only with a driver, leaves
the core as it was. -/
theorem dispatchP_error_core (hs : s.state = .streamHeaderProcessed → s.driver.isSome)
    (c : PCall P) (e : ProcessorError E) (h : (exec (dispatchP env c) s).1 = .error e) :
    (exec (dispatchP env c) s).2.core = s.core := by
  obtain ⟨st, sp, d, dr, rv, rt, rf, ri⟩ := s
  cases c
  case startElementNS n q a =>
    cases st
    case started =>
      simp only [dispatchP, XMPPXMLProcessor.exec_startElementNS, reduceCtorEq, ↓reduceIte, ne_eq,
        not_true_eq_false] at h ⊢
      exact acceptHeader_error_core env _ n a e h
    all_goals cases dr <;> first
      | (simp at hs; done)
      | simp_all [dispatchP, XMPPXMLProcessor.core]
  case startDocument | endDocument => cases st <;> simp_all [dispatchP]
  case endElementNS | characters =>
    cases st <;> cases dr <;> first
      | (simp at hs; done)
      | (simp [dispatchP] at h ⊢ <;> split_ifs at h)
  all_goals simp [dispatchP, comment, startDTD, startEntity, XMPPXMLProcessor.processingInstruction,
      XMPPXMLProcessor.startElement, XMPPXMLProcessor.endElement]; try split_ifs <;> rfl

end Refinement

end XmppXml
