import XmppXml.Processor.Header

/-!
# The content of a stream, handed to the driver

`processor_invariant_reachable` says what every sequence of callbacks does to the processor. This
module says what it does with the events of a well-formed stream once the header is accepted: the
content of the stream element (elements nested as a parser reports them, text, and the callbacks
that return at once) reaches the driver event by event, in order, and the end of the stream
element moves the processor to `STREAM_FOOTER_PROCESSED` without reaching it
(`stream_content_forwarded`).
-/

namespace XmppXml

variable {P J E : Type}

/-- The callbacks that return at once in every state: the `pass` bodies, and `startEntity` of a
predefined entity. -/
def PCall.passes : PCall P → Bool
  | .startPrefixMapping | .endPrefixMapping | .endDTD | .startCDATA | .endCDATA | .endEntity => true
  | .startEntity name => name ∈ XMPPXMLProcessor.predefinedEntities
  | _ => false

/-- The call a callback hands the driver inside the stream element. -/
def PCall.driverEvent : PCall P → Option DriverEvent
  | .startElementNS n q a => some (.startElementNS n q a)
  | .characters x => some (.characters x)
  | .endElementNS n q => some (.endElementNS n q)
  | _ => none

/-- Content of the stream element as a parser reports it: text, callbacks that return at once,
and elements whose content is again such content. -/
inductive StreamContent : List (PCall P) → Prop
  | nil : StreamContent []
  | characters (x : String) {cs : List (PCall P)} : StreamContent cs →
      StreamContent (.characters x :: cs)
  | passes {c : PCall P} {cs : List (PCall P)} : c.passes = true → StreamContent cs →
      StreamContent (c :: cs)
  | element (n : Name) (q : Option String) (a : PyDict Name String) (n' : Name) (q' : Option String)
      {body cs : List (PCall P)} : StreamContent body → StreamContent cs →
      StreamContent (.startElementNS n q a :: body ++ .endElementNS n' q' :: cs)

theorem runP_append (env : ProcessorEnv J E) (l₁ l₂ : List (PCall P)) (s : XMPPXMLProcessor P J) :
    runP env (l₁ ++ l₂) s = runP env l₂ (runP env l₁ s) := by
  induction l₁ generalizing s with
  | nil => rfl
  | cons c l₁ ih => exact ih _

theorem exec_dispatchP_passes (env : ProcessorEnv J E) {c : PCall P} (hc : c.passes = true)
    (s : XMPPXMLProcessor P J) : exec (dispatchP env c) s = (.ok (), s) := by
  cases c <;> simp_all [PCall.passes, dispatchP, XMPPXMLProcessor.startEntity]

theorem driverEvent_of_passes {c : PCall P} (hc : c.passes = true) : c.driverEvent = none := by
  cases c <;> simp_all [PCall.passes, PCall.driverEvent]

/-- Inside the stream element: the header processed, the stream element open, and a driver. -/
structure XMPPXMLProcessor.InStream (s : XMPPXMLProcessor P J) : Prop where
  state : s.state = .streamHeaderProcessed
  depth : 1 ≤ s.depth
  driver : s.driver.isSome

/-- Inside the stream element, content is handed on to the driver and leaves the processor at the
depth it found it. -/
theorem runP_streamContent (env : ProcessorEnv J E) {cs : List (PCall P)} (hc : StreamContent cs) :
    ∀ {s : XMPPXMLProcessor P J}, s.InStream → runP env cs s = { s with
      driver := s.driver.map fun d => { d with received := d.received ++ cs.filterMap PCall.driverEvent } } := by
  induction hc with
  | nil =>
    intro s _
    obtain ⟨st, sp, dp, dr, rv, rt, rf, ri⟩ := s
    cases dr <;> simp [runP]
  | characters x _ ih =>
    intro s hs
    obtain ⟨d, hd⟩ := Option.isSome_iff_exists.mp hs.driver
    rw [runP, dispatchP, XMPPXMLProcessor.exec_characters, if_neg (by simp [hs.state]),
      XMPPXMLProcessor.exec_forward_some _ _ _ _ hd]
    dsimp only
    rw [ih]
    · simp [hd, PCall.driverEvent]
    · exact ⟨hs.state, hs.depth, rfl⟩
  | passes hp _ ih =>
    intro s hs
    rw [runP, exec_dispatchP_passes env hp]
    dsimp only
    rw [ih hs, List.filterMap_cons_none (driverEvent_of_passes hp)]
  | element n q a n' q' _ _ ihb ihc =>
    intro s hs
    obtain ⟨d, hd⟩ := Option.isSome_iff_exists.mp hs.driver
    rw [runP_append]
    simp only [runP, dispatchP, XMPPXMLProcessor.exec_startElementNS, hs.state, if_true,
      exec_bind, XMPPXMLProcessor.exec_forward_some _ _ _ _ hd, exec_modify]
    have h1 := hs.depth
    rw [ihb]
    swap; · exact ⟨rfl, by dsimp only; omega, rfl⟩
    dsimp only
    rw [XMPPXMLProcessor.exec_endElementNS, if_pos rfl, if_pos (by dsimp only; omega),
      XMPPXMLProcessor.exec_forward_some _ _ _ _ rfl]
    dsimp only
    rw [ihc]
    swap; · exact ⟨rfl, by dsimp only; omega, rfl⟩
    simp [hd, hs.state, PCall.driverEvent]

/-- **The stream's content reaches the driver.** After an accepted header (`STREAM_HEADER_PROCESSED`
at depth `1`, with a driver), the content of the stream element, any well-nested sequence of
elements, text and callbacks that return at once, is handed to the driver call by call and in
order; the end of the stream element is not handed on and moves the processor to
`STREAM_FOOTER_PROCESSED` at depth `0`. Nothing else changes. -/
theorem stream_content_forwarded (env : ProcessorEnv J E) {cs : List (PCall P)}
    (hc : StreamContent cs) (n : Name) (q : Option String) {s : XMPPXMLProcessor P J}
    {d : SAXDriver P} (hs : s.state = .streamHeaderProcessed) (h1 : s.depth = 1)
    (hd : s.driver = some d) :
    runP env (cs ++ [.endElementNS n q]) s = { s with
      state := .streamFooterProcessed, depth := 0,
      driver := some { d with received := d.received ++ cs.filterMap PCall.driverEvent } } := by
  rw [runP_append, runP_streamContent env hc ⟨hs, by omega, by simp [hd]⟩]
  simp [runP, dispatchP, hs, h1, hd]

/-- The processor of `digitEnv` right after the header `versionFromIdAttributes`. -/
def headerProcessed : XMPPXMLProcessor Unit String :=
  ⟨.streamHeaderProcessed, none, 1, some ⟨none, []⟩, some [1, 0], some none, some "a@b", some "s1"⟩

/-- The content `<m>hi</m>`. -/
def oneMessageContent : List (PCall Unit) :=
  [.startElementNS ⟨none, "m"⟩ none .empty, .characters "hi", .endElementNS ⟨none, "m"⟩ none]

theorem stream_content_forwarded_one_message :
    runP digitEnv (oneMessageContent ++ [.endElementNS ⟨some "x", "stream"⟩ none]) headerProcessed =
      { headerProcessed with
        state := .streamFooterProcessed, depth := 0,
        driver := some ⟨none, [.startElementNS ⟨none, "m"⟩ none .empty, .characters "hi",
          .endElementNS ⟨none, "m"⟩ none]⟩ } :=
  @stream_content_forwarded _ _ _ digitEnv oneMessageContent
    (.element _ _ _ _ _ (.characters _ .nil) .nil) _ _ headerProcessed ⟨none, []⟩ rfl rfl rfl

end XmppXml
