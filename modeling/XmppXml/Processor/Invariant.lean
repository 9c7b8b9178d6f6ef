import XmppXml.Processor.Core

/-!
# The invariant of the processor, over every sequence of callbacks

The processor is driven by a SAX parser, but nothing stops a parser (or a caller) from delivering
callbacks in any order, after a raise, or again after `endDocument`. Over every such sequence:

* `Core.Inv`: the depth is at least one while the stream header is processed and zero before and
  after, there is a driver exactly when the processor is not `CLEAN`, and the `endElementNS` calls
  the driver has received fall short of its `startElementNS` calls by `_depth - 1` while the header
  is processed and by nothing otherwise;
* `expectedEvents`: the calls the current driver has received are the stream callbacks received in
  `STREAM_HEADER_PROCESSED` since it was made, without the end of the stream element;
* a callback that raises changes none of this.

`Core.Inv` is proved of `Core.step` for every answer to whether a header is accepted, and carried
to the processor by `core_dispatchP`.
-/

namespace XmppXml

/-- A `startElementNS` call received by the driver. -/
def DriverEvent.isStart : DriverEvent → Bool
  | .startElementNS .. => true
  | _ => false

/-- An `endElementNS` call received by the driver. -/
def DriverEvent.isEnd : DriverEvent → Bool
  | .endElementNS .. => true
  | _ => false

@[simp] theorem DriverEvent.isStart_startElementNS (n : Name) (q : Option String)
    (a : PyDict Name String) : (DriverEvent.startElementNS n q a).isStart = true := rfl

@[simp] theorem DriverEvent.isStart_endElementNS (n : Name) (q : Option String) :
    (DriverEvent.endElementNS n q).isStart = false := rfl

@[simp] theorem DriverEvent.isStart_characters (x : String) :
    (DriverEvent.characters x).isStart = false := rfl

@[simp] theorem DriverEvent.isEnd_startElementNS (n : Name) (q : Option String)
    (a : PyDict Name String) : (DriverEvent.startElementNS n q a).isEnd = false := rfl

@[simp] theorem DriverEvent.isEnd_endElementNS (n : Name) (q : Option String) :
    (DriverEvent.endElementNS n q).isEnd = true := rfl

@[simp] theorem DriverEvent.isEnd_characters (x : String) :
    (DriverEvent.characters x).isEnd = false := rfl

/-- The invariant of the core. -/
structure Core.Inv (k : Core) : Prop where
  header_depth : k.state = .streamHeaderProcessed → 1 ≤ k.depth
  idle_depth : k.state = .started ∨ k.state = .streamFooterProcessed → k.depth = 0
  log_none_iff : k.log = none ↔ k.state = .clean
  balance : ∀ l, k.log = some l → (l.countP DriverEvent.isEnd : Int) +
    (if k.state = .streamHeaderProcessed then k.depth - 1 else 0) = l.countP DriverEvent.isStart

variable {P J E : Type}

namespace Core.Inv

/-- A core in `STREAM_HEADER_PROCESSED` keeps the invariant when the driver has received
`_depth - 1` more starts than ends. -/
theorem header {d : Int} {l : List DriverEvent} (hd : 1 ≤ d)
    (hb : (l.countP DriverEvent.isEnd : Int) + (d - 1) = l.countP DriverEvent.isStart) :
    Core.Inv ⟨.streamHeaderProcessed, d, some l⟩ :=
  ⟨fun _ => hd, by simp, by simp, by simpa using hb⟩

/-- A core in `STARTED` or `STREAM_FOOTER_PROCESSED` keeps the invariant at depth `0` when the
driver has received as many starts as ends. -/
theorem idle {st : ProcessorState} {l : List DriverEvent}
    (hst : st = .started ∨ st = .streamFooterProcessed)
    (hb : l.countP DriverEvent.isEnd = l.countP DriverEvent.isStart) : Core.Inv ⟨st, 0, some l⟩ :=
  ⟨by rcases hst with rfl | rfl <;> simp, fun _ => rfl, by rcases hst with rfl | rfl <;> simp,
    by rcases hst with rfl | rfl <;> simpa using hb⟩

/-- A `CLEAN` core without a driver keeps the invariant. -/
theorem clean (d : Int) : Core.Inv ⟨.clean, d, none⟩ :=
  ⟨by simp, by simp, by simp, by simp⟩

end Core.Inv

variable {P J E : Type}

theorem Core.Inv.init : (XMPPXMLProcessor.init : XMPPXMLProcessor P J).core.Inv :=
  .clean 0

/-- The driver has received no more ends than starts. -/
theorem Core.Inv.ends_le_starts {k : Core} (hk : k.Inv) {l : List DriverEvent}
    (hl : k.log = some l) : l.countP DriverEvent.isEnd ≤ l.countP DriverEvent.isStart := by
  have hb := hk.balance l hl
  split_ifs at hb with h
  · have := hk.header_depth h; omega
  · omega

/-- In a state of the invariant the stream is open only with a driver. -/
theorem Core.Inv.driver_isSome {s : XMPPXMLProcessor P J} (hk : s.core.Inv)
    (h : s.state = .streamHeaderProcessed) : s.driver.isSome := by
  have := hk.log_none_iff
  cases hd : s.driver <;> simp_all [XMPPXMLProcessor.core]

/-- Every step of the abstract machine keeps the invariant, whatever is answered about the
header. -/
theorem Core.Inv.step {k : Core} (hk : k.Inv) (accepted : Bool) (c : PCall P) :
    (Core.step accepted k c).Inv := by
  obtain ⟨st, d, l⟩ := k
  have hb := hk.balance
  cases c
  case startDocument =>
    simp only [Core.step]; split_ifs
    exacts [.idle (.inl rfl) rfl, hk]
  case endDocument =>
    simp only [Core.step]; split_ifs
    exacts [.clean d, hk]
  case startElementNS n q a =>
    cases st
    case started =>
      simp only [Core.step]; split_ifs
      · obtain ⟨l, rfl⟩ := Option.ne_none_iff_exists'.mp (by simpa using hk.log_none_iff)
        have hd : d = 0 := hk.idle_depth (.inl rfl)
        have hl := hb l rfl
        simp at hl
        exact .header (by omega) (by omega)
      · exact hk
    case streamHeaderProcessed =>
      cases l <;> simp only [Core.step]
      · exact hk
      · have hd : 1 ≤ d := hk.header_depth rfl
        have hl := hb _ rfl
        simp at hl
        exact .header (by omega) (by simp; omega)
    all_goals exact hk
  case endElementNS n q =>
    cases st <;> cases l <;> simp only [Core.step]
    case streamHeaderProcessed.some l =>
      have hd : 1 ≤ d := hk.header_depth rfl
      have hl := hb l rfl
      simp at hl
      split_ifs
      · exact .header (by omega) (by simp; omega)
      · exact (show d - 1 = 0 by omega) ▸ .idle (.inr rfl) (by omega)
    all_goals exact hk
  case characters x =>
    cases st <;> cases l <;> simp only [Core.step]
    case streamHeaderProcessed.some l =>
      exact .header (hk.header_depth rfl) (by simpa using hb l rfl)
    all_goals exact hk
  all_goals exact hk

/-! ### The calls the driver receives -/

/-- What a call received in state `st` at depth `depth` adds to the calls the current driver has
received: `startDocument` in `CLEAN` makes a new driver, and a stream callback received in
`STREAM_HEADER_PROCESSED` is handed on, except the `endElementNS` that brings `_depth` to `0`. -/
def expectedAfter (st : ProcessorState) (depth : Int) (acc : List DriverEvent) :
    PCall P → List DriverEvent
  | .startDocument => if st = .clean then [] else acc
  | .startElementNS n q a =>
    if st = .streamHeaderProcessed then acc ++ [.startElementNS n q a] else acc
  | .characters x => if st = .streamHeaderProcessed then acc ++ [.characters x] else acc
  | .endElementNS n q =>
    if st = .streamHeaderProcessed ∧ depth ≠ 1 then acc ++ [.endElementNS n q] else acc
  | _ => acc

/-- The calls the current driver should have received, from the trace of a run. -/
def expectedEvents (trace : List (XMPPXMLProcessor P J × PCall P)) : List DriverEvent :=
  trace.foldl (fun acc p => expectedAfter p.1.state p.1.depth acc p.2) []

/-- Every step of the abstract machine hands the driver what `expectedAfter` says. -/
theorem Core.log_step {k : Core} (hk : k.Inv) {acc : List DriverEvent}
    (hl : ∀ l, k.log = some l → l = acc) (accepted : Bool) (c : PCall P) :
    ∀ l, (Core.step accepted k c).log = some l → l = expectedAfter k.state k.depth acc c := by
  obtain ⟨st, d, lg⟩ := k
  cases c
  case startDocument | endDocument =>
    simp only [Core.step, expectedAfter]; split_ifs <;> first | exact hl | simp
  case startElementNS n q a =>
    cases st <;> cases lg <;> simp only [Core.step, expectedAfter] <;> (try split_ifs) <;> simp_all
  case endElementNS n q =>
    cases st <;> cases lg <;> simp only [Core.step, expectedAfter] <;> (try exact hl)
    case streamHeaderProcessed.none => simp
    case streamHeaderProcessed.some l =>
      have hd : 1 ≤ d := hk.header_depth rfl
      intro l' h
      split_ifs at h ⊢ <;> first | omega | simp_all
  case characters x =>
    cases st <;> cases lg <;> simp only [Core.step, expectedAfter] <;> simp_all
  all_goals exact hl

/-! ### Runs -/

/-- Over any sequence of callbacks from a state of the invariant whose driver has received `acc`,
the invariant holds at the end and the driver has received what the trace says. -/
theorem runP_inv (env : ProcessorEnv J E) (cs : List (PCall P)) {s : XMPPXMLProcessor P J}
    (acc : List DriverEvent) (hk : s.core.Inv) (hl : ∀ l, s.core.log = some l → l = acc) :
    (runP env cs s).core.Inv ∧ ∀ l, (runP env cs s).core.log = some l →
      l = (steps env s cs).foldl (fun acc p => expectedAfter p.1.state p.1.depth acc p.2) acc := by
  induction cs generalizing s acc with
  | nil => exact ⟨hk, hl⟩
  | cons c cs ih =>
    obtain ⟨b, hb⟩ := core_dispatchP env s hk.driver_isSome c
    exact ih _ (hb ▸ hk.step b c) (hb ▸ Core.log_step hk hl b c)

/-- **The stream invariant of the processor.** After any sequence of callbacks on a fresh
processor, in any order and each returning or raising: the state and depth agree (`Core.Inv`),
the current driver has received exactly the stream callbacks received in
`STREAM_HEADER_PROCESSED` since it was made, without the end of the stream element, and no more
ends than starts; and a callback that raises leaves state, depth and driver as they were. -/
theorem processor_invariant_reachable (env : ProcessorEnv J E) (cs : List (PCall P)) :
    (runP env cs XMPPXMLProcessor.init).core.Inv ∧
    (∀ d, (runP env cs XMPPXMLProcessor.init).driver = some d →
      d.received = expectedEvents (steps env XMPPXMLProcessor.init cs) ∧
      d.received.countP DriverEvent.isEnd ≤ d.received.countP DriverEvent.isStart) ∧
    ∀ c e, (exec (dispatchP env c) (runP env cs XMPPXMLProcessor.init)).1 = .error e →
      (exec (dispatchP env c) (runP env cs XMPPXMLProcessor.init)).2.core =
        (runP env cs XMPPXMLProcessor.init).core := by
  obtain ⟨hk, hl⟩ := runP_inv env cs [] Core.Inv.init (by simp [XMPPXMLProcessor.init,
    XMPPXMLProcessor.core])
  refine ⟨hk, fun d hd => ?_, fun c e h => dispatchP_error_core env _ hk.driver_isSome c e h⟩
  have hlog : (runP env cs XMPPXMLProcessor.init).core.log = some d.received := by
    simp [XMPPXMLProcessor.core, hd]
  exact ⟨hl _ hlog, hk.ends_le_starts hlog⟩

/-! ### The driver never sees an unbalanced end -/

/-- A call leaves the driver's calls as they were, makes a new driver, or hands it one call. -/
theorem expectedAfter_cases (st : ProcessorState) (depth : Int) (acc : List DriverEvent)
    (c : PCall P) : expectedAfter st depth acc c = [] ∨ expectedAfter st depth acc c = acc ∨
      ∃ ev, expectedAfter st depth acc c = acc ++ [ev] := by
  cases c <;> simp only [expectedAfter] <;> (try split_ifs) <;> simp

/-- Every prefix of `l` has at least as many starts as ends. -/
def NeverUnbalanced (l : List DriverEvent) : Prop :=
  ∀ pre, pre <+: l → pre.countP DriverEvent.isEnd ≤ pre.countP DriverEvent.isStart

theorem Core.neverUnbalanced_step {k : Core} (hk : k.Inv)
    (hn : ∀ l, k.log = some l → NeverUnbalanced l) (accepted : Bool) (c : PCall P) :
    ∀ l, (Core.step accepted k c).log = some l → NeverUnbalanced l := by
  intro l' hl' pre hp
  have hacc : NeverUnbalanced (k.log.getD []) := by
    cases h : k.log
    · intro pre hp; rw [List.prefix_nil.mp hp]; simp
    · exact hn _ h
  have hl : l' = expectedAfter k.state k.depth (k.log.getD []) c :=
    Core.log_step hk (fun l hl => by simp [hl]) accepted c l' hl'
  rcases expectedAfter_cases k.state k.depth (k.log.getD []) c with h | h | ⟨ev, h⟩ <;>
    rw [hl, h] at hp
  · rw [List.prefix_nil.mp hp]; simp
  · exact hacc pre hp
  · rcases List.prefix_concat_iff.mp hp with rfl | hp
    · exact (hk.step accepted c).ends_le_starts (by rw [hl', hl, h])
    · exact hacc pre hp

theorem runP_neverUnbalanced (env : ProcessorEnv J E) (cs : List (PCall P))
    {s : XMPPXMLProcessor P J} (hk : s.core.Inv) (hn : ∀ l, s.core.log = some l → NeverUnbalanced l) :
    ∀ l, (runP env cs s).core.log = some l → NeverUnbalanced l := by
  induction cs generalizing s with
  | nil => exact hn
  | cons c cs ih =>
    obtain ⟨b, hb⟩ := core_dispatchP env s hk.driver_isSome c
    exact ih (hb ▸ hk.step b c) (hb ▸ Core.neverUnbalanced_step hk hn b c)

/-- **The driver never sees an unbalanced end.** After any sequence of callbacks on a fresh
processor, every prefix of the calls the current driver has received has at least as many
`startElementNS` as `endElementNS` calls: the end of the stream element is never handed on, and no
end reaches the driver before its start. -/
theorem driver_never_sees_unbalanced_end (env : ProcessorEnv J E) (cs : List (PCall P))
    (d : SAXDriver P) (hd : (runP env cs XMPPXMLProcessor.init).driver = some d)
    (pre : List DriverEvent) (hp : pre <+: d.received) :
    pre.countP DriverEvent.isEnd ≤ pre.countP DriverEvent.isStart :=
  runP_neverUnbalanced env cs Core.Inv.init (by simp [XMPPXMLProcessor.init, XMPPXMLProcessor.core])
    d.received (by simp [XMPPXMLProcessor.core, hd]) pre hp

/-- A collaborator in which `int` reads `"0"` and `"1"` and every address is a JID. -/
def digitEnv : ProcessorEnv String Unit :=
  ⟨"x", "s", fun t => if t = "1" then .ok 1 else if t = "0" then .ok 0 else .error t,
    fun t => .ok t, fun _ => false⟩

/-- The callbacks for `<stream version="1.0" from="b" id="i"><m/>` in the namespace `x`. -/
def oneStanzaCalls : List (PCall Unit) :=
  [.startDocument,
    .startElementNS ⟨some "x", "stream"⟩ none
      (((PyDict.empty.assign ⟨none, "version"⟩ "1.0").assign ⟨none, "from"⟩ "b").assign ⟨none, "id"⟩ "i"),
    .startElementNS ⟨none, "m"⟩ none .empty, .endElementNS ⟨none, "m"⟩ none]

theorem driver_never_sees_unbalanced_end_in_stream :
    (runP digitEnv oneStanzaCalls XMPPXMLProcessor.init).driver =
      some ⟨none, [.startElementNS ⟨none, "m"⟩ none .empty, .endElementNS ⟨none, "m"⟩ none]⟩ ∧
    [DriverEvent.startElementNS ⟨none, "m"⟩ none .empty] <+:
      [DriverEvent.startElementNS ⟨none, "m"⟩ none .empty, .endElementNS ⟨none, "m"⟩ none] ∧
    [DriverEvent.startElementNS ⟨none, "m"⟩ none .empty].countP DriverEvent.isEnd ≤
      [DriverEvent.startElementNS ⟨none, "m"⟩ none .empty].countP DriverEvent.isStart :=
  ⟨rfl, ⟨_, rfl⟩, driver_never_sees_unbalanced_end digitEnv oneStanzaCalls _ rfl _ ⟨_, rfl⟩⟩

end XmppXml
