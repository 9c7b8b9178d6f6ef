import XmppXml.Processor.Invariant

/-!
# The stream header

In `STARTED` the first element must be the stream element, and its attributes are read in the
order of the source: `version` (default `"0.9"`), whose pieces must be the integers `1` and `0`;
the optional `to`; the required `from`; the required `id`. Each reader records its attribute or
raises the stream error of its check, so the header is accepted exactly when every check passes,
and then the four values are what the processor records (`startElementNS_header_iff`).
-/

namespace XmppXml

namespace XMPPXMLProcessor

variable {P J E : Type} (env : ProcessorEnv J E) (attributes : PyDict Name String)
  {s s' : XMPPXMLProcessor P J}

theorem readVersion_ok :
    exec (readVersion env attributes) s = (.ok (), s') ↔
      (splitDot ((attributes.get? ⟨none, "version"⟩).getD "0.9")).mapM env.parseInt = .ok [1, 0] ∧
      s' = { s with remoteVersion := some [1, 0] } := by
  unfold readVersion
  split <;> rename_i v h <;> rw [h]
  · simp
  · by_cases hv : v = [1, 0] <;> simp [hv, eq_comm]

theorem readTo_ok :
    exec (readTo env attributes) s = (.ok (), s') ↔
      ∃ t, (attributes.get? ⟨none, "to"⟩).mapM env.jidFromstr = .ok t ∧
        s' = { s with remoteTo := some t } := by
  unfold readTo
  split <;> rename_i h
  · simp [h, Option.mapM, pure, Except.pure, eq_comm]
  · split <;> rename_i hj <;> simp [h, hj, Option.mapM, bind, Except.bind, pure, Except.pure, eq_comm]

theorem readFrom_ok :
    exec (readFrom env attributes) s = (.ok (), s') ↔
      ∃ f j, attributes.get? ⟨none, "from"⟩ = some f ∧ env.jidFromstr f = .ok j ∧
        s' = { s with remoteFrom := some j } := by
  unfold readFrom
  split <;> rename_i h
  · simp [h]
  · split <;> rename_i hj
    · simp [h, hj, eq_comm]
    · simp only [exec_throw, h, hj]; split_ifs <;> simp [hj]

theorem readId_ok :
    exec (readId env attributes) s = (.ok (), s') ↔
      ∃ i, attributes.get? ⟨none, "id"⟩ = some i ∧ s' = { s with remoteId := some i } := by
  unfold readId
  split <;> rename_i h <;> simp [h, eq_comm]

/-- The four readers return exactly when every attribute passes its check, and then record the
version `1.0` and the three values read. -/
theorem readHeader_ok :
    exec (readHeader env attributes) s = (.ok (), s') ↔
      (splitDot ((attributes.get? ⟨none, "version"⟩).getD "0.9")).mapM env.parseInt = .ok [1, 0] ∧
      ∃ t f j i, (attributes.get? ⟨none, "to"⟩).mapM env.jidFromstr = .ok t ∧
        attributes.get? ⟨none, "from"⟩ = some f ∧ env.jidFromstr f = .ok j ∧
        attributes.get? ⟨none, "id"⟩ = some i ∧
        s' = { s with
          remoteVersion := some [1, 0], remoteTo := some t, remoteFrom := some j, remoteId := some i } := by
  simp only [readHeader, exec_bind_ok_iff]
  constructor
  · rintro ⟨⟨⟩, _, h₁, ⟨⟩, _, h₂, ⟨⟩, _, h₃, h₄⟩
    obtain ⟨hv, rfl⟩ := (readVersion_ok env attributes).1 h₁
    obtain ⟨t, ht, rfl⟩ := (readTo_ok env attributes).1 h₂
    obtain ⟨f, j, hf, hj, rfl⟩ := (readFrom_ok env attributes).1 h₃
    obtain ⟨i, hi, rfl⟩ := (readId_ok env attributes).1 h₄
    exact ⟨hv, t, f, j, i, ht, hf, hj, hi, rfl⟩
  · rintro ⟨hv, t, f, j, i, ht, hf, hj, hi, rfl⟩
    exact ⟨(), _, (readVersion_ok env attributes).2 ⟨hv, rfl⟩, (), _,
      (readTo_ok env attributes).2 ⟨t, ht, rfl⟩, (), _, (readFrom_ok env attributes).2 ⟨f, j, hf, hj, rfl⟩,
      (readId_ok env attributes).2 ⟨i, hi, rfl⟩⟩

/-- **When the stream header is accepted.** In `STARTED`, `startElementNS` returns exactly when
the element is the stream element, the pieces of its `version` are the integers `1` and `0`, its
`to` is absent or a JID, its `from` is present and a JID, and its `id` is present. The processor
then records the version `(1, 0)` and the three values, moves to `STREAM_HEADER_PROCESSED`, and
counts the stream element in `_depth`; nothing else changes, and nothing reaches the driver. -/
theorem startElementNS_header_iff (name : Name) (qname : Option String) (hs : s.state = .started) :
    exec (startElementNS env name qname attributes) s = (.ok (), s') ↔
      name = ⟨some env.xmlstream, "stream"⟩ ∧
      (splitDot ((attributes.get? ⟨none, "version"⟩).getD "0.9")).mapM env.parseInt = .ok [1, 0] ∧
      ∃ t f j i, (attributes.get? ⟨none, "to"⟩).mapM env.jidFromstr = .ok t ∧
        attributes.get? ⟨none, "from"⟩ = some f ∧ env.jidFromstr f = .ok j ∧
        attributes.get? ⟨none, "id"⟩ = some i ∧
        s' = { s with
          state := .streamHeaderProcessed, depth := s.depth + 1, remoteVersion := some [1, 0],
          remoteTo := some t, remoteFrom := some j, remoteId := some i } := by
  rw [exec_startElementNS, if_neg (by simp [hs]), if_neg (by simp [hs]), acceptHeader]
  by_cases hn : name = ⟨some env.xmlstream, "stream"⟩
  · simp only [hn, ne_eq, not_true_eq_false, ↓reduceIte, exec_bind_ok_iff, true_and]
    constructor
    · rintro ⟨⟨⟩, _, h, h'⟩
      obtain ⟨hv, t, f, j, i, ht, hf, hj, hi, rfl⟩ := (readHeader_ok env attributes).1 h
      cases h'
      exact ⟨hv, t, f, j, i, ht, hf, hj, hi, rfl⟩
    · rintro ⟨hv, t, f, j, i, ht, hf, hj, hi, rfl⟩
      exact ⟨(), _, (readHeader_ok env attributes).2 ⟨hv, t, f, j, i, ht, hf, hj, hi, rfl⟩, rfl⟩
  · simp [hn]

/-- The attributes of the header `<stream:stream version="1.0" from="a@b" id="s1">`. -/
def versionFromIdAttributes : PyDict Name String :=
  ((PyDict.empty.assign ⟨none, "version"⟩ "1.0").assign ⟨none, "from"⟩ "a@b").assign ⟨none, "id"⟩ "s1"

/-- The processor of `digitEnv` after `startDocument`. -/
def startedProcessor : XMPPXMLProcessor Unit String :=
  ⟨.started, none, 0, some ⟨none, []⟩, none, none, none, none⟩

theorem startElementNS_header_iff_version_from_id :
    exec (startElementNS digitEnv ⟨some "x", "stream"⟩ none versionFromIdAttributes) startedProcessor =
      (.ok (), { startedProcessor with
        state := .streamHeaderProcessed, depth := 1, remoteVersion := some [1, 0],
        remoteTo := some none, remoteFrom := some "a@b", remoteId := some "s1" }) :=
  (startElementNS_header_iff digitEnv versionFromIdAttributes _ none rfl).2
    ⟨rfl, rfl, none, "a@b", "a@b", "s1", rfl, rfl, rfl, rfl, rfl⟩

end XMPPXMLProcessor

end XmppXml
