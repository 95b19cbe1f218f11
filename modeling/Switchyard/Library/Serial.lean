import Mathlib.Data.List.Nodup

/-! Writers that take turns on one stream. Whoever has handed the stream on
never writes again, so the stream is a row of blocks, one for each writer. -/

namespace Switchyard.Library

variable {ω β : Type} [DecidableEq ω]

/-- What one writer put into the stream. -/
def written (writer : ω) (stream : List (ω × β)) : List β :=
  (stream.filter fun entry => entry.1 = writer).map Prod.snd

/-- The stream is the blocks of these writers, in this order. -/
structure Serial (stream : List (ω × β)) (order : List ω) : Prop where
  distinct : order.Nodup
  blocks : stream.map Prod.snd = order.flatMap fun writer => written writer stream
  listed : ∀ writer, writer ∈ order ↔ written writer stream ≠ []

variable {stream : List (ω × β)} {order : List ω} {writer other : ω} {item : β}

@[simp] theorem written_nil : written writer ([] : List (ω × β)) = [] := rfl

theorem written_push : written writer (stream ++ [(writer, item)]) = written writer stream ++ [item] := by
  simp [written]

theorem written_other (different : writer ≠ other) :
    written other (stream ++ [(writer, item)]) = written other stream := by
  simp [written, different]

private theorem flatMap_other {writers : List ω} (absent : writer ∉ writers) :
    (writers.flatMap fun other => written other (stream ++ [(writer, item)])) =
      writers.flatMap fun other => written other stream := by
  apply List.flatMap_congr
  intro other listed
  apply written_other
  rintro rfl
  exact absent listed

theorem Serial.nil : Serial ([] : List (ω × β)) [] := ⟨List.nodup_nil, rfl, fun _ => by simp⟩

/-- A writer that is new to the stream. -/
theorem Serial.begin (serial : Serial stream order) (fresh : writer ∉ order) :
    Serial (stream ++ [(writer, item)]) (order ++ [writer]) := by
  have empty : written writer stream = [] := by
    by_contra begun
    exact fresh ((serial.listed writer).mpr begun)
  refine ⟨?_, ?_, ?_⟩
  · refine List.nodup_append.mpr ⟨serial.distinct, List.nodup_singleton _, ?_⟩
    rintro other listed _ single rfl
    exact fresh (List.mem_singleton.mp single ▸ listed)
  · rw [List.flatMap_append, flatMap_other fresh, ← serial.blocks, List.map_append]
    simp [written_push, empty]
  · intro other
    by_cases same : other = writer
    · subst same
      simp [written_push]
    · rw [written_other (Ne.symm same), ← serial.listed other]
      simp [same]

/-- The writer of the last block writes on. -/
theorem Serial.continue {earlier : List ω} (serial : Serial stream (earlier ++ [writer])) :
    Serial (stream ++ [(writer, item)]) (earlier ++ [writer]) := by
  have fresh : writer ∉ earlier := by
    intro listed
    exact (List.nodup_append.mp serial.distinct).2.2 writer listed writer (List.mem_singleton.mpr rfl) rfl
  refine ⟨serial.distinct, ?_, ?_⟩
  · have blocks := serial.blocks
    rw [List.flatMap_append] at blocks ⊢
    rw [flatMap_other fresh, List.map_append, blocks]
    simp [written_push]
  · intro other
    by_cases same : other = writer
    · subst same
      simp [written_push]
    · rw [written_other (Ne.symm same)]
      exact serial.listed other

end Switchyard.Library
