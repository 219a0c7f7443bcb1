import Mathlib.Data.List.Basic

/-!
# What happened since

A history is a list of events, the oldest one first. Something holds since an event if there was
such an event, and no later one has ended it. Whether it holds after one more event depends on that
event and on whether it held before.
-/

namespace Past

variable {ε : Type*}

/-- There was an event that begins it, after what had happened before, and none later ends it. -/
def Since (begins : List ε → ε → Prop) (ends : ε → Prop) (history : List ε) : Prop :=
  ∃ before event after, history = before ++ event :: after ∧ begins before event ∧
    ∀ later ∈ after, ¬ends later

variable {begins : List ε → ε → Prop} {ends : ε → Prop}

/-- Nothing holds at first. -/
theorem not_since_nil : ¬Since begins ends [] := by
  rintro ⟨before, event, after, split, _⟩
  simp at split

/-- After one more event, it holds if that event begins it, or if it held and is not ended. -/
theorem since_concat (history : List ε) (last : ε) :
    Since begins ends (history ++ [last]) ↔
      begins history last ∨ Since begins ends history ∧ ¬ends last := by
  constructor
  · rintro ⟨before, event, after, split, begun, kept⟩
    rcases List.eq_nil_or_concat after with none | ⟨earlier, final, whole⟩
    · rw [none] at split
      obtain ⟨rfl, same⟩ := List.append_inj' split rfl
      rw [List.singleton_inj.mp same]
      exact .inl begun
    · rw [List.concat_eq_append] at whole
      rw [whole, ← List.cons_append, ← List.append_assoc] at split
      obtain ⟨rfl, same⟩ := List.append_inj' split rfl
      rw [whole] at kept
      refine .inr ⟨⟨before, event, earlier, rfl, begun, fun later member => ?_⟩, ?_⟩
      · exact kept later (List.mem_append_left _ member)
      · rw [List.singleton_inj.mp same]
        exact kept final (List.mem_append_right _ (List.mem_singleton_self _))
  · rintro (begun | ⟨⟨before, event, after, rfl, begun, kept⟩, stays⟩)
    · exact ⟨history, last, [], rfl, begun, fun later member => absurd member List.not_mem_nil⟩
    · refine ⟨before, event, after ++ [last], by simp, begun, fun later member => ?_⟩
      rcases List.mem_append.mp member with old | new
      · exact kept later old
      · rw [List.mem_singleton.mp new]
        exact stays

/-- Every event is fine after what had happened before it. -/
def Always (fine : List ε → ε → Prop) (history : List ε) : Prop :=
  ∀ before event after, history = before ++ event :: after → fine before event

variable {fine : List ε → ε → Prop}

/-- Nothing has happened that could not be fine. -/
theorem always_nil : Always fine [] := by
  intro before event after split
  simp at split

/-- One more event. -/
theorem always_concat (history : List ε) (last : ε) :
    Always fine (history ++ [last]) ↔ Always fine history ∧ fine history last := by
  constructor
  · intro always
    refine ⟨fun before event after split => ?_, always history last [] rfl⟩
    exact always before event (after ++ [last]) (by rw [split]; simp)
  · rintro ⟨always, here⟩ before event after split
    rcases List.eq_nil_or_concat after with none | ⟨earlier, final, whole⟩
    · rw [none] at split
      obtain ⟨rfl, same⟩ := List.append_inj' split rfl
      rwa [← List.singleton_inj.mp same]
    · rw [List.concat_eq_append] at whole
      rw [whole, ← List.cons_append, ← List.append_assoc] at split
      exact always before event earlier (List.append_inj' split rfl).1

end Past
