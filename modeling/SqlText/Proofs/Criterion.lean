import SqlText.Criterion

/-!
# Criteria — what the text of one criterion tells

A criterion that stands alone has a text unless it constrains nothing
(`render_eq_empty_iff`). Its value stands between single quotes, whatever the relation
(`quotedValue_eq`); a pattern adds its wildcards inside them.
-/

namespace SqlText.Criterion

variable {c : Criterion}

theorem render_eq_empty_iff : c.render = "" ↔ c.relation = .all := by
  constructor
  · intro h
    cases hr : c.relation with
    | all => rfl
    | _ => simp [render, hr, Relation.operator] at h
  · intro h
    simp [render, h]

/-- What stands between the quotes. -/
def quotedText (c : Criterion) : String :=
  if c.relation.isPattern then "%" ++ c.value ++ "%" else c.value

theorem quotedValue_eq (c : Criterion) : c.quotedValue = "'" ++ c.quotedText ++ "'" := by
  rw [quotedValue, quotedText]
  by_cases h : c.relation.isPattern = true
  · rw [if_pos h, if_pos h, ← String.toList_inj]
    simp
  · rw [if_neg h, if_neg h]

theorem value_eq_of_quotedText {d : Criterion} (hr : c.relation = d.relation)
    (h : c.quotedText = d.quotedText) : c.value = d.value := by
  rw [quotedText, quotedText, hr] at h
  by_cases hp : d.relation.isPattern = true
  · rw [if_pos hp, if_pos hp, String.append_left_inj, String.append_right_inj] at h
    exact h
  · rw [if_neg hp, if_neg hp] at h
    exact h

/-- A criterion is known from its column, its relation and the text between the quotes. -/
theorem eq_of_quotedText {d : Criterion} (hc : c.column = d.column)
    (hr : c.relation = d.relation) (hq : c.quotedText = d.quotedText) : c = d := by
  have hv := value_eq_of_quotedText hr hq
  cases c
  cases d
  exact (Criterion.mk.injEq ..).mpr ⟨hc, hr, hv⟩

/-- The quotes around a text without a quote are the only ones. -/
theorem quote_notMem_quotedText (h : '\'' ∉ c.value.toList) : '\'' ∉ c.quotedText.toList := by
  rw [quotedText]
  by_cases hp : c.relation.isPattern = true
  · rw [if_pos hp]
    simpa using h
  · rw [if_neg hp]
    exact h

end SqlText.Criterion
