import SqlText.Proofs.Clause.Reading
import SqlText.Proofs.Statement.Guards

/-!
# Reading — requests taken back from their statement

An update is written in two lists, of assignments and of criteria, with a keyword
between them. Nothing is escaped: a value may contain the keyword, a separator or a
joiner. What keeps the lists apart is that a value ends at its quote, so that behind a
value stands either a separator or the keyword.

For requests that can be read back the statement of an update tells its assignments and its
criteria, and the statement of a deletion its criteria (`build_inj_of_readable`). The statement
of an insertion tells its assignments, of which less is asked (`build_insert_eq_iff`).
-/

namespace SqlText

variable {table : String} {assignments assignments' : List Assignment}
  {criteria criteria' : List Criterion}

/-- Criteria that can be read back are not silent: a comparison has a text. -/
theorem Clause.Where.Readable.not_silent (h : Readable criteria) (hne : criteria ≠ []) :
    ¬ Silent criteria := by
  intro hs
  obtain ⟨c, hc⟩ := List.exists_mem_of_ne_nil criteria hne
  have hrel := (h.each c hc).relation
  rw [hs.1 c hc] at hrel
  exact absurd hrel (by decide)

namespace Statement

open Clause (Assignments.Legible Assignments.Listable Where.Readable)

/-- The list of assignments does not go on with the keyword. -/
theorem where_ne_separator (condition s : String) :
    " WHERE " ++ condition ≠ Clause.Assignments.separator ++ s := by
  intro h
  rw [← String.toList_inj] at h
  simp [Clause.Assignments.separator] at h

theorem update?_inj (hne : assignments ≠ []) (hne' : assignments' ≠ [])
    (hc : criteria ≠ []) (hc' : criteria' ≠ [])
    (ha : ∀ a ∈ assignments, Assignments.Legible a)
    (ha' : ∀ a ∈ assignments', Assignments.Legible a)
    (hr : Where.Readable criteria) (hr' : Where.Readable criteria')
    (h : update? table assignments criteria = update? table assignments' criteria') :
    assignments = assignments' ∧ criteria = criteria' := by
  rw [update?_eq, update?_eq, if_neg (not_or.mpr ⟨hne, hr.not_silent hc⟩),
    if_neg (not_or.mpr ⟨hne', hr'.not_silent hc'⟩), Option.some_inj] at h
  simp only [String.append_assoc, String.append_right_inj] at h
  obtain ⟨hassignments, hrest⟩ := Clause.Assignments.build_append_inj ha ha' hne hne'
    (where_ne_separator _) (where_ne_separator _) h
  exact ⟨hassignments, Clause.Where.build_inj hr hr' ((String.append_right_inj _).mp hrest)⟩

theorem delete?_inj (hc : criteria ≠ []) (hc' : criteria' ≠ [])
    (hr : Where.Readable criteria) (hr' : Where.Readable criteria')
    (h : delete? table criteria = delete? table criteria') : criteria = criteria' := by
  rw [delete?_eq, delete?_eq, if_neg (hr.not_silent hc), if_neg (hr'.not_silent hc'),
    Option.some_inj] at h
  exact Clause.Where.build_inj hr hr' ((String.append_right_inj _).mp h)

theorem insert?_inj (hne : assignments ≠ []) (hne' : assignments' ≠ [])
    (ha : ∀ a ∈ assignments, Assignments.Listable a)
    (ha' : ∀ a ∈ assignments', Assignments.Listable a)
    (h : insert? table assignments = insert? table assignments') : assignments = assignments' := by
  rw [insert?_eq, insert?_eq, if_neg hne, if_neg hne', Option.some_inj] at h
  exact Clause.Assignments.buildColumnsAndValues_inj ha ha' hne hne'
    ((String.append_right_inj _).mp h)

end Statement

namespace Builder

open Clause (Assignments.Legible Assignments.Listable Where.Readable)

theorem statement?_eq_of_result {b : Builder} {request request' : Request b.kind.verb}
    (h : (b.build request).result = (b.build request').result) :
    request.statement? b.table = request'.statement? b.table := by
  rw [result_build, result_build] at h
  exact Except.ok.inj h

/-- **NO TWO READINGS**: what is written for readable requests tells them apart. Two updates
    of one target that are written alike have the same assignments and the same criteria,
    and two deletions have the same criteria. -/
theorem build_inj_of_readable (target : Target) {criteria criteria' : List Criterion}
    (hc : criteria ≠ []) (hc' : criteria' ≠ [])
    (hr : Where.Readable criteria) (hr' : Where.Readable criteria') :
    (∀ assignments assignments' : List Assignment, assignments ≠ [] → assignments' ≠ [] →
      (∀ a ∈ assignments, Assignments.Legible a) →
      (∀ a ∈ assignments', Assignments.Legible a) →
      ((standard .update target).build (.update assignments criteria)).result =
        ((standard .update target).build (.update assignments' criteria')).result →
      assignments = assignments' ∧ criteria = criteria')
    ∧ (((standard .delete target).build (.delete criteria)).result =
        ((standard .delete target).build (.delete criteria')).result →
      criteria = criteria') := by
  constructor
  · intro assignments assignments' hne hne' ha ha' h
    exact Statement.update?_inj hne hne' hc hc' ha ha' hr hr' (statement?_eq_of_result h)
  · intro h
    exact Statement.delete?_inj hc hc' hr hr' (statement?_eq_of_result h)

/-- A value may contain the keyword, a joiner or what opens a group: two updates whose values
    quote each other's text are written differently, and so are the deletions. -/
theorem build_ne_of_quoting_values :
    ((standard .update (.named "T")).build (.update [⟨"A", "1 WHERE B IN ("⟩]
        [⟨"B", .equal, ", "⟩, ⟨"B", .equal, ") AND C<"⟩])).result
      ≠ ((standard .update (.named "T")).build (.update [⟨"A", "1"⟩]
        [⟨"B", .equal, ", "⟩, ⟨"C", .lessOrEqual, " AND "⟩])).result
    ∧ ((standard .delete (.named "T")).build (.delete
        [⟨"B", .equal, ", "⟩, ⟨"B", .equal, ") AND C<"⟩])).result
      ≠ ((standard .delete (.named "T")).build (.delete
        [⟨"B", .equal, ", "⟩, ⟨"C", .lessOrEqual, " AND "⟩])).result := by
  obtain ⟨hupdate, hdelete⟩ := @build_inj_of_readable (.named "T")
    [⟨"B", .equal, ", "⟩, ⟨"B", .equal, ") AND C<"⟩]
    [⟨"B", .equal, ", "⟩, ⟨"C", .lessOrEqual, " AND "⟩]
    (by decide) (by decide) (by decide) (by decide)
  constructor
  · intro h
    obtain ⟨hassignments, -⟩ :=
      hupdate _ _ (by decide) (by decide) (by decide) (by decide) h
    exact absurd hassignments (by decide)
  · intro h
    exact absurd (hdelete h) (by decide)

/-- **NO TWO INSERTIONS**: two insertions into one target, neither of them empty, are written
    alike exactly if they have the same columns and the same values in the same order. -/
theorem build_insert_eq_iff (target : Target) {assignments assignments' : List Assignment}
    (hne : assignments ≠ []) (hne' : assignments' ≠ [])
    (ha : ∀ a ∈ assignments, Assignments.Listable a)
    (ha' : ∀ a ∈ assignments', Assignments.Listable a) :
    ((standard .insert target).build (.insert assignments)).result =
        ((standard .insert target).build (.insert assignments')).result ↔
      assignments = assignments' := by
  constructor
  · intro h
    exact Statement.insert?_inj hne hne' ha ha' (statement?_eq_of_result h)
  · rintro rfl
    rfl

/-- Columns without a name, and values that look like what stands between values or lists. -/
theorem build_insert_ne_of_separators :
    ((standard .insert (.named "T")).build
        (.insert [⟨"", ", "⟩, ⟨"", ") VALUES ("⟩])).result
      ≠ ((standard .insert (.named "T")).build
        (.insert [⟨"", ", "⟩, ⟨"", ""⟩, ⟨"", ") VALUES ("⟩])).result := by
  intro h
  have hsame := (build_insert_eq_iff (.named "T") (by decide) (by decide) (by decide)
    (by decide)).mp h
  exact absurd hsame (by decide)

end Builder

end SqlText
