import SqlText.Proofs.Clause.Runs

/-!
# Ranges — where the two halves of a range stay together

A range is asked for by two criteria, its start and its end, next to each other on one
column. Grouping passes over the start when it looks ahead and over the end when it looks
back, and so the two halves meet — as long as no third criterion on the column stands next
to them. One in front takes the start into its group, one behind takes the end into its own,
and the text falls apart (`not_forall_build_range`).

The main statement says that this is the only way to lose a range: among criteria whose
ranges are all paired, the range is written as it should be exactly if its column is not
the column of a neighbour (`build_range_iff`). If the list in front ends on the column, the
two texts already differ at its last criterion, which another neighbour sends to another
place (`write_ne_of_next`); otherwise, if the list behind begins on the column, they differ
at the end of the range.
-/

namespace SqlText.Clause.Where

variable {b c e : Criterion} {p s : List Criterion}

/-- The two criteria are the halves of one range. -/
structure IsRange (b e : Criterion) : Prop where
  starts : b.relation = .betweenStart
  ends : e.relation = .betweenEnd
  column : b.column = e.column

/-- Each start of a range has its end right behind it, and each end its start right before. -/
def WellPaired (criteria : List Criterion) : Prop :=
  ∀ front c back, criteria = front ++ c :: back →
    (c.relation = .betweenStart → ∃ e ∈ back.head?, IsRange c e)
      ∧ (c.relation = .betweenEnd → ∃ b ∈ front.getLast?, IsRange b c)

/-- Without halves of ranges there is nothing to pair. -/
theorem wellPaired_of_whole
    (h : ∀ c ∈ p, c.relation ≠ .betweenStart ∧ c.relation ≠ .betweenEnd) : WellPaired p := by
  rintro front c back rfl
  obtain ⟨hstart, hend⟩ := h c (by simp)
  exact ⟨fun hc => absurd hc hstart, fun hc => absurd hc hend⟩

/-- Paired criteria do not end in the start of a range. -/
theorem WellPaired.last_ne_start {front : List Criterion} (h : WellPaired (front ++ [c])) :
    c.relation ≠ .betweenStart := by
  intro hc
  obtain ⟨e, he, -⟩ := (h front c [] rfl).1 hc
  exact absurd he (Option.not_mem_none e)

/-- Among paired criteria the end of a range follows a criterion on its column. -/
theorem WellPaired.sharesColumn_of_end {front : List Criterion}
    (h : WellPaired (front ++ [c])) (hc : c.relation = .betweenEnd) :
    sharesColumn c front.getLast? = true := by
  obtain ⟨b, hb, hrange⟩ := (h front c [] rfl).2 hc
  rw [Option.mem_def.mp hb]
  exact sharesColumn_some.mpr hrange.column

theorem build_range (h : IsRange b e) :
    build [b, e] = rangeText b.column b.quotedValue e.quotedValue := by
  rw [build_eq_iff]
  exact accumulate_of_reads (.range h.starts h.ends) (List.isChain_pair.mpr h.column)

-- ── Texts that cannot agree ───────────────────────────────────────────────────

/-- What opens a group is not how a criterion stands alone before its column is named
    again. -/
theorem opens_ne_stands {column t t' : String} (hc : c.column = column)
    (hend : c.relation ≠ .betweenEnd) :
    Place.opens.write c ++ t ≠ Place.stands.write c ++ (column ++ (" BETWEEN (CAST(" ++ t')) := by
  intro h
  subst hc
  rw [← String.toList_inj] at h
  cases hr : c.relation with
  | betweenEnd => exact hend hr
  | any =>
      -- the column stands behind a bracket on one side and before a blank on the other
      have hcut : '(' :: (c.column.toList ++ _) = c.column.toList ++ ' ' :: _ :=
        Eq.symm (by simpa [Place.write, Criterion.render, hr, joiner] using h)
      exact Text.cons_append_ne (by decide) _ _ _ hcut
  | _ => simp [Place.write, Criterion.render, hr, Relation.operator, joiner] at h

/-- The last criterion of a list of paired ranges is written differently if it is followed
    by a criterion on its column: it then opens or continues a group. -/
theorem write_ne_of_next {front : List Criterion} (hp : WellPaired (front ++ [c]))
    (hcb : c.column = b.column) (t t' : String) :
    (place front.getLast? c (some b)).write c ++ t ≠
      (place front.getLast? c none).write c ++ (b.column ++ (" BETWEEN (CAST(" ++ t')) := by
  have hnext : sharesColumn c (some b) = true := sharesColumn_some.mpr hcb.symm
  have hstart : c.relation ≠ .betweenStart := hp.last_ne_start
  by_cases hprev : sharesColumn c front.getLast? = true
  · rw [place_eq_continues hnext hprev hstart]
    by_cases hend : c.relation = .betweenEnd
    · have hplace : place front.getLast? c none = .stands :=
        place_eq_stands_iff.mpr ⟨fun h => absurd h Bool.false_ne_true, fun _ => hend⟩
      rw [hplace, ne_eq, ← String.toList_inj]
      simp [Place.write, Criterion.render, hend, Criterion.quotedValue_eq]
    · rw [place_eq_closes rfl hprev hend, ne_eq, ← String.toList_inj]
      simp [Place.write, separator]
  · have hend : c.relation ≠ .betweenEnd := fun h => hprev (hp.sharesColumn_of_end h)
    have hprev' : sharesColumn c front.getLast? = false := by simpa using hprev
    have hplace : place front.getLast? c none = .stands :=
      place_eq_stands_iff.mpr ⟨fun h => absurd h Bool.false_ne_true, fun h => absurd h hprev⟩
    rw [place_eq_opens hnext hprev' hstart, hplace]
    exact opens_ne_stands hcb hend

/-- The start of a range is written in full, whatever comes after the range. -/
theorem accumulate_of_range (h : IsRange b e) (s : List Criterion) :
    accumulate none ([b, e] ++ s) =
      b.render ++ joiner ++ ((place (some b) e s.head?).write e ++ accumulate (some e) s) := by
  have hplace : place none b (some e) = .stands :=
    place_eq_stands_iff.mpr ⟨fun _ => h.starts, fun hb => absurd hb Bool.false_ne_true⟩
  have hne : b.render ≠ "" := by simp [Criterion.render_eq_empty_iff, h.starts]
  show (place none b (some e)).write b ++ accumulate (some b) (e :: s) = _
  rw [hplace, Place.write, if_neg hne, accumulate]

/-- The end of a range is written differently if a criterion on its column follows: it then
    continues a group that nothing has opened. -/
theorem write_end_ne_of_next {y : Criterion} (h : IsRange b e) (hcol : e.column = y.column)
    (t t' : String) :
    (place (some b) e (some y)).write e ++ t ≠ e.render ++ t' := by
  have hnext : sharesColumn e (some y) = true := sharesColumn_some.mpr hcol.symm
  have hprev : sharesColumn e (some b) = true := sharesColumn_some.mpr h.column
  have hstart : e.relation ≠ .betweenStart := by simp [h.ends]
  rw [place_eq_continues hnext hprev hstart, ne_eq, ← String.toList_inj]
  simp [Place.write, Criterion.render, h.ends, Criterion.quotedValue_eq]

-- ── Ranges among other criteria ───────────────────────────────────────────────

/-- The text that a range should leave in the clause. -/
theorem build_eq_iff_of_range (h : IsRange b e) :
    build (p ++ [b, e] ++ s) =
        conjoin [build p, rangeText b.column b.quotedValue e.quotedValue, build s] ↔
      accumulate none (p ++ ([b, e] ++ s)) =
        accumulate none p ++ (b.render ++ joiner ++ e.render ++ joiner
          ++ accumulate none s) := by
  rw [build_eq_iff, terminated_conjoin, List.append_assoc, accumulate_none p,
    accumulate_none s, ← rangeText_eq h.starts h.ends]
  have hne : rangeText b.column b.quotedValue e.quotedValue ≠ "" := by simp [rangeText]
  simp [terminated_of_ne_empty hne, String.append_assoc]

/-- **RANGES IN CONTEXT**: between criteria whose ranges are paired, a range is written as
    it should be exactly if no neighbour is on its column. -/
theorem build_range_iff (hp : WellPaired p) (h : IsRange b e) :
    build (p ++ [b, e] ++ s) =
        conjoin [build p, rangeText b.column b.quotedValue e.quotedValue, build s] ↔
      Apart p [b, e] ∧ Apart [b, e] s := by
  rw [build_eq_iff_of_range h]
  constructor
  · intro htext
    have hfront : Apart p [b, e] := by
      intro x hx y hy hcol
      obtain rfl : b = y := Option.some.inj hy
      obtain ⟨front, rfl⟩ := List.getLast?_eq_some_iff.mp hx
      rw [List.append_assoc, List.singleton_append, accumulate_append_cons,
        accumulate_append_cons, String.append_assoc, String.append_right_inj, accumulate,
        String.append_empty] at htext
      have hstart : b.render =
          b.column ++ (" BETWEEN (CAST(" ++ (b.quotedValue ++ " AS DATE))")) := by
        simp [Criterion.render, h.starts, String.append_assoc]
      rw [hstart] at htext
      simp only [String.append_assoc] at htext
      exact write_ne_of_next hp hcol _ _ htext
    refine ⟨hfront, ?_⟩
    intro x hx y hy hcol
    obtain rfl : e = x := Option.some.inj hx
    have hfront' : Apart p ([b, e] ++ s) := hfront
    rw [accumulate_append hfront', String.append_right_inj, accumulate_of_range h,
      Option.mem_def.mp hy] at htext
    have hend : (place (some b) e (some y)).write e ++ accumulate (some e) s =
        e.render ++ (joiner ++ accumulate none s) := by
      simpa only [String.append_assoc, String.append_right_inj] using htext
    exact write_end_ne_of_next h hcol _ _ hend
  · rintro ⟨hfront, hback⟩
    have hfront' : Apart p ([b, e] ++ s) := hfront
    rw [accumulate_append hfront', accumulate_append hback, accumulate_none [b, e],
      build_range h, rangeText_eq h.starts h.ends, terminated_of_ne_empty]
    simp [Criterion.render_eq_empty_iff, h.starts]

/-- A range between criteria on other columns. -/
theorem build_range_between_others :
    WellPaired [⟨"N", .equal, "1"⟩] ∧
      IsRange ⟨"D", .betweenStart, "2"⟩ ⟨"D", .betweenEnd, "3"⟩ ∧
      build ([⟨"N", .equal, "1"⟩] ++ [⟨"D", .betweenStart, "2"⟩, ⟨"D", .betweenEnd, "3"⟩]
          ++ [⟨"N", .isNull, "4"⟩]) =
        conjoin [build [⟨"N", .equal, "1"⟩], rangeText "D" "'2'" "'3'",
          build [⟨"N", .isNull, "4"⟩]] := by
  have hp : WellPaired [⟨"N", .equal, "1"⟩] := wellPaired_of_whole (by decide)
  have h : IsRange ⟨"D", .betweenStart, "2"⟩ ⟨"D", .betweenEnd, "3"⟩ := ⟨rfl, rfl, rfl⟩
  exact ⟨hp, h, (build_range_iff hp h).mpr ⟨by simp [Apart], by simp [Apart]⟩⟩

/-- A criterion in front on the same column takes the start of the range into a group, and
    the clause is `A IN ('1', '2') AND (CAST('3' AS DATE))`. -/
theorem not_forall_build_range :
    ¬ ∀ (p s : List Criterion) (b e : Criterion), WellPaired p → WellPaired s → IsRange b e →
      build (p ++ [b, e] ++ s) =
        conjoin [build p, rangeText b.column b.quotedValue e.quotedValue, build s] := by
  intro h
  have hp : WellPaired [⟨"A", .equal, "1"⟩] := wellPaired_of_whole (by decide)
  have hs : WellPaired [] := wellPaired_of_whole (by decide)
  have htext := h _ _ ⟨"A", .betweenStart, "2"⟩ ⟨"A", .betweenEnd, "3"⟩ hp hs ⟨rfl, rfl, rfl⟩
  exact absurd htext (by decide)

end SqlText.Clause.Where
