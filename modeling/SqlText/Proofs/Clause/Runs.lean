import Mathlib.Data.List.SplitBy
import SqlText.Proofs.Clause.Composition

/-!
# Runs — the clause read run by run

The clause is written criterion by criterion, each with an eye on its neighbours. A reader
sees something simpler: neighbouring criteria on one column form a *run*, and each run is
one condition. A run of one criterion is that criterion's own text, a longer run is a group
of values, and the two halves of a range are a range (`Reads`). A longer run that holds half
a range among other criteria has no such reading.

The main statement is that the two views agree (`build_eq_conjoin_of_reads`): if each run has a
reading, the clause is the readings joined. Neighbouring runs are apart by construction, so
the text of all runs is the text of each (`accumulate_flatten`), and within one run every
place is known (`accumulate_of_reads`).
-/

namespace SqlText.Clause.Where

variable {before after : Option Criterion} {b c d e : Criterion}

/-- The text of a group of values of one column. -/
def groupText (column : String) (values : List String) : String :=
  column ++ " IN (" ++ separator.intercalate values ++ ")"

/-- The text of a range of dates. -/
def rangeText (column first last : String) : String :=
  column ++ " BETWEEN (CAST(" ++ first ++ " AS DATE)) AND (CAST(" ++ last ++ " AS DATE))"

/-- The maximal runs of neighbouring criteria on one column, in order. -/
def runs (criteria : List Criterion) : List (List Criterion) :=
  criteria.splitBy fun x y => x.column = y.column

/-- The condition that a run stands for. -/
inductive Reads : List Criterion → String → Prop where
  /-- A criterion by itself, of any relation. -/
  | single (c : Criterion) : Reads [c] c.render
  /-- Two or more criteria, none of which is half a range. -/
  | group {c : Criterion} {rest : List Criterion} (two : rest ≠ [])
      (whole : ∀ x ∈ c :: rest, x.relation ≠ .betweenStart ∧ x.relation ≠ .betweenEnd) :
      Reads (c :: rest) (groupText c.column ((c :: rest).map (·.quotedValue)))
  /-- The start of a range and its end. -/
  | range {b e : Criterion} (starts : b.relation = .betweenStart)
      (ends : e.relation = .betweenEnd) :
      Reads [b, e] (rangeText b.column b.quotedValue e.quotedValue)

/-- A range is its two halves with the joiner between them. -/
theorem rangeText_eq (starts : b.relation = .betweenStart) (ends : e.relation = .betweenEnd) :
    rangeText b.column b.quotedValue e.quotedValue = b.render ++ joiner ++ e.render := by
  rw [← String.toList_inj]
  simp [rangeText, Criterion.render, starts, ends, joiner]

-- ── One run ───────────────────────────────────────────────────────────────────

/-- The criteria are on one column, each on that of the next. -/
abbrev OnOneColumn (l : List Criterion) : Prop :=
  l.IsChain fun x y => x.column = y.column

/-- Inside a group the values follow one another, and the last one closes it. -/
theorem accumulate_group {rest : List Criterion} (h : OnOneColumn (b :: d :: rest))
    (whole : ∀ x ∈ d :: rest, x.relation ≠ .betweenStart ∧ x.relation ≠ .betweenEnd) :
    accumulate (some b) (d :: rest) =
      separator.intercalate ((d :: rest).map (·.quotedValue)) ++ ")" ++ joiner := by
  induction rest generalizing b d with
  | nil =>
      obtain ⟨-, hend⟩ := whole d List.mem_cons_self
      have hbd : b.column = d.column := (List.isChain_cons_cons.mp h).1
      have hplace : place (some b) d none = .closes :=
        place_eq_closes rfl (sharesColumn_some.mpr hbd) hend
      rw [accumulate, List.head?_nil, hplace]
      simp [accumulate, Place.write]
  | cons f rest ih =>
      obtain ⟨hstart, -⟩ := whole d List.mem_cons_self
      obtain ⟨hbd, hrest⟩ := List.isChain_cons_cons.mp h
      obtain ⟨hdf, -⟩ := List.isChain_cons_cons.mp hrest
      have hplace : place (some b) d (some f) = .continues :=
        place_eq_continues (sharesColumn_some.mpr hdf.symm)
          (sharesColumn_some.mpr hbd) hstart
      rw [accumulate, List.head?_cons, hplace,
        ih hrest (fun x hx => whole x (List.mem_cons_of_mem _ hx)), Place.write]
      simp [String.append_assoc]

/-- A run by itself writes the condition that it stands for. -/
theorem accumulate_of_reads {run : List Criterion} {text : String} (h : Reads run text)
    (hcol : OnOneColumn run) : accumulate none run = terminated text := by
  cases h with
  | single c =>
      have hplace : place none c none = .stands := rfl
      rw [accumulate, List.head?_nil, hplace, accumulate, String.append_empty]
      rfl
  | @group c rest two whole =>
      obtain ⟨hstart, -⟩ := whole c List.mem_cons_self
      cases rest with
      | nil => exact absurd rfl two
      | cons d rest =>
          have hcd : c.column = d.column := (List.isChain_cons_cons.mp hcol).1
          have hplace : place none c (some d) = .opens :=
            place_eq_opens (sharesColumn_some.mpr hcd.symm) rfl hstart
          rw [accumulate, List.head?_cons, hplace,
            accumulate_group hcol (fun x hx => whole x (List.mem_cons_of_mem _ hx)),
            terminated_of_ne_empty (by simp [groupText]), Place.write]
          simp [groupText, String.append_assoc]
  | @range b e starts ends =>
      have hbe : b.column = e.column := (List.isChain_cons_cons.mp hcol).1
      have hb : place none b (some e) = .stands :=
        place_eq_stands_iff.mpr ⟨fun _ => starts, fun h => absurd h Bool.false_ne_true⟩
      have he : place (some b) e none = .stands :=
        place_eq_stands_iff.mpr ⟨fun h => absurd h Bool.false_ne_true, fun _ => ends⟩
      rw [accumulate, List.head?_cons, hb, accumulate, List.head?_nil, he, accumulate,
        terminated_of_ne_empty (by simp [rangeText]), rangeText_eq starts ends, Place.write,
        Place.write, if_neg (by simp [Criterion.render_eq_empty_iff, starts]),
        if_neg (by simp [Criterion.render_eq_empty_iff, ends])]
      simp [String.append_assoc]

/-- A clause of one criterion is the text of the criterion. -/
theorem build_singleton (c : Criterion) : build [c] = c.render := by
  rw [build_eq_iff]
  exact accumulate_of_reads (.single c) (List.isChain_singleton c)

-- ── All runs ──────────────────────────────────────────────────────────────────

/-- Lists of which each is apart from the next one are written one after the other. -/
theorem accumulate_flatten {parts : List (List Criterion)} (hne : [] ∉ parts)
    (h : parts.IsChain Apart) :
    accumulate none parts.flatten = String.join (parts.map (accumulate none)) := by
  induction parts with
  | nil => rfl
  | cons part parts ih =>
      have hne' : [] ∉ parts := fun hmem => hne (List.mem_cons_of_mem _ hmem)
      have hapart : Apart part parts.flatten := by
        cases parts with
        | nil =>
            intro x _ y hy
            exact absurd hy (Option.not_mem_none y)
        | cons next parts =>
            obtain ⟨hnext, -⟩ := List.isChain_cons_cons.mp h
            intro x hx y hy
            cases next with
            | nil => exact absurd List.mem_cons_self hne'
            | cons z next => exact hnext x hx y hy
      rw [List.flatten_cons, accumulate_append hapart, ih hne' h.tail, List.map_cons,
        String.join_cons]

theorem flatten_runs (criteria : List Criterion) : (runs criteria).flatten = criteria :=
  List.flatten_splitBy _ _

theorem onOneColumn_of_mem_runs {criteria run : List Criterion} (h : run ∈ runs criteria) :
    OnOneColumn run :=
  (List.isChain_of_mem_splitBy h).imp fun _ _ hxy => of_decide_eq_true hxy

/-- A run ends where the column changes. -/
theorem isChain_apart_runs (criteria : List Criterion) : (runs criteria).IsChain Apart := by
  refine (List.isChain_getLast_head_splitBy _ criteria).imp ?_
  rintro part next ⟨hpart, hnext, hcol⟩ x hx y hy
  have hx' : part.getLast hpart = x := List.getLast_of_mem_getLast? hx
  have hy' : next.head hnext = y := List.head_of_mem_head? hy
  rw [← hx', ← hy']
  exact of_decide_eq_false hcol

theorem accumulate_runs (criteria : List Criterion) :
    accumulate none criteria = String.join ((runs criteria).map (accumulate none)) := by
  have hne : [] ∉ runs criteria := List.nil_notMem_splitBy _ criteria
  rw [← accumulate_flatten hne (isChain_apart_runs criteria), flatten_runs]

/-- **THE CLAUSE RUN BY RUN**: if each run of criteria on one column has a reading, the
    clause is these readings joined, those without a text left out. -/
theorem build_eq_conjoin_of_reads {criteria : List Criterion} {texts : List String}
    (h : List.Forall₂ Reads (runs criteria) texts) : build criteria = conjoin texts := by
  have hmap {parts : List (List Criterion)} {texts : List String}
      (hcol : ∀ run ∈ parts, OnOneColumn run) (h : List.Forall₂ Reads parts texts) :
      parts.map (accumulate none) = texts.map terminated := by
    induction h with
    | nil => rfl
    | cons hread _ ih =>
        rw [List.map_cons, List.map_cons,
          accumulate_of_reads hread (hcol _ List.mem_cons_self),
          ih fun run hrun => hcol run (List.mem_cons_of_mem _ hrun)]
  rw [build_eq_iff, accumulate_runs, terminated_conjoin,
    hmap (fun _ => onOneColumn_of_mem_runs) h]

/-- Two or more criteria on one column between criteria on other columns are written as one
    group, whatever stands in front and behind. -/
theorem build_group_between {column : String} {front group back : List Criterion}
    (two : 2 ≤ group.length) (hcol : ∀ c ∈ group, c.column = column)
    (whole : ∀ c ∈ group, c.relation ≠ .betweenStart ∧ c.relation ≠ .betweenEnd)
    (hf : ∀ c ∈ front.getLast?, c.column ≠ column) (hb : ∀ c ∈ back.head?, c.column ≠ column) :
    build (front ++ group ++ back) =
      conjoin [build front, groupText column (group.map (·.quotedValue)), build back] := by
  have hfront : Apart front (group ++ back) := by
    intro x hx y hy
    cases group with
    | nil => exact absurd two (by decide)
    | cons c rest =>
        obtain rfl : c = y := Option.some.inj hy
        rw [hcol c List.mem_cons_self]
        exact hf x hx
  have hback : Apart group back := by
    intro x hx y hy
    rw [hcol x (List.mem_of_getLast? hx)]
    exact (hb y hy).symm
  have hone : OnOneColumn group :=
    (List.pairwise_of_forall_mem_list fun x hx y hy => (hcol x hx).trans (hcol y hy).symm).isChain
  have hreads : Reads group (groupText column (group.map (·.quotedValue))) := by
    cases group with
    | nil => exact absurd two (by decide)
    | cons c rest =>
        have hrest : rest ≠ [] := by
          rintro rfl
          exact Nat.not_succ_le_self 1 two
        rw [← hcol c List.mem_cons_self]
        exact .group hrest whole
  rw [build_eq_iff, List.append_assoc, accumulate_append hfront, accumulate_append hback,
    accumulate_of_reads hreads hone, accumulate_none, accumulate_none, terminated_conjoin]
  simp

/-- A group, a criterion that constrains nothing, and a range. -/
theorem build_group_silent_range :
    List.Forall₂ Reads
        (runs [⟨"A", .equal, "1"⟩, ⟨"A", .like, "2"⟩, ⟨"B", .all, "3"⟩,
          ⟨"D", .betweenStart, "4"⟩, ⟨"D", .betweenEnd, "5"⟩])
        [groupText "A" ["'1'", "'%2%'"], "", rangeText "D" "'4'" "'5'"] ∧
      build [⟨"A", .equal, "1"⟩, ⟨"A", .like, "2"⟩, ⟨"B", .all, "3"⟩,
          ⟨"D", .betweenStart, "4"⟩, ⟨"D", .betweenEnd, "5"⟩] =
        "A IN ('1', '%2%') AND D BETWEEN (CAST('4' AS DATE)) AND (CAST('5' AS DATE))" := by
  have h : List.Forall₂ Reads
      (runs [⟨"A", .equal, "1"⟩, ⟨"A", .like, "2"⟩, ⟨"B", .all, "3"⟩,
        ⟨"D", .betweenStart, "4"⟩, ⟨"D", .betweenEnd, "5"⟩])
      [groupText "A" ["'1'", "'%2%'"], "", rangeText "D" "'4'" "'5'"] :=
    .cons (.group (by decide) (by decide)) (.cons (.single _) (.cons (.range rfl rfl) .nil))
  exact ⟨h, (build_eq_conjoin_of_reads h).trans (by decide)⟩

end SqlText.Clause.Where
