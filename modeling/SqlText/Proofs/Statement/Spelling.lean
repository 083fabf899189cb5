import SqlText.Builder
import SqlText.Proofs.Clause.Runs

/-!
# Spelling — brackets around a name do not reach a statement

A column or a table may be written with brackets around it, any number and mix of them on
either side (`Bracketing`). They go where a criterion, an assignment or a target takes its
name, and nothing is left of them there (`stripBrackets_around`); brackets inside a name stay.
So two ways to spell a request make one request before any column is compared with another,
and one statement is written for both (`build_spelled_eq`).

The comparison of columns is where this could go wrong: a group is written for neighbours on
one column, and each of them may be spelled in its own way (`build_group_spelled`).
-/

namespace SqlText

/-- Brackets to be written around a name. -/
structure Bracketing where
  front : String
  back : String
  front_brackets : front.toList.all Text.isBracket := by decide
  back_brackets : back.toList.all Text.isBracket := by decide

namespace Bracketing

/-- The name with the brackets around it. -/
def around (s : Bracketing) (name : String) : String :=
  s.front ++ name ++ s.back

theorem stripBrackets_around (s : Bracketing) (name : String) :
    Text.stripBrackets (s.around name) = Text.stripBrackets name :=
  Text.strip_append (List.all_eq_true.mp s.front_brackets) (List.all_eq_true.mp s.back_brackets)
    name

end Bracketing

-- ── Drafts ────────────────────────────────────────────────────────────────────

/-- A column as it is spelled, with what is said of it. -/
structure Draft (α : Type) where
  column : String
  content : α

namespace Draft

variable {α β : Type}

/-- The draft with brackets around its column. -/
def within (s : Bracketing) (d : Draft α) : Draft α :=
  { d with column := s.around d.column }

/-- What is made of drafts that are each spelled in their own way. -/
def spelled (make : Draft α → β) (drafts : List (Bracketing × Draft α)) : List β :=
  drafts.map fun (s, d) => make (d.within s)

/-- What is made of the same drafts without the brackets. -/
def bare (make : Draft α → β) (drafts : List (Bracketing × Draft α)) : List β :=
  drafts.map fun (_, d) => make d

theorem spelled_eq_bare {make : Draft α → β} (h : ∀ s d, make (d.within s) = make d)
    (drafts : List (Bracketing × Draft α)) : spelled make drafts = bare make drafts :=
  List.map_congr_left fun (s, d) _ => h s d

end Draft

def Criterion.ofDraft (d : Draft (Relation × Value)) : Criterion :=
  of d.column d.content.1 d.content.2

def Assignment.ofDraft (d : Draft Value) : Assignment :=
  of d.column d.content

theorem Criterion.ofDraft_within (s : Bracketing) (d : Draft (Relation × Value)) :
    ofDraft (d.within s) = ofDraft d := by
  show Criterion.mk (Text.stripBrackets (s.around d.column)) _ _ = _
  rw [s.stripBrackets_around]
  rfl

theorem Assignment.ofDraft_within (s : Bracketing) (d : Draft Value) :
    ofDraft (d.within s) = ofDraft d := by
  show Assignment.mk (Text.stripBrackets (s.around d.column)) _ = _
  rw [s.stripBrackets_around]
  rfl

-- ── Groups ────────────────────────────────────────────────────────────────────

/-- Drafts on one column, each spelled in its own way, are written as one group. -/
theorem Clause.Where.build_group_spelled {column : String} {front back : List Criterion}
    {drafts : List (Bracketing × Draft (Relation × Value))} (two : 2 ≤ drafts.length)
    (hcol : ∀ d ∈ drafts, d.2.column = column)
    (whole : ∀ d ∈ drafts, d.2.content.1 ≠ .betweenStart ∧ d.2.content.1 ≠ .betweenEnd)
    (hf : ∀ c ∈ front.getLast?, c.column ≠ Text.stripBrackets column)
    (hb : ∀ c ∈ back.head?, c.column ≠ Text.stripBrackets column) :
    build (front ++ Draft.spelled Criterion.ofDraft drafts ++ back) =
      conjoin [build front,
        groupText (Text.stripBrackets column)
          ((Draft.bare Criterion.ofDraft drafts).map (·.quotedValue)),
        build back] := by
  rw [Draft.spelled_eq_bare Criterion.ofDraft_within]
  have hmem : ∀ c ∈ Draft.bare Criterion.ofDraft drafts,
      c.column = Text.stripBrackets column ∧
        c.relation ≠ .betweenStart ∧ c.relation ≠ .betweenEnd := by
    intro c hc
    obtain ⟨d, hd, rfl⟩ := List.mem_map.mp hc
    refine ⟨?_, whole d hd⟩
    show Text.stripBrackets d.2.column = Text.stripBrackets column
    rw [hcol d hd]
  refine build_group_between ?_ (fun c hc => (hmem c hc).1) (fun c hc => (hmem c hc).2) hf hb
  rw [Draft.bare, List.length_map]
  exact two

-- ── Statements ────────────────────────────────────────────────────────────────

namespace Builder

open Clause.Where (conjoin groupText)
open Draft (spelled bare)

/-- The brackets around a target are gone in its builder. -/
theorem build_around {v : Verb} (s : Bracketing) (table : String) (request : Request v) :
    (standard v (.named (s.around table))).build request =
      (standard v (.named table)).build request :=
  congrArg (fun name => (Builder.mk (.standard v) name).build request)
    (s.stripBrackets_around table)

/-- **BRACKETS DO NOT MATTER**: a request of any verb for a table leaves the same outcome,
    statement and report, however its table and each of its columns are spelled. Neighbouring
    criteria that spell one column in several ways are one group. -/
theorem build_spelled_eq (s : Bracketing) (table : String)
    (assignments : List (Bracketing × Draft Value))
    (criteria : List (Bracketing × Draft (Relation × Value))) (modifiers : ModifierList) :
    (standard .select (.named (s.around table))).build
        (.select (spelled Criterion.ofDraft criteria) modifiers) =
      (standard .select (.named table)).build
        (.select (bare Criterion.ofDraft criteria) modifiers)
    ∧ (standard .update (.named (s.around table))).build
        (.update (spelled Assignment.ofDraft assignments) (spelled Criterion.ofDraft criteria)) =
      (standard .update (.named table)).build
        (.update (bare Assignment.ofDraft assignments) (bare Criterion.ofDraft criteria))
    ∧ (standard .insert (.named (s.around table))).build
        (.insert (spelled Assignment.ofDraft assignments)) =
      (standard .insert (.named table)).build (.insert (bare Assignment.ofDraft assignments))
    ∧ (standard .delete (.named (s.around table))).build
        (.delete (spelled Criterion.ofDraft criteria)) =
      (standard .delete (.named table)).build (.delete (bare Criterion.ofDraft criteria))
    ∧ ∀ (column : String) (front back : List Criterion), 2 ≤ criteria.length →
        (∀ d ∈ criteria, d.2.column = column) →
        (∀ d ∈ criteria, d.2.content.1 ≠ .betweenStart ∧ d.2.content.1 ≠ .betweenEnd) →
        (∀ c ∈ front.getLast?, c.column ≠ Text.stripBrackets column) →
        (∀ c ∈ back.head?, c.column ≠ Text.stripBrackets column) →
        Clause.Where.build (front ++ spelled Criterion.ofDraft criteria ++ back) =
          conjoin [Clause.Where.build front,
            groupText (Text.stripBrackets column)
              ((bare Criterion.ofDraft criteria).map (·.quotedValue)),
            Clause.Where.build back] := by
  have hassignments : spelled Assignment.ofDraft assignments = bare Assignment.ofDraft assignments :=
    Draft.spelled_eq_bare Assignment.ofDraft_within assignments
  have hcriteria : spelled Criterion.ofDraft criteria = bare Criterion.ofDraft criteria :=
    Draft.spelled_eq_bare Criterion.ofDraft_within criteria
  refine ⟨?_, ?_, ?_, ?_, ?_⟩
  · rw [hcriteria]
    exact build_around s table (.select _ modifiers)
  · rw [hassignments, hcriteria]
    exact build_around s table (.update _ _)
  · rw [hassignments]
    exact build_around s table (.insert _)
  · rw [hcriteria]
    exact build_around s table (.delete _)
  · intro column front back two hcol whole hf hb
    exact Clause.Where.build_group_spelled two hcol whole hf hb

/-- One column spelled in three ways, with a bracket inside of it that stays. -/
theorem build_three_spellings :
    (standard .delete (.named "[T]]")).build (.delete
        [.of "A[1" .equal (.int 1), .of "[A[1]" .equal (.int 2), .of "]A[1[[" .like (.text "x")]) =
      (standard .delete (.named "T")).build (.delete
        [.of "A[1" .equal (.int 1), .of "A[1" .equal (.int 2), .of "A[1" .like (.text "x")]) ∧
    Clause.Where.build
        [.of "N" .isNull, .of "A[1" .equal (.int 1), .of "[A[1]" .equal (.int 2),
          .of "]A[1[[" .like (.text "x")] =
      "N IS NULL AND A[1 IN ('1', '2', '%x%')" := by
  obtain ⟨-, -, -, hdelete, hgroup⟩ := build_spelled_eq ⟨"[", "]]", by decide, by decide⟩ "T" []
    [(⟨"", "", by decide, by decide⟩, ⟨"A[1", .equal, .int 1⟩),
      (⟨"[", "]", by decide, by decide⟩, ⟨"A[1", .equal, .int 2⟩),
      (⟨"]", "[[", by decide, by decide⟩, ⟨"A[1", .like, .text "x"⟩)] ∅
  exact ⟨hdelete, (hgroup "A[1" [.of "N" .isNull] [] (by decide) (by decide) (by decide)
    (by decide) (by decide)).trans (by decide)⟩

end Builder

end SqlText
