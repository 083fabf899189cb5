import SqlText.Proofs.Clause.Values

/-!
# Relations — which relations a clause shows

A member of a group is written as a value and nothing else, so that its relation is not seen in
the clause: `A<>'1'` next to `A<>'2'` is written like `A='1'` next to `A='2'`. What is seen of a
relation there is that it is a half of a range, for this decides the place (`place_eq_of_halves`),
and that it is a pattern, for then the value is quoted with wildcards.

Two criteria *blend* if they agree in that (`Criterion.Blends`). Lists that blend position by
position have the same places. They are written alike if besides each criterion that is alone
has the same relation in both (`build_eq_of_alike`), because whatever stands next to its own
column is half a range. In a run of two or more criteria nothing is alone, and all comparisons but
the patterns, and all relations without a value, are written as one (`alike_of_run`).
-/

namespace SqlText

variable {c d : Criterion}

namespace Criterion

/-- The criteria cannot be told apart where they are members of a group. -/
structure Blends (c d : Criterion) : Prop where
  column : c.column = d.column
  quotedValue : c.quotedValue = d.quotedValue
  starts : c.relation = .betweenStart ↔ d.relation = .betweenStart
  ends : c.relation = .betweenEnd ↔ d.relation = .betweenEnd

theorem Blends.refl (c : Criterion) : Blends c c :=
  ⟨rfl, rfl, Iff.rfl, Iff.rfl⟩

/-- With the same relation they cannot be told apart where they stand alone, either. -/
theorem Blends.render_eq (h : Blends c d) (hr : c.relation = d.relation) :
    c.render = d.render := by
  rw [render, render, hr, h.column, h.quotedValue]

end Criterion

/-- The relations that neither open a pattern nor are half a range. -/
def Relation.plain : List Relation :=
  [.equal, .notEqual, .greater, .less, .greaterOrEqual, .lessOrEqual,
    .isNull, .isNotNull, .all, .any]

theorem Relation.of_mem_plain :
    ∀ r ∈ plain, r.isPattern = false ∧ r ≠ .betweenStart ∧ r ≠ .betweenEnd := by
  decide

namespace Clause.Where

open Criterion (Blends)

variable {before before' after after' : Option Criterion} {l l' front front' back : List Criterion}
  {group group' : List Criterion} {column : String}

-- ── Lists that are written alike ──────────────────────────────────────────────

/-- The lists blend position by position, and each criterion that is alone has the same relation
    in both. -/
structure Alike (l l' : List Criterion) : Prop where
  each : List.Forall₂ Blends l l'
  alone : ∀ position < l.length, Alone (l.map (·.column)) position →
    l[position]?.map (·.relation) = l'[position]?.map (·.relation)

theorem columns_eq_of_blends (h : List.Forall₂ Blends l l') :
    l.map (·.column) = l'.map (·.column) := by
  induction h with
  | nil => rfl
  | cons hcd _ ih => rw [List.map_cons, List.map_cons, hcd.column, ih]

/-- At its place a criterion is written as the one it blends with, if their relations are the
    same wherever no neighbour is on their column. -/
theorem write_place_eq_of_blends (h : Blends c d)
    (hb : before.map (·.column) = before'.map (·.column))
    (ha : after.map (·.column) = after'.map (·.column))
    (halone : sharesColumn c before = false ∧ sharesColumn c after = false →
      c.relation = d.relation) :
    (place before c after).write c = (place before' d after').write d := by
  rw [← place_eq_of_halves h.column h.starts h.ends hb ha]
  cases hp : place before c after with
  | opens => rw [Place.write, Place.write, h.column, h.quotedValue]
  | continues => rw [Place.write, Place.write, h.quotedValue]
  | closes => rw [Place.write, Place.write, h.quotedValue]
  | stands =>
      obtain ⟨hstart, hend⟩ := place_eq_stands_iff.mp hp
      have hr : c.relation = d.relation := by
        cases hafter : sharesColumn c after with
        | true => rw [hstart hafter, h.starts.mp (hstart hafter)]
        | false =>
            cases hbefore : sharesColumn c before with
            | true => rw [hend hbefore, h.ends.mp (hend hbefore)]
            | false => exact halone ⟨hbefore, hafter⟩
      rw [Place.write, Place.write, h.render_eq hr]

/-- What follows two lists that blend is written alike. The two lists in front only count as
    neighbours, and fix the positions. -/
theorem accumulate_eq_of_blends (hfront : List.Forall₂ Blends front front')
    (h : List.Forall₂ Blends l l')
    (halone : ∀ position < (front ++ l).length, Alone ((front ++ l).map (·.column)) position →
      (front ++ l)[position]?.map (·.relation) = (front' ++ l')[position]?.map (·.relation)) :
    accumulate front.getLast? l = accumulate front'.getLast? l' := by
  induction h generalizing front front' with
  | nil => rfl
  | @cons c d rest rest' hcd hrest ih =>
      have hlast : front.getLast?.map (·.column) = front'.getLast?.map (·.column) := by
        rw [← List.getLast?_map, ← List.getLast?_map, columns_eq_of_blends hfront]
      have hhead : rest.head?.map (·.column) = rest'.head?.map (·.column) := by
        rw [← List.head?_map, ← List.head?_map, columns_eq_of_blends hrest]
      have hrel : sharesColumn c front.getLast? = false ∧ sharesColumn c rest.head? = false →
          c.relation = d.relation := by
        intro hshares
        have hc : (front ++ c :: rest)[front.length]? = some c := by simp
        have hd : (front' ++ d :: rest')[front.length]? = some d := by
          rw [hfront.length_eq]
          simp
        have hposition := halone front.length (by simp)
          ((alone_length_iff front c rest).mpr hshares)
        rw [hc, hd] at hposition
        exact Option.some.inj hposition
      have htail : accumulate (some c) rest = accumulate (some d) rest' := by
        have hfront' : List.Forall₂ Blends (front ++ [c]) (front' ++ [d]) :=
          List.rel_append hfront (.cons hcd .nil)
        simpa only [List.getLast?_concat] using
          ih hfront' (by simpa only [List.append_assoc, List.singleton_append] using halone)
      rw [accumulate, accumulate, write_place_eq_of_blends hcd hlast hhead hrel, htail]

theorem build_eq_of_alike (h : Alike l l') : build l = build l' := by
  have htext : accumulate none l = accumulate none l' :=
    accumulate_eq_of_blends .nil h.each h.alone
  rw [build, build, htext]

-- ── Runs on one column ────────────────────────────────────────────────────────

/-- Two members of a run on a column, with one value and with relations that are not seen. -/
structure Members (column : String) (c d : Criterion) : Prop where
  left : c.column = column
  right : d.column = column
  value : c.value = d.value
  plain_left : c.relation ∈ Relation.plain
  plain_right : d.relation ∈ Relation.plain

theorem Members.blends (h : Members column c d) : Blends c d := by
  obtain ⟨hpattern, hstart, hend⟩ := Relation.of_mem_plain _ h.plain_left
  obtain ⟨hpattern', hstart', hend'⟩ := Relation.of_mem_plain _ h.plain_right
  refine ⟨h.left.trans h.right.symm, ?_, iff_of_false hstart hstart', iff_of_false hend hend'⟩
  rw [Criterion.quotedValue_eq, Criterion.quotedValue_eq, Criterion.quotedText,
    Criterion.quotedText, hpattern, hpattern', h.value]

/-- In a run of two or more criteria none is alone. -/
theorem not_alone_of_run {position : Nat} (hcolumn : ∀ c ∈ group, c.column = column)
    (two : 2 ≤ group.length) (hfront : front.length ≤ position)
    (hback : position < front.length + group.length) :
    ¬Alone ((front ++ group ++ back).map (·.column)) position := by
  have hmember {p : Nat} (hp : front.length ≤ p) (hp' : p < front.length + group.length) :
      ((front ++ group ++ back).map (·.column))[p]? = some column := by
    have hlt : p - front.length < group.length := by omega
    have hgroup : (front ++ group ++ back)[p]? = some group[p - front.length] := by
      rw [List.append_assoc, List.getElem?_append_right hp, List.getElem?_append_left hlt,
        List.getElem?_eq_getElem hlt]
    rw [List.getElem?_map, hgroup, Option.map_some, hcolumn _ (List.getElem_mem hlt)]
  rintro ⟨hprev, hnext⟩
  have hself := hmember hfront hback
  by_cases hlast : position + 1 < front.length + group.length
  · exact hnext ((hmember (by omega) hlast).trans hself.symm)
  · exact hprev (by omega) ((hmember (by omega) (by omega)).trans hself.symm)

/-- Runs of members are written alike, whatever stands in front and behind. -/
theorem alike_of_run (two : 2 ≤ group.length) (h : List.Forall₂ (Members column) group group')
    (front back : List Criterion) : Alike (front ++ group ++ back) (front ++ group' ++ back) := by
  have hsame (l : List Criterion) : List.Forall₂ Blends l l :=
    List.forall₂_same.mpr fun c _ => .refl c
  have hcolumn : ∀ c ∈ group, c.column = column :=
    ((List.forall₂_and_left _ _).mp (h.imp fun _ _ hcd => ⟨hcd.left, hcd⟩)).1
  refine ⟨List.rel_append (List.rel_append (hsame front) (h.imp fun _ _ => Members.blends))
    (hsame back), ?_⟩
  intro position _ halone
  rcases Nat.lt_or_ge position front.length with hfront | hfront
  · rw [List.append_assoc, List.append_assoc, List.getElem?_append_left hfront,
      List.getElem?_append_left hfront]
  · rcases Nat.lt_or_ge position (front.length + group.length) with hback | hback
    · exact absurd halone (not_alone_of_run hcolumn two hfront hback)
    · have hlength : (front ++ group).length = front.length + group.length := List.length_append
      have hlength' : (front ++ group').length = front.length + group.length := by
        rw [List.length_append, h.length_eq]
      rw [List.getElem?_append_right (hlength.trans_le hback),
        List.getElem?_append_right (hlength'.trans_le hback), hlength, hlength']

end Clause.Where

end SqlText
