import SqlText.Proofs.Clause.Values

/-!
# Skeleton — the clause without its values

A clause is fixed text with a slot for each value that is shown. Which text, and which slots, is
known from the columns and the relations of the criteria; the values are put into the slots and
have no other part in it (`build_eq_fill_skeleton`). So no value is read as text of the clause
when it is put together, whatever it contains: a value that ends in a joiner is not trimmed, and
one that ends in a separator continues no group.

The skeleton is written place by place like the clause (`outline`), from `Shape`s, which are
criteria without values. It is empty or ends in the joiner (`outline_eq_nil_or_concat`), and this
last piece is what is trimmed. The slots are those of all criteria that are not `Valueless`, in
their order (`slots_outline`).
-/

namespace SqlText.Clause.Where

-- ── Pieces ────────────────────────────────────────────────────────────────────

/-- Fixed text, or the slot for the value of the criterion at a position. -/
inductive Piece where
  | text (s : String)
  | slot (position : Nat)
deriving DecidableEq, Repr

/-- Text with slots for values. -/
abbrev Skeleton := List Piece

/-- The text with the values in their slots. -/
def Skeleton.fill (value : Nat → String) : Skeleton → String
  | [] => ""
  | .text s :: rest => s ++ fill value rest
  | .slot position :: rest => value position ++ fill value rest

/-- The positions whose values are shown, from left to right. -/
def Skeleton.slots : Skeleton → List Nat
  | [] => []
  | .text _ :: rest => slots rest
  | .slot position :: rest => position :: slots rest

theorem Skeleton.fill_append (value : Nat → String) (a b : Skeleton) :
    fill value (a ++ b) = fill value a ++ fill value b := by
  induction a with
  | nil => rw [List.nil_append, fill, String.empty_append]
  | cons piece rest ih =>
      cases piece with
      | text s => rw [List.cons_append, fill, fill, ih, String.append_assoc]
      | slot position => rw [List.cons_append, fill, fill, ih, String.append_assoc]

theorem Skeleton.slots_append (a b : Skeleton) : slots (a ++ b) = slots a ++ slots b := by
  induction a with
  | nil => rfl
  | cons piece rest ih =>
      cases piece with
      | text s => rw [List.cons_append, slots, slots, ih]
      | slot position => rw [List.cons_append, slots, slots, ih, List.cons_append]

-- ── Skeletons of criteria ─────────────────────────────────────────────────────

/-- A criterion without its value: a column, however bracketed, and a relation. -/
structure Shape where
  column : String
  relation : Relation
deriving DecidableEq, Repr

namespace Shape

/-- The criterion of this shape with a value. -/
def criterion (s : Shape) (value : Value) : Criterion :=
  .of s.column s.relation value

/-- The criterion of this shape with no value in particular. -/
def blank (s : Shape) : Criterion :=
  s.criterion (.text "")

/-- The column as it is stored. -/
def stored (s : Shape) : String :=
  Text.stripBrackets s.column

@[simp] theorem column_criterion (s : Shape) (v : Value) : (s.criterion v).column = s.stored := rfl

@[simp] theorem relation_criterion (s : Shape) (v : Value) :
    (s.criterion v).relation = s.relation := rfl

@[simp] theorem value_criterion (s : Shape) (v : Value) : (s.criterion v).value = v.stored := rfl

end Shape

/-- The slot of a value, between quotes and the wildcards of a pattern. -/
def quotedSlot (relation : Relation) (position : Nat) : Skeleton :=
  if relation.isPattern then [.text "'%", .slot position, .text "%'"]
  else [.text "'", .slot position, .text "'"]

/-- The skeleton of a criterion that stands alone. -/
def standing (column : String) (position : Nat) : Relation → Skeleton
  | .any => [.text ("(" ++ column ++ " IS NOT NULL AND " ++ column ++ "<>'')")]
  | .all => []
  | .isNull => [.text (column ++ " IS NULL")]
  | .isNotNull => [.text (column ++ " IS NOT NULL")]
  | .betweenStart =>
    .text (column ++ " BETWEEN (CAST(") :: quotedSlot .betweenStart position
      ++ [.text " AS DATE))"]
  | .betweenEnd => .text "(CAST(" :: quotedSlot .betweenEnd position ++ [.text " AS DATE))"]
  | relation => .text (column ++ relation.operator) :: quotedSlot relation position

/-- The skeleton of a criterion at its place. -/
def Place.pieces (s : Shape) (position : Nat) : Place → Skeleton
  | .opens => .text (s.stored ++ " IN (") :: quotedSlot s.relation position ++ [.text separator]
  | .continues => quotedSlot s.relation position ++ [.text separator]
  | .closes => quotedSlot s.relation position ++ [.text ")", .text joiner]
  | .stands =>
    if s.relation = .all then [] else standing s.stored position s.relation ++ [.text joiner]

/-- The place of a criterion, known from the shapes around it. -/
def Shape.place (before : Option Shape) (s : Shape) (after : Option Shape) : Place :=
  Where.place (before.map blank) s.blank (after.map blank)

/-- The skeleton of all that is written for the criteria that follow `before`, the first of them
    at `position`. -/
def outline (before : Option Shape) (position : Nat) : List Shape → Skeleton
  | [] => []
  | s :: rest =>
    (Shape.place before s rest.head?).pieces s position ++ outline (some s) (position + 1) rest

/-- The skeleton of the clause, which is that of the text without the last joiner. -/
def skeleton (shapes : List Shape) : Skeleton :=
  (outline none 0 shapes).dropLast

/-- The criteria of these shapes, each with the value of its position. -/
def withValues (shapes : List Shape) (values : Nat → Value) : List Criterion :=
  shapes.mapIdx fun position s => s.criterion (values position)

variable {s : Shape} {before after : Option Shape} {shapes front : List Shape} {position : Nat}
  {values : Nat → Value} {value : Nat → String} {v : Value}

-- ── Filling ───────────────────────────────────────────────────────────────────

theorem fill_quotedSlot (hv : v.stored = value position) :
    (quotedSlot s.relation position).fill value = (s.criterion v).quotedValue := by
  rw [quotedSlot, Criterion.quotedValue, Shape.relation_criterion, Shape.value_criterion, hv]
  by_cases hp : s.relation.isPattern = true
  · rw [if_pos hp, if_pos hp]
    simp [Skeleton.fill, String.append_assoc]
  · rw [if_neg hp, if_neg hp]
    simp [Skeleton.fill, String.append_assoc]

theorem fill_standing (hv : v.stored = value position) :
    (standing s.stored position s.relation).fill value = (s.criterion v).render := by
  have hquoted := fill_quotedSlot (s := s) hv
  rw [Criterion.render, Shape.relation_criterion, Shape.column_criterion]
  cases hs : s.relation <;> rw [hs] at hquoted <;>
    simp [standing, Skeleton.fill, Skeleton.fill_append, hquoted, String.append_assoc]

/-- The pieces of a place, filled with the value, are what is written there. -/
theorem fill_pieces (hv : v.stored = value position) (p : Place) :
    (p.pieces s position).fill value = p.write (s.criterion v) := by
  have hquoted := fill_quotedSlot (s := s) hv
  cases p with
  | opens =>
      rw [Place.pieces, Place.write, List.cons_append, Skeleton.fill, Skeleton.fill_append, hquoted]
      simp [Skeleton.fill, String.append_assoc]
  | continues =>
      rw [Place.pieces, Place.write, Skeleton.fill_append, hquoted]
      simp [Skeleton.fill]
  | closes =>
      rw [Place.pieces, Place.write, Skeleton.fill_append, hquoted]
      simp [Skeleton.fill, String.append_assoc]
  | stands =>
      rw [Place.pieces, Place.write]
      simp only [Criterion.render_eq_empty_iff, Shape.relation_criterion]
      by_cases hall : s.relation = .all
      · rw [if_pos hall, if_pos hall, Skeleton.fill]
      · rw [if_neg hall, if_neg hall, Skeleton.fill_append, fill_standing hv]
        simp [Skeleton.fill]

/-- A criterion has the place of its shape, whatever its value and those of its neighbours. -/
theorem place_criterion {before' after' : Option Criterion} (v : Value)
    (hb : before'.map (·.column) = before.map (·.stored))
    (ha : after'.map (·.column) = after.map (·.stored)) :
    place before' (s.criterion v) after' = s.place before after := by
  have hblank (o : Option Shape) : (o.map Shape.blank).map (·.column) = o.map (·.stored) := by
    rw [Option.map_map]
    rfl
  exact place_eq_of_columns rfl rfl (hb.trans (hblank _).symm) (ha.trans (hblank _).symm)

/-- All that is written for criteria is their outline with the values filled in. -/
theorem accumulate_eq_fill (shapes : List Shape) (values : Nat → Value)
    {before' : Option Criterion} (hb : before'.map (·.column) = before.map (·.stored))
    (position : Nat) :
    accumulate before' (shapes.mapIdx fun i s => s.criterion (values (position + i))) =
      (outline before position shapes).fill fun i => (values i).stored := by
  induction shapes generalizing before before' position with
  | nil => rfl
  | cons s rest ih =>
      have hhead : ((rest.mapIdx fun i s => s.criterion (values (position + (i + 1)))).head?).map
          (·.column) = rest.head?.map (·.stored) := by
        rw [List.head?_mapIdx, Option.map_map]
        rfl
      have hrest : accumulate (some (s.criterion (values position)))
          (rest.mapIdx fun i s => s.criterion (values (position + (i + 1)))) =
          (outline (some s) (position + 1) rest).fill fun i => (values i).stored := by
        simp only [← Nat.add_assoc, Nat.add_right_comm position _ 1]
        exact ih rfl (position + 1)
      have hself (p : Place) : (p.pieces s position).fill (fun i => (values i).stored) =
          p.write (s.criterion (values position)) := fill_pieces rfl p
      rw [List.mapIdx_cons, accumulate, outline, Skeleton.fill_append, Nat.add_zero,
        place_criterion (values position) hb hhead, hself, hrest]

-- ── Slots ─────────────────────────────────────────────────────────────────────

/-- The criterion at a position is written without its value: its relation ignores the value, and
    no neighbour is on its column. -/
def Valueless (shapes : List Shape) (position : Nat) : Prop :=
  (∃ s ∈ shapes[position]?, s.relation.ignoresValue = true)
    ∧ Alone (shapes.map (·.stored)) position

instance (shapes : List Shape) (position : Nat) : Decidable (Valueless shapes position) :=
  inferInstanceAs (Decidable (_ ∧ _))

theorem slots_quotedSlot (relation : Relation) (position : Nat) :
    (quotedSlot relation position).slots = [position] := by
  rw [quotedSlot]
  by_cases hp : relation.isPattern = true
  · rw [if_pos hp]
    rfl
  · rw [if_neg hp]
    rfl

/-- A place has the slot of its criterion, unless it writes the criterion without its value. -/
theorem slots_pieces (p : Place) :
    (p.pieces s position).slots =
      if p = .stands ∧ s.relation.ignoresValue = true then [] else [position] := by
  cases p with
  | opens => simp [Place.pieces, Skeleton.slots, Skeleton.slots_append, slots_quotedSlot]
  | continues => simp [Place.pieces, Skeleton.slots, Skeleton.slots_append, slots_quotedSlot]
  | closes => simp [Place.pieces, Skeleton.slots, Skeleton.slots_append, slots_quotedSlot]
  | stands =>
      cases hs : s.relation <;>
        simp [Place.pieces, hs, standing, Relation.ignoresValue, Skeleton.slots,
          Skeleton.slots_append, slots_quotedSlot]

theorem valueless_length_iff (front : List Shape) (s : Shape) (rest : List Shape) :
    Valueless (front ++ s :: rest) front.length ↔
      s.place front.getLast? rest.head? = .stands ∧ s.relation.ignoresValue = true := by
  have hself : (front ++ s :: rest)[front.length]? = some s := by simp
  have halone : Alone ((front ++ s :: rest).map (·.stored)) front.length ↔
      sharesColumn s.blank (front.getLast?.map Shape.blank) = false
        ∧ sharesColumn s.blank (rest.head?.map Shape.blank) = false := by
    have hblank := alone_length_iff (front.map Shape.blank) s.blank (rest.map Shape.blank)
    rw [List.length_map, ← List.map_cons, ← List.map_append, List.map_map, List.getLast?_map,
      List.head?_map] at hblank
    exact hblank
  rw [Valueless, hself, halone]
  constructor
  · rintro ⟨⟨r, hr, hv⟩, hshares⟩
    obtain rfl : s = r := Option.some.inj hr
    exact ⟨(place_eq_stands_iff_of_ignores hv).mpr hshares, hv⟩
  · rintro ⟨hp, hv⟩
    exact ⟨⟨s, rfl, hv⟩, (place_eq_stands_iff_of_ignores hv).mp hp⟩

/-- The slots of an outline are the positions of its criteria without those that are valueless. -/
theorem slots_outline (front shapes : List Shape) :
    (outline front.getLast? front.length shapes).slots =
      (List.range' front.length shapes.length).filter
        fun position => ¬Valueless (front ++ shapes) position := by
  induction shapes generalizing front with
  | nil => rfl
  | cons s rest ih =>
      have hrest := ih (front ++ [s])
      rw [List.getLast?_concat, List.length_append, List.append_assoc, List.length_singleton,
        List.singleton_append] at hrest
      rw [outline, Skeleton.slots_append, slots_pieces, hrest, List.length_cons, List.range'_succ]
      simp only [← valueless_length_iff front s rest]
      by_cases hv : Valueless (front ++ s :: rest) front.length
      · rw [if_pos hv, List.filter_cons_of_neg (by simpa using hv), List.nil_append]
      · rw [if_neg hv, List.filter_cons_of_pos (by simpa using hv), List.singleton_append]

-- ── The last piece ────────────────────────────────────────────────────────────

/-- An outline is empty or ends in the joiner: what opens or continues a group is followed by a
    criterion that writes something. -/
theorem outline_eq_nil_or_concat (before : Option Shape) (position : Nat) (shapes : List Shape) :
    outline before position shapes = []
      ∨ ∃ front, outline before position shapes = front ++ [.text joiner] := by
  induction shapes generalizing before position with
  | nil => exact .inl rfl
  | cons s rest ih =>
      rw [outline]
      rcases ih (some s) (position + 1) with hrest | ⟨front, hrest⟩
      · rw [hrest, List.append_nil]
        -- nothing is written behind this criterion, so that no group goes on there
        have hclosed : sharesColumn s.blank (rest.head?.map Shape.blank) ≠ true := by
          intro h
          cases rest with
          | nil => exact Bool.false_ne_true h
          | cons r rest =>
              have hbefore : (some s.blank).map (·.column) = (some s).map (·.stored) := rfl
              have htext := accumulate_eq_fill (r :: rest) (fun _ => .text "") hbefore
                (position + 1)
              rw [hrest, List.mapIdx_cons] at htext
              exact accumulate_ne_empty (sharesColumn_comm .. ▸ h) htext
        cases hp : s.place before rest.head? with
        | opens => exact absurd (sharesColumn_of_place (.inl hp)) hclosed
        | continues => exact absurd (sharesColumn_of_place (.inr hp)) hclosed
        | closes =>
            refine .inr ⟨quotedSlot s.relation position ++ [.text ")"], ?_⟩
            rw [Place.pieces, List.append_assoc, List.singleton_append]
        | stands =>
            rw [Place.pieces]
            by_cases hall : s.relation = .all
            · exact .inl (if_pos hall)
            · exact .inr ⟨_, if_neg hall⟩
      · rw [hrest]
        exact .inr ⟨_, (List.append_assoc ..).symm⟩

theorem outline_eq_nil_or_skeleton (shapes : List Shape) :
    outline none 0 shapes = [] ∨ outline none 0 shapes = skeleton shapes ++ [.text joiner] := by
  rcases outline_eq_nil_or_concat none 0 shapes with h | ⟨front, h⟩
  · exact .inl h
  · rw [skeleton, h, List.dropLast_concat]
    exact .inr rfl

theorem slots_skeleton (shapes : List Shape) :
    (skeleton shapes).slots =
      (List.range shapes.length).filter fun position => ¬Valueless shapes position := by
  have houtline : (outline none 0 shapes).slots = (skeleton shapes).slots := by
    rcases outline_eq_nil_or_skeleton shapes with h | h
    · rw [skeleton, h, List.dropLast_nil]
    · rw [h, Skeleton.slots_append, Skeleton.slots, Skeleton.slots, List.append_nil]
  rw [← houtline, List.range_eq_range']
  exact slots_outline [] shapes

theorem accumulate_withValues (shapes : List Shape) (values : Nat → Value) :
    accumulate none (withValues shapes values) =
      (outline none 0 shapes).fill fun i => (values i).stored := by
  have hnone : (none : Option Criterion).map (·.column) = (none : Option Shape).map (·.stored) :=
    rfl
  have hfill := accumulate_eq_fill shapes values hnone 0
  simp only [Nat.zero_add] at hfill
  exact hfill

theorem build_withValues (shapes : List Shape) (values : Nat → Value) :
    build (withValues shapes values) =
      (skeleton shapes).fill fun i => (values i).stored := by
  rw [build, accumulate_withValues]
  rcases outline_eq_nil_or_skeleton shapes with h | h
  · rw [skeleton, h, List.dropLast_nil, Skeleton.fill, Text.trimSuffix_empty]
  · rw [h, Skeleton.fill_append, Skeleton.fill, Skeleton.fill, String.append_empty,
      Text.trimSuffix_append]

/-- **VALUES ARE NOT READ**: whatever the values are, the clause is the skeleton of its columns and
    relations with the values in the slots. What is accumulated is the same skeleton with one
    more piece, the joiner that the trim removes, or nothing. The slots are in the order of the
    criteria, one for each that is not valueless. -/
theorem build_eq_fill_skeleton (shapes : List Shape) :
    (skeleton shapes).slots.Pairwise (· < ·)
      ∧ (∀ i, i ∈ (skeleton shapes).slots ↔ i < shapes.length ∧ ¬Valueless shapes i)
      ∧ (outline none 0 shapes = [] ∨ outline none 0 shapes = skeleton shapes ++ [.text joiner])
      ∧ ∀ values : Nat → Value,
        accumulate none (withValues shapes values) =
            (outline none 0 shapes).fill (fun i => (values i).stored)
          ∧ build (withValues shapes values) =
            (skeleton shapes).fill fun i => (values i).stored := by
  have hslots := slots_skeleton shapes
  refine ⟨?_, ?_, outline_eq_nil_or_skeleton shapes, ?_⟩
  · rw [hslots]
    exact List.pairwise_lt_range.filter _
  · intro i
    rw [hslots, List.mem_filter, List.mem_range, decide_eq_true_iff]
  · intro values
    exact ⟨accumulate_withValues shapes values, build_withValues shapes values⟩

example : skeleton [⟨"A", .equal⟩, ⟨"[A]", .isNull⟩, ⟨"B", .isNull⟩] =
    [.text "A IN (", .text "'", .slot 0, .text "'", .text ", ", .text "'", .slot 1, .text "'",
      .text ")", .text " AND ", .text "B IS NULL"] := by decide

end SqlText.Clause.Where
