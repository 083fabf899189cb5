import Mathlib.Data.List.Chain
import SqlText.Proofs.Clause.Composition

/-!
# Reading — criteria taken back from their clause

A clause is read from left to right. A criterion that opens a group or stands alone
names its column, which ends where the first character stands that is no letter, digit
or underscore. What follows up to the value is a *lead*: the opening of a group or an
operator with the quote behind it. No lead begins another one (`lead_prefixFree`), although
`<` begins `<=` and `<>`: the quote tells them apart. The value ends at the next quote,
and the *tail* behind it says whether the group goes on (`tail_append_inj`).

The step is `write_append_inj`: the text of a criterion tells its place, its value, its
column and relation as far as they are written, and the text that follows it. By induction
the accumulated text tells the criteria (`accumulate_inj`), provided that they are
`Readable`: what is not written can then only be an equality, or the column of the
criterion before.
-/

namespace SqlText.Clause.Where

variable {before after : Option Criterion} {c d : Criterion} {l l' : List Criterion}

/-- The relations that compare a column with a value. -/
def comparisons : List Relation :=
  [.equal, .notEqual, .greater, .less, .greaterOrEqual, .lessOrEqual, .like, .notLike]

/-- A criterion that can be read back: a column that is a word is compared with a value
    without quotes. -/
structure Legible (c : Criterion) : Prop where
  column : ∀ x ∈ c.column.toList, Text.isWord x = true
  value : '\'' ∉ c.value.toList
  relation : c.relation ∈ comparisons

instance (c : Criterion) : Decidable (Legible c) :=
  decidable_of_iff
    (c.column.toList.all Text.isWord ∧ '\'' ∉ c.value.toList ∧ c.relation ∈ comparisons)
    ⟨fun h => ⟨List.all_eq_true.mp h.1, h.2.1, h.2.2⟩,
      fun h => ⟨List.all_eq_true.mpr h.column, h.value, h.relation⟩⟩

/-- Criteria that can be read back: neighbours on one column ask for equality. -/
structure Readable (criteria : List Criterion) : Prop where
  each : ∀ c ∈ criteria, Legible c
  group : criteria.IsChain fun x y =>
    x.column = y.column → x.relation = .equal ∧ y.relation = .equal

instance (criteria : List Criterion) : Decidable (Readable criteria) :=
  decidable_of_iff
    ((∀ c ∈ criteria, Legible c) ∧ criteria.IsChain fun x y =>
      x.column = y.column → x.relation = .equal ∧ y.relation = .equal)
    ⟨fun h => ⟨h.1, h.2⟩, fun h => ⟨h.each, h.group⟩⟩

-- ── The parts of a text ───────────────────────────────────────────────────────

namespace Place

/-- The column, where a place names it. -/
def heading (c : Criterion) : Place → String
  | opens | stands => c.column
  | continues | closes => ""

/-- What stands between column and value, the quote included. -/
def lead (relation : Relation) : Place → String
  | opens => " IN ('"
  | stands => relation.operator ++ "'"
  | continues | closes => "'"

/-- What stands behind the value and its quote. -/
def tail : Place → String
  | opens | continues => separator
  | closes => ")" ++ joiner
  | stands => joiner

/-- The place names its column. -/
def isNamed : Place → Bool
  | opens | stands => true
  | continues | closes => false

/-- The group goes on behind the place. -/
def goesOn : Place → Bool
  | opens | continues => true
  | closes | stands => false

theorem heading_of_isNamed {p : Place} (h : p.isNamed = true) : p.heading c = c.column := by
  cases p with
  | opens | stands => rfl
  | continues | closes => exact Bool.noConfusion h

/-- Within a group only the quote stands before the value. -/
theorem heading_lead_of_not_isNamed {p : Place} (h : p.isNamed = false) (text : String) :
    p.heading c ++ (p.lead c.relation ++ text) = "'" ++ text := by
  cases p with
  | opens | stands => exact Bool.noConfusion h
  | continues | closes => rw [heading, lead, String.empty_append]

theorem write_eq (h : c.relation ∈ comparisons) (p : Place) :
    p.write c = p.heading c ++ (p.lead c.relation ++ (c.quotedText ++ ("'" ++ p.tail))) := by
  have hstands : c.render = c.column ++ (c.relation.operator ++ c.quotedValue) := by
    cases hr : c.relation <;> simp [comparisons, hr] at h <;>
      simp [Criterion.render, hr, String.append_assoc]
  cases p with
  | stands =>
      have hne : c.render ≠ "" := by
        intro he
        rw [Criterion.render_eq_empty_iff] at he
        rw [he] at h
        exact absurd h (by decide)
      rw [write, if_neg hne, hstands, Criterion.quotedValue_eq]
      simp [heading, lead, tail, String.append_assoc]
  | _ =>
      rw [write, Criterion.quotedValue_eq, ← String.toList_inj]
      simp [heading, lead, tail, separator]

end Place

-- ── The place of a comparison ─────────────────────────────────────────────────

theorem ne_between_of_comparison (h : c.relation ∈ comparisons) :
    c.relation ≠ .betweenStart ∧ c.relation ≠ .betweenEnd :=
  ⟨ne_of_mem_of_not_mem h (by decide), ne_of_mem_of_not_mem h (by decide)⟩

/-- A comparison names its column unless the criterion before is on it. -/
theorem isNamed_place (h : c.relation ∈ comparisons) :
    (place before c after).isNamed = !sharesColumn c before := by
  obtain ⟨hs, he⟩ := ne_between_of_comparison h
  rw [place]
  by_cases ha : sharesColumn c after <;> by_cases hb : sharesColumn c before <;>
    simp [ha, hb, hs, he, Place.isNamed]

/-- The group goes on behind a comparison if the next criterion is on its column. -/
theorem goesOn_place (h : c.relation ∈ comparisons) :
    (place before c after).goesOn = sharesColumn c after := by
  obtain ⟨hs, he⟩ := ne_between_of_comparison h
  rw [place]
  by_cases ha : sharesColumn c after <;> by_cases hb : sharesColumn c before <;>
    simp [ha, hb, hs, he, Place.goesOn]

namespace Readable

theorem right_of_append (h : Readable (l ++ l')) : Readable l' where
  each := fun x hx => h.each x (List.mem_append_right l hx)
  group := (List.isChain_append.mp h.group).2.1

/-- In a group only equality is asked for, so that the relation need not be written. -/
theorem relation_eq_equal (h : Readable (before.toList ++ c :: l))
    (hp : place before c l.head? ≠ .stands) : c.relation = .equal := by
  obtain ⟨-, hgroup, hseam⟩ := List.isChain_append.mp h.group
  rw [Ne, place_eq_stands_iff, Classical.not_and_iff_not_or_not] at hp
  rcases hp with ha | hb
  · obtain ⟨hshares, -⟩ := Classical.not_imp.mp ha
    obtain ⟨d, hd, hcol⟩ := exists_of_sharesColumn hshares
    exact ((List.isChain_cons.mp hgroup).1 d hd hcol.symm).1
  · obtain ⟨hshares, -⟩ := Classical.not_imp.mp hb
    obtain ⟨b, rfl, hcol⟩ := exists_of_sharesColumn hshares
    exact (hseam b rfl c rfl hcol).2

end Readable

-- ── Reading one criterion ─────────────────────────────────────────────────────

/-- No lead that stands behind a column begins another one. -/
theorem lead_prefixFree :
    ∀ p ∈ [Place.opens, .stands], ∀ p' ∈ [Place.opens, .stands],
      ∀ r ∈ comparisons, ∀ r' ∈ comparisons,
        (p.lead r).toList.isPrefixOf (p'.lead r').toList → p = p' ∧ (p = .stands → r = r') := by
  decide

variable {p p' : Place} {r r' : Relation} {t t' : String}

/-- The lead behind a column tells a group from an operator, and the operators apart. -/
theorem lead_append_inj (hp : p.isNamed = true) (hp' : p'.isNamed = true)
    (hr : r ∈ comparisons) (hr' : r' ∈ comparisons) (h : p.lead r ++ t = p'.lead r' ++ t') :
    p = p' ∧ (p = .stands → r = r') ∧ t = t' := by
  have hnamed {q : Place} (hq : q.isNamed = true) : q ∈ [Place.opens, .stands] := by
    cases q with
    | opens | stands => decide
    | continues | closes => exact Bool.noConfusion hq
  have hlist : (p.lead r).toList ++ t.toList = (p'.lead r').toList ++ t'.toList := by
    rw [← String.toList_append, h, String.toList_append]
  have hlead : p = p' ∧ (p = .stands → r = r') := by
    have hleft : (p.lead r).toList <+: (p'.lead r').toList ++ t'.toList :=
      hlist ▸ List.prefix_append _ _
    -- both leads begin one text, so that one of them begins the other
    rcases List.prefix_or_prefix_of_prefix hleft (List.prefix_append _ _) with hpre | hpre
    · exact lead_prefixFree p (hnamed hp) p' (hnamed hp') r hr r' hr'
        (List.isPrefixOf_iff_prefix.mpr hpre)
    · obtain ⟨hplace, hrel⟩ := lead_prefixFree p' (hnamed hp') p (hnamed hp) r' hr' r hr
        (List.isPrefixOf_iff_prefix.mpr hpre)
      exact ⟨hplace.symm, fun hs => (hrel (hplace.trans hs)).symm⟩
  obtain ⟨rfl, hrel⟩ := hlead
  have hsame : p.lead r = p.lead r' := by
    cases p with
    | stands => rw [hrel rfl]
    | opens | continues | closes => rfl
  rw [hsame, String.append_right_inj] at h
  exact ⟨rfl, hrel, h⟩

/-- Behind a column that is a word, a lead shows where the column ends. -/
theorem head_lead (hp : p.isNamed = true) (hr : r ∈ comparisons) (t : String) :
    ∀ x ∈ (p.lead r ++ t).toList.head?, Text.isWord x = false := by
  cases p with
  | opens => simp [Place.lead, Text.isWord]
  | stands =>
      revert hr
      cases r <;> simp [comparisons, Place.lead, Relation.operator, Text.isWord]
  | continues | closes => exact Bool.noConfusion hp

/-- Of two places in one group the tail tells the last one. -/
theorem tail_append_inj (hp : p.isNamed = false) (hp' : p'.isNamed = false)
    (h : p.tail ++ t = p'.tail ++ t') : p = p' := by
  cases p with
  | opens | stands => exact Bool.noConfusion hp
  | continues =>
      cases p' with
      | opens | stands => exact Bool.noConfusion hp'
      | continues => rfl
      | closes =>
          rw [← String.toList_inj] at h
          simp [Place.tail, separator] at h
  | closes =>
      cases p' with
      | opens | stands => exact Bool.noConfusion hp'
      | closes => rfl
      | continues =>
          rw [← String.toList_inj] at h
          simp [Place.tail, separator] at h

/-- **ONE CRITERION**: the text of a comparison tells its place, its column and relation as
    far as they are written, its value, and the text that follows. -/
theorem write_append_inj (hc : Legible c) (hd : Legible d) (hn : p.isNamed = p'.isNamed)
    (h : p.write c ++ t = p'.write d ++ t') :
    p = p' ∧ (p.isNamed = true → c.column = d.column) ∧ (p = .stands → c.relation = d.relation)
      ∧ c.quotedText = d.quotedText ∧ t = t' := by
  rw [Place.write_eq hc.relation, Place.write_eq hd.relation] at h
  simp only [String.append_assoc] at h
  have hcq := Criterion.quote_notMem_quotedText hc.value
  have hdq := Criterion.quote_notMem_quotedText hd.value
  cases hp : p.isNamed with
  | true =>
      have hp' : p'.isNamed = true := by rw [← hn, hp]
      rw [Place.heading_of_isNamed hp, Place.heading_of_isNamed hp'] at h
      obtain ⟨hcol, hrest⟩ := Text.append_inj_of_class hc.column hd.column
        (head_lead hp hc.relation _) (head_lead hp' hd.relation _) h
      obtain ⟨rfl, hrel, hvalue⟩ := lead_append_inj hp hp' hc.relation hd.relation hrest
      obtain ⟨hquoted, htail⟩ := Text.append_quote_inj hcq hdq hvalue
      exact ⟨rfl, fun _ => hcol, hrel, hquoted, (String.append_right_inj _).mp htail⟩
  | false =>
      have hp' : p'.isNamed = false := by rw [← hn, hp]
      rw [Place.heading_lead_of_not_isNamed hp, Place.heading_lead_of_not_isNamed hp',
        String.append_right_inj] at h
      obtain ⟨hquoted, htail⟩ := Text.append_quote_inj hcq hdq h
      obtain rfl := tail_append_inj hp hp' htail
      have hstands : p ≠ .stands := by
        rintro rfl
        exact Bool.noConfusion hp
      exact ⟨rfl, fun hnamed => absurd hnamed Bool.false_ne_true, fun hs => absurd hs hstands,
        hquoted, (String.append_right_inj _).mp htail⟩

-- ── Reading the clause ────────────────────────────────────────────────────────

theorem accumulate_cons_ne_empty (h : Readable (before.toList ++ c :: l)) :
    accumulate before (c :: l) ≠ "" := by
  intro he
  rw [accumulate, String.append_eq_empty_iff, write_eq_empty_iff] at he
  have hc := (h.each c (List.mem_append_right _ List.mem_cons_self)).relation
  rw [he.1.2] at hc
  exact absurd hc (by decide)

/-- **UNIQUE READING**: behind the same criterion, or at the beginning, the accumulated text
    tells the criteria. The two lists have to agree on whether the group goes on. -/
theorem accumulate_inj (before : Option Criterion)
    (h : Readable (before.toList ++ l)) (h' : Readable (before.toList ++ l'))
    (hseam : ∀ x ∈ l.head?, ∀ y ∈ l'.head?, sharesColumn x before = sharesColumn y before)
    (he : accumulate before l = accumulate before l') : l = l' := by
  induction l generalizing before l' with
  | nil =>
      cases l' with
      | nil => rfl
      | cons d rest' => exact absurd he.symm (accumulate_cons_ne_empty h')
  | cons c rest ih =>
      cases l' with
      | nil => exact absurd he (accumulate_cons_ne_empty h)
      | cons d rest' =>
          have hmem {x : Criterion} {xs : List Criterion} : x ∈ before.toList ++ x :: xs :=
            List.mem_append_right _ List.mem_cons_self
          have hc := h.each c hmem
          have hd := h'.each d hmem
          have hshares := hseam c rfl d rfl
          have hn : (place before c rest.head?).isNamed = (place before d rest'.head?).isNamed := by
            rw [isNamed_place hc.relation, isNamed_place hd.relation, hshares]
          rw [accumulate, accumulate] at he
          obtain ⟨hplace, hnamed, hstands, hquoted, hrest⟩ := write_append_inj hc hd hn he
          have hcol : c.column = d.column := by
            cases hb : sharesColumn c before with
            | false => exact hnamed (by rw [isNamed_place hc.relation, hb]; rfl)
            | true =>
                -- neither column is written: both are the column of the criterion before
                obtain ⟨b, rfl, hbc⟩ := exists_of_sharesColumn hb
                have hbd : b.column = d.column := sharesColumn_some.mp (hshares ▸ hb)
                exact hbc.symm.trans hbd
          have hrel : c.relation = d.relation := by
            by_cases hs : place before c rest.head? = .stands
            · exact hstands hs
            · rw [h.relation_eq_equal hs, h'.relation_eq_equal (hplace ▸ hs)]
          obtain rfl : c = d := Criterion.eq_of_quotedText hcol hrel hquoted
          have hgoes : sharesColumn c rest.head? = sharesColumn c rest'.head? := by
            rw [← goesOn_place hc.relation, hplace, goesOn_place hc.relation]
          have hnext : ∀ x ∈ rest.head?, ∀ y ∈ rest'.head?,
              sharesColumn x (some c) = sharesColumn y (some c) := by
            intro x hx y hy
            rw [sharesColumn_comm x, sharesColumn_comm y, ← hx, ← hy]
            exact hgoes
          rw [ih (some c) h.right_of_append h'.right_of_append hnext hrest]

theorem build_inj (h : Readable l) (h' : Readable l') (he : build l = build l') : l = l' := by
  refine accumulate_inj none h h' (fun _ _ _ _ => rfl) ?_
  rw [accumulate_none, accumulate_none, he]

end SqlText.Clause.Where
