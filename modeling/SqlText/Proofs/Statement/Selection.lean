import SqlText.Proofs.Modifiers.Orders
import SqlText.Proofs.Statement.Guards

/-!
# Selections — the parts of a selection in their order

A selection is put together from parts with one blank between each two, and a part is left
out if its text is empty. Whether its text is empty is not always what is meant: the star
depends on the kinds of the modifiers, while their two fragments are looked at after their
blanks have been stripped. Both say the same. The front is the limit and the distinct
columns, each with a blank before it (`spaced_front`), and the back is empty only if no
modifier is written there (`ModifierList.back_eq_empty_iff`).

So the statement is known from what was given (`build_select_assembled`). It is asked of
the limit that it does not end in a blank, because nothing has to stand behind it.
-/

namespace SqlText

open Modifier (bare)

namespace Statement

variable {texts : List String} {table : String} {criteria : List Criterion}
  {given : List Modifier}

/-- The texts with a blank before each of them. -/
def spaced (texts : List String) : String :=
  String.join (texts.map (" " ++ ·))

theorem spaced_append (texts texts' : List String) :
    spaced (texts ++ texts') = spaced texts ++ spaced texts' := by
  rw [spaced, List.map_append, String.join_append, spaced, spaced]

theorem spaced_singleton (text : String) : spaced [text] = " " ++ text := by
  simp [spaced]

theorem spaced_part (keyword text : String) :
    spaced (part keyword text) = if text = "" then "" else " " ++ (keyword ++ text) := by
  rw [part]
  by_cases h : text = ""
  · rw [if_pos h, if_pos h]
    rfl
  · rw [if_neg h, if_neg h, spaced_singleton]

/-- A part made of texts that are not empty is these texts, with a blank before each. -/
theorem spaced_part_intercalate (h : ∀ text ∈ texts, text ≠ "") :
    spaced (part "" (" ".intercalate texts)) = spaced texts := by
  cases texts with
  | nil => rfl
  | cons text rest =>
      have hne : " ".intercalate (text :: rest) ≠ "" :=
        Text.intercalate_cons_ne_empty (h text (by simp))
      rw [spaced_part, if_neg hne, String.empty_append, Text.intercalate_cons_eq_join,
        ← String.append_assoc, spaced, List.map_cons, String.join_cons]

/-- A selection in pieces, each of them with the blank before it. -/
theorem select?_eq_append (h : criteria ≠ []) (modifiers : ModifierList) :
    select? table criteria modifiers = some ("SELECT"
      ++ spaced (part "" modifiers.front)
      ++ (if modifiers.hasKind .distinct then "" else " *")
      ++ (" FROM " ++ table)
      ++ (if Clause.Where.build criteria = "" then ""
        else " WHERE " ++ Clause.Where.build criteria)
      ++ (if modifiers.back = "" then "" else " " ++ modifiers.back)) := by
  have hstar : spaced (if modifiers.hasKind .distinct then [] else ["*"]) =
      if modifiers.hasKind .distinct then "" else " *" := by
    split <;> rfl
  have hfrom : spaced ["FROM " ++ table] = " FROM " ++ table := by
    rw [spaced_singleton, ← String.append_assoc]
    rfl
  have hwhere : spaced (part "WHERE " (Clause.Where.build criteria)) =
      if Clause.Where.build criteria = "" then "" else " WHERE " ++ Clause.Where.build criteria := by
    rw [spaced_part, ← String.append_assoc]
    rfl
  have hback : spaced (part "" modifiers.back) =
      if modifiers.back = "" then "" else " " ++ modifiers.back := by
    rw [spaced_part, String.empty_append]
  rw [select?, if_neg (by simpa using h), Option.some_inj]
  simp only [List.cons_append, List.nil_append]
  rw [Text.intercalate_cons_eq_join]
  show "SELECT" ++ spaced _ = _
  rw [spaced_append, spaced_append, spaced_append, spaced_append, hstar, hfrom, hwhere, hback]
  simp only [String.append_assoc]

-- ── What was given ────────────────────────────────────────────────────────────

/-- The front is the first limit and all distinct columns. -/
theorem spaced_front
    (htop : ∀ m ∈ given.find? (·.kind = .top),
      m.value ≠ "" ∧ Text.endsInBlank m.value = false) :
    spaced (part "" (ModifierList.ofList given).front) =
      (given.find? (·.kind = .top)).elim "" (fun m => " TOP " ++ m.value)
      ++ String.join ((given.filter (·.kind = .distinct)).map
        fun m => " DISTINCT(" ++ m.value ++ ")") := by
  have hlimit : (ModifierList.ofList given).ofKinds [.top] =
      (given.find? (·.kind = .top)).toList := ModifierList.ofKinds_ofList_of_single rfl given
  have hcolumns : (ModifierList.ofList given).ofKinds [.distinct] =
      given.filter (·.kind = .distinct) := ModifierList.ofKinds_ofList_of_unlimited rfl given
  have hsolid : ∀ m ∈ (ModifierList.ofList given).ofKinds [.top],
      m.value ≠ "" ∧ Text.endsInBlank m.value = false := by
    intro m hm
    rw [hlimit] at hm
    exact htop m (Option.mem_toList.mp hm)
  rw [ModifierList.front_eq_intercalate hsolid, spaced_part_intercalate, hlimit, hcolumns,
    List.map_append, spaced_append]
  · congr 1
    · -- the limit, which is one modifier at most
      cases hfirst : given.find? (·.kind = .top) with
      | none => rfl
      | some m =>
          have hkind : m.kind = .top := by simpa using List.find?_some hfirst
          rw [Option.toList_some, List.map_singleton, spaced_singleton, bare, hkind,
            Option.elim_some, ← String.append_assoc]
          rfl
    · -- the distinct columns, each with the blank that stood behind the one before it
      rw [spaced, List.map_map]
      congr 1
      refine List.map_congr_left fun m hm => ?_
      have hkind : m.kind = .distinct := of_decide_eq_true (List.mem_filter.mp hm).2
      rw [Function.comp_apply, bare, hkind, ← String.append_assoc, ← String.append_assoc]
      rfl
  · intro text htext
    obtain ⟨m, -, rfl⟩ := List.mem_map.mp htext
    exact m.bare_ne_empty

/-- The star stands where no distinct column is. -/
theorem distinct_or_star (given : List Modifier) :
    String.join ((given.filter (·.kind = .distinct)).map fun m => " DISTINCT(" ++ m.value ++ ")")
      ++ (if (ModifierList.ofList given).hasKind .distinct then "" else " *") =
    if given.any (·.kind = .distinct) then
      String.join ((given.filter (·.kind = .distinct)).map fun m => " DISTINCT(" ++ m.value ++ ")")
    else " *" := by
  rw [ModifierList.hasKind_ofList]
  by_cases h : given.any (·.kind = .distinct) = true
  · rw [if_pos h, if_pos h, String.append_empty]
  · have hnone : given.filter (·.kind = .distinct) = [] :=
      List.filter_eq_nil_iff.mpr (List.any_eq_false.mp (Bool.eq_false_iff.mpr h))
    rw [if_neg h, if_neg h, hnone]
    rfl

theorem back_ofList_eq_empty_iff : (ModifierList.ofList given).back = "" ↔
    ¬ given.any (fun m => m.kind = .min ∨ m.kind = .max ∨ m.kind.isOrder) = true := by
  rw [ModifierList.back_eq_empty_iff, ModifierList.hasKind_ofList, ModifierList.hasKind_ofList,
    ModifierList.orders_ofList, List.filter_eq_nil_iff, List.any_eq_false, List.any_eq_false,
    Bool.not_eq_true, List.any_eq_false]
  constructor
  · rintro ⟨hmin, hmax, horder⟩ m hm hany
    rcases of_decide_eq_true hany with h | h | h
    · exact hmin m hm (decide_eq_true h)
    · exact hmax m hm (decide_eq_true h)
    · exact horder m hm h
  · intro hnone
    refine ⟨?_, ?_, ?_⟩
    · exact fun m hm h => hnone m hm (decide_eq_true (.inl (of_decide_eq_true h)))
    · exact fun m hm h => hnone m hm (decide_eq_true (.inr (.inl (of_decide_eq_true h))))
    · exact fun m hm h => hnone m hm (decide_eq_true (.inr (.inr h)))

end Statement

namespace Builder

/-- **SELECTIONS IN FULL**: a selection by criteria is written as its verb, the first limit that
    was given, the star or all distinct columns, the table, the condition unless it is empty,
    and the back if a minimum, a maximum or an order was given, whatever stands in the values.
    The limit is not to end in a blank. -/
theorem build_select_assembled (target : Target) {criteria : List Criterion}
    (given : List Modifier) (hcriteria : criteria ≠ [])
    (htop : ∀ m ∈ given.find? (·.kind = .top),
      m.value ≠ "" ∧ Text.endsInBlank m.value = false) :
    (standard .select target).build (.select criteria (ModifierList.ofList given)) =
      written "select" ("SELECT"
        ++ (given.find? (·.kind = .top)).elim "" (fun m => " TOP " ++ m.value)
        ++ (if given.any (·.kind = .distinct) then
            String.join ((given.filter (·.kind = .distinct)).map
              fun m => " DISTINCT(" ++ m.value ++ ")")
          else " *")
        ++ (" FROM " ++ target.tableName)
        ++ (if Clause.Where.build criteria = "" then ""
          else " WHERE " ++ Clause.Where.build criteria)
        ++ (if given.any fun m => m.kind = .min ∨ m.kind = .max ∨ m.kind.isOrder then
            " " ++ (ModifierList.ofList given).back
          else "")) := by
  refine (build_eq _ _).trans ?_
  show ((Statement.select? target.tableName criteria (ModifierList.ofList given)).map
    (written "select")).getD nothing = _
  rw [Statement.select?_eq_append hcriteria, Statement.spaced_front htop,
    ← Statement.distinct_or_star, Option.map_some, Option.getD_some]
  simp only [Statement.back_ofList_eq_empty_iff, ite_not, String.append_assoc]

/-- A second limit that ends in a blank is not written, and no value is taken for a part. -/
theorem build_select_assembled_quoting :
    let given : List Modifier := [⟨.distinct, " "⟩, ⟨.orderDesc, "A"⟩, ⟨.top, "5 PERCENT"⟩,
      ⟨.top, "9 "⟩, ⟨.max, " BY "⟩, ⟨.distinct, "B) *"⟩]
    let criteria : List Criterion := [⟨"C", .equal, "1 MIN("⟩]
    criteria ≠ []
    ∧ (∀ m ∈ given.find? (·.kind = .top), m.value ≠ "" ∧ Text.endsInBlank m.value = false)
    ∧ (standard .select (.named "T")).build (.select criteria (ModifierList.ofList given)) =
      written "select" ("SELECT TOP 5 PERCENT DISTINCT( ) DISTINCT(B) *) FROM T"
        ++ " WHERE C='1 MIN(' MAX( BY ) , A DESC") := by
  intro given criteria
  have hcriteria : criteria ≠ [] := by decide
  have htop : ∀ m ∈ given.find? (·.kind = .top),
      m.value ≠ "" ∧ Text.endsInBlank m.value = false := by decide
  have htext := build_select_assembled (.named "T") given hcriteria htop
  exact ⟨hcriteria, htop, htext.trans (congrArg (written "select") (by decide +kernel))⟩

end Builder

end SqlText
