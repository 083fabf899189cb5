import SqlText.Modifier
import SqlText.Text.Blank

/-!
# Lists of modifiers — how directives add up

A list keeps its modifiers in the order in which they came, but each of the single
kinds at most once: a second one is not an error, it is left out and the first one
stands. That is the invariant of the type (`atMostOne`).

Two fragments of a statement are made from it. The *front* stands between `SELECT`
and `FROM`: the limit, then the distinct columns. The *back* stands after the
condition: the minimum, the maximum, then the orders. Within a fragment each family
keeps the order of the list. An order is introduced by `ORDER BY`, or by a comma once
the fragment so far holds the word `BY`.
-/

namespace SqlText

/-- Modifiers in the order in which they came, each single kind at most once. -/
@[ext] structure ModifierList where
  items : List Modifier
  atMostOne : ∀ kind : Modifier.Kind, kind.isSingle = true →
    (items.filter (·.kind = kind)).length ≤ 1
deriving DecidableEq

namespace ModifierList

instance : EmptyCollection ModifierList := ⟨⟨[], fun _ _ => by simp⟩⟩

variable {l : ModifierList} {m : Modifier} {kind : Modifier.Kind}

/-- Some modifier is of this kind. -/
def hasKind (l : ModifierList) (kind : Modifier.Kind) : Bool :=
  l.items.any (·.kind = kind)

/-- The modifiers of these kinds, in their order. -/
def ofKinds (l : ModifierList) (kinds : List Modifier.Kind) : List Modifier :=
  l.items.filter (·.kind ∈ kinds)

theorem filter_kind_eq_nil (h : l.hasKind kind = false) :
    l.items.filter (·.kind = kind) = [] := by
  rw [List.filter_eq_nil_iff]
  intro m hm
  rw [hasKind, List.any_eq_false] at h
  exact h m hm

/-- The list with one modifier more, unless it repeats a single kind. -/
def add (l : ModifierList) (m : Modifier) : ModifierList :=
  if h : (m.kind.isSingle && l.hasKind m.kind) = true then l
  else
    { items := l.items ++ [m]
      atMostOne := by
        intro kind hsingle
        rw [List.filter_append, List.length_append]
        by_cases hk : m.kind = kind
        · subst hk
          have hnone : l.hasKind m.kind = false := by simpa [hsingle] using h
          rw [filter_kind_eq_nil hnone]
          simp
        · have hlast : [m].filter (·.kind = kind) = [] := by simp [hk]
          rw [hlast]
          exact l.atMostOne kind hsingle }

/-- A repeated single kind changes nothing. -/
theorem add_of_repeated (hs : m.kind.isSingle = true) (hk : l.hasKind m.kind = true) :
    l.add m = l := by
  rw [add, dif_pos (by rw [hs, hk]; rfl)]

/-- Any other modifier goes to the end. -/
theorem items_add (h : m.kind.isSingle = false ∨ l.hasKind m.kind = false) :
    (l.add m).items = l.items ++ [m] := by
  rw [add, dif_neg]
  rcases h with h | h <;> simp [h]

/-- The list of some modifiers, added one after another. -/
def ofList (modifiers : List Modifier) : ModifierList :=
  modifiers.foldl add ∅

/-- The number of modifiers. -/
def size (l : ModifierList) : Nat :=
  l.items.length

/-- No modifier was added. -/
def isEmpty (l : ModifierList) : Bool :=
  l.items.isEmpty

-- ── Fragments ─────────────────────────────────────────────────────────────────

/-- The texts of the modifiers of one kind, one behind the other. -/
def written (l : ModifierList) (kind : Modifier.Kind) : String :=
  String.join ((l.ofKinds [kind]).map (·.render))

/-- The fragment between `SELECT` and `FROM`. -/
def front (l : ModifierList) : String :=
  Text.stripEndBlanks (l.written .top ++ l.written .distinct)

/-- The orders asked for, the first to be obeyed first. -/
def orders (l : ModifierList) : List Modifier :=
  l.items.filter (·.kind.isOrder)

/-- A fragment with one order more behind it. -/
def appendOrder (text : String) (m : Modifier) : String :=
  text ++ (if Text.occursIn " BY " text then ", " else "ORDER BY ") ++ m.render

/-- The fragment after the condition. -/
def back (l : ModifierList) : String :=
  Text.stripEndBlanks (l.orders.foldl appendOrder (l.written .min ++ l.written .max))

/-- The list with its parts named. -/
def describe (l : ModifierList) : String :=
  "ModifierList([" ++ ", ".intercalate (l.items.map (·.describe)) ++ "])"

end ModifierList

end SqlText
