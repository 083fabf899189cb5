import Mathlib.Data.List.Induction
import SqlText.ModifierList

/-!
# Kept modifiers — of each single kind the first one stands

A list of modifiers looks at what it holds, not at what it was given: it leaves a modifier
out if it already holds one of the same single kind. What it holds can still be told from
what it was given, by position (`kept`): a modifier is kept unless it is of a single kind
and one of that kind stands before it.

The route: a modifier that is left out is of a kind that the list holds, so a list holds a
kind exactly if it was ever given one of it (`hasKind_add`, `hasKind_ofList`). Looking at
the list is therefore looking at all that was given before, and each addition goes the way
of its position (`items_ofList`). The modifiers of one kind are then known from those of
that kind alone: all of them, or the first if the kind is single
(`filter_items_ofList_of_unlimited`, `filter_items_ofList_of_single`).
-/

namespace SqlText.ModifierList

variable {l : ModifierList} {m : Modifier} {kind : Modifier.Kind} {given : List Modifier}

/-- The modifier is of a single kind, and one of that kind stands before it. -/
def repeats (before : List Modifier) (m : Modifier) : Bool :=
  m.kind.isSingle && before.any (·.kind = m.kind)

/-- What is kept of a sequence: each modifier that repeats none of those before its position. -/
def kept (given : List Modifier) : List Modifier :=
  (given.zipIdx.filter fun (m, i) => !repeats (given.take i) m).map Prod.fst

theorem kept_concat (given : List Modifier) (m : Modifier) :
    kept (given ++ [m]) = kept given ++ if repeats given m then [] else [m] := by
  have hbefore : ((given ++ [m]).zipIdx.filter fun (x, i) => !repeats ((given ++ [m]).take i) x) =
      (given.zipIdx.filter fun (x, i) => !repeats (given.take i) x)
        ++ [(m, given.length)].filter fun _ => !repeats given m := by
    rw [List.zipIdx_append, List.filter_append]
    congr 1
    · -- what stands before a position stays the same if something is put behind
      refine List.filter_congr ?_
      rintro ⟨x, i⟩ hx
      have hi : i ≤ given.length := Nat.le_of_lt (List.mem_zipIdx' hx).1
      show (!repeats ((given ++ [m]).take i) x) = !repeats (given.take i) x
      rw [List.take_append_of_le_length hi]
    · simp [List.filter_cons]
  rw [kept, hbefore, List.map_append, ← kept]
  cases repeats given m <;> rfl

-- ── One addition ──────────────────────────────────────────────────────────────

theorem items_add_eq (l : ModifierList) (m : Modifier) :
    (l.add m).items = l.items ++ if repeats l.items m then [] else [m] := by
  by_cases h : repeats l.items m = true
  · obtain ⟨hs, hk⟩ := Bool.and_eq_true_iff.mp h
    rw [if_pos h, add_of_repeated hs hk, List.append_nil]
  · rw [if_neg h]
    rcases Bool.and_eq_false_iff.mp (Bool.eq_false_iff.mpr h) with hs | hk
    · exact items_add (.inl hs)
    · exact items_add (.inr hk)

/-- An addition brings its kind, be it that the list had it already. -/
theorem hasKind_add : (l.add m).hasKind kind = (l.hasKind kind || decide (m.kind = kind)) := by
  rw [hasKind, items_add_eq, List.any_append]
  by_cases h : repeats l.items m = true
  · rw [if_pos h]
    by_cases hkind : m.kind = kind
    · -- the modifier is left out because the list holds its kind
      have hheld : l.hasKind kind = true := hkind ▸ (Bool.and_eq_true_iff.mp h).2
      show (l.hasKind kind || false) = (l.hasKind kind || _)
      rw [hheld]
      rfl
    · simp [hasKind, hkind]
  · rw [if_neg h]
    simp [hasKind]

-- ── A run of additions ────────────────────────────────────────────────────────

theorem ofList_append (given more : List Modifier) :
    ofList (given ++ more) = more.foldl add (ofList given) :=
  List.foldl_append

theorem ofList_concat (given : List Modifier) (m : Modifier) :
    ofList (given ++ [m]) = (ofList given).add m :=
  ofList_append given [m]

theorem hasKind_ofList : (ofList given).hasKind kind = given.any (·.kind = kind) := by
  induction given using List.reverseRecOn with
  | nil => rfl
  | append_singleton given m ih =>
      rw [ofList_concat, hasKind_add, ih, List.any_append]
      simp

theorem repeats_items_ofList : repeats (ofList given).items m = repeats given m := by
  show (m.kind.isSingle && (ofList given).hasKind m.kind) = repeats given m
  rw [hasKind_ofList, repeats]

theorem items_ofList (given : List Modifier) : (ofList given).items = kept given := by
  induction given using List.reverseRecOn with
  | nil => rfl
  | append_singleton given m ih =>
      rw [ofList_concat, items_add_eq, repeats_items_ofList, ih, kept_concat]

theorem items_ofList_concat (given : List Modifier) (m : Modifier) :
    (ofList (given ++ [m])).items =
      (ofList given).items ++ if repeats given m then [] else [m] := by
  rw [items_ofList, kept_concat, items_ofList]

theorem filter_items_ofList_of_unlimited {p : Modifier.Kind → Bool}
    (hp : ∀ kind, p kind = true → kind.isSingle = false) (given : List Modifier) :
    (ofList given).items.filter (p ·.kind) = given.filter (p ·.kind) := by
  induction given using List.reverseRecOn with
  | nil => rfl
  | append_singleton given m ih =>
      rw [items_ofList_concat, List.filter_append, List.filter_append, ih]
      by_cases hm : p m.kind = true
      · have hnew : repeats given m = false := by rw [repeats, hp m.kind hm]; rfl
        rw [hnew]
        rfl
      · cases repeats given m <;> simp [hm]

theorem filter_kind_items_ofList_of_unlimited (hs : kind.isSingle = false)
    (given : List Modifier) :
    (ofList given).items.filter (·.kind = kind) = given.filter (·.kind = kind) := by
  have hp : ∀ k : Modifier.Kind, decide (k = kind) = true → k.isSingle = false := by
    intro k hk
    rw [of_decide_eq_true hk, hs]
  exact filter_items_ofList_of_unlimited hp given

/-- Of a single kind the first modifier is kept. -/
theorem filter_items_ofList_of_single (hs : kind.isSingle = true) (given : List Modifier) :
    (ofList given).items.filter (·.kind = kind) = (given.filter (·.kind = kind)).take 1 := by
  induction given using List.reverseRecOn with
  | nil => rfl
  | append_singleton given m ih =>
      rw [items_ofList_concat, List.filter_append, List.filter_append, ih]
      by_cases hm : m.kind = kind
      · subst hm
        cases hfirst : given.filter (·.kind = m.kind) with
        | nil =>
            have hnew : given.any (·.kind = m.kind) = false := by
              simpa [List.filter_eq_nil_iff] using hfirst
            simp [repeats, hnew]
        | cons first rest =>
            have hmem : first ∈ given.filter (·.kind = m.kind) := by simp [hfirst]
            have hold : given.any (·.kind = m.kind) = true :=
              List.any_eq_true.mpr ⟨first, List.mem_filter.mp hmem⟩
            simp [repeats, hs, hold]
      · cases repeats given m <;> simp [hm]

-- ── Lists that hold no repetition ─────────────────────────────────────────────

/-- A sequence without repetitions is kept as it is. -/
theorem items_ofList_of_atMostOne
    (h : ∀ kind : Modifier.Kind, kind.isSingle = true →
      (given.filter (·.kind = kind)).length ≤ 1) : (ofList given).items = given := by
  induction given using List.reverseRecOn with
  | nil => rfl
  | append_singleton given m ih =>
      have hgiven : (ofList given).items = given := by
        refine ih fun kind hs => Nat.le_trans ?_ (h kind hs)
        exact ((List.sublist_append_left given [m]).filter _).length_le
      have hnew : repeats given m = false := by
        rw [repeats, Bool.and_eq_false_iff]
        by_cases hs : m.kind.isSingle = true
        · -- the last one takes the only place of its kind
          have hlast : (given.filter (·.kind = m.kind)).length + 1 ≤ 1 := by
            simpa [List.filter_append] using h m.kind hs
          have hnone : given.filter (·.kind = m.kind) = [] :=
            List.eq_nil_of_length_eq_zero (by omega)
          right
          simpa [List.filter_eq_nil_iff] using hnone
        · exact .inl (Bool.eq_false_iff.mpr hs)
      rw [items_ofList_concat, hnew, hgiven]
      rfl

/-- A list made of the items of a list is that list. -/
theorem ofList_items (l : ModifierList) : ofList l.items = l :=
  ModifierList.ext (items_ofList_of_atMostOne l.atMostOne)

/-- **FIRST ONES STAND**: whatever modifiers are given, at once or one by one, the list keeps
    of each single kind the first and of the other kinds all, each at its place in the
    sequence. Its own items make the same list again, and a modifier of a single kind that was
    given before changes nothing. -/
theorem items_foldl_add_ofList (given more : List Modifier) :
    let l := more.foldl add (ofList given)
    l.items = kept (given ++ more)
    ∧ l = ofList (given ++ more)
    ∧ (∀ kind : Modifier.Kind, l.items.filter (·.kind = kind) =
        if kind.isSingle then ((given ++ more).filter (·.kind = kind)).take 1
        else (given ++ more).filter (·.kind = kind))
    ∧ ofList l.items = l
    ∧ ∀ m, repeats (given ++ more) m = true → l.add m = l := by
  rw [← ofList_append]
  refine ⟨items_ofList _, rfl, ?_, ofList_items _, ?_⟩
  · intro kind
    by_cases hs : kind.isSingle = true
    · rw [if_pos hs, filter_items_ofList_of_single hs]
    · rw [if_neg hs, filter_kind_items_ofList_of_unlimited (Bool.eq_false_iff.mpr hs)]
  · intro m hm
    rw [← repeats_items_ofList] at hm
    obtain ⟨hs, hk⟩ := Bool.and_eq_true_iff.mp hm
    exact add_of_repeated hs hk

/-- Two limits and two maxima among orders, split between the start and later additions. -/
theorem items_foldl_add_two_limits :
    let given : List Modifier := [⟨.top, "5"⟩, ⟨.orderAsc, "A"⟩, ⟨.max, "B"⟩]
    let more : List Modifier := [⟨.top, "9"⟩, ⟨.distinct, "C"⟩, ⟨.max, "D"⟩, ⟨.orderAsc, "A"⟩]
    let l := more.foldl add (ofList given)
    l.items = [⟨.top, "5"⟩, ⟨.orderAsc, "A"⟩, ⟨.max, "B"⟩, ⟨.distinct, "C"⟩, ⟨.orderAsc, "A"⟩]
    ∧ repeats (given ++ more) ⟨.top, "7"⟩ = true
    ∧ l.add ⟨.top, "7"⟩ = l := by
  intro given more l
  obtain ⟨hitems, -, -, -, hadd⟩ := items_foldl_add_ofList given more
  have hrepeats : repeats (given ++ more) ⟨.top, "7"⟩ = true := by decide
  exact ⟨hitems.trans (by decide), hrepeats, hadd _ hrepeats⟩

end SqlText.ModifierList
