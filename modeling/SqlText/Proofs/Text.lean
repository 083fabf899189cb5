import SqlText.Text.Blank

/-!
# Texts — where one part of a text ends

A text that is put together from parts can be taken apart again if each part shows where it
ends. `append_inj_of_class` is that fact for a part made of characters of one class before a
character outside of it: a column before an operator, a value before its quote. In a list of
such parts, joined by a separator, the parts need not be different and their number need not be
known, as long as what comes behind the list is not read as one more part
(`intercalate_append_inj`).

A pattern that is searched in such a text is found within one of the parts if at each seam
stands a character that the pattern does not have (`occursIn_append`). And the blanks at the end
of the text are those at the end of its last part (`endsInBlank_append`).
-/

namespace SqlText.Text

theorem intercalate_cons_ne_empty {separator text : String} {texts : List String}
    (h : text ≠ "") : separator.intercalate (text :: texts) ≠ "" := by
  cases texts <;> simp [h]

theorem intercalate_cons_eq_join (separator text : String) (texts : List String) :
    separator.intercalate (text :: texts) = text ++ String.join (texts.map (separator ++ ·)) := by
  induction texts generalizing text with
  | nil => simp
  | cons next rest ih =>
      rw [String.intercalate_cons_cons, ih, List.map_cons, String.join_cons]
      simp only [String.append_assoc]

theorem intercalate_concat_eq_join (separator : String) (texts : List String) (text : String) :
    separator.intercalate (texts ++ [text]) = String.join (texts.map (· ++ separator)) ++ text := by
  induction texts with
  | nil => simp
  | cons first rest ih =>
      rw [List.cons_append, String.intercalate_cons_of_ne_nil (by simp), ih, List.map_cons,
        String.join_cons]
      simp only [String.append_assoc]

/-- A list does not read the same with a new element before it and another one behind. -/
theorem cons_append_ne {α : Type} {x y : α} (hxy : x ≠ y) (l t t' : List α) :
    x :: (l ++ t) ≠ l ++ y :: t' := by
  induction l with
  | nil =>
      intro h
      exact hxy (List.cons.inj h).1
  | cons z l ih =>
      intro h
      obtain ⟨hxz, htail⟩ := List.cons.inj h
      rw [← hxz] at htail
      exact ih htail

-- ── Parts that show their end ─────────────────────────────────────────────────

variable {p : Char → Bool} {a a' t t' : String}

theorem takeWhile_append_eq {l r : List Char} (hl : ∀ c ∈ l, p c = true)
    (hr : ∀ c ∈ r.head?, p c = false) : (l ++ r).takeWhile p = l := by
  rw [List.takeWhile_append_of_pos hl]
  cases r with
  | nil => rw [List.takeWhile_nil, List.append_nil]
  | cons c r => rw [List.takeWhile_cons, if_neg (by simp [hr c rfl]), List.append_nil]

/-- Two parts in a class are known from the text if both end where the class ends. -/
theorem append_inj_of_class (ha : ∀ c ∈ a.toList, p c = true)
    (ha' : ∀ c ∈ a'.toList, p c = true) (ht : ∀ c ∈ t.toList.head?, p c = false)
    (ht' : ∀ c ∈ t'.toList.head?, p c = false) (h : a ++ t = a' ++ t') : a = a' ∧ t = t' := by
  have hlist : a.toList ++ t.toList = a'.toList ++ t'.toList := by
    rw [← String.toList_append, ← String.toList_append, h]
  have haa' : a = a' := by
    rw [← String.toList_inj, ← takeWhile_append_eq ha ht, hlist, takeWhile_append_eq ha' ht']
  subst haa'
  exact ⟨rfl, String.append_right_inj a |>.mp h⟩

/-- A letter, a digit or the underscore, all of them ASCII. -/
def isWord (c : Char) : Bool :=
  c.isAlphanum || c == '_'

/-- A text without a quote in it is known from what stands before a quote. -/
theorem append_quote_inj (ha : '\'' ∉ a.toList) (ha' : '\'' ∉ a'.toList)
    (h : a ++ ("'" ++ t) = a' ++ ("'" ++ t')) : a = a' ∧ t = t' := by
  have hclass {s : String} (hs : '\'' ∉ s.toList) : ∀ c ∈ s.toList, (c != '\'') = true := by
    intro c hc
    exact bne_iff_ne.mpr (ne_of_mem_of_not_mem hc hs)
  have hquote (s : String) : ∀ c ∈ ("'" ++ s).toList.head?, (c != '\'') = false := by
    simp
  obtain ⟨haa', htt'⟩ := append_inj_of_class (hclass ha) (hclass ha') (hquote t) (hquote t') h
  exact ⟨haa', String.append_right_inj "'" |>.mp htt'⟩

-- ── Lists of parts ────────────────────────────────────────────────────────────

/-- The text of an item shows where it ends, before every text that may follow it. -/
def ShowsEnd {α : Type} (text : α → String) (Item : α → Prop) (Follows : String → Prop) : Prop :=
  ∀ ⦃x y : α⦄ ⦃s s' : String⦄, Item x → Item y → Follows s → Follows s' →
    text x ++ s = text y ++ s' → x = y ∧ s = s'

section Lists

variable {α : Type} {text : α → String} {Item : α → Prop} {Follows : String → Prop}
  {separator : String} {items items' : List α}

theorem join_cons_append (x : α) (rest : List α) (t : String) :
    String.join ((x :: rest).map fun x => separator ++ text x) ++ t =
      separator ++ (text x ++ (String.join (rest.map fun x => separator ++ text x) ++ t)) := by
  rw [List.map_cons, String.join_cons, String.append_assoc, String.append_assoc]

theorem follows_join (hsep : ∀ s, Follows (separator ++ s)) (ht : Follows t) (items : List α) :
    Follows (String.join (items.map fun x => separator ++ text x) ++ t) := by
  cases items with
  | nil => simpa using ht
  | cons x rest =>
      rw [join_cons_append]
      exact hsep _

/-- Items with the separator before each of them are known from their text, if the text behind
    them does not begin with the separator. -/
theorem join_append_inj (hshow : ShowsEnd text Item Follows)
    (hsep : ∀ s, Follows (separator ++ s)) (ht : Follows t) (ht' : Follows t')
    (hstop : ∀ s, t ≠ separator ++ s) (hstop' : ∀ s, t' ≠ separator ++ s)
    (hitems : ∀ x ∈ items, Item x) (hitems' : ∀ x ∈ items', Item x)
    (h : String.join (items.map fun x => separator ++ text x) ++ t =
      String.join (items'.map fun x => separator ++ text x) ++ t') :
    items = items' ∧ t = t' := by
  induction items generalizing items' with
  | nil =>
      cases items' with
      | nil => simpa using h
      | cons y rest' =>
          -- one list ends where the other one goes on
          rw [List.map_nil, String.join_nil, String.empty_append, join_cons_append] at h
          exact absurd h (hstop _)
  | cons x rest ih =>
      cases items' with
      | nil =>
          rw [List.map_nil, String.join_nil, String.empty_append, join_cons_append] at h
          exact absurd h.symm (hstop' _)
      | cons y rest' =>
          obtain ⟨hx, hrest⟩ := List.forall_mem_cons.mp hitems
          obtain ⟨hy, hrest'⟩ := List.forall_mem_cons.mp hitems'
          rw [join_cons_append, join_cons_append, String.append_right_inj] at h
          obtain ⟨rfl, htail⟩ := hshow hx hy (follows_join hsep ht rest)
            (follows_join hsep ht' rest') h
          obtain ⟨rfl, htt'⟩ := ih hrest hrest' htail
          exact ⟨rfl, htt'⟩

/-- A list of items is known from its text and the text behind it, unless it is empty. -/
theorem intercalate_append_inj (hshow : ShowsEnd text Item Follows)
    (hsep : ∀ s, Follows (separator ++ s)) (ht : Follows t) (ht' : Follows t')
    (hstop : ∀ s, t ≠ separator ++ s) (hstop' : ∀ s, t' ≠ separator ++ s)
    (hitems : ∀ x ∈ items, Item x) (hitems' : ∀ x ∈ items', Item x)
    (hne : items ≠ []) (hne' : items' ≠ [])
    (h : separator.intercalate (items.map text) ++ t =
      separator.intercalate (items'.map text) ++ t') :
    items = items' ∧ t = t' := by
  obtain ⟨x, rest, rfl⟩ := List.exists_cons_of_ne_nil hne
  obtain ⟨y, rest', rfl⟩ := List.exists_cons_of_ne_nil hne'
  obtain ⟨hx, hrest⟩ := List.forall_mem_cons.mp hitems
  obtain ⟨hy, hrest'⟩ := List.forall_mem_cons.mp hitems'
  simp only [List.map_cons, intercalate_cons_eq_join, List.map_map, String.append_assoc] at h
  obtain ⟨rfl, htail⟩ := hshow hx hy (follows_join hsep ht rest) (follows_join hsep ht' rest') h
  obtain ⟨rfl, htt'⟩ := join_append_inj hshow hsep ht ht' hstop hstop' hrest hrest' htail
  exact ⟨rfl, htt'⟩

end Lists

-- ── Seams ─────────────────────────────────────────────────────────────────────

/-- A pattern is found in one of two parts, if a character at their seam is not in it. -/
theorem occursIn_append {pattern a b : String}
    (h : (∀ c ∈ a.toList.getLast?, c ∉ pattern.toList)
      ∨ ∀ c ∈ b.toList.head?, c ∉ pattern.toList) :
    occursIn pattern (a ++ b) = (occursIn pattern a || occursIn pattern b) := by
  rw [Bool.eq_iff_iff, Bool.or_eq_true]
  simp only [occursIn, occursInList_iff, String.toList_append]
  rw [List.infix_append_iff_ne_nil]
  constructor
  · rintro (ha | hb | ⟨l, r, hl, hr, hpattern, ⟨front, hfront⟩, ⟨back, hback⟩⟩)
    · exact .inl ha
    · exact .inr hb
    · exfalso
      rcases h with h | h
      · refine h (l.getLast hl) ?_ (by simp [hpattern])
        rw [← hfront, List.getLast?_append, List.getLast?_eq_some_getLast hl]
        rfl
      · refine h (r.head hr) ?_ (by simp [hpattern])
        rw [← hback, List.head?_append, List.head?_eq_some_head hr]
        rfl
  · rintro (ha | hb)
    · exact .inl ha
    · exact .inr (.inl hb)

/-- The text has a blank at its end. -/
def endsInBlank (text : String) : Bool :=
  text.toList.getLast?.any isBlank

theorem endsInBlank_append (a : String) {b : String} (hb : b ≠ "") :
    endsInBlank (a ++ b) = endsInBlank b := by
  have hne : b.toList ≠ [] := fun h => hb (String.toList_eq_nil_iff.mp h)
  rw [endsInBlank, String.toList_append, List.getLast?_append, List.getLast?_eq_some_getLast hne,
    endsInBlank, List.getLast?_eq_some_getLast hne]
  rfl

theorem stripEndBlanks_eq_self {text : String} (h : endsInBlank text = false) :
    stripEndBlanks text = text := by
  have hlast : ∀ c, text.toList.getLast? = some c → isBlank c = false := by
    intro c hc
    rw [endsInBlank, hc] at h
    exact h
  rw [stripEndBlanks, stripEnd, stripListEnd_eq_self hlast, String.ofList_toList]

/-- Of a text with one blank behind it that blank is stripped. -/
theorem stripEndBlanks_append_blank {text : String} (h : endsInBlank text = false) :
    stripEndBlanks (text ++ " ") = text := by
  have hblank : ∀ c ∈ " ".toList, isBlank c = true := by
    intro c hc
    obtain rfl : c = ' ' := by simpa using hc
    decide
  rw [stripEndBlanks, stripEnd, String.toList_append, stripListEnd_append hblank]
  exact stripEndBlanks_eq_self h

end SqlText.Text
