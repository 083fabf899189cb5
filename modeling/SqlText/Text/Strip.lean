/-!
# Stripping — taking characters off the ends of a text

Column and table names may be written with brackets around them, names may carry
blanks, and an accumulated clause ends in one joiner too many. Everything that is
cut off the ends of a text is cut here.

`strip p` removes the longest run of characters in the class `p` at both ends and
touches nothing between them; `stripEnd p` does so at the end alone. `trimSuffix`
removes one occurrence of a fixed suffix. The functions are list functions
(`stripList`, `stripListEnd`) lifted to `String`, so that laws about them are laws
about `dropWhile`. Main facts: what `strip` leaves neither begins nor ends in `p`
(`head?_stripList`, `getLast?_stripList`), a second `strip` changes nothing
(`strip_strip`), and neither do more characters in `p` at the ends (`strip_append`).
-/

namespace SqlText.Text

-- ── Lists ─────────────────────────────────────────────────────────────────────

/-- The list without the longest run of elements in `p` at its end. -/
def stripListEnd (p : Char → Bool) (l : List Char) : List Char :=
  (l.reverse.dropWhile p).reverse

/-- The list without the longest runs of elements in `p` at both ends. -/
def stripList (p : Char → Bool) (l : List Char) : List Char :=
  stripListEnd p (l.dropWhile p)

variable {p : Char → Bool}

/-- What `dropWhile` leaves does not begin with an element that it drops. -/
theorem head?_dropWhile_eq (l : List Char) {c : Char} (h : (l.dropWhile p).head? = some c) :
    p c = false := by
  induction l with
  | nil => simp at h
  | cons a l ih =>
      rw [List.dropWhile_cons] at h
      by_cases ha : p a = true
      · rw [if_pos ha] at h
        exact ih h
      · rw [if_neg ha] at h
        obtain rfl : a = c := by simpa using h
        simpa using ha

/-- A list that does not begin in `p` loses nothing at its start. -/
theorem dropWhile_eq_self {l : List Char} (h : ∀ c, l.head? = some c → p c = false) :
    l.dropWhile p = l := by
  cases l with
  | nil => rfl
  | cons a l => rw [List.dropWhile_cons, if_neg (by simp [h a rfl])]

/-- What is left after the end is cut does not end in `p`. -/
theorem getLast?_stripListEnd (l : List Char) {c : Char}
    (h : (stripListEnd p l).getLast? = some c) : p c = false := by
  rw [stripListEnd, List.getLast?_reverse] at h
  exact head?_dropWhile_eq _ h

/-- A list that does not end in `p` loses nothing at its end. -/
theorem stripListEnd_eq_self {l : List Char} (h : ∀ c, l.getLast? = some c → p c = false) :
    stripListEnd p l = l := by
  rw [stripListEnd, dropWhile_eq_self, List.reverse_reverse]
  intro c hc
  exact h c (by rwa [List.head?_reverse] at hc)

/-- Cutting the end keeps a beginning of the list. -/
theorem stripListEnd_isPrefix (l : List Char) : stripListEnd p l <+: l := by
  rw [stripListEnd, ← List.reverse_suffix, List.reverse_reverse]
  exact List.dropWhile_suffix p

/-- What is left after both ends are cut does not begin in `p`. -/
theorem head?_stripList (l : List Char) {c : Char} (h : (stripList p l).head? = some c) :
    p c = false := by
  obtain ⟨rest, hrest⟩ := stripListEnd_isPrefix (p := p) (l.dropWhile p)
  refine head?_dropWhile_eq l (p := p) ?_
  rw [← hrest, List.head?_append]
  rw [stripList] at h
  rw [h]; rfl

/-- What is left after both ends are cut does not end in `p`. -/
theorem getLast?_stripList (l : List Char) {c : Char} (h : (stripList p l).getLast? = some c) :
    p c = false :=
  getLast?_stripListEnd _ h

/-- A list that neither begins nor ends in `p` is left as it is. -/
theorem stripList_eq_self {l : List Char} (hh : ∀ c, l.head? = some c → p c = false)
    (hl : ∀ c, l.getLast? = some c → p c = false) : stripList p l = l := by
  rw [stripList, dropWhile_eq_self hh, stripListEnd_eq_self hl]

theorem stripList_stripList (l : List Char) : stripList p (stripList p l) = stripList p l :=
  stripList_eq_self (fun _ h => head?_stripList l h) (fun _ h => getLast?_stripList l h)

/-- Elements in `p` behind a list are cut off with its end. -/
theorem stripListEnd_append {back : List Char} (hb : ∀ c ∈ back, p c = true) (l : List Char) :
    stripListEnd p (l ++ back) = stripListEnd p l := by
  have hback : ∀ c ∈ back.reverse, p c = true := fun c hc => hb c (List.mem_reverse.mp hc)
  rw [stripListEnd, List.reverse_append, List.dropWhile_append_of_pos hback]
  rfl

/-- Elements in `p` around a list do not change what is left of it. -/
theorem stripList_append {front back : List Char} (hf : ∀ c ∈ front, p c = true)
    (hb : ∀ c ∈ back, p c = true) (l : List Char) :
    stripList p (front ++ l ++ back) = stripList p l := by
  rw [stripList, List.append_assoc, List.dropWhile_append_of_pos hf, List.dropWhile_append]
  by_cases hl : (l.dropWhile p).isEmpty = true
  · -- nothing is left of `l`, so that what stands behind it is dropped from the start
    have hback : back.dropWhile p = [] := by
      rw [← List.append_nil back, List.dropWhile_append_of_pos hb]
      rfl
    rw [if_pos hl, hback, stripList, List.isEmpty_iff.mp hl]
  · rw [if_neg hl, stripListEnd_append hb]
    rfl

/-- What is cut off at the end is in `p`. -/
theorem exists_stripListEnd_append_eq (l : List Char) :
    ∃ back, stripListEnd p l ++ back = l ∧ ∀ c ∈ back, p c = true := by
  refine ⟨(l.reverse.takeWhile p).reverse, ?_, ?_⟩
  · rw [stripListEnd, ← List.reverse_append, List.takeWhile_append_dropWhile, List.reverse_reverse]
  · intro c hc
    exact List.all_eq_true.mp List.all_takeWhile c (List.mem_reverse.mp hc)

/-- What is cut off at both ends is in `p`. -/
theorem exists_append_stripList_append_eq (l : List Char) :
    ∃ front back, front ++ (stripList p l ++ back) = l
      ∧ (∀ c ∈ front, p c = true) ∧ ∀ c ∈ back, p c = true := by
  obtain ⟨back, hback, hp⟩ := exists_stripListEnd_append_eq (p := p) (l.dropWhile p)
  refine ⟨l.takeWhile p, back, ?_, List.all_eq_true.mp List.all_takeWhile, hp⟩
  rw [stripList, hback, List.takeWhile_append_dropWhile]

-- ── Texts ─────────────────────────────────────────────────────────────────────

/-- The text without the longest runs of characters in `p` at both ends. -/
def strip (p : Char → Bool) (text : String) : String :=
  String.ofList (stripList p text.toList)

/-- The text without the longest run of characters in `p` at its end. -/
def stripEnd (p : Char → Bool) (text : String) : String :=
  String.ofList (stripListEnd p text.toList)

@[simp] theorem toList_strip (text : String) :
    (strip p text).toList = stripList p text.toList := by
  rw [strip, String.toList_ofList]

@[simp] theorem toList_stripEnd (text : String) :
    (stripEnd p text).toList = stripListEnd p text.toList := by
  rw [stripEnd, String.toList_ofList]

/-- Stripping twice is stripping once. -/
theorem strip_strip (text : String) : strip p (strip p text) = strip p text := by
  rw [strip, toList_strip, stripList_stripList, ← toList_strip, String.ofList_toList]

/-- Characters in `p` around a text do not change what is left of it. -/
theorem strip_append {front back : String} (hf : ∀ c ∈ front.toList, p c = true)
    (hb : ∀ c ∈ back.toList, p c = true) (text : String) :
    strip p (front ++ text ++ back) = strip p text := by
  rw [strip, String.toList_append, String.toList_append, stripList_append hf hb]
  rfl

/-- A square bracket, the mark that may surround a name. -/
def isBracket (c : Char) : Bool :=
  c == '[' || c == ']'

/-- The name without surrounding square brackets, however many. -/
def stripBrackets (name : String) : String :=
  strip isBracket name

theorem stripBrackets_stripBrackets (name : String) :
    stripBrackets (stripBrackets name) = stripBrackets name :=
  strip_strip name

/-- The text without one trailing `suffix`; unchanged if it does not end in `suffix`. -/
def trimSuffix (text suffix : String) : String :=
  if suffix.toList.isSuffixOf text.toList then
    String.ofList (text.toList.take (text.toList.length - suffix.toList.length))
  else
    text

/-- Exactly the suffix is removed. -/
theorem trimSuffix_append (text suffix : String) : trimSuffix (text ++ suffix) suffix = text := by
  have h : suffix.toList.isSuffixOf (text ++ suffix).toList = true := by
    rw [String.toList_append, List.isSuffixOf_iff_suffix]
    exact List.suffix_append _ _
  rw [trimSuffix, if_pos h, String.toList_append, List.length_append, Nat.add_sub_cancel,
    List.take_left, String.ofList_toList]

/-- The empty text is too short to lose a suffix. -/
theorem trimSuffix_empty (suffix : String) : trimSuffix "" suffix = "" := by
  rw [trimSuffix]
  split
  · simp
  · rfl

-- ── Occurrence ────────────────────────────────────────────────────────────────

/-- Whether `pattern` stands somewhere in the list, with nothing between its elements. -/
def occursInList (pattern : List Char) : List Char → Bool
  | [] => pattern.isEmpty
  | c :: rest => pattern.isPrefixOf (c :: rest) || occursInList pattern rest

/-- Whether `pattern` stands somewhere in the text. -/
def occursIn (pattern text : String) : Bool :=
  occursInList pattern.toList text.toList

theorem occursInList_iff (pattern l : List Char) : occursInList pattern l = true ↔ pattern <:+: l := by
  induction l with
  | nil => simp [occursInList]
  | cons c rest ih =>
      rw [occursInList, Bool.or_eq_true, ih, List.isPrefixOf_iff_prefix, List.infix_cons_iff]

/-- The search finds exactly the texts that can be written around the pattern. -/
theorem occursIn_iff (pattern text : String) :
    occursIn pattern text = true ↔ ∃ a b, text = a ++ pattern ++ b := by
  rw [occursIn, occursInList_iff]
  constructor
  · rintro ⟨a, b, h⟩
    refine ⟨String.ofList a, String.ofList b, String.toList_injective ?_⟩
    simp [← h]
  · rintro ⟨a, b, rfl⟩
    exact ⟨a.toList, b.toList, by simp⟩

end SqlText.Text
