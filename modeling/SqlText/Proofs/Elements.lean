import SqlText.Assignment
import SqlText.Criterion
import SqlText.Modifier
import SqlText.Proofs.Casing

/-!
# Elements — made again of what they store

A criterion, an assignment and a modifier do not store what they were given. Brackets go from
around a column, a value becomes its text, the text of a modifier goes to upper case, and a
relation or a kind is known by its name. Each of these steps has nothing left to do where it has
been done: what is stored is `Kept` if it is given again.

So an element that was made of anything is made of its own fields as well, and it is the same
element (`made_iff_remade`). The quotes and wildcards around a value are no part of what is
stored; they are put there for each text that is written and do not add up.
-/

namespace SqlText

/-- What the clauses of a statement are made of. -/
inductive Element where
  | criterion (c : Criterion)
  | assignment (a : Assignment)
  | modifier (m : Modifier)
deriving DecidableEq

namespace Element

/-- An element as a caller gives it: a relation or a kind by name, and values of any sort. -/
inductive Given where
  | criterion (column : String) (relation value : Value)
  | assignment (column : String) (value : Value)
  | modifier (kind value : Value)

/-- The element that is made of what is given; none is made of a name that nothing has. -/
def make : Given → Except Fault Element
  | .criterion column relation value =>
    (Named.read relation).map fun relation => criterion (.of column relation value)
  | .assignment column value => .ok (assignment (.of column value))
  | .modifier kind value => (Named.read kind).map fun kind => modifier (.of kind value)

/-- The fields of an element, to be given again. -/
def fields : Element → Given
  | criterion c => .criterion c.column (.text (Named.name c.relation)) (.text c.value)
  | assignment a => .assignment a.column (.text a.value)
  | modifier m => .modifier (.text (Named.name m.kind)) (.text m.value)

/-- What is made of the fields of an element. -/
def remake (e : Element) : Except Fault Element :=
  make e.fields

/-- What is written for an element by itself, and for its value among other ones. -/
def texts : Element → List String
  | criterion c => [c.render, c.quotedValue]
  | assignment a => [a.render, a.quotedValue]
  | modifier m => [m.render]

/-- The fields are stored as they are if they are given again. -/
def Kept : Element → Prop
  | criterion c => Text.stripBrackets c.column = c.column
  | assignment a => Text.stripBrackets a.column = a.column
  | modifier m => Text.upper m.value = m.value

variable {given : Given} {e : Element}

theorem exists_of_map_eq_ok {α β : Type} {f : α → β} {x : Except Fault α} {b : β}
    (h : x.map f = .ok b) : ∃ a, f a = b := by
  cases x with
  | error fault => cases h
  | ok a => exact ⟨a, Except.ok.inj h⟩

/-- Whatever is given, what is made of it stores nothing that would be stored in another form. -/
theorem kept_of_make (h : make given = .ok e) : e.Kept := by
  cases given with
  | criterion column relation value =>
      obtain ⟨_, rfl⟩ := exists_of_map_eq_ok h
      exact Text.stripBrackets_stripBrackets column
  | assignment column value =>
      obtain rfl := Except.ok.inj h
      exact Text.stripBrackets_stripBrackets column
  | modifier kind value =>
      obtain ⟨_, rfl⟩ := exists_of_map_eq_ok h
      exact Text.upper_upper value.toText

/-- Relations and kinds are read from their names, and a text is its own text. So only a column
    or the value of a modifier can be stored in another form. -/
theorem remake_eq_ok_iff (e : Element) : e.remake = .ok e ↔ e.Kept := by
  cases e with
  | criterion c =>
      obtain ⟨column, relation, value⟩ := c
      rw [remake, fields, make, Named.read_name relation.ofName?_name]
      simp [Except.map, Criterion.of, Kept]
  | assignment a =>
      obtain ⟨column, value⟩ := a
      rw [remake, fields, make]
      simp [Assignment.of, Kept]
  | modifier m =>
      obtain ⟨kind, value⟩ := m
      rw [remake, fields, make, Named.read_name kind.ofName?_name]
      simp [Except.map, Modifier.of, Kept]

/-- **MADE AGAIN AS STORED**: an element can be made at all exactly if it is made of its own
    fields. It is then the same element with the same texts. -/
theorem made_iff_remade (e : Element) :
    ((∃ given, make given = .ok e) ↔ e.remake = .ok e)
    ∧ (e.remake = .ok e ↔ e.Kept)
    ∧ ∀ given, make given = .ok e → e.remake.map texts = .ok e.texts := by
  have hremake {given : Given} (h : make given = .ok e) : e.remake = .ok e :=
    e.remake_eq_ok_iff.mpr (kept_of_make h)
  refine ⟨⟨fun ⟨_, h⟩ => hremake h, fun h => ⟨e.fields, h⟩⟩, e.remake_eq_ok_iff, ?_⟩
  intro given h
  rw [hremake h]
  rfl

/-- A list as the value of a modifier: two of the letters in it become two characters each. -/
theorem remake_expanded :
    make (.modifier (.text "MAX") (.list [.text "ŉß"])) = .ok (modifier ⟨.max, "['ʼNSS']"⟩)
      ∧ (modifier ⟨.max, "['ʼNSS']"⟩).remake = .ok (modifier ⟨.max, "['ʼNSS']"⟩) := by
  have hupper : Modifier.of .max (.list [.text "ŉß"]) = ⟨.max, "['ʼNSS']"⟩ := by decide +kernel
  have hmake : make (.modifier (.text "MAX") (.list [.text "ŉß"])) =
      .ok (modifier ⟨.max, "['ʼNSS']"⟩) := by
    rw [← hupper]
    rfl
  obtain ⟨hmade, -⟩ := made_iff_remade (modifier ⟨.max, "['ʼNSS']"⟩)
  exact ⟨hmake, hmade.mp ⟨_, hmake⟩⟩

end Element

end SqlText
