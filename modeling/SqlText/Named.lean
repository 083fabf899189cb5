/-!
# Named families — finite choices that are given by name

Relations, kinds of modifier and access modes are chosen by callers as texts. Each
is a finite type whose members have a name; a text that is no member's name chooses
nothing (`Named.ofName?`). A family has a name of its own, which the message about a
wrong choice shows.
-/

namespace SqlText

/-- A finite type whose members are chosen by name. -/
class Named (α : Type) where
  /-- The name of the type itself, for messages. -/
  family : String
  /-- The members, each of them once. -/
  all : List α
  /-- The name of a member. -/
  name : α → String

namespace Named

variable {α : Type} [Named α]

/-- The member with exactly this name. -/
def ofName? (s : String) : Option α :=
  (all : List α).find? fun member => name member = s

end Named

end SqlText
