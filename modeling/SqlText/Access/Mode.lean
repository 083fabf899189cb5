import SqlText.Named

/-!
# Access modes — what an accessor may do

Seven actions touch the records of a table: two read, five write. An accessor is
opened in one of three modes, and a mode permits an action by its direction alone
(`Mode.permits`).
-/

namespace SqlText.Access

/-- Which actions an accessor may carry out. -/
inductive Mode where
  | read
  | write
  | readWrite
deriving DecidableEq, Repr

instance : Named Mode where
  family := "AccessMode"
  all := [.read, .write, .readWrite]
  name
    | .read => "read"
    | .write => "write"
    | .readWrite => "read_write"

/-- An action on the records of a table. -/
inductive Action where
  | select
  | selectOne
  | update
  | updateWhere
  | insert
  | delete
  | deleteWhere
deriving DecidableEq, Repr

/-- The name an action is reported under. -/
def Action.name : Action → String
  | .select => "select"
  | .selectOne => "select_one"
  | .update => "update"
  | .updateWhere => "update_where"
  | .insert => "insert"
  | .delete => "delete"
  | .deleteWhere => "delete_where"

/-- An action that only looks at records. -/
def Action.reads : Action → Bool
  | .select | .selectOne => true
  | .update | .updateWhere | .insert | .delete | .deleteWhere => false

namespace Mode

/-- The mode admits reading. -/
def canRead : Mode → Bool
  | .read | .readWrite => true
  | .write => false

/-- The mode admits writing. -/
def canWrite : Mode → Bool
  | .write | .readWrite => true
  | .read => false

/-- The mode admits the action. -/
def permits (mode : Mode) (action : Action) : Bool :=
  if action.reads then mode.canRead else mode.canWrite

/-- Looking is for the modes with `read` in their name, changing for those with `write`. -/
theorem permits_iff {mode : Mode} {action : Action} : mode.permits action = true ↔
    if action ∈ [.select, .selectOne] then mode ∈ [.read, .readWrite]
    else mode ∈ [.write, .readWrite] := by
  cases mode <;> cases action <;> decide

end Mode

end SqlText.Access
