import Std.Data.ExtTreeMap

/-!
Parameters: texts by name, listed in the order of their names.
-/

namespace TagTemplate

abbrev Parameters := Std.ExtTreeMap String String

namespace Parameters

inductive Change where
  | set (name value : String)
  | removed (name : String)
  deriving Repr, DecidableEq

def Change.text : Change → String
  | .set name value => s!"persistent {name}={value}"
  | .removed name => s!"persistent {name} removed"

def change? (before after : Parameters) (name : String) : Option Change :=
  match before[name]?, after[name]? with
  | some _, none => some (.removed name)
  | old, some value => if old = some value then none else some (.set name value)
  | none, none => none

def changes (before after : Parameters) : List Change :=
  (before.insertMany after.toList).keys.filterMap (change? before after)

end Parameters

end TagTemplate
