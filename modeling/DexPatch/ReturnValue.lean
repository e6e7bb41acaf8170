import DexPatch.TypeDesc

/-!
# Return kinds and values

A method returns nothing, a boolean, an integer, an object, or a value of a kind that
no edit produces. The values that a method can be made to return are fewer.

## Main definitions

* `ReturnKind.ofType` — the kind of a return type
* `ReturnValue`, `ReturnValue.kind` — a value to return, and its kind
-/

namespace DexPatch

/-- What a method returns, as far as edits are concerned. -/
inductive ReturnKind
  | void
  | boolean
  /-- `int` and the narrower integral primitives. -/
  | integer
  | object
  /-- `long`, `float` and `double`. -/
  | other
deriving DecidableEq, Repr

namespace ReturnKind

/-- The kind of a return type. -/
def ofType (t : TypeDesc) : ReturnKind :=
  if t = .void then void
  else if t = .boolean then boolean
  else if t.IsNarrowInteger then integer
  else if t.IsReference then object
  else other

def text : ReturnKind → String
  | void => "void"
  | boolean => "boolean"
  | integer => "integer"
  | object => "object"
  | other => "wide/floating"

end ReturnKind

/-- A value that a method can be made to return. -/
inductive ReturnValue
  | void
  | boolean (value : Bool)
  | integer (value : Int32)
  | null
deriving DecidableEq, Repr

namespace ReturnValue

def kind : ReturnValue → ReturnKind
  | void => .void
  | boolean _ => .boolean
  | integer _ => .integer
  | null => .object

def text : ReturnValue → String
  | void => "void"
  | boolean true => "true"
  | boolean false => "false"
  | integer value => toString value.toInt
  | null => "null"

end ReturnValue

end DexPatch
