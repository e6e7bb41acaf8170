import DexPatch.Listing.Node
import DexPatch.Yaml.ScalarStyle

/-!
# Block style

A listing value is written with one line to a scalar and two spaces to a level. The
items of a list stand under its key without further indentation. Keys are plain words.

## Main definitions

* `Node.toYaml` — the document of a listing value
-/

namespace DexPatch

namespace Yaml

/-- Spaces in front of a line. -/
def spaces (column : Nat) : String := String.ofList (List.replicate column ' ')

/-- The depth of a level. -/
def step : Nat := 2

/-- What a value belongs to. -/
inductive Holder
  | document
  | key
  | item
deriving DecidableEq, Repr

/-- Separates a value from what is before it on the line. -/
def Holder.lead : Holder → String
  | document => ""
  | key | item => " "

/-- What comes before a list that belongs to something at a column, and the column of its
items: under a key they begin on a new line. -/
def Holder.leadOfItems (column : Nat) : Holder → String × Nat
  | document => ("", column)
  | key => ("\n" ++ spaces column, column)
  | item => (" ", column + step)

/-- What comes before a map that belongs to something at a column, and the column of its
keys. -/
def Holder.leadOfEntries (column : Nat) : Holder → String × Nat
  | document => ("", column)
  | key => ("\n" ++ spaces (column + step), column + step)
  | item => (" ", column + step)

mutual

/-- A value that belongs to something at a column, up to the end of its last line. -/
def writeValue (holder : Holder) (column : Nat) : Node → String
  | .null => holder.lead ++ "null\n"
  | .boolean value => holder.lead ++ (if value then "true" else "false") ++ "\n"
  | .integer value => holder.lead ++ toString value ++ "\n"
  | .decimal spelling => holder.lead ++ spelling ++ "\n"
  | .text value => holder.lead ++ writeScalar (column + step) value
  | .plain word => holder.lead ++ word ++ "\n"
  | .list items | .row items =>
    if items.isEmpty then holder.lead ++ "[]\n"
    else
      let (lead, column) := holder.leadOfItems column
      lead ++ writeItems column items
  | .map entries =>
    if entries.isEmpty then holder.lead ++ "\x7b\x7d\n"
    else
      let (lead, column) := holder.leadOfEntries column
      lead ++ writeEntries column entries
  | .pairs entries =>
    let (lead, column) := holder.leadOfEntries column
    lead ++ writePairs column entries

/-- The items of a list at a column; that of the first is reached already. -/
def writeItems (column : Nat) : List Node → String
  | [] => ""
  | item :: rest =>
    "-" ++ writeValue .item column item
      ++ (if rest.isEmpty then "" else spaces column ++ writeItems column rest)

/-- The entries of a map at a column; that of the first is reached already. -/
def writeEntries (column : Nat) : List (String × Node) → String
  | [] => ""
  | (key, value) :: rest =>
    key ++ ":" ++ writeValue .key column value
      ++ (if rest.isEmpty then "" else spaces column ++ writeEntries column rest)

/-- Keys of any kind with their values at a column; that of the first is reached already. -/
def writePairs (column : Nat) : List (Node × Node) → String
  | [] => ""
  | (key, value) :: rest =>
    "?" ++ writeValue .item column key ++ spaces column ++ ":" ++ writeValue .item column value
      ++ (if rest.isEmpty then "" else spaces column ++ writePairs column rest)

end

end Yaml

/-- The document of a value. -/
def Node.toYaml (n : Node) : String := Yaml.writeValue .document 0 n

end DexPatch
