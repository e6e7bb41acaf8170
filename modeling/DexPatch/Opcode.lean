/-!
# Opcodes

Every instruction of the model has one opcode. This module lists them and gives
each its mnemonic, its category, its behavioural flags and its operand format.

## Main definitions

* `Opcode` — the opcodes; field accesses are indexed by the width they move and
  calls by how they pick their target
* `Opcode.all` — the opcodes in table order
* `Opcode.mnemonic`, `Opcode.ofMnemonic?` — the written name and its reading
* `Opcode.flags`, `Opcode.category`, `Opcode.format` — what an opcode does and
  which operands it takes

## Main results

* `Opcode.mem_all` — the table misses no opcode
* `Opcode.ofMnemonic?_mnemonic` — a mnemonic reads back as its opcode
-/

namespace DexPatch

/-- The width of the value that a field access moves. -/
inductive FieldWidth
  | word | boolean | byte | char | short | object
deriving DecidableEq, Repr

namespace FieldWidth

/-- All widths, in table order. -/
def all : List FieldWidth := [word, boolean, byte, char, short, object]

/-- What a width adds to the mnemonic of a field access. -/
def suffix : FieldWidth → String
  | word => ""
  | boolean => "-boolean"
  | byte => "-byte"
  | char => "-char"
  | short => "-short"
  | object => "-object"

end FieldWidth

/-- How a call picks the method that runs. -/
inductive InvokeKind
  | virtual | super | direct | static | interface
deriving DecidableEq, Repr

namespace InvokeKind

/-- All kinds of call, in table order. -/
def all : List InvokeKind := [virtual, super, direct, static, interface]

/-- The last part of the mnemonic of a call. -/
def name : InvokeKind → String
  | virtual => "virtual"
  | super => "super"
  | direct => "direct"
  | static => "static"
  | interface => "interface"

end InvokeKind

/-- The operations of the instruction set. -/
inductive Opcode
  | nop
  | move
  | moveResult
  | const4
  | const16
  | const32
  | constString
  | constClass
  | iget (width : FieldWidth)
  | iput (width : FieldWidth)
  | sget (width : FieldWidth)
  | sput (width : FieldWidth)
  | ifEqz
  | ifNez
  | ifLtz
  | ifGez
  | ifGtz
  | ifLez
  | ifEq
  | ifNe
  | ifLt
  | ifGe
  | goto
  | addInt
  | addIntLit8
  | invoke (kind : InvokeKind)
  | newInstance
  | checkCast
  | ret
  | retObject
  | retVoid
  | throw
deriving DecidableEq, Repr

/-- The coarse class of an opcode. -/
inductive Category
  | nop
  | move
  | literalLoad
  | stringLoad
  | typeLoad
  | fieldRead
  | fieldWrite
  | conditionalBranch
  | jump
  | arithmetic
  | call
  | object
  | ret
  | throw
deriving DecidableEq, Repr

/-- The behavioural properties of an opcode. -/
inductive Flag
  /-- Carries an integer literal. -/
  | literal
  /-- Loads a string constant. -/
  | string
  /-- Reads a field into its first register. -/
  | fieldRead
  /-- Stores its first register into a field. -/
  | fieldWrite
  /-- Accesses a field without an object register. -/
  | static
  /-- May continue at a label. -/
  | jump
  | conditional
  /-- Branches on one register being, or not being, zero. -/
  | zeroTest
  | ret
  | call
  | throw
  /-- Writes its first register. -/
  | dest
deriving DecidableEq, Repr

namespace Flag

/-- All flags, lowest bit first. -/
def all : List Flag :=
  [literal, string, fieldRead, fieldWrite, static, jump, conditional, zeroTest, ret, call,
    throw, dest]

/-- The value of a flag in a bit set: the flags take the bits of `all` from the lowest. -/
def bit (f : Flag) : Nat := 1 <<< all.idxOf f

end Flag

/-- How many registers an opcode names. -/
inductive RegCount
  | exactly (n : Nat)
  | atMost (n : Nat)
deriving DecidableEq, Repr

namespace RegCount

/-- Whether an instruction may name `n` registers. -/
def accepts : RegCount → Nat → Bool
  | exactly k, n => n == k
  | atMost k, n => n ≤ k

def text : RegCount → String
  | exactly k => toString k
  | atMost k => "at most " ++ toString k

end RegCount

/-- The kinds of non-register operand. -/
inductive PayloadKind
  | empty | literal | string | field | method | type | target
deriving DecidableEq, Repr

/-- The kind's name in messages. -/
def PayloadKind.name : PayloadKind → String
  | empty => "empty"
  | literal => "literal"
  | string => "string"
  | field => "field"
  | method => "method"
  | type => "type"
  | target => "branch target"

/-- The non-register operand that an opcode takes. -/
inductive PayloadFormat
  | empty
  /-- A signed integer of the given width. -/
  | literal (bits : Nat)
  | string
  | field
  | method
  | type
  | target
deriving DecidableEq, Repr

/-- The kind of payload that a format asks for. -/
def PayloadFormat.kind : PayloadFormat → PayloadKind
  | empty => .empty
  | literal _ => .literal
  | string => .string
  | field => .field
  | method => .method
  | type => .type
  | target => .target

/-- The operand layout of an opcode: how many registers, of how many bits each, and
which payload. -/
structure Format where
  regs : RegCount
  regBits : Nat
  payload : PayloadFormat
deriving DecidableEq, Repr

namespace Opcode

/-- Every opcode, in table order. -/
def all : List Opcode :=
  [nop, move, moveResult, const4, const16, const32, constString, constClass]
    ++ FieldWidth.all.map iget ++ FieldWidth.all.map iput
    ++ FieldWidth.all.map sget ++ FieldWidth.all.map sput
    ++ [ifEqz, ifNez, ifLtz, ifGez, ifGtz, ifLez, ifEq, ifNe, ifLt, ifGe, goto, addInt,
      addIntLit8]
    ++ InvokeKind.all.map invoke
    ++ [newInstance, checkCast, ret, retObject, retVoid, throw]

/-- The place of an opcode in the table. -/
def index (op : Opcode) : Nat := all.idxOf op

/-- The name of an opcode in listings. -/
def mnemonic : Opcode → String
  | nop => "nop"
  | move => "move"
  | moveResult => "move-result"
  | const4 => "const/4"
  | const16 => "const/16"
  | const32 => "const"
  | constString => "const-string"
  | constClass => "const-class"
  | iget width => "iget" ++ width.suffix
  | iput width => "iput" ++ width.suffix
  | sget width => "sget" ++ width.suffix
  | sput width => "sput" ++ width.suffix
  | ifEqz => "if-eqz"
  | ifNez => "if-nez"
  | ifLtz => "if-ltz"
  | ifGez => "if-gez"
  | ifGtz => "if-gtz"
  | ifLez => "if-lez"
  | ifEq => "if-eq"
  | ifNe => "if-ne"
  | ifLt => "if-lt"
  | ifGe => "if-ge"
  | goto => "goto"
  | addInt => "add-int"
  | addIntLit8 => "add-int/lit8"
  | invoke kind => "invoke-" ++ kind.name
  | newInstance => "new-instance"
  | checkCast => "check-cast"
  | ret => "return"
  | retObject => "return-object"
  | retVoid => "return-void"
  | throw => "throw"

/-- The opcode with a given mnemonic. -/
def ofMnemonic? (text : String) : Option Opcode :=
  all.find? fun op => op.mnemonic == text

def category : Opcode → Category
  | nop => .nop
  | move | moveResult => .move
  | const4 | const16 | const32 => .literalLoad
  | constString => .stringLoad
  | constClass => .typeLoad
  | iget _ | sget _ => .fieldRead
  | iput _ | sput _ => .fieldWrite
  | ifEqz | ifNez | ifLtz | ifGez | ifGtz | ifLez | ifEq | ifNe | ifLt | ifGe =>
    .conditionalBranch
  | goto => .jump
  | addInt | addIntLit8 => .arithmetic
  | invoke _ => .call
  | newInstance | checkCast => .object
  | ret | retObject | retVoid => .ret
  | throw => .throw

/-- The flags of an opcode, lowest bit first. -/
def flags : Opcode → List Flag
  | nop | checkCast => []
  | move | moveResult | constClass | addInt | newInstance => [.dest]
  | const4 | const16 | const32 | addIntLit8 => [.literal, .dest]
  | constString => [.string, .dest]
  | iget _ => [.fieldRead, .dest]
  | iput _ => [.fieldWrite]
  | sget _ => [.fieldRead, .static, .dest]
  | sput _ => [.fieldWrite, .static]
  | ifEqz | ifNez => [.jump, .conditional, .zeroTest]
  | ifLtz | ifGez | ifGtz | ifLez | ifEq | ifNe | ifLt | ifGe => [.jump, .conditional]
  | goto => [.jump]
  | invoke _ => [.call]
  | ret | retObject | retVoid => [.ret]
  | throw => [.throw]

/-- Whether an opcode has a flag. -/
def has (op : Opcode) (f : Flag) : Bool := op.flags.contains f

def format : Opcode → Format
  | nop | retVoid => ⟨.exactly 0, 0, .empty⟩
  | move => ⟨.exactly 2, 4, .empty⟩
  | moveResult | ret | retObject | throw => ⟨.exactly 1, 8, .empty⟩
  | const4 => ⟨.exactly 1, 4, .literal 4⟩
  | const16 => ⟨.exactly 1, 8, .literal 16⟩
  | const32 => ⟨.exactly 1, 8, .literal 32⟩
  | constString => ⟨.exactly 1, 8, .string⟩
  | constClass | newInstance | checkCast => ⟨.exactly 1, 8, .type⟩
  | iget _ | iput _ => ⟨.exactly 2, 4, .field⟩
  | sget _ | sput _ => ⟨.exactly 1, 8, .field⟩
  | ifEqz | ifNez | ifLtz | ifGez | ifGtz | ifLez => ⟨.exactly 1, 8, .target⟩
  | ifEq | ifNe | ifLt | ifGe => ⟨.exactly 2, 4, .target⟩
  | goto => ⟨.exactly 0, 0, .target⟩
  | addInt => ⟨.exactly 3, 8, .empty⟩
  | addIntLit8 => ⟨.exactly 2, 8, .literal 8⟩
  | invoke _ => ⟨.atMost 5, 4, .method⟩

/-- Reads a field. -/
def isFieldRead (op : Opcode) : Bool := op.has .fieldRead

/-- Reads a boolean field. -/
def isBooleanFieldRead (op : Opcode) : Bool :=
  op == .iget .boolean || op == .sget .boolean

/-- Branches on a register being, or not being, zero. -/
def isZeroTest (op : Opcode) : Bool := op.has .zeroTest

/-- Ends the method with or without a value. -/
def isReturn (op : Opcode) : Bool := op.has .ret

/-! ### The table -/

/-- The table misses no opcode. -/
theorem mem_all (op : Opcode) : op ∈ all := by
  cases op with
  | iget width => cases width <;> decide
  | iput width => cases width <;> decide
  | sget width => cases width <;> decide
  | sput width => cases width <;> decide
  | invoke kind => cases kind <;> decide
  | _ => decide

/-- A mnemonic reads back as its opcode. -/
theorem ofMnemonic?_mnemonic (op : Opcode) : ofMnemonic? op.mnemonic = some op := by
  cases op with
  | iget width => cases width <;> decide
  | iput width => cases width <;> decide
  | sget width => cases width <;> decide
  | sput width => cases width <;> decide
  | invoke kind => cases kind <;> decide
  | _ => decide

/-- Reading a mnemonic succeeds on written mnemonics alone. -/
theorem ofMnemonic?_eq_some_iff {text : String} {op : Opcode} :
    ofMnemonic? text = some op ↔ text = op.mnemonic := by
  constructor
  · intro h
    have found := List.find?_some h
    exact (beq_iff_eq.mp found).symm
  · rintro rfl
    exact ofMnemonic?_mnemonic op

/-- Distinct opcodes have distinct mnemonics. -/
theorem mnemonic_injective {a b : Opcode} (same : a.mnemonic = b.mnemonic) : a = b := by
  have h := ofMnemonic?_mnemonic a
  rw [same, ofMnemonic?_mnemonic b] at h
  exact (Option.some.inj h).symm

end Opcode

end DexPatch
