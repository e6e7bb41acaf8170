import DexPatch.Listing.Config
import DexPatch.Listing.Program
import DexPatch.Yaml.Block
import DexPatch.Yaml.Tree

/-!
# Documents

Programs and configurations are kept as YAML texts.

## Main definitions

* `Node.readYaml` — reads from a text what a reader finds in its value
* `Program.toYaml`, `Program.ofYaml` — programs as documents
* `Config.ofYaml` — a configuration from a document
* `DocumentError`, `ModelError` — why a text is not what is wanted
-/

namespace DexPatch

/-- Why a text is not the listing that is wanted. -/
inductive DocumentError
  | yaml (cause : YamlError)
  | listing (cause : ListingError)
deriving DecidableEq, Repr

def DocumentError.message : DocumentError → String
  | yaml cause => cause.message
  | listing cause => cause.message

/-- Why a text holds no program. -/
inductive ModelError
  | document (cause : DocumentError)
  | program (cause : ProgramError)
deriving DecidableEq, Repr

def ModelError.message : ModelError → String
  | document cause => "malformed model listing: " ++ cause.message
  | program cause => cause.message

/-- Reads the value of a text. -/
def Node.readYaml {α : Type} (read : Node → Except ListingError α) (text : String) :
    Except DocumentError α := do
  let n ← (Node.ofYaml text).mapError .yaml
  (read n).mapError .listing

/-- The document of a program. -/
def Program.toYaml (p : Program) : String := p.toNode.toYaml

/-- The program of a document, its structure checked. -/
def Program.ofYaml (text : String) : Except ModelError Program := do
  let (package, classes) ← (Node.readYaml Program.partsOfNode text).mapError .document
  (Program.ofClasses package classes).mapError .program

/-- The configuration of a document. -/
def Config.ofYaml (text : String) : Except DocumentError Config :=
  Node.readYaml Config.ofNode text

end DexPatch
