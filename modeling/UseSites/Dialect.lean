import UseSites.Path
import UseSites.Text.LowerCase
/-!
# Dialects

The suffix of a file name says which grammar a source file is written in. Case does not matter, and
a name with any other suffix has no grammar.
-/

namespace UseSites

inductive Dialect where
  | typescript | tsx | javascript
  deriving DecidableEq, Inhabited, Repr

namespace Dialect

def all : List Dialect := [typescript, tsx, javascript]

def name : Dialect → String
  | typescript => "typescript"
  | tsx => "tsx"
  | javascript => "javascript"

def ofName? (text : String) : Option Dialect := all.find? (·.name == text)

def ofSuffix? (suffix : String) : Option Dialect :=
  if [".ts", ".mts", ".cts"].contains suffix then some typescript
  else if suffix == ".tsx" then some tsx
  else if [".js", ".jsx", ".mjs", ".cjs"].contains suffix then some javascript
  else none

/-- The grammar of a file, by its name. -/
def ofPath? (path : Path) : Option Dialect := ofSuffix? (Text.lower path.suffix)

end Dialect

end UseSites
