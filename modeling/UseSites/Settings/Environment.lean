/-!
# Environments

An `Environment` gives values to variables. `adopt` takes over values for variables that have none yet;
a variable that has a value keeps it.
-/

namespace UseSites

structure Environment where
  bindings : List (String × String)
  deriving Inhabited, Repr

namespace Environment

def empty : Environment := ⟨[]⟩

def get? (environment : Environment) (name : String) : Option String := environment.bindings.lookup name

def set (environment : Environment) (name value : String) : Environment :=
  ⟨(name, value) :: environment.bindings.filter (·.1 != name)⟩

def unset (environment : Environment) (name : String) : Environment :=
  ⟨environment.bindings.filter (·.1 != name)⟩

/-- Names and values that the system can hold. -/
def canHold (name value : String) : Bool :=
  !(name.toList.any fun c => c = '=' || c.toNat = 0) && !(value.toList.any fun c => c.toNat = 0)

/-- Takes over values, up to the first one that the system cannot hold. The name of that variable comes
with the environment so far. -/
def adopt : Environment → List (String × Option String) → Environment × Option String
  | environment, [] => (environment, none)
  | environment, (name, value) :: rest =>
    match environment.get? name, value with
    | none, some value =>
      if canHold name value then adopt (environment.set name value) rest else (environment, some name)
    | _, _ => adopt environment rest

end Environment

end UseSites
