import JobScript.Catalog
import JobScript.Diagnostic.Basic
import JobScript.Diagnostic.Suggestion

/-!
# Resolution of Calls

Every call `target.operation(arguments)` is resolved once, before it runs. Success gives the index
of the operation. Failure gives a diagnostic that shows what the type accepts beside what the call
supplied.
-/

namespace JobScript.Resolution

/-- The suggestion added to a diagnostic when a similar name is known. -/
def didYouMean (similar : Option String) : List String :=
  similar.toList.map fun name => "did you mean `" ++ name ++ "`?"

/-- The type has no operation of this name under any signature. -/
def unknownOperation (line : Line) (target : ValueType) (name : String) : Diagnostic where
  code := .E1001
  message := "`" ++ target.keyword ++ "` values have no operation named `" ++ name ++ "`"
  line := some line
  suggestions := didYouMean (Suggestion.similar? name (Catalog.operationNames target))

/-- The operation exists, but no overload takes arguments of these types. -/
def noMatchingOverload (line : Line) (target : ValueType) (name : String)
    (types : List ValueType) : Diagnostic where
  code := .E1002
  message := "no `" ++ target.keyword ++ "` operation matches the call `" ++
    callShape name types ++ "`"
  line := some line
  notes := ((Catalog.overloads target name).map fun s => "expected `" ++ s.shape ++ "`") ++
    ["supplied `" ++ callShape name types ++ "`"]

/-- A declaration names a type that does not exist. -/
def unknownType (line : Line) (word : String) : Diagnostic where
  code := .E1003
  message := "unknown variable type `" ++ word ++ "`"
  line := some line
  suggestions := didYouMean (Suggestion.similar? word (ValueType.all.map ValueType.keyword))

/-- The declared name is no identifier. -/
def invalidIdentifier (line : Line) (name : String) : Diagnostic where
  code := .E1004
  message := "`" ++ name ++ "` is not a valid variable name"
  line := some line
  notes := ["names start with a letter, continue with letters, digits or `_`, " ++
    "and may not be a reserved word"]

/-- The variable is already declared. -/
def duplicateVariable (line : Line) (name : String) : Diagnostic where
  code := .E1005
  message := "variable `" ++ name ++ "` is already declared"
  line := some line

/-- The variable was never declared. -/
def undeclaredVariable (line : Line) (name : String) : Diagnostic where
  code := .E1006
  message := "variable `" ++ name ++ "` is not declared"
  line := some line

/-- Resolve the call of an operation on a value of type `target`. -/
def resolveCall (line : Line) (target : ValueType) (name : String) (types : List ValueType) :
    Except Diagnostic Nat :=
  match Catalog.resolve? target name types with
  | some index => .ok index
  | none =>
    if Catalog.hasOperation target name then .error (noMatchingOverload line target name types)
    else .error (unknownOperation line target name)

end JobScript.Resolution
