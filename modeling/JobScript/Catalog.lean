import JobScript.Catalog.Primitive
import JobScript.Catalog.TextList
import JobScript.Catalog.Tracker
import JobScript.Catalog.Mail
import JobScript.Catalog.Job

/-!
# Operation Catalogs

Every type has a fixed, ordered list of signatures. A call is resolved once, to the position of
the signature that accepts it; that index is what runs later.

## Architecture

- `Catalog.signatures`: the list of a type, from the operations of its catalog
- `Catalog.resolve?`: the index of the signature that accepts a call
- `Catalog.hasOperation`, `Catalog.overloads`: lookup by name alone, for diagnostics
-/

namespace JobScript.Catalog

/-- The signatures of a type's operations, in index order. -/
def signatures : ValueType → List Signature
  | .boolean => BooleanOperation.catalog.map BooleanOperation.signature
  | .int => IntOperation.catalog.map IntOperation.signature
  | .text => TextOperation.catalog.map TextOperation.signature
  | .textList => TextListOperation.catalog.map TextListOperation.signature
  | .tracker kind => (TrackerOperation.catalog kind).map TrackerOperation.signature
  | .popConnection => PopOperation.catalog.map PopOperation.signature
  | .mailMessage => MailOperation.catalog.map MailOperation.signature
  | .script => ScriptOperation.catalog.map ScriptOperation.signature
  | .rateLimiter => RateLimiterOperation.catalog.map RateLimiterOperation.signature

/-- The signature at an index. -/
def signature? (t : ValueType) (index : Nat) : Option Signature :=
  (signatures t)[index]?

/-- Index of the signature that accepts the call. -/
def resolve? (t : ValueType) (name : String) (types : List ValueType) : Option Nat :=
  (signatures t).findIdx? (·.accepts name types)

/-- Some signature of the type has this name, whatever its parameters. -/
def hasOperation (t : ValueType) (name : String) : Bool :=
  (signatures t).any (·.isNamed name)

/-- Result type of the operation that the call resolves to. It is absent both when nothing accepts
the call and when the operation has no result. -/
def resultType? (t : ValueType) (name : String) (types : List ValueType) : Option ValueType :=
  ((signatures t).find? (·.accepts name types)).bind Signature.result

/-- Every signature of this name, in index order. -/
def overloads (t : ValueType) (name : String) : List Signature :=
  (signatures t).filter (·.isNamed name)

/-- The distinct operation names, in order of first appearance. -/
def operationNames (t : ValueType) : List String :=
  ((signatures t).map Signature.name).eraseDups

end JobScript.Catalog
