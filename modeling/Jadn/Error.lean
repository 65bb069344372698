import Jadn.Error.Parse
import Jadn.Error.Validation
import Jadn.Limits

/-!
Everything that can go wrong with a schema: a document that is no schema, an instance that
breaks a rule, an import that cannot be carried out, an operation on the wrong kind of type,
or a limit that is exceeded.
-/

namespace Jadn

/-- Why an import of packages fails. -/
inductive ImportError where
  | nothingToImport
  /-- A qualified reference leads nowhere; the chain lists what led to it, root first. -/
  | unresolved (reference : String) (chain : List String)
  | collision (name package : String)
  | limitExceeded (message : String)
  | invalidResult (error : ParseError)
  deriving DecidableEq, Inhabited

def ImportError.toText : ImportError → String
  | nothingToImport =>
    "no references to resolve: the base schema declares no namespaces"
  | unresolved reference chain =>
    let path := String.intercalate " -> " chain
    s!"unresolved reference '{reference}' (via {path})"
  | collision name package =>
    s!"ambiguous collision: '{name}' from package '{package}' " ++
      "conflicts with an existing definition"
  | limitExceeded message => s!"limit exceeded: {message}"
  | invalidResult error => s!"resolved schema is invalid: {error.toText}"

/-- An operation that does not apply to a type. -/
inductive TypeError where
  | notEnumerable (name : String)
  | undefined (name : String)
  deriving DecidableEq, Inhabited

def TypeError.message : TypeError → String
  | notEnumerable name => s!"{name} cannot be extended as an enumerated type"
  | undefined name => s!"type '{name}' is not defined"

inductive Error where
  | validation (error : ValidationError)
  | parse (error : ParseError)
  | resolve (error : ImportError)
  | type (error : TypeError)
  | limit (excess : Excess)
  | malformedJson
  deriving DecidableEq, Inhabited

def Error.toText : Error → String
  | validation error => s!"validation error: {error.toText}"
  | parse error => s!"parse error: {error.toText}"
  | resolve error => s!"resolve error: {error.toText}"
  | type error => s!"type error: {error.message}"
  | limit excess => s!"limit exceeded: {excess.message}"
  | malformedJson => "JSON error"

end Jadn
