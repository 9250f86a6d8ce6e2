/-
  ApiQuery.Request.Error — why a request does not succeed.

  A transport failure has no text of its own.
-/

namespace ApiQuery

inductive ClientError where
  /-- The network, the connection or a time limit. -/
  | transport
  | invalidUrl (detail : String)
  | invalidHeader (detail : String)
  | unsupportedOperation (name : String)
  | invalidArgument (operation detail : String)
deriving DecidableEq

def ClientError.message? : ClientError → Option String
  | transport => none
  | invalidUrl detail => some s!"Invalid URL: {detail}"
  | invalidHeader detail => some s!"Invalid header: {detail}"
  | unsupportedOperation name => some s!"Unsupported operation: {name}"
  | invalidArgument operation detail => some s!"Invalid arguments for '{operation}': {detail}"

end ApiQuery
