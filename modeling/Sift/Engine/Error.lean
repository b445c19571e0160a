import Sift.Aggregation.Compile

/-!
# Engine errors

The ways an engine operation fails, each with its wording (`EngineError.message`) and the name
of its kind (`EngineError.kindName`).
-/

namespace Sift

/-- Why an engine operation failed. -/
inductive EngineError where
  | compile (e : CompileError)
  | http (status : Nat) (body : String)
  | invalidUrl (detail : String)
  | unknownConnection (id : String)
  | noPreviousQuery
  | invalidPage (page : Nat)
  deriving Repr

namespace EngineError

/-- The wording of a failure. -/
def message : EngineError → String
  | .compile e => "compilation error: " ++ e.message
  | .http status body => "HTTP " ++ toString status ++ ": " ++ body
  | .invalidUrl detail => "invalid connection URL: " ++ detail
  | .unknownConnection id => "connection '" ++ id ++ "' not found"
  | .noPreviousQuery => "no previous query to paginate"
  | .invalidPage page => "page " ++ toString page ++ " is out of range"

/-- The name of a failure's kind. -/
def kindName : EngineError → String
  | .compile _ => "Compile"
  | .http .. => "Http"
  | .invalidUrl _ => "InvalidUrl"
  | .unknownConnection _ => "UnknownConnection"
  | .noPreviousQuery => "NoPreviousQuery"
  | .invalidPage _ => "InvalidPage"

end EngineError

end Sift
