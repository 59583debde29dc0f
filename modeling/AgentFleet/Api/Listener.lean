import AgentFleet.Config.Settings
import AgentFleet.Text.Character

/-!
Where the interface is listened for, and what comes in there: requests, each for a path and a query.
-/

namespace AgentFleet.Api

def listenAddress (s : Settings) : String := s.bindAddress ++ ":" ++ toString s.httpPort

def bindFault (s : Settings) (reason : String) : Fault :=
  ⟨.http, "failed to bind " ++ listenAddress s ++ ": " ++ reason⟩

/-! ### Requests -/

structure Request where
  method : String
  /-- What the request is for: a path and a query, perhaps behind a scheme and a host. -/
  target : String
  contentType : Option String
  body : ByteArray

structure Response where
  status : Nat
  body : String
  deriving DecidableEq, Repr

def isSchemeChar (c : Char) : Bool :=
  Text.isAsciiLetter c || Text.isAsciiDigit c || c = '+' || c = '-' || c = '.'

/-- The path and the query, without the fragment. Behind a scheme and a host the path may be left
out; a target that is neither a path nor has a scheme names no path. -/
def Request.located (r : Request) : List Char :=
  match r.target.toList.takeWhile (· ≠ '#') with
  | '/' :: cs => '/' :: cs
  | cs =>
    match cs.dropWhile isSchemeChar with
    | ':' :: '/' :: '/' :: behind =>
      match behind.dropWhile fun c => c ≠ '/' && c ≠ '?' with
      | '/' :: rest => '/' :: rest
      | query => '/' :: query
    | _ => []

def Request.path (r : Request) : String := String.ofList (r.located.takeWhile (· ≠ '?'))

def Request.query (r : Request) : String :=
  String.ofList ((r.located.dropWhile (· ≠ '?')).drop 1)

end AgentFleet.Api
