import AgentFleet.Address.Form
import AgentFleet.Address.Host
import AgentFleet.Address.Path

/-!
Addresses: a scheme, perhaps a host and who asks it, a path, and perhaps a query and a fragment. An
address has one written form.
-/

namespace AgentFleet

namespace Address

structure Authority where
  /-- The user's name and password, already escaped. -/
  user : List Char
  password : Option (List Char)
  host : Host
  /-- The port, unless it is the scheme's usual one. -/
  port : Option Nat
  deriving DecidableEq, Repr

end Address

/-- An address; all parts are already escaped. -/
structure Address where
  /-- In small letters. -/
  scheme : String
  authority : Option Address.Authority
  path : Address.Path
  query : Option (List Char)
  fragment : Option (List Char)
  deriving DecidableEq, Repr

namespace Address

/-! ### Schemes -/

def usualPorts : List (String × Nat) :=
  [("http", 80), ("https", 443), ("ws", 80), ("wss", 443), ("ftp", 21)]

def usualPort? (scheme : String) : Option Nat := usualPorts.lookup scheme

/-- Whether a scheme is one of the web, whose hosts are domains or numeric addresses. -/
def isWeb (scheme : String) : Bool := (usualPort? scheme).isSome

/-! ### Writing -/

def Authority.userText (a : Authority) : List Char :=
  let password := match a.password with
    | some password => ':' :: password
    | none => []
  let text := a.user ++ password
  if text = [] then [] else text ++ ['@']

def Authority.text (a : Authority) : List Char :=
  a.userText ++ a.host.text ++ match a.port with
    | some port => ':' :: (toString port).toList
    | none => []

def pathText (a : Address) : List Char := a.path.text

/-- The path and the query, as a request names them. -/
def target (a : Address) : List Char :=
  a.pathText ++ match a.query with
    | some query => '?' :: query
    | none => []

/-- What stands between the scheme and the path. A path that starts with two slashes could be taken
for an authority, so a step to where it stands is put before it. -/
def lead (a : Address) : List Char :=
  match a.authority, a.pathText with
  | some authority, _ => '/' :: '/' :: authority.text
  | none, '/' :: '/' :: _ => ['/', '.']
  | none, _ => []

def text (a : Address) : String :=
  String.ofList (a.scheme.toList ++ ':' :: (a.lead ++ a.target ++ match a.fragment with
    | some fragment => '#' :: fragment
    | none => []))

/-! ### Changing -/

def withPairs (a : Address) (pairs : List (String × String)) : Address :=
  if pairs = [] then a
  else
    let added := Form.text pairs
    { a with query := match a.query with
        | none => some added
        | some [] => some added
        | some query => some (query ++ '&' :: added) }

/-- Whether there is a user that can be told to the host: a name in UTF-8, or a password if the name
is empty. -/
def Authority.namesUser (a : Authority) : Bool :=
  match percentDecoded? a.user with
  | none => false
  | some [] => (a.password.bind percentDecoded?).isSome
  | some (_ :: _) => true

def withoutUser (a : Address) : Address :=
  { a with authority := a.authority.map fun authority =>
      if authority.namesUser then { authority with user := [], password := none } else authority }

end Address

end AgentFleet
