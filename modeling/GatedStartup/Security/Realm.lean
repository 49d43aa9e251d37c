import GatedStartup.Table
import GatedStartup.Text.Quoted

/-! Realms, the places that judge credentials. A realm is known by its number; its name is what
messages show. -/
namespace GatedStartup

structure Credentials where
  principal : String
  secret : String
deriving DecidableEq, Repr

/-- The secret is not shown. -/
def Credentials.describe (c : Credentials) : String :=
  Text.record "Credentials"
    [("principal", Text.quoted c.principal), ("secret", Text.quoted "<redacted>")] false

/-- An authenticated identity, and the realm that vouches for it. -/
structure Principal where
  name : String
  realm : String
deriving DecidableEq, Repr

inductive AuthError where
  | invalidCredentials (principal : String)
  | unavailable (realm : String) (reason : String)
  | noRealmAccepted (principal : String)
deriving DecidableEq, Repr

def AuthError.message : AuthError → String
  | .invalidCredentials principal => "Invalid credentials for " ++ principal
  | .unavailable realm reason => "Realm " ++ realm ++ " unavailable: " ++ reason
  | .noRealmAccepted principal => "No realm accepted the credentials for " ++ principal

/-- Two realms are the same realm when their numbers agree. -/
structure Realm where
  number : Nat
  name : String
deriving DecidableEq, Repr

/-- A secret for each principal. -/
structure Accounts where
  name : String
  users : Table String String
deriving DecidableEq, Repr, Inhabited

namespace Accounts

/-- Nothing when the principal is unknown. -/
def authenticate (a : Accounts) (c : Credentials) : Except AuthError (Option Principal) :=
  match a.users.get? c.principal with
  | none => .ok none
  | some secret =>
    if secret = c.secret then .ok (some ⟨c.principal, a.name⟩)
    else .error (.invalidCredentials c.principal)

/-- A realm without users cannot start. -/
def start (a : Accounts) : Except AuthError Unit :=
  if a.users.isEmpty then .error (.unavailable a.name "no users configured") else .ok ()

/-- Secrets are not shown. -/
def describe (a : Accounts) : String :=
  Text.record "StaticRealm"
    [("name", Text.quoted a.name), ("users", Text.bracketed (a.users.keys.map Text.quoted))] false

end Accounts
end GatedStartup
