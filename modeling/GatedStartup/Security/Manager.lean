import GatedStartup.Request

/-! The security manager asks its realms in order. The first principal wins; when there is none
the last error of a realm is returned, if any. Realms that cannot judge the credentials are not
asked to. -/
namespace GatedStartup

def realmNames (realms : List Realm) : List String := realms.map (·.name)

namespace Manager

/-- There is no manager without realms. -/
def ofRealms? (id : ManagerId) (realms : List Realm) : Option Manager :=
  if realms.isEmpty then none else some ⟨id, realms⟩

def authenticateAmong (c : Credentials) (last : Option AuthError) :
    List Realm → Work (Except AuthError Principal)
  | [] => pure (.error (last.getD (.noRealmAccepted c.principal)))
  | realm :: rest => do
    match ← ask (.supports realm c) with
    | false => authenticateAmong c last rest
    | true =>
      match ← ask (.authenticate realm c) with
      | .ok (some principal) => pure (.ok principal)
      | .ok none => authenticateAmong c last rest
      | .error error => authenticateAmong c (some error) rest

def authenticate (m : Manager) (c : Credentials) : Work (Except AuthError Principal) :=
  authenticateAmong c none m.realms

/-- `describeRealm` shows a realm, whose form is up to its kind. -/
def describe (describeRealm : Realm → String) (m : Manager) : String :=
  Text.record "SecurityManager"
    [("realms", Text.record "RealmSet"
      [("realms", Text.bracketed (m.realms.map describeRealm))] false)] false

end Manager
end GatedStartup
