/-! What can go wrong in a startup, by the part that reports it. Looking something up and not
finding it is no failure. -/
namespace GatedStartup

/-- Something required is not configured. -/
inductive ConfigurationError where
  | missingField (field : String)
  | missingRegion
  | unresolved (what : String)
deriving DecidableEq, Repr

def ConfigurationError.message : ConfigurationError → String
  | .missingField field => field ++ " was not properly initialized"
  | .missingRegion => "Either region or region_path must be specified"
  | .unresolved what => "No " ++ what ++ " could be resolved"

inductive ActivationError where
  | alreadyRegistered
  | enforcementNotEnabled
  | realmStart (realm : String) (reason : String)
deriving DecidableEq, Repr

def ActivationError.message : ActivationError → String
  | .alreadyRegistered => "A security manager is already registered"
  | .enforcementNotEnabled => "Failed to enable security enforcement in the cache engine"
  | .realmStart realm reason => "Realm " ++ realm ++ " failed to initialize: " ++ reason

/-- The search service refuses. -/
inductive SearchError where
  | createFailed (name : String) (reason : String)
  | alreadyExists (name : String) (regionPath : String)
  | notVisible (name : String) (regionPath : String)
  | destroyFailed (name : String) (reason : String)
deriving DecidableEq, Repr

def SearchError.message : SearchError → String
  | .createFailed name reason => "Failed to create index " ++ name ++ ": " ++ reason
  | .alreadyExists name regionPath => "Index " ++ name ++ " already exists on " ++ regionPath
  | .notVisible name regionPath =>
    "Index " ++ name ++ " on " ++ regionPath ++ " is not visible after creation"
  | .destroyFailed name reason => "Failed to destroy index " ++ name ++ ": " ++ reason

inductive Failure where
  | configuration (error : ConfigurationError)
  | activation (error : ActivationError)
  | search (error : SearchError)
deriving DecidableEq, Repr

def Failure.message : Failure → String
  | .configuration error => error.message
  | .activation error => error.message
  | .search error => error.message

/-- A component cannot be looked up by its type. -/
inductive LookupError where
  | ambiguous (type : String)
  | typeMismatch (type : String)
  | unavailable (reason : String)
deriving DecidableEq, Repr

def LookupError.message : LookupError → String
  | .ambiguous type => "Multiple components registered for " ++ type
  | .typeMismatch type => "Component registered for " ++ type ++ " has an unexpected type"
  | .unavailable reason => "Component registry unavailable: " ++ reason

/-- What an operator should know though the work goes on or is undone. -/
inductive Warning where
  | redefinition (index component : String)
  | destroyFailed (index : String) (error : Failure)
  | rollbackIncomplete (error : Failure)
  | teardownIncomplete (error : Failure)
  | enforcementRefused
  | activationUndone
  | noIntegratedSecurity
deriving DecidableEq, Repr

def Warning.message : Warning → String
  | .redefinition _ _ =>
    "Index already declared with a different definition, keeping the first"
  | .destroyFailed _ _ => "Failed to destroy index"
  | .rollbackIncomplete _ => "Index teardown incomplete during rollback"
  | .teardownIncomplete _ => "Index teardown incomplete"
  | .enforcementRefused => "Engine refused to enable security enforcement"
  | .activationUndone => "Security activation rolled back"
  | .noIntegratedSecurity => "Engine has no integrated security support"

/-- The named particulars of a warning. -/
def Warning.fields : Warning → List (String × String)
  | .redefinition index component => [("index", index), ("component", component)]
  | .destroyFailed index error => [("index", index), ("error", error.message)]
  | .rollbackIncomplete error => [("error", error.message)]
  | .teardownIncomplete error => [("error", error.message)]
  | .enforcementRefused | .activationUndone | .noIntegratedSecurity => []

end GatedStartup
