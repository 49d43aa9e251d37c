import GatedStartup.Security.ClassName

/-! Security attributes of a cache. Each may be left at its sentinel, the empty text or the unset
class name. -/
namespace GatedStartup

structure Attributes where
  clientInitializer : String
  peerInitializer : String
  managerClass : ClassName
  managerClassName : String
  postProcessorClass : ClassName
  postProcessorClassName : String
  shiroFile : String
deriving DecidableEq, Repr

namespace Attributes

/-- Everything at its sentinel. -/
def vacant : Attributes := ⟨"", "", .unset, "", .unset, "", ""⟩

instance : Inhabited Attributes := ⟨vacant⟩

open Json in
def shape : Shape Attributes where
  title := "SecurityAttributes"
  members := [
    .plain "clientAuthenticationInitializer" readString fun x a => { a with clientInitializer := x },
    .plain "peerAuthenticationInitializer" readString fun x a => { a with peerInitializer := x },
    .plain "securityManagerClass" ClassName.read fun x a => { a with managerClass := x },
    .plain "securityManagerClassName" readString fun x a => { a with managerClassName := x },
    .plain "securityPostProcessorClass" ClassName.read fun x a => { a with postProcessorClass := x },
    .plain "securityPostProcessorClassName" readString fun x a =>
      { a with postProcessorClassName := x },
    .plain "shiroIniFileLocation" readString fun x a => { a with shiroFile := x }]
  vacant := vacant

def read : Json.Reader Attributes := shape.read

def write (a : Attributes) : Json.Value :=
  .members [
    ("clientAuthenticationInitializer", .text a.clientInitializer),
    ("peerAuthenticationInitializer", .text a.peerInitializer),
    ("securityManagerClass", a.managerClass.write),
    ("securityManagerClassName", .text a.managerClassName),
    ("securityPostProcessorClass", a.postProcessorClass.write),
    ("securityPostProcessorClassName", .text a.postProcessorClassName),
    ("shiroIniFileLocation", .text a.shiroFile)]

end Attributes
end GatedStartup
