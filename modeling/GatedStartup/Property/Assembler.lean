import GatedStartup.Property.Set
import GatedStartup.Security.Attributes
import GatedStartup.Text.Quoted

/-! The properties an engine component starts with: those of its security attributes, changed by
its configurers in order. -/
namespace GatedStartup

namespace Attributes

def clientKey : String := "security-client-auth-init"
def peerKey : String := "security-peer-auth-init"
def managerKey : String := "security-manager"
def postProcessorKey : String := "security-post-processor"
def shiroKey : String := "security-shiro-init"

/-- Attributes at their sentinel are skipped. Of a class and its name the name is written last
and wins. The manager is only written when security is `enabled`. -/
def properties (a : Attributes) (enabled : Bool) : PropertySet :=
  let initializers := (PropertySet.empty.setIfPresent clientKey a.clientInitializer).setIfPresent
    peerKey a.peerInitializer
  let managed :=
    if enabled then
      (initializers.setIfSome managerKey a.managerClass.name?).setIfPresent
        managerKey a.managerClassName
    else initializers
  ((managed.setIfSome postProcessorKey a.postProcessorClass.name?).setIfPresent
    postProcessorKey a.postProcessorClassName).setIfPresent shiroKey a.shiroFile

end Attributes

/-- Changes the properties of the component with the given name. -/
abbrev Configurer := String → PropertySet → PropertySet

structure Assembler where
  component : String
  configurers : List Configurer

namespace Assembler

def assemble (assembler : Assembler) (a : Attributes) (enabled : Bool) : PropertySet :=
  assembler.configurers.foldl (fun p configure => configure assembler.component p)
    (a.properties enabled)

def describe (assembler : Assembler) : String :=
  Text.record "PropertyAssembler"
    [("component_name", Text.quoted assembler.component),
      ("configurers", toString assembler.configurers.length)] false

end Assembler
end GatedStartup
