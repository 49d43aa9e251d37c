import GatedStartup.Property.Assembler

/-! Changes of a property set as data, so that they can be kept and made later. -/
namespace GatedStartup.PropertySet

inductive Edit where
  | set (key value : String)
  | setIfPresent (key value : String)
  | setIfNamed (key : String) (name : ClassName)
  /-- Sets the key to the name of the component. -/
  | setComponent (key : String)
  | remove (key : String)
deriving DecidableEq, Repr

namespace Edit

def apply (component : String) (p : PropertySet) : Edit → PropertySet
  | .set key value => p.set key value
  | .setIfPresent key value => p.setIfPresent key value
  | .setIfNamed key name => p.setIfSome key name.name?
  | .setComponent key => p.set key component
  | .remove key => p.erase key

/-- The edits one after another. -/
def applyAll (component : String) (edits : List Edit) (p : PropertySet) : PropertySet :=
  edits.foldl (apply component) p

/-- A configurer that makes the same edits every time. -/
def configurer (edits : List Edit) : Configurer := fun component p => applyAll component edits p

end Edit
end GatedStartup.PropertySet
