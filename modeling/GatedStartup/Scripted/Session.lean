import GatedStartup.Scripted.World
import GatedStartup.Startup

/-! A session: objects of a world and of a startup under names. Each kind has names of its own.
A name given again goes to the new object; the old one lives on where it is used. -/
namespace GatedStartup.Scripted

open Engine Index Lookup

/-- Kinds of named objects. -/
inductive Family where
  | cache | service | registry | realm | probe | switch | slot
  | collaborators | catalogue | gate | activation | lifecycle | startup
deriving DecidableEq, Repr

/-- Where a managed index is kept. -/
inductive Place where
  | alone (number : Nat)
  | listed (catalogue : Nat) (name : String)
  | started (startup : Nat) (name : String)

/-- Something together with the number of its collaborators. -/
structure With (α : Type) where
  value : α
  collaborators : Nat

structure Session where
  world : World
  fresh : Nat
  sharedSlot : Option (Ref .slot)
  names : List (Family × String × Nat)
  managers : List (String × Manager)
  places : List (String × Place)
  collaborators : Array Collaborators
  alone : Array (With Managed)
  catalogues : Array (With Catalogue)
  gates : Array Gate
  activations : Array Activation
  lifecycles : Array Lifecycle
  startups : Array (With Startup)

abbrev InSession (α : Type) := StateM Session α

namespace Session

def start : Session :=
  ⟨.empty, 0, none, [], [], [], #[], #[], #[], #[], #[], #[], #[]⟩

def freshNumber : InSession Nat := modifyGet fun s => (s.fresh, { s with fresh := s.fresh + 1 })

def bindName (family : Family) (name : String) (number : Nat) : InSession Unit :=
  modify fun s => { s with
    names := (family, name, number) ::
      s.names.filter fun entry => !(entry.1 = family && entry.2.1 == name) }

def number? (family : Family) (name : String) : InSession (Option Nat) := do
  return ((← get).names.find? fun entry => entry.1 = family && entry.2.1 == name).map (·.2.2)

/-- A number without an object, for names that are not bound. -/
def nowhere : Nat := 1000000000

def number (family : Family) (name : String) : InSession Nat := do
  return (← number? family name).getD nowhere

/-- The smallest of the names. -/
def least (names : List String) : Option String :=
  names.foldl (fun best name =>
    match best with
    | none => some name
    | some b => some (if name < b then name else b)) none

def nameOf? (family : Family) (number : Nat) : InSession (Option String) := do
  return least (((← get).names.filter fun entry =>
    entry.1 = family && entry.2.2 == number).map (·.2.1))

def managerNamed? (name : String) : InSession (Option Manager) := do
  return (← get).managers.lookup name

def nameManager (name : String) (manager : Manager) : InSession Unit :=
  modify fun s => { s with
    managers := (name, manager) :: s.managers.filter fun entry => !(entry.1 == name) }

/-- The smallest name of that very manager. -/
def nameOfManager? (manager : Manager) : InSession (Option String) := do
  return least (((← get).managers.filter fun entry => entry.2.id = manager.id).map (·.1))

def placeIndex (name : String) (place : Place) : InSession Unit :=
  modify fun s => { s with
    places := (name, place) :: s.places.filter fun entry => !(entry.1 == name) }

def perform (work : Work α) : InSession α := modifyGet fun s =>
  let done := s.world.perform work
  (done.1, { s with world := done.2 })

def inWorld (change : World → α × World) : InSession α := modifyGet fun s =>
  let done := change s.world
  (done.1, { s with world := done.2 })

def takeJournal : InSession (List String) :=
  inWorld fun w => (w.journal, { w with journal := [] })

def takeWarnings : InSession (List Warning) :=
  inWorld fun w => (w.warnings, { w with warnings := [] })

def addCache (name : String) (object : CacheObject) : InSession Unit := do
  let place ← inWorld fun w => (w.caches.size, { w with caches := w.caches.push object })
  bindName .cache name place

def addService (name : String) (object : ServiceObject) : InSession (Ref .service) := do
  let place ← inWorld fun w => (w.services.size, { w with services := w.services.push object })
  bindName .service name place
  return ⟨place⟩

/-- A cache held in memory. Its search service, if it has one, goes by the name of the cache with
`.search` after it. -/
def addMemoryCache (name : String) (searchable : Bool) : InSession Unit := do
  if searchable then
    let cache : Ref .cache := ⟨(← get).world.caches.size⟩
    let service ← addService (name ++ ".search") (.memory .empty (some cache))
    addCache name (.memory .empty (some service))
  else addCache name (.memory .empty none)

/-- A scripted search service of that name is extended, any other replaced. -/
def extendService (name : String) (extend : SearchScript → SearchScript) : InSession Unit := do
  let place ← number .service name
  match (← get).world.services[place]? with
  | some (.scripted script) =>
    inWorld fun w => ((), w.setService ⟨place⟩ (.scripted (extend script)))
  | _ =>
    let _ ← addService name (.scripted (extend .empty))

def addRegistry (name : String) (mode : Mode) : InSession Unit := do
  let place ← inWorld fun w =>
    (w.registries.size, { w with registries := w.registries.push ⟨mode, .empty, 0⟩ })
  bindName .registry name place

def changeRegistry (name : String) (change : RegistryObject → RegistryObject) :
    InSession Unit := do
  let place ← number .registry name
  inWorld fun w => ((), { w with registries := w.registries.modify place change })

def addRealm (name : String) (object : RealmObject) : InSession Unit := do
  let place ← inWorld fun w => (w.realms.size, { w with realms := w.realms.push object })
  bindName .realm name place

def realm? (name : String) : InSession (Option Realm) := do
  return (← get).world.realm? (← number .realm name)

def realms (names : List String) : InSession (List Realm) := do
  return (← names.mapM realm?).filterMap id

def addProbe (name : String) (object : ProbeObject) : InSession Unit := do
  let place ← inWorld fun w => (w.probes.size, { w with probes := w.probes.push object })
  bindName .probe name place

def changeProbe (name : String) (change : ProbeObject → ProbeObject) : InSession Unit := do
  let place ← number .probe name
  inWorld fun w => ((), { w with probes := w.probes.modify place change })

def addSwitch (name : String) (object : SwitchObject) : InSession Unit := do
  let place ← inWorld fun w => (w.switches.size, { w with switches := w.switches.push object })
  bindName .switch name place

def newSlot : InSession (Ref .slot) :=
  inWorld fun w => (⟨w.slots.size⟩, { w with slots := w.slots.push none })

def addSlot (name : String) : InSession Unit := do
  let slot ← newSlot
  bindName .slot name slot.number

/-- The one slot that all such names share. -/
def shareSlot (name : String) : InSession Unit := do
  let slot ←
    match (← get).sharedSlot with
    | some slot => pure slot
    | none => newSlot
  modify fun s => { s with sharedSlot := some slot }
  bindName .slot name slot.number

def addCollaborators (name : String) (k : Collaborators) : InSession Unit := do
  let place := (← get).collaborators.size
  modify fun s => { s with collaborators := s.collaborators.push k }
  bindName .collaborators name place

def collaboratorsAt (place : Nat) : InSession Collaborators := do
  return (← get).collaborators[place]?.getD ⟨none, none, none⟩

def setCollaborators (place : Nat) (k : Collaborators) : InSession Unit :=
  modify fun s => { s with collaborators := s.collaborators.setIfInBounds place k }

def addManaged (name : String) (x : Managed) (collaborators : Nat) : InSession Unit := do
  let place := (← get).alone.size
  modify fun s => { s with alone := s.alone.push ⟨x, collaborators⟩ }
  placeIndex name (.alone place)

def replaceEntry (name : String) (x : Managed) (c : Catalogue) : Catalogue :=
  ⟨c.entries.map fun entry => if entry.1 == name then (name, x) else entry⟩

def managedAt? (place : Place) : InSession (Option (With Managed)) := do
  let s ← get
  return match place with
  | .alone number => s.alone[number]?
  | .listed number name =>
    s.catalogues[number]?.bind fun c => (c.value.get? name).map (⟨·, c.collaborators⟩)
  | .started number name =>
    s.startups[number]?.bind fun b => (b.value.catalogue.get? name).map (⟨·, b.collaborators⟩)

def managed? (name : String) : InSession (Option (Place × With Managed)) := do
  match (← get).places.lookup name with
  | none => return none
  | some place => return (← managedAt? place).map (place, ·)

def setManaged (place : Place) (x : Managed) : InSession Unit :=
  modify fun s =>
    match place with
    | .alone number => { s with alone := s.alone.modify number fun e => { e with value := x } }
    | .listed number name => { s with
        catalogues := s.catalogues.modify number fun c =>
          { c with value := replaceEntry name x c.value } }
    | .started number name => { s with
        startups := s.startups.modify number fun b =>
          { b with value := { b.value with catalogue := replaceEntry name x b.value.catalogue } } }

/-- Ensures the managed index at a place. -/
def ensureAt (place : Place) : InSession (Option (Except Failure Handle)) := do
  match ← managedAt? place with
  | none => return none
  | some x =>
    let k ← collaboratorsAt x.collaborators
    let (result, after) ← perform (x.value.ensure k)
    setManaged place after
    return some result

def destroyAt (place : Place) (x : Managed) : InSession (Except Failure Unit) := do
  let (result, after) ← perform x.destroy
  setManaged place after
  return result

def addCatalogue (name : String) (collaborators : Nat) : InSession Unit := do
  let place := (← get).catalogues.size
  modify fun s => { s with catalogues := s.catalogues.push ⟨.empty, collaborators⟩ }
  bindName .catalogue name place

def setCatalogue (place : Nat) (c : Catalogue) : InSession Unit :=
  modify fun s => { s with
    catalogues := s.catalogues.modify place fun e => { e with value := c } }

def addGate (name : String) (gate : Gate) : InSession Unit := do
  let place := (← get).gates.size
  modify fun s => { s with gates := s.gates.push gate }
  bindName .gate name place

def gate? (name : String) : InSession (Option Gate) := do
  return (← get).gates[← number .gate name]?

/-- An activation of its own number, over a slot and a switch by name. -/
def newActivation (slot switch : String) : InSession Activation := do
  return .inactive (← freshNumber) ⟨← number .slot slot⟩ ⟨← number .switch switch⟩

def addActivation (name : String) (activation : Activation) : InSession Unit := do
  let place := (← get).activations.size
  modify fun s => { s with activations := s.activations.push activation }
  bindName .activation name place

def setActivation (place : Nat) (activation : Activation) : InSession Unit :=
  modify fun s => { s with activations := s.activations.setIfInBounds place activation }

/-- Whether the slot of an activation holds that very manager. -/
def isHeld (activation : Activation) (manager : Option Manager) : InSession Bool := do
  match manager, (← get).world.registered activation.slot with
  | some manager, some held => return decide (manager.id = held.id)
  | _, _ => return false

def addLifecycle (name : String) : InSession Unit := do
  let place := (← get).lifecycles.size
  modify fun s => { s with lifecycles := s.lifecycles.push .idle }
  bindName .lifecycle name place

def setLifecycle (place : Nat) (lifecycle : Lifecycle) : InSession Unit :=
  modify fun s => { s with lifecycles := s.lifecycles.setIfInBounds place lifecycle }

def addStartup (name : String) (startup : Startup) (collaborators : Nat) : InSession Unit := do
  let place := (← get).startups.size
  modify fun s => { s with startups := s.startups.push ⟨startup, collaborators⟩ }
  bindName .startup name place

def setStartup (place : Nat) (startup : Startup) : InSession Unit :=
  modify fun s => { s with
    startups := s.startups.modify place fun e => { e with value := startup } }

end Session
end GatedStartup.Scripted
