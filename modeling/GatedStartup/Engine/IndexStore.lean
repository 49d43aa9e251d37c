import GatedStartup.Engine.Regions
import GatedStartup.Failure

/-! Indexes held in memory, by name and region path. Every call is counted, whatever comes of it.
The counters are natural numbers and never start over: a process makes fewer than 2^64 calls, so
that counters of one machine word never do either. -/
namespace GatedStartup.Engine

open Index

@[ext]
structure IndexKey where
  name : String
  path : String
deriving DecidableEq, Repr

/-- By name, then by path. -/
instance : Ord IndexKey where
  compare a b := (compare a.name b.name).then (compare a.path b.path)

instance : Std.TransOrd IndexKey :=
  inferInstanceAs (Std.TransCmp (compareLex (compareOn IndexKey.name) (compareOn IndexKey.path)))

instance : Std.LawfulEqOrd IndexKey where
  compare_self := Std.ReflOrd.compare_self
  eq_of_compare {a b} same := by
    obtain ⟨names, paths⟩ := Ordering.then_eq_eq.mp same
    exact IndexKey.ext (Std.LawfulEqOrd.eq_of_compare names) (Std.LawfulEqOrd.eq_of_compare paths)

structure IndexStore where
  indexes : Table IndexKey Handle
  creates : Nat
  finds : Nat
  destroys : Nat
deriving DecidableEq, Repr

namespace IndexStore

def empty : IndexStore := ⟨.empty, 0, 0, 0⟩

instance : Inhabited IndexStore := ⟨empty⟩

/-- Why an index cannot be created, the first cause of three. Without `regions` every region path
is taken. -/
def refusal? (store : IndexStore) (regions : Option Regions) (name path : String)
    (fields : Fields) : Option SearchError :=
  if fields.toNames.isEmpty then some (.createFailed name "no fields to index")
  else if regions.any fun known => !known.contains path then
    some (.createFailed name ("region " ++ path ++ " does not exist"))
  else if store.indexes.contains ⟨name, path⟩ then some (.alreadyExists name path)
  else none

def create (store : IndexStore) (regions : Option Regions) (name path : String)
    (fields : Fields) : Except SearchError Unit × IndexStore :=
  let counted := { store with creates := store.creates + 1 }
  match store.refusal? regions name path fields with
  | some error => (.error error, counted)
  | none =>
    (.ok (), { counted with indexes := store.indexes.insert ⟨name, path⟩ ⟨name, path, fields⟩ })

def find (store : IndexStore) (name path : String) : Option Handle × IndexStore :=
  (store.indexes.get? ⟨name, path⟩, { store with finds := store.finds + 1 })

def destroy (store : IndexStore) (index : Handle) : Except SearchError Unit × IndexStore :=
  let counted := { store with destroys := store.destroys + 1 }
  let key : IndexKey := ⟨index.name, index.regionPath⟩
  if store.indexes.contains key then
    (.ok (), { counted with indexes := store.indexes.erase key })
  else (.error (.destroyFailed index.name ("no such index on " ++ index.regionPath)), counted)

/-- By name, then by region path. -/
def handles (store : IndexStore) : List Handle := store.indexes.values

def calls (store : IndexStore) : List Nat := [store.creates, store.finds, store.destroys]

end IndexStore
end GatedStartup.Engine
