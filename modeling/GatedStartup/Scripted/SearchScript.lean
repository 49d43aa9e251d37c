import GatedStartup.Engine.IndexStore

/-! A search service that follows a script. Each call is counted and logged. Creations and
destructions are refused as the script says, in order, and accepted once it has nothing more to
say; an accepted index may stay invisible. -/
namespace GatedStartup.Scripted

open Engine Index

structure SearchScript where
  indexes : Table IndexKey Handle
  /-- Reasons to refuse the next creations. -/
  refuseCreate : List (Option String)
  invisible : List Bool
  refuseDestroy : List (Option String)
  creates : Nat
  finds : Nat
  destroys : Nat
  log : List String
deriving DecidableEq, Repr

namespace SearchScript

def empty : SearchScript := ⟨.empty, [], [], [], 0, 0, 0, []⟩

def store (s : SearchScript) (handle : Handle) : SearchScript :=
  { s with indexes := s.indexes.insert ⟨handle.name, handle.regionPath⟩ handle }

def extend (s : SearchScript) (refuseCreate : List (Option String)) (invisible : List Bool)
    (refuseDestroy : List (Option String)) (existing : List Handle) : SearchScript :=
  existing.foldl store
    { s with
      refuseCreate := s.refuseCreate ++ refuseCreate
      invisible := s.invisible ++ invisible
      refuseDestroy := s.refuseDestroy ++ refuseDestroy }

def create (s : SearchScript) (name path : String) (fields : Fields) :
    Except SearchError Unit × SearchScript :=
  let s := { s with
    creates := s.creates + 1
    log := s.log ++
      ["create " ++ name ++ " on " ++ path ++ " [" ++ ",".intercalate fields.toNames ++ "]"] }
  let refusal := s.refuseCreate.head?.join
  let s := { s with refuseCreate := s.refuseCreate.tail }
  match refusal with
  | some reason => (.error (.createFailed name reason), s)
  | none =>
    let hidden := s.invisible.head? = some true
    let s := { s with invisible := s.invisible.tail }
    (.ok (), if hidden then s else s.store ⟨name, path, fields⟩)

def find (s : SearchScript) (name path : String) : Option Handle × SearchScript :=
  (s.indexes.get? ⟨name, path⟩,
    { s with finds := s.finds + 1, log := s.log ++ ["get " ++ name ++ " on " ++ path] })

def destroy (s : SearchScript) (index : Handle) : Except SearchError Unit × SearchScript :=
  let s := { s with
    destroys := s.destroys + 1
    log := s.log ++ ["destroy " ++ index.name ++ " on " ++ index.regionPath] }
  let refusal := s.refuseDestroy.head?.join
  let s := { s with refuseDestroy := s.refuseDestroy.tail }
  match refusal with
  | some reason => (.error (.destroyFailed index.name reason), s)
  | none => (.ok (), { s with indexes := s.indexes.erase ⟨index.name, index.regionPath⟩ })

def calls (s : SearchScript) : List Nat := [s.creates, s.finds, s.destroys]

end SearchScript
end GatedStartup.Scripted
