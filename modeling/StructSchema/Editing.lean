import StructSchema.Entity

/-!
# Editing entities

An entity may be put together action by action: columns are added, the entity is renamed, its key is
replaced, entries of either table are written and deleted on their own, the references of the key
are resolved. It may be checked at any point in between, which gives a verdict.
-/

namespace StructSchema.Entity

inductive Action
  | addColumn (column : Column)
  | rename (name : Text)
  | setKey (key : Option PrimaryKey)
  | mapColumn (column field : Text)
  | mapField (field column : Text)
  | unmapColumn (column : Text)
  | unmapField (field : Text)
  | resolveKeys
  | check
  deriving DecidableEq, Repr

def act (entity : Entity) : Action → Entity × List (Except ValidityError Unit)
  | .addColumn column => (entity.addColumn column, [])
  | .rename name => ({ entity with definition := { entity.definition with name } }, [])
  | .setKey key => ({ entity with definition := { entity.definition with key } }, [])
  | .mapColumn column field =>
    ({ entity with fieldOfColumn := entity.fieldOfColumn.insert column field }, [])
  | .mapField field column =>
    ({ entity with columnOfField := entity.columnOfField.insert field column }, [])
  | .unmapColumn column =>
    ({ entity with fieldOfColumn := entity.fieldOfColumn.erase column }, [])
  | .unmapField field =>
    ({ entity with columnOfField := entity.columnOfField.erase field }, [])
  | .resolveKeys => (entity.resolveKeys, [])
  | .check => (entity, [entity.check])

def actAll (entity : Entity) : List Action → Entity × List (Except ValidityError Unit)
  | [] => (entity, [])
  | action :: rest =>
    let (entity, verdicts) := entity.act action
    let (entity, more) := entity.actAll rest
    (entity, verdicts ++ more)

end StructSchema.Entity
