import Fixtures.Store.Record

/-!
# Edits

Changes to attribute maps and records that can be written down as data. A list of edits is a hook
of a factory, applied from the first to the last.
-/

namespace Fixtures

/-- A change to an attribute map. -/
inductive Edit where
  | set (field : String) (value : Value)
  | remove (field : String)
  -- Gives `target` the value of `source`, if that has one.
  | copy (source target : String)
  -- Puts a text after the one in a field, if that holds a text.
  | append (field text : String)
  deriving DecidableEq

namespace Edit

def apply (edit : Edit) (attributes : AttributeMap) : AttributeMap :=
  match edit with
  | .set field value => attributes.insert field value
  | .remove field => attributes.erase field
  | .copy source target =>
    match attributes.get? source with
    | some value => attributes.insert target value
    | none => attributes
  | .append field text =>
    match (attributes.get? field).bind Value.asText? with
    | some old => attributes.insert field (.text (old ++ text))
    | none => attributes

def applyAll (edits : List Edit) (attributes : AttributeMap) : AttributeMap :=
  edits.foldl (fun attributes edit => edit.apply attributes) attributes

end Edit

/-- A change to a record. -/
inductive RecordEdit where
  -- Changes the stored fields.
  | inAttributes (edit : Edit)
  | setId (id : Int)
  | setModel (model : String)
  -- Writes the record's key into a field.
  | stamp (field : String)
  deriving DecidableEq

namespace RecordEdit

def apply (edit : RecordEdit) (record : Record) : Record :=
  match edit with
  | .inAttributes edit => { record with attributes := edit.apply record.attributes }
  | .setId id => { record with id }
  | .setModel model => { record with model }
  | .stamp field =>
    { record with attributes := record.attributes.insert field (.int record.id) }

def applyAll (edits : List RecordEdit) (record : Record) : Record :=
  edits.foldl (fun record edit => edit.apply record) record

end RecordEdit

end Fixtures
