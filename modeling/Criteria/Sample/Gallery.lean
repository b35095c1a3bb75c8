import Criteria.Probe
import Criteria.Sample.Entities

/-!
A world of sample entities. Records are numbered in the order in which they came into being, and
reading a nested record brings a new one into being, so such a record is never the same twice.
-/

namespace Criteria.Sample

inductive Shape where
  | flags (flags : Flags)
  | item (item : Item)
  | person (person : Person)
  | address (address : Address)
  | place (place : Place)
  | customer (customer : Customer)
  | openRecord (record : OpenRecord)

structure Gallery where
  shapes : Array Shape

namespace Gallery

def empty : Gallery := ⟨#[]⟩

def add (gallery : Gallery) (shape : Shape) : Record × Gallery :=
  (⟨gallery.shapes.size⟩, ⟨gallery.shapes.push shape⟩)

def addAll (gallery : Gallery) : List Shape → List Record × Gallery
  | [] => ([], gallery)
  | shape :: shapes =>
      let (record, after) := gallery.add shape
      let (records, last) := after.addAll shapes
      (record :: records, last)

def shape? (gallery : Gallery) (record : Record) : Option Shape :=
  gallery.shapes[record.identity]?

def isOpen (gallery : Gallery) (record : Record) : Bool :=
  match gallery.shape? record with
  | some (.openRecord _) => true
  | _ => false

def settle {Nested : Type} (gallery : Gallery) (wrap : Nested → Shape) :
    Option (Reading Nested) → Option Value × Gallery
  | none => (none, gallery)
  | some (.value value) => (some value, gallery)
  | some (.nested description) =>
      let (record, after) := gallery.add (wrap description)
      (some (.record record), after)
  | some (.nestedList descriptions) =>
      let (records, after) := gallery.addAll (descriptions.map wrap)
      (some (.list (records.map .record)), after)

def member (record : Record) (name : String) (gallery : Gallery) : Option Value × Gallery :=
  match gallery.shape? record with
  | some (.flags flags) => (flags.member? name, gallery)
  | some (.item item) => (item.member? name, gallery)
  | some (.person person) => gallery.settle .address (person.member? name)
  | some (.address address) => (address.member? name, gallery)
  | some (.place place) => (place.member? name, gallery)
  | some (.customer customer) => gallery.settle .place (customer.member? name)
  | some (.openRecord record) => (record.member? name, gallery)
  | none => (none, gallery)

def call (record : Record) (method : String) (arguments : List Value) (gallery : Gallery) :
    Option Value × Gallery :=
  match gallery.shape? record with
  | some (.person person) => (person.call? method arguments, gallery)
  | some (.customer customer) => (customer.call? method arguments, gallery)
  | some (.openRecord record) => (record.call? method arguments, gallery)
  | _ => (none, gallery)

instance : Records Gallery where
  member := member
  call := call

/-- Changes an open record in place; all others are left alone. -/
def change (gallery : Gallery) (record : Record) (step : OpenRecord → OpenRecord) : Gallery :=
  match gallery.shape? record with
  | some (.openRecord current) =>
      ⟨gallery.shapes.setIfInBounds record.identity (.openRecord (step current))⟩
  | _ => gallery

def set (gallery : Gallery) (record : Record) (name : String) (value : Value) : Gallery :=
  gallery.change record (·.set name value)

def unset (gallery : Gallery) (record : Record) (name : String) : Bool × Gallery :=
  match gallery.shape? record with
  | some (.openRecord current) =>
      ((current.member? name).isSome, gallery.change record (·.unset name))
  | _ => (false, gallery)

end Gallery

end Criteria.Sample
