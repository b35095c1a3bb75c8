/-!
The items of a TOML document. Only what can be asked about an item is kept: the value of a
fraction or of a point in time is not.
-/

namespace Criteria.Toml

/-- How a table came into being decides what may still be added to it. A table has a header of its
own, or was made on the way to another table, or was made by a key with points, or was written in
one piece, after which it is closed. -/
inductive Origin where
  | header
  | implied
  | dotted
  | closed
deriving DecidableEq

inductive Item where
  | string (text : String)
  | integer (value : Int64)
  | fraction
  | boolean (value : Bool)
  | moment
  | array (items : List Item)
  | table (origin : Origin) (fields : List (String × Item))
  | tables (earlier : List Item) (last : List (String × Item))

abbrev Fields := List (String × Item)

namespace Fields

def put (fields : Fields) (name : String) (item : Item) : Fields :=
  (name, item) :: fields.eraseP (·.1 == name)

/-! ## Growing a document -/

/-- Changes the table at the end of a path of headers. Tables that are missing on the way are
made; of several tables under one header the last one is meant. -/
def changeAt (change : Fields → Option Fields) : List String → Fields → Option Fields
  | [], fields => change fields
  | name :: path, fields =>
      match fields.lookup name with
      | none => (changeAt change path []).map fun inner => fields.put name (.table .implied inner)
      | some (.tables earlier last) =>
          (changeAt change path last).map fun inner => fields.put name (.tables earlier inner)
      | some (.table origin inner) =>
          if origin = .closed then none
          else (changeAt change path inner).map fun inner => fields.put name (.table origin inner)
      | some _ => none

/-- A header may name a table that was only implied so far, but none twice. -/
def openTable (name : String) (fields : Fields) : Option Fields :=
  match fields.lookup name with
  | none => some (fields.put name (.table .header []))
  | some (.table .implied inner) => some (fields.put name (.table .header inner))
  | some _ => none

/-- A double header adds a table to those of its name, of which the latest come first. -/
def addTable (name : String) (fields : Fields) : Option Fields :=
  match fields.lookup name with
  | none => some (fields.put name (.tables [] []))
  | some (.tables earlier last) =>
      some (fields.put name (.tables (.table .header last :: earlier) []))
  | some _ => none

/-- Gives a key an item. Keys with points make tables or go into those that such keys have made;
nothing is assigned twice. -/
def assign (item : Item) : List String → Fields → Option Fields
  | [], _ => none
  | [name], fields =>
      match fields.lookup name with
      | none => some (fields.put name item)
      | some _ => none
  | name :: next :: path, fields =>
      match fields.lookup name with
      | none =>
          (assign item (next :: path) []).map fun inner => fields.put name (.table .dotted inner)
      | some (.table .dotted inner) =>
          (assign item (next :: path) inner).map fun inner =>
            fields.put name (.table .dotted inner)
      | some (.table .implied inner) =>
          if path.isEmpty then none
          else (assign item (next :: path) inner).map fun inner =>
            fields.put name (.table .implied inner)
      | some (.tables earlier last) =>
          if path.isEmpty then none
          else (assign item (next :: path) last).map fun inner =>
            fields.put name (.tables earlier inner)
      | some _ => none

end Fields

end Criteria.Toml
