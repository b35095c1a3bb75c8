import Criteria.Value

/-!
Sample entities: pairs of flags, items on stock, people and customers. Each says what its members
are and how it answers calls. A member may also be a record of its own, which comes into being when
the member is read.
-/

namespace Criteria.Sample

structure Flags where
  a : Bool
  b : Bool

namespace Flags

def all : List Flags :=
  [⟨true, true⟩, ⟨true, false⟩, ⟨false, true⟩, ⟨false, false⟩]

def member? (flags : Flags) : String → Option Value
  | "a" => some (.bool flags.a)
  | "b" => some (.bool flags.b)
  | _ => none

end Flags

structure Item where
  id : Int64
  price : Int64
  stock : Int64
  rating : Float

namespace Item

def six : List Item :=
  [⟨1, 60, 20, 4.5⟩, ⟨2, 60, 20, 3.0⟩, ⟨3, 10, 20, 4.2⟩, ⟨4, 70, 1, 4.9⟩, ⟨5, 10, 1, 4.0⟩,
    ⟨6, 10, 2, 1.0⟩]

def member? (item : Item) : String → Option Value
  | "id" => some (.int item.id)
  | "price" => some (.int item.price)
  | "stock" => some (.int item.stock)
  | "rating" => some (.float item.rating)
  | _ => none

end Item

def optional {Content : Type} (wrap : Content → Value) : Option Content → Value
  | some content => wrap content
  | none => .none

structure Address where
  city : String
  zip : String

namespace Address

def member? (address : Address) : String → Option Value
  | "city" => some (.string address.city)
  | "zip" => some (.string address.zip)
  | _ => none

end Address

inductive Reading (Nested : Type) where
  | value (value : Value)
  | nested (description : Nested)
  | nestedList (descriptions : List Nested)

structure Person where
  name : String
  age : Int64
  email : Option String
  tags : List String
  joined : Int32
  address : Option Address

namespace Person

def samples : List Person :=
  [⟨"Ada", 36, some "ada@example.com", ["admin", "dev"], 100, some ⟨"London", "N1"⟩⟩,
    ⟨"Brian", 17, none, ["dev"], 200, none⟩,
    ⟨"carla", 52, some "carla@example.org", [], 300, some ⟨"Lisbon", "1000"⟩⟩,
    ⟨"Dmitri", 29, some "  ", [], 400, some ⟨"London", "E2"⟩⟩]

def member? (person : Person) : String → Option (Reading Address)
  | "name" => some (.value (.string person.name))
  | "age" => some (.value (.int person.age))
  | "email" => some (.value (optional .string person.email))
  | "tags" => some (.value (.list (person.tags.map .string)))
  | "joined" => some (.value (.date person.joined))
  | "address" =>
      match person.address with
      | some address => some (.nested address)
      | none => some (.value .none)
  | _ => none

def initial (person : Person) : String :=
  match person.name.toList with
  | first :: _ => if first.toNat < 0x80 then String.singleton first else ""
  | [] => ""

def call? (person : Person) : String → List Value → Option Value
  | "older_than", [.int years] => some (.bool (years < person.age))
  | "initial", [] => some (.string person.initial)
  | _, _ => none

end Person

structure Place where
  city : String
  postCode : Option Nat

namespace Place

def member? (place : Place) : String → Option Value
  | "city" => some (.string place.city)
  | "postCode" => some (optional (fun code => .int (Int64.ofNat code)) place.postCode)
  | _ => none

end Place

/-- The password of a customer is no member, but a method gives it away. -/
structure Customer where
  name : String
  age : Int64
  vip : Bool
  email : Option String
  tags : List String
  password : String
  small : Nat
  count : Nat
  delta : Int
  size : Nat
  ratio : Float32
  score : Float
  marks : List Int64
  bonus : Option Int64
  address : Option Place
  previous : List Place
  billing : Place

namespace Customer

def plainMember? (customer : Customer) : String → Option Value
  | "name" => some (.string customer.name)
  | "age" => some (.int customer.age)
  | "vip" => some (.bool customer.vip)
  | "eMail" => some (optional .string customer.email)
  | "tags" => some (.list (customer.tags.map .string))
  | "small" => some (.int (Int64.ofNat customer.small))
  | "count" => some (.int (Int64.ofNat customer.count))
  | "delta" => some (.int (Int64.ofInt customer.delta))
  | "size" => some (.ofSize customer.size)
  | "ratio" => some (.float customer.ratio.toFloat)
  | "score" => some (.float customer.score)
  | "marks" => some (.list (customer.marks.map .int))
  | "bonus" => some (optional .int customer.bonus)
  | _ => none

def member? (customer : Customer) : String → Option (Reading Place)
  | "address" =>
      match customer.address with
      | some place => some (.nested place)
      | none => some (.value .none)
  | "previous" => some (.nestedList customer.previous)
  | "bill_to" => some (.nested customer.billing)
  | name => (customer.plainMember? name).map .value

def tagAt (customer : Customer) (index : Int64) : Value :=
  if index < 0 then .none
  else optional .string customer.tags[index.toInt.toNat]?

def call? (customer : Customer) : String → List Value → Option Value
  | "tag_count", [] => some (.ofSize customer.tags.length)
  | "tag_at", [.int index] => some (customer.tagAt index)
  | "password", [] => some (.string customer.password)
  | _, _ => none

end Customer

/-! ## Open records

An open record is a table of members and a table of methods, and may change. -/

inductive Reply where
  | returns (value : Value)
  | withArity (count : Nat) (value : Value)
  | echo (index : Nat)
  | arguments
  | member (name : String)

structure OpenRecord where
  members : List (String × Value)
  methods : List (String × Reply)

namespace OpenRecord

def member? (record : OpenRecord) (name : String) : Option Value :=
  record.members.lookup name

def call? (record : OpenRecord) (method : String) (arguments : List Value) : Option Value :=
  match record.methods.lookup method with
  | some (.returns value) => some value
  | some (.withArity count value) => if arguments.length = count then some value else none
  | some (.echo index) => arguments[index]?
  | some .arguments => some (.list arguments)
  | some (.member name) => record.member? name
  | none => none

def unset (record : OpenRecord) (name : String) : OpenRecord :=
  ⟨record.members.filter (·.1 != name), record.methods⟩

def set (record : OpenRecord) (name : String) (value : Value) : OpenRecord :=
  ⟨(name, value) :: (record.unset name).members, record.methods⟩

end OpenRecord

end Criteria.Sample
