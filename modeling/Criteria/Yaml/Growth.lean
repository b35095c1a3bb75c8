import Criteria.Yaml.Node

/-!
How nodes grow from tokens. The collections that are not complete yet are kept with what has been
read of them, the innermost first, so that the depth of a document has no bound.

Where a key, a value or an entry is expected and the next token belongs to something else, nothing
was written, which is an empty scalar.
-/

namespace Criteria.Yaml

/-- What a mapping gets next: a key, a key that will have no value, or the value of a key. -/
inductive Awaited where
  | key
  | loneKey
  | value (key : Node)

abbrev Entries := List (Node × Node)

/-! What was read comes the latest first. A bare sequence is one that is not indented more deeply
than the mapping around it. A pair is a mapping of one entry inside a sequence of the flow style. -/

inductive Collection where
  | blockSequence (items : List Node)
  | bareSequence (items : List Node)
  | blockMapping (entries : Entries) (awaited : Awaited)
  | flowSequence (items : List Node)
  | flowMapping (entries : Entries) (awaited : Awaited)
  | pair (entries : Entries) (awaited : Awaited)

def takeEntry (node : Node) (entries : Entries) : Awaited → Entries × Awaited
  | .key => (entries, .value node)
  | .loneKey => ((node, .empty) :: entries, .key)
  | .value key => ((key, node) :: entries, .key)

namespace Collection

def take (node : Node) : Collection → Collection
  | .blockSequence items => .blockSequence (node :: items)
  | .bareSequence items => .bareSequence (node :: items)
  | .flowSequence items => .flowSequence (node :: items)
  | .blockMapping entries awaited =>
      let (entries, awaited) := takeEntry node entries awaited
      .blockMapping entries awaited
  | .flowMapping entries awaited =>
      let (entries, awaited) := takeEntry node entries awaited
      .flowMapping entries awaited
  | .pair entries awaited =>
      let (entries, awaited) := takeEntry node entries awaited
      .pair entries awaited

end Collection

/-! ## The next turn of a collection -/

/-- A collection is complete, or opens a pair, or gets a node. Whether that node may be in the
block style, and whether it may be a bare sequence, depends on where it is. -/
inductive Turn where
  | complete (node : Node)
  | openPair (around : Collection)
  | missing (collection : Collection)
  | node (inBlock mayBeBare : Bool) (collection : Collection)

def endsEntry : List Token → Bool
  | .blockEntry :: _ | .blockEnd :: _ => true
  | _ => false

def endsBareEntry : List Token → Bool
  | .blockEntry :: _ | .key :: _ | .value :: _ | .blockEnd :: _ => true
  | _ => false

def endsBlockPart : List Token → Bool
  | .key :: _ | .value :: _ | .blockEnd :: _ => true
  | _ => false

def endsFlowValue : List Token → Bool
  | .flowEntry :: _ | .flowMappingEnd :: _ | .flowSequenceEnd :: _ => true
  | _ => false

namespace Collection

def nodeUnless (isMissing inBlock mayBeBare : Bool) (collection : Collection) : Turn :=
  if isMissing then .missing collection else .node inBlock mayBeBare collection

def afterComma (isFirst : Bool) (tokens : List Token) : Option (List Token) :=
  if isFirst then some tokens
  else
    match tokens with
    | .flowEntry :: rest => some rest
    | _ => none

def turnOfSequence (items : List Node) (tokens : List Token) : Option (Turn × List Token) :=
  match tokens with
  | .flowSequenceEnd :: rest => some (.complete (.sequence items.reverse), rest)
  | _ =>
      match afterComma items.isEmpty tokens with
      | none => none
      | some (.flowSequenceEnd :: rest) => some (.complete (.sequence items.reverse), rest)
      | some (.key :: rest) => some (.openPair (.flowSequence items), rest)
      | some rest => some (.node false false (.flowSequence items), rest)

def turnOfMapping (entries : Entries) (tokens : List Token) : Option (Turn × List Token) :=
  match tokens with
  | .flowMappingEnd :: rest => some (.complete (.mapping entries.reverse), rest)
  | _ =>
      match afterComma entries.isEmpty tokens with
      | none => none
      | some (.flowMappingEnd :: rest) => some (.complete (.mapping entries.reverse), rest)
      | some (.key :: rest) =>
          let isMissing := match rest with
            | .value :: _ | .flowEntry :: _ | .flowMappingEnd :: _ => true
            | _ => false
          some ((Collection.flowMapping entries .key).nodeUnless isMissing false false, rest)
      | some rest => some (.node false false (.flowMapping entries .loneKey), rest)

/-- What a collection does at the next token. In a pair, a mark right after the mark of the key is
lost together with the key. -/
def turn (collection : Collection) (tokens : List Token) : Option (Turn × List Token) :=
  match collection, tokens with
  | .blockSequence _, .blockEntry :: rest =>
      some (collection.nodeUnless (endsEntry rest) true false, rest)
  | .blockSequence items, .blockEnd :: rest => some (.complete (.sequence items.reverse), rest)
  | .blockSequence _, _ => none
  | .bareSequence _, .blockEntry :: rest =>
      some (collection.nodeUnless (endsBareEntry rest) true false, rest)
  | .bareSequence items, _ => some (.complete (.sequence items.reverse), tokens)
  | .blockMapping _ (.value _), .value :: rest | .blockMapping _ .key, .key :: rest =>
      some (collection.nodeUnless (endsBlockPart rest) true true, rest)
  | .blockMapping _ (.value _), _ => some (.missing collection, tokens)
  | .blockMapping entries _, .blockEnd :: rest => some (.complete (.mapping entries.reverse), rest)
  | .blockMapping _ _, _ => none
  | .flowSequence items, _ => turnOfSequence items tokens
  | .flowMapping _ (.value _), .value :: rest =>
      some (collection.nodeUnless (endsFlowValue rest) false false, rest)
  | .flowMapping _ (.value _), _ => some (.missing collection, tokens)
  | .flowMapping entries _, _ => turnOfMapping entries tokens
  | .pair _ (.value _), .value :: rest =>
      some (collection.nodeUnless (endsFlowValue rest) false false, rest)
  | .pair _ (.value _), _ => some (.missing collection, tokens)
  | .pair [] _, .value :: rest | .pair [] _, .flowEntry :: rest
  | .pair [] _, .flowSequenceEnd :: rest => some (.missing collection, rest)
  | .pair [] _, _ => some (.node false false collection, tokens)
  | .pair entries _, _ => some (.complete (.mapping entries.reverse), tokens)

end Collection

/-! ## Properties -/

structure Properties where
  mark : Option TagMark
  name : Option String

def readProperties : List Token → Properties × List Token
  | .anchor name :: .tag mark :: rest => (⟨some mark, some name⟩, rest)
  | .tag mark :: .anchor name :: rest => (⟨some mark, some name⟩, rest)
  | .anchor name :: rest => (⟨none, some name⟩, rest)
  | .tag mark :: rest => (⟨some mark, none⟩, rest)
  | tokens => (⟨none, none⟩, tokens)

def resolveTag (handles : TagHandles) : Option TagMark → Option (Option Tag)
  | none => some none
  | some mark => (handles.resolve mark).map some

/-! ## Growth -/

structure Branch where
  collection : Collection
  place : Option Nat

structure Growth where
  handles : TagHandles
  names : Names
  branches : List Branch
  tokens : List Token

inductive Stage where
  | growing (growth : Growth)
  | grown (node : Node) (growth : Growth)

namespace Growth

def take (growth : Growth) (node : Node) : Stage :=
  match growth.branches with
  | [] => .grown node growth
  | branch :: around =>
      let collection := branch.collection.take node
      .growing { growth with branches := { branch with collection } :: around }

def leaf (growth : Growth) (place : Option Nat) (node : Node) (rest : List Token) : Stage :=
  ({ growth with names := growth.names.settle place node, tokens := rest }).take node

def branch (growth : Growth) (place : Option Nat) (collection : Collection)
    (rest : List Token) : Stage :=
  .growing { growth with branches := ⟨collection, place⟩ :: growth.branches, tokens := rest }

def give (growth : Growth) : Option String → Option Nat × Growth
  | some name => (some growth.names.count, { growth with names := growth.names.give name })
  | none => (none, growth)

/-- The content of a node after its properties. A node with properties may have no content. -/
def content (growth : Growth) (inBlock mayBeBare : Bool) (properties : Properties)
    (tag : Option Tag) : Option Stage :=
  let (place, growth) := growth.give properties.name
  let tokens := growth.tokens
  match tokens, inBlock, mayBeBare with
  | .blockEntry :: _, _, true => some (growth.branch place (.bareSequence []) tokens)
  | .scalar style text :: rest, _, _ => some (growth.leaf place (.scalar style tag text) rest)
  | .flowSequenceStart :: rest, _, _ => some (growth.branch place (.flowSequence []) rest)
  | .flowMappingStart :: rest, _, _ => some (growth.branch place (.flowMapping [] .key) rest)
  | .blockSequenceStart :: rest, true, _ => some (growth.branch place (.blockSequence []) rest)
  | .blockMappingStart :: rest, true, _ =>
      some (growth.branch place (.blockMapping [] .key) rest)
  | _, _, _ =>
      if place.isSome || tag.isSome then
        some (growth.leaf place (.scalar .plain tag "") tokens)
      else none

def node (growth : Growth) (inBlock mayBeBare : Bool) : Option Stage :=
  match growth.tokens with
  | .alias name :: rest =>
      growth.names.numbers[name]?.map fun number =>
        ({ growth with tokens := rest }).take (.alias number)
  | _ =>
      let (properties, rest) := readProperties growth.tokens
      match resolveTag growth.handles properties.mark with
      | some tag => ({ growth with tokens := rest }).content inBlock mayBeBare properties tag
      | none => none

def step (growth : Growth) : Option Stage :=
  match growth.branches with
  | [] => none
  | branch :: around =>
      match branch.collection.turn growth.tokens with
      | none => none
      | some (turn, tokens) =>
          let within (collection : Collection) : Growth :=
            { growth with branches := { branch with collection } :: around, tokens }
          match turn with
          | .complete node =>
              some (({ growth with branches := around }).leaf branch.place node tokens)
          | .openPair collection =>
              some ((within collection).branch none (.pair [] .key) tokens)
          | .missing collection => some ((within collection).take .empty)
          | .node inBlock mayBeBare collection => (within collection).node inBlock mayBeBare

def run : (limit : Nat) → Stage → Option (Node × Growth)
  | _, .grown node growth => some (node, growth)
  | 0, .growing _ => none
  | limit + 1, .growing growth =>
      match growth.step with
      | some stage => run limit stage
      | none => none

end Growth

/-- The node that starts with these tokens. Each token has a part in four turns at most: it may open
a collection, it may be read, and the absence of a key and of a value may be seen at it. -/
def growNode (handles : TagHandles) (tokens : List Token) : Option (Document × List Token) :=
  let growth : Growth := ⟨handles, .none, [], tokens⟩
  match growth.node true false with
  | none => none
  | some stage =>
      (Growth.run (4 * tokens.length + 4) stage).map fun (root, growth) =>
        (⟨root, growth.names⟩, growth.tokens)

end Criteria.Yaml
