import Criteria.Yaml.Block
import Criteria.Yaml.Plain
import Criteria.Yaml.Quoted
import Criteria.Yaml.Token

/-!
The layout of a YAML document: how its text becomes tokens.

In the block style, collections start where lines are indented more deeply, and end where they are
not. Whether something is a key is only known at the colon after it, so the place where a key could
have started is remembered, and the token for it is put there later. Such a key is on one line and
not too long. Where a line has to start with a key, it is an error if none is found.
-/

namespace Criteria.Yaml

/-- A place where a key could have started, and the number of tokens before it. -/
structure KeyStart where
  position : Position
  count : Nat
  isRequired : Bool

/-! Tokens and indentations are the latest first. `keyStart` belongs to the innermost collection of
the flow style, the `outerStarts` to those around it, so that there are none in the block style. -/

structure Layout where
  cursor : Cursor
  tokens : List Token
  count : Nat
  indents : List Nat
  keyAllowed : Bool
  keyStart : Option KeyStart
  outerStarts : List (Option KeyStart)

namespace Layout

def start (characters : List Char) : Layout :=
  ⟨⟨.start, characters⟩, [], 0, [], true, none, []⟩

def inFlow (layout : Layout) : Bool :=
  !layout.outerStarts.isEmpty

def leastColumn (layout : Layout) : Nat :=
  match layout.indents with
  | [] => 0
  | indent :: _ => indent + 1

def add (layout : Layout) (token : Token) : Layout :=
  { layout with tokens := token :: layout.tokens, count := layout.count + 1 }

def insert (layout : Layout) (count : Nat) (token : Token) : Layout :=
  let later := layout.count - count
  { layout with
    tokens := layout.tokens.take later ++ token :: layout.tokens.drop later
    count := layout.count + 1 }

def mark (layout : Layout) (token : Token) (length : Nat) : Layout :=
  { layout.add token with cursor := layout.cursor.advance length }

/-! ## Indentation -/

/-- Ends the collections of the block style whose indentation is greater than a column. -/
def closeFrom (layout : Layout) (isDeeper : Nat → Bool) : Layout :=
  if layout.inFlow then layout
  else
    let closed := (layout.indents.takeWhile isDeeper).length
    { layout with
      tokens := List.replicate closed .blockEnd ++ layout.tokens
      count := layout.count + closed
      indents := layout.indents.drop closed }

/-- Starts a collection of the block style if this column is deeper than the present one. -/
def openAt (layout : Layout) (column : Nat) (count : Nat) (token : Token) : Layout :=
  if layout.inFlow || column < layout.leastColumn then layout
  else { layout.insert count token with indents := column :: layout.indents }

/-! ## Keys -/

def forgetKey (layout : Layout) : Option Layout :=
  if layout.keyStart.any (·.isRequired) then none else some { layout with keyStart := none }

def rememberKey (layout : Layout) : Option Layout :=
  if layout.keyAllowed then
    let isRequired := !layout.inFlow && layout.indents.head? == some layout.cursor.column
    layout.forgetKey.map fun layout =>
      { layout with keyStart := some ⟨layout.cursor.position, layout.count, isRequired⟩ }
  else some layout

def longestKey : Nat := 1024

def foundKey (layout : Layout) : Option (Option KeyStart) :=
  match layout.keyStart with
  | none => some none
  | some start =>
      let position := layout.cursor.position
      if position.line = start.position.line ∧
          position.index ≤ start.position.index + longestKey then
        some (some start)
      else if start.isRequired then none
      else some none

/-! ## Marks -/

def separate (layout : Layout) : Option Layout :=
  (layout.closeFrom fun _ => true).forgetKey.map ({ · with keyAllowed := false })

def openFlow (layout : Layout) (token : Token) : Option Layout :=
  layout.rememberKey.map fun layout =>
    { layout.mark token 1 with
      keyAllowed := true
      keyStart := none
      outerStarts := layout.keyStart :: layout.outerStarts }

def closeFlow (layout : Layout) (token : Token) : Option Layout :=
  layout.forgetKey.map fun layout =>
    let closed := { layout.mark token 1 with keyAllowed := false }
    match layout.outerStarts with
    | [] => closed
    | keyStart :: outerStarts => { closed with keyStart, outerStarts }

def flowEntry (layout : Layout) : Option Layout :=
  layout.forgetKey.map fun layout => { layout.mark .flowEntry 1 with keyAllowed := true }

def blockEntry (layout : Layout) : Option Layout :=
  if !layout.inFlow && !layout.keyAllowed then none
  else
    (layout.openAt layout.cursor.column layout.count .blockSequenceStart).forgetKey.map
      fun layout => { layout.mark .blockEntry 1 with keyAllowed := true }

def announcedKey (layout : Layout) : Option Layout :=
  if !layout.inFlow && !layout.keyAllowed then none
  else
    (layout.openAt layout.cursor.column layout.count .blockMappingStart).forgetKey.map
      fun layout => { layout.mark .key 1 with keyAllowed := !layout.inFlow }

def value (layout : Layout) : Option Layout :=
  match layout.foundKey with
  | none => none
  | some (some start) =>
      let keyed := (layout.insert start.count .key).openAt start.position.column start.count
        .blockMappingStart
      some { keyed.mark .value 1 with keyAllowed := false, keyStart := none }
  | some none =>
      if !layout.inFlow && !layout.keyAllowed then none
      else
        let opened := layout.openAt layout.cursor.column layout.count .blockMappingStart
        some { opened.mark .value 1 with keyAllowed := !layout.inFlow, keyStart := none }

/-! ## Other tokens -/

def content (layout : Layout) (reading : Reading Token) : Option Layout :=
  match layout.rememberKey, reading with
  | some layout, some (token, cursor) =>
      some { layout.add token with cursor, keyAllowed := false }
  | _, _ => none

def scalar (style : ScalarStyle) (text : List Char) : Token :=
  .scalar style (String.ofList text.reverse)

def plain (layout : Layout) : Option Layout :=
  let cursor := layout.cursor
  match plainScalar layout.inFlow layout.leastColumn ⟨[], .none⟩ cursor.position cursor.rest with
  | none => none
  | some (plain, cursor) =>
      (layout.content (some (scalar .plain plain.text, cursor))).map fun layout =>
        { layout with keyAllowed := plain.gap.crossed }

def block (layout : Layout) (style : ScalarStyle) : Option Layout :=
  match layout.forgetKey, blockScalar layout.leastColumn layout.cursor with
  | some layout, some (text, cursor) =>
      some { layout.add (scalar style text) with cursor, keyAllowed := true }
  | _, _ => none

/-! ## From token to token -/

/-- Past everything without a meaning, up to the next token. In the block style, a key may start on
any new line, but a tab may not stand where a key may start. A byte order mark may start a line. -/
def skipGap (inFlow keyAllowed inComment : Bool) (position : Position) :
    List Char → Bool × Cursor
  | [] => (keyAllowed, ⟨position, []⟩)
  | character :: rest =>
      let next := position.after character
      if isBreak character then skipGap inFlow (keyAllowed || !inFlow) false next rest
      else if inComment || character == '#' then skipGap inFlow keyAllowed true next rest
      else if character == ' ' || (character == '\t' && (inFlow || !keyAllowed)) ||
          (character == '\ufeff' && position.column == 0) then
        skipGap inFlow keyAllowed false next rest
      else (keyAllowed, ⟨position, character :: rest⟩)

def skip (layout : Layout) : Layout :=
  let (keyAllowed, cursor) := skipGap layout.inFlow layout.keyAllowed false layout.cursor.position
    layout.cursor.rest
  ({ layout with cursor, keyAllowed }).closeFrom (cursor.column < ·)

def read (layout : Layout) (character : Char) (rest : List Char) : Option Layout :=
  let cursor := layout.cursor
  let atStart := cursor.column == 0
  if atStart && character == '%' then
    match layout.separate, directive cursor with
    | some layout, some (token, cursor) => some { layout.add token with cursor }
    | _, _ => none
  else if atStart && isSeparator '-' (character :: rest) then
    layout.separate.map (·.mark .documentStart 3)
  else if atStart && isSeparator '.' (character :: rest) then
    layout.separate.map (·.mark .documentEnd 3)
  else if character = '[' then layout.openFlow .flowSequenceStart
  else if character = '\x7b' then layout.openFlow .flowMappingStart
  else if character = ']' then layout.closeFlow .flowSequenceEnd
  else if character = '\x7d' then layout.closeFlow .flowMappingEnd
  else if character = ',' then layout.flowEntry
  else if character = '-' ∧ endsWord rest then layout.blockEntry
  else if character = '?' ∧ (layout.inFlow ∨ endsWord rest) then layout.announcedKey
  else if character = ':' ∧ (layout.inFlow ∨ endsWord rest) then layout.value
  else if character = '*' then
    layout.content ((anchorName cursor).map fun (name, after) => (.alias name, after))
  else if character = '&' then
    layout.content ((anchorName cursor).map fun (name, after) => (.anchor name, after))
  else if character = '!' then
    layout.content ((tag layout.inFlow cursor).map fun (mark, after) => (.tag mark, after))
  else if character = '|' ∧ !layout.inFlow then layout.block .literal
  else if character = '>' ∧ !layout.inFlow then layout.block .other
  else if character = '\'' ∨ character = '"' then
    layout.content ((quotedScalar cursor).map fun (text, after) => (scalar .other text, after))
  else if beginsPlain layout.inFlow (character :: rest) then layout.plain
  else none

/-- The tokens from here to the end. Each takes at least one character, which bounds their
number. -/
def readAll : (limit : Nat) → Layout → Option (List Token)
  | 0, _ => none
  | limit + 1, layout =>
      let next := layout.skip
      match next.cursor.rest with
      | [] => (next.closeFrom fun _ => true).forgetKey.map (·.tokens.reverse)
      | character :: rest =>
          match next.read character rest with
          | some after => readAll limit after
          | none => none

end Layout

def tokens (characters : List Char) : Option (List Token) :=
  (Layout.start characters).readAll (characters.length + 1)

end Criteria.Yaml
