import Criteria.Yaml.Cursor

/-!
Blocks of text. A block keeps its line ends, or joins its lines by spaces, unless a line starts with
a blank. It goes on as long as lines are empty or indented as deeply as its first line, and its
header says what becomes of the line ends after the last one.
-/

namespace Criteria.Yaml

inductive Chomping where
  | strip
  | clip
  | keep
deriving DecidableEq

/-! An indentation that the header leaves open is given as zero. -/

structure BlockHeader where
  folded : Bool
  chomping : Chomping
  indent : Nat

def chompingMark? : Char → Option Chomping
  | '-' => some .strip
  | '+' => some .keep
  | _ => none

def blockHeader (folded : Bool) (cursor : Cursor) : Reading BlockHeader :=
  match cursor.rest with
  | first :: rest =>
      let second := rest.head?.getD ' '
      match chompingMark? first with
      | some chomping =>
          if second.isDigit then
            if second = '0' then none
            else some (⟨folded, chomping, second.toNat - 48⟩, cursor.advance 2)
          else some (⟨folded, chomping, 0⟩, cursor.advance 1)
      | none =>
          if first = '0' then none
          else if first.isDigit then
            match chompingMark? second with
            | some chomping => some (⟨folded, chomping, first.toNat - 48⟩, cursor.advance 2)
            | none => some (⟨folded, .clip, first.toNat - 48⟩, cursor.advance 1)
          else some (⟨folded, .clip, 0⟩, cursor)
  | [] => some (⟨folded, .clip, 0⟩, cursor)

/-- The line ends of empty lines, the latest first, and the deepest indentation on the way. -/
structure EmptyLines where
  ends : List Char
  deepest : Nat

/-- Past indentation and empty lines. A tab may not stand where a line is indented. -/
def emptyLines (indent : Nat) (lines : EmptyLines) (position : Position) :
    List Char → Reading EmptyLines
  | [] => some (⟨lines.ends, max lines.deepest position.column⟩, ⟨position, []⟩)
  | character :: rest =>
      let next := position.after character
      let indenting : Bool := indent = 0 || position.column < indent
      let seen := max lines.deepest position.column
      if indenting && character == ' ' then emptyLines indent lines next rest
      else if indenting && character == '\t' then none
      else if isBreak character then emptyLines indent ⟨character :: lines.ends, seen⟩ next rest
      else some (⟨lines.ends, seen⟩, ⟨position, character :: rest⟩)

/-! What was read of a block, the latest character first; the end of its last line; the line ends
of the empty lines since then, the latest first; and whether its last line starts with a blank. -/

structure BlockText where
  text : List Char
  lineEnd : Option Char
  emptyEnds : List Char
  indented : Bool

namespace BlockText

def gap (block : BlockText) (folded indented : Bool) : List Char :=
  if folded && block.lineEnd == some '\n' && !block.indented && !indented then
    if block.emptyEnds.isEmpty then [' '] else block.emptyEnds
  else block.emptyEnds ++ block.lineEnd.toList

def startLine (block : BlockText) (folded : Bool) (first : Char) : BlockText :=
  ⟨first :: block.gap folded (isBlank first) ++ block.text, none, [], isBlank first⟩

def finish (block : BlockText) : Chomping → List Char
  | .strip => block.text
  | .clip => block.lineEnd.toList ++ block.text
  | .keep => block.emptyEnds ++ block.lineEnd.toList ++ block.text

end BlockText

def blockText (folded : Bool) (indent : Nat) (inLine : Bool) (block : BlockText)
    (position : Position) : List Char → Reading BlockText
  | [] => some (block, ⟨position, []⟩)
  | character :: rest =>
      let next := position.after character
      if inLine then
        if isBreak character then
          blockText folded indent false { block with lineEnd := some character } next rest
        else
          blockText folded indent true { block with text := character :: block.text } next rest
      else if position.column < indent ∧ character = ' ' then
        blockText folded indent false block next rest
      else if position.column < indent ∧ character = '\t' then none
      else if isBreak character then
        let emptyEnds := character :: block.emptyEnds
        blockText folded indent false { block with emptyEnds } next rest
      else if position.column < indent then some (block, ⟨position, character :: rest⟩)
      else blockText folded indent true (block.startLine folded character) next rest

/-- A block of text, the latest character first. It belongs to what is indented by less than
`least`. -/
def blockScalar (least : Nat) (cursor : Cursor) : Reading (List Char) :=
  let header := blockHeader (cursor.rest.head? == some '>') (cursor.advance 1)
  match header.bind fun (header, after) => after.finishLine.map fun after => (header, after) with
  | none => none
  | some (header, start) =>
      let given := if header.indent = 0 then 0 else least - 1 + header.indent
      match emptyLines given ⟨[], 0⟩ start.position start.rest with
      | none => none
      | some (empty, after) =>
          let indent := if given = 0 then max empty.deepest (max least 1) else given
          let block : BlockText := ⟨[], none, empty.ends, false⟩
          if after.column < indent then some (block.finish header.chomping, after)
          else
            (blockText header.folded indent false block after.position after.rest).map
              fun (block, after) => (block.finish header.chomping, after)

end Criteria.Yaml
