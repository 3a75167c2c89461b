import SenderPolicy.Text.Quoted

/-! Documents: nested values as reports hold them, and their text. Every member of a list or an object stands
on a line of its own, two blanks deeper than its owner; objects keep the order of their members. -/

namespace SenderPolicy

/-- A value of a report. -/
inductive Document where
  | null
  | bool (b : Bool)
  | number (n : Int)
  | text (s : String)
  | list (items : List Document)
  | object (members : List (String × Document))
deriving Inhabited

namespace Document

/-- How a character is written between two quotes. -/
def escapedChar (c : Char) : List Char :=
  if c = '"' then ['\\', '"']
  else if c = '\\' then ['\\', '\\']
  else if c = '\n' then ['\\', 'n']
  else if c = '\r' then ['\\', 'r']
  else if c = '\t' then ['\\', 't']
  else if c = '\x08' then ['\\', 'b']
  else if c = '\x0c' then ['\\', 'f']
  else if c.toNat < 0x20 then ['\\', 'u'] ++ Text.hexadecimal 4 c.toNat
  else [c]

/-- A text in quotes. -/
def quotedText (s : String) : String :=
  String.ofList ('"' :: s.toList.flatMap escapedChar ++ ['"'])

/-- The start of a line at a depth. -/
def newLine (depth : Nat) : String :=
  String.ofList ('\n' :: List.replicate (2 * depth) ' ')

/-- Lines between two brackets; without lines the brackets stand together. -/
def bracketed (opening closing : String) (depth : Nat) (lines : List String) : String :=
  if lines.isEmpty then opening ++ closing
  else
    opening ++ newLine (depth + 1) ++ String.intercalate ("," ++ newLine (depth + 1)) lines
      ++ newLine depth ++ closing

mutual

/-- The text of a document whose first line starts at a depth. -/
def renderAt (depth : Nat) : Document → String
  | null => "null"
  | bool b => if b then "true" else "false"
  | number n => toString n
  | text s => quotedText s
  | list items => bracketed "[" "]" depth (renderItems (depth + 1) items)
  | object members => bracketed "\x7b" "\x7d" depth (renderMembers (depth + 1) members)

def renderItems (depth : Nat) : List Document → List String
  | [] => []
  | item :: rest => renderAt depth item :: renderItems depth rest

def renderMembers (depth : Nat) : List (String × Document) → List String
  | [] => []
  | (key, value) :: rest => (quotedText key ++ ": " ++ renderAt depth value) :: renderMembers depth rest

end

/-- The text of a document. -/
def render (d : Document) : String := d.renderAt 0

end Document

end SenderPolicy
