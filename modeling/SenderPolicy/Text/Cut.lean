/-! Cutting texts: pieces between separators, ends stripped of a class of characters, and the first or last
place where a separator stands. All work on lists of characters, so a proof can follow the text. -/

namespace SenderPolicy.Text

/-- The text without the characters of a class at its end. -/
def dropTrailing (p : Char → Bool) (s : List Char) : List Char :=
  (s.reverse.dropWhile p).reverse

/-- The text without the characters of a class at either end. -/
def stripped (p : Char → Bool) (s : List Char) : List Char :=
  dropTrailing p (s.dropWhile p)

/-- The pieces of a text between the characters of a class; the empty text is one empty piece. -/
def pieces (p : Char → Bool) : List Char → List (List Char)
  | [] => [[]]
  | c :: rest => if p c then [] :: pieces p rest else (pieces p rest).modifyHead (c :: ·)

/-- The pieces put together with a separator between them. -/
def joined (separator : List Char) : List (List Char) → List Char
  | [] => []
  | [piece] => piece
  | piece :: rest => piece ++ separator ++ joined separator rest

/-- What stands before and after the first occurrence of a character. -/
def cutFirst (c : Char) : List Char → Option (List Char × List Char)
  | [] => none
  | d :: rest => if d = c then some ([], rest) else (cutFirst c rest).map fun (l, r) => (d :: l, r)

/-- What stands before and after the last occurrence of a character. -/
def cutLast (c : Char) (s : List Char) : Option (List Char × List Char) :=
  (cutFirst c s.reverse).map fun (l, r) => (r.reverse, l.reverse)

/-- The position of the first occurrence of a text in another. -/
def positionOf (part : List Char) : List Char → Option Nat
  | [] => if part.isEmpty then some 0 else none
  | s@(_ :: rest) => if part.isPrefixOf s then some 0 else (positionOf part rest).map (· + 1)

/-- The text with another one put in at a position. -/
def insertedAt (position : Nat) (part s : List Char) : List Char :=
  s.take position ++ part ++ s.drop position

theorem pieces_ne_nil (p : Char → Bool) (s : List Char) : pieces p s ≠ [] := by
  cases s with
  | nil => simp [pieces]
  | cons c rest =>
    have := pieces_ne_nil p rest
    by_cases h : p c <;> simp_all [pieces]

end SenderPolicy.Text
