import SenderPolicy.Text.Composition.Table

/-! The composed normal form of a text: characters are taken apart, marks are put into the order of their
classes, and each starter takes up the marks it can be written with as one character. Syllables of the
Hangul script are taken apart and put together by arithmetic. -/

namespace SenderPolicy.Text

/-- The combining class of a code point; starters have class zero. -/
def combiningClass (n : Nat) : Nat :=
  if n < 0x300 then 0
  else ((combiningClasses.find? fun (first, last, _) => first ≤ n && n ≤ last).map (·.2.2)).getD 0

/-- The code points that a character stands for. -/
def decomposition? (n : Nat) : Option (List Nat) :=
  if n < 0xC0 then none
  else if 0xAC00 ≤ n && n < 0xAC00 + 11172 then
    let syllable := n - 0xAC00
    let start := [0x1100 + syllable / 588, 0x1161 + syllable % 588 / 28]
    some (if syllable % 28 = 0 then start else start ++ [0x11A7 + syllable % 28])
  else match (compositionPairs.lookup n).orElse fun _ => separatedPairs.lookup n with
    | some (first, second) => some [first, second]
    | none => (replacedCharacters.lookup n).map ([·])

/-- A character taken apart completely; the depth bounds how often a part is taken apart again. -/
def takenApart : (depth : Nat) → Nat → List Nat
  | 0, n => [n]
  | depth + 1, n => match decomposition? n with
    | none => [n]
    | some parts => parts.flatMap (takenApart depth)

/-- No character has to be taken apart more often than this. -/
def decompositionDepth : Nat := 4

/-- Puts a mark behind those of its class and before those of a higher one. -/
def insertMark (mark : Nat) : List Nat → List Nat
  | [] => [mark]
  | n :: rest =>
    if combiningClass n ≠ 0 && combiningClass n ≤ combiningClass mark then n :: insertMark mark rest
    else mark :: n :: rest

/-- The marks after each starter in the order of their classes; marks of one class keep their order. -/
def orderMarksFrom (marks : List Nat) : List Nat → List Nat
  | [] => marks
  | n :: rest =>
    if combiningClass n = 0 then marks ++ n :: orderMarksFrom [] rest
    else orderMarksFrom (insertMark n marks) rest

/-- The one character that a starter and a following character are written as. -/
def composed? (first second : Nat) : Option Nat :=
  if 0x1100 ≤ first && first < 0x1113 && 0x1161 ≤ second && second < 0x1176 then
    some (0xAC00 + ((first - 0x1100) * 21 + (second - 0x1161)) * 28)
  else if 0xAC00 ≤ first && first < 0xAC00 + 11172 && (first - 0xAC00) % 28 = 0
      && 0x11A7 < second && second < 0x11C3 then
    some (first + (second - 0x11A7))
  else (compositionPairs.find? fun (_, f, s) => f == first && s == second).map (·.1)

/-- Puts a starter together with what follows; `kept` holds backwards the marks it could not take up. A
mark is blocked by a kept one of its class or a higher one. -/
def composeFrom (starter : Nat) (kept : List Nat) : List Nat → List Nat
  | [] => starter :: kept.reverse
  | n :: rest =>
    let blocked := kept.head?.any fun mark => combiningClass n ≤ combiningClass mark
    match if blocked then none else composed? starter n with
    | some whole => composeFrom whole kept rest
    | none =>
      if combiningClass n = 0 then starter :: kept.reverse ++ composeFrom n [] rest
      else composeFrom starter (n :: kept) rest

def composeAll : List Nat → List Nat
  | [] => []
  | n :: rest => if combiningClass n = 0 then composeFrom n [] rest else n :: composeAll rest

/-- The composed normal form of a text. -/
def composed (s : List Char) : List Char :=
  if s.all (·.toNat < 0x300) then s
  else
    let parts := s.flatMap fun c => takenApart decompositionDepth c.toNat
    (composeAll (orderMarksFrom [] parts)).map Char.ofNat

end SenderPolicy.Text
