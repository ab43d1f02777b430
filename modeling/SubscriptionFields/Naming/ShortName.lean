import SubscriptionFields.Text.Width

/-!
# Short names of types

A type's full name carries a path in front of every word:
`alloc::vec::Vec<shop::Order>`. Messages show the short name `Vec<Order>`, in which every piece
between two delimiters has lost its path.

The scan below walks over the name once and cuts pieces out of it by byte positions, as the name
is stored in bytes. A cut that does not fall between two characters has no result, so the scan
is written as a partial function, `shorten?`, and `shorten` is its total form.
-/

set_option autoImplicit false

namespace SubscriptionFields.ShortName

/-- The characters between which a full name is cut into pieces. -/
def delimiters : List Char :=
  ['<', '>', ',', ' ', '(', ')', '[', ']', ';', '&', '*']

/-- Whether a character separates two pieces of a name. -/
def isDelimiter (c : Char) : Bool :=
  delimiters.contains c

/-! ## Paths -/

/-- What follows the last "::" of a piece, if there is one. -/
def afterLastPath? : List Char → Option (List Char)
  | [] => none
  | c :: rest =>
    match afterLastPath? rest with
    | some tail => some tail
    | none =>
      match rest with
      | ':' :: tail => if c = ':' then some tail else none
      | _ => none

/-- A piece without the path in front of its last word. -/
def lastSegment (piece : List Char) : List Char :=
  (afterLastPath? piece).getD piece

/-! ## Byte positions -/

/-- The text from byte `n` on, if a character begins there or the text ends there. -/
def dropBytes? : Nat → List Char → Option (List Char)
  | 0, text => some text
  | _ + 1, [] => none
  | n + 1, c :: text =>
    if c.utf8Size ≤ n + 1 then dropBytes? (n + 1 - c.utf8Size) text else none

/-- The first `n` bytes of the text, if a character ends there. -/
def takeBytes? : Nat → List Char → Option (List Char)
  | 0, _ => some []
  | _ + 1, [] => none
  | n + 1, c :: text =>
    if c.utf8Size ≤ n + 1 then (takeBytes? (n + 1 - c.utf8Size) text).map (c :: ·) else none

/-- The bytes from `start` up to `stop`, if both lie between characters and in this order. -/
def slice? (text : List Char) (start stop : Nat) : Option (List Char) :=
  if start ≤ stop then (dropBytes? start text).bind (takeBytes? (stop - start)) else none

/-- Every character of a text with the position of its first byte, counted from `start`. -/
def positions : Nat → List Char → List (Nat × Char)
  | _, [] => []
  | start, c :: text => (start, c) :: positions (start + c.utf8Size) text

/-! ## The scan -/

/-- How far the scan has come: where the open piece begins, and what has been written. -/
structure Scan where
  segmentStart : Nat
  written : List Char

/-- One character of the scan: a delimiter closes the open piece and is written after it. -/
def Scan.step (full : List Char) (scan : Scan) (position : Nat × Char) : Option Scan :=
  if isDelimiter position.2 then
    (slice? full scan.segmentStart position.1).map fun piece =>
      { segmentStart := position.1 + position.2.utf8Size
        written := scan.written ++ lastSegment piece ++ [position.2] }
  else
    some scan

/-- The short form of a full name; no result if a cut would split a character. -/
def shorten? (full : List Char) : Option (List Char) := do
  let scan ← (positions 0 full).foldlM (Scan.step full) { segmentStart := 0, written := [] }
  let piece ← slice? full scan.segmentStart (Text.width full)
  return scan.written ++ lastSegment piece

def shorten (full : String) : String :=
  String.ofList ((shorten? full.toList).getD full.toList)

end SubscriptionFields.ShortName
