/-!
# Flags of a pattern

A pattern may change, for itself or for a group, how it is read. Three flags decide about what it
may contain: whether letters stand for themselves in either case, whether the pattern is about
characters or about bytes, and whether blanks and comments mean nothing.

No tables of characters stand behind patterns. A pattern about characters therefore must not ask
which characters are words, digits or the same letter in another case. A pattern about bytes may
ask this of the first 128 ones, but whatever it fits must consist of whole characters, so that no
part of it may fit a byte beyond those.
-/

set_option autoImplicit false

namespace SubscriptionFields.Telemetry.Pattern

/-- The flags that decide about what a pattern may contain. -/
structure Flags where
  /-- Whether letters stand for themselves in either case. -/
  ignoresCase : Bool := false
  /-- Whether the pattern is about characters; if not, it is about bytes. -/
  aboutCharacters : Bool := true
  /-- Whether blanks and comments mean nothing. -/
  ignoresBlanks : Bool := false
  deriving DecidableEq, Repr

/-! ## Switching -/

/-- The letters of all flags, and the dash that turns off those behind it. -/
def flagLetters : List Char := ['i', 'm', 's', 'u', 'x', 'R', 'U', '-']

/-- Turns the flag with a letter on or off. The other flags do not decide about the form. -/
def Flags.switch (flags : Flags) (letter : Char) (on : Bool) : Flags :=
  match letter with
  | 'i' => { flags with ignoresCase := on }
  | 'u' => { flags with aboutCharacters := on }
  | 'x' => { flags with ignoresBlanks := on }
  | _ => flags

/-- Turns the flags with the given letters on, and off from a dash on. -/
def Flags.switchAll (flags : Flags) (on : Bool) : List Char → Flags
  | [] => flags
  | letter :: letters =>
    if letter = '-' then flags.switchAll false letters
    else (flags.switch letter on).switchAll on letters

/-! ## What a pattern may contain -/

/-- A character that stands for itself. -/
structure Literal where
  c : Char
  /-- Whether it is written as a byte, by two hexadecimal digits. -/
  asByte : Bool := false
  deriving DecidableEq, Repr

/-- Whether a character is among the first 128 ones. -/
def isNarrow (c : Char) : Bool := c.toNat < 0x80

/-- Whether a character may stand for itself outside classes. -/
def Flags.allowsLiteral (flags : Flags) (literal : Literal) : Bool :=
  if flags.aboutCharacters then !flags.ignoresCase else !literal.asByte || isNarrow literal.c

def Flags.allowsMember (flags : Flags) (literal : Literal) : Bool :=
  if flags.aboutCharacters then !flags.ignoresCase else isNarrow literal.c

def Flags.allowsAny (flags : Flags) : Bool := flags.aboutCharacters

/-- Whether the edge of a word may be asked for. -/
def Flags.allowsWordEdge (flags : Flags) : Bool := !flags.aboutCharacters

/-- Whether the short form of a class of digits, blanks or word characters may be used, or of the
class of all others. -/
def Flags.allowsShorthand (flags : Flags) (negated : Bool) : Bool :=
  !flags.aboutCharacters && !negated

/-- Whether a class among the first 128 characters may be named, or the class of all others. -/
def Flags.allowsNamed (flags : Flags) (negated : Bool) : Bool :=
  if flags.aboutCharacters then !flags.ignoresCase else !negated

/-- Whether a class may be one of all other characters. -/
def Flags.allowsComplement (flags : Flags) : Bool := flags.aboutCharacters

end SubscriptionFields.Telemetry.Pattern
