import MockApi.Text.Blank
import MockApi.Text.Digit

/-!
# Blanks for sample values

A blank is a name in double braces, with blank characters around the name if any.

* `Blank.Piece`, `Blank.pieces` : a text cut into blanks and the code points between them.
-/

namespace MockApi.Blank

def isNameStart (c : CodePoint) : Bool := c.char?.any fun c => c.isAlpha || c = '_'

def isNameChar (c : CodePoint) : Bool := c.char?.any fun c => c.isAlphanum || c = '_' || c = '.'

/-- A part of a text. -/
inductive Piece where
  | literal (c : CodePoint)
  /-- A blank, as it is written and with its name. -/
  | blank (source name : Text)
  deriving DecidableEq, Repr

/-- The name of the blank that starts here, if one does, and what it is made of. -/
def blankAt? (text : Text) : Option (Text × Text) := do
  let rest ← Text.after? "\x7b\x7b" text
  let inside := rest.dropWhile Text.isBlank
  let name := inside.takeWhile isNameChar
  let behind ← Text.after? "\x7d\x7d" ((inside.dropWhile isNameChar).dropWhile Text.isBlank)
  if name.head?.any isNameStart then some (name, text.take (text.length - behind.length)) else none

/-- Cuts a text, of which the first `skip` code points belong to a blank already cut. -/
def scan : (skip : Nat) → Text → List Piece
  | _, [] => []
  | skip + 1, _ :: rest => scan skip rest
  | 0, c :: rest =>
    match blankAt? (c :: rest) with
    | some (name, source) => .blank source name :: scan (source.length - 1) rest
    | none => .literal c :: scan 0 rest

/-- A text cut into blanks and the code points between them. -/
def pieces (text : Text) : List Piece := scan 0 text

end MockApi.Blank
