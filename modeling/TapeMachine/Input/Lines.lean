import TapeMachine.Machine.Source

/-! The lines of a byte stream. -/

namespace TapeMachine

/-- Removes one line feed from the end, and then one carriage return. -/
def trimLineEnd (piece : Bytes) : Bytes :=
  let body := if piece.getLast? = some newline then piece.dropLast else piece
  if body.getLast? = some carriageReturn then body.dropLast else body

/-- Cuts behind each line feed; the piece after the last one is kept if it is not empty. The
argument holds the bytes of the current piece, latest first. -/
def piecesFrom (current : Bytes) : Bytes → List Bytes
  | [] => if current = [] then [] else [current.reverse]
  | b :: rest =>
    if b = newline then (b :: current).reverse :: piecesFrom [] rest
    else piecesFrom (b :: current) rest

/-- The lines of a stream that ends. -/
def lines (stream : Bytes) : List Bytes := (piecesFrom [] stream).map trimLineEnd

/-- What a source hands out that reads a stream to its end. -/
def scriptOf (stream : Bytes) : List Entry := (lines stream).map Entry.line

end TapeMachine
