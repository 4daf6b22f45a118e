import QueryTools.Text.Blank

/-!
# Lines of a document

A line ends at a line feed, at a carriage return, or at both in that order.  `Text.lines` cuts a
document into lines, `Text.place` finds the line and column of a position, and `Text.excerpt`
shows a place together with the lines around it.
-/

namespace QueryTools.Text

/-- The lines of a document, at least one; `line` holds the current line, last character first. -/
def linesFrom (line : List Char) : List Char → List (List Char)
  | [] => [line.reverse]
  | '\r' :: '\n' :: rest => line.reverse :: linesFrom [] rest
  | '\r' :: rest => line.reverse :: linesFrom [] rest
  | '\n' :: rest => line.reverse :: linesFrom [] rest
  | c :: rest => linesFrom (c :: line) rest

/-- The lines of a document, without their ends. -/
def lines (cs : List Char) : List (List Char) := linesFrom [] cs

/-- The line and the column of a position, `line` and `column` being those of the characters'
start. -/
def placeFrom (line column : Nat) : Nat → List Char → Nat × Nat
  | 0, _ => (line, column)
  | _, [] => (line, column)
  | n + 2, '\r' :: '\n' :: rest => placeFrom (line + 1) 1 n rest
  | n + 1, c :: rest =>
    if c = '\r' ∨ c = '\n' then placeFrom (line + 1) 1 n rest else placeFrom line (column + 1) n rest

/-- The line and the column, both from one, of a position in a document. -/
def place (cs : List Char) (position : Nat) : Nat × Nat := placeFrom 1 1 position cs

/-- A text moved to the right end of a field of the given width. -/
def padLeft (width : Nat) (cs : List Char) : List Char :=
  List.replicate (width - cs.length) ' ' ++ cs

/-- Lines behind labels of one width; nothing but the label where a line is empty. -/
def labelled (entries : List (List Char × List Char)) : List Char :=
  let width := entries.foldl (fun w e => max w e.1.length) 0
  let render := fun (e : List Char × List Char) =>
    padLeft width e.1 ++ (if e.2.isEmpty then [] else ' ' :: e.2)
  ['\n'].intercalate (entries.map render)

/-- A caret below a column. -/
def caret (column : Nat) : List Char := padLeft column ['^']

/-- Pieces of at most `n` characters. -/
def chunks (n : Nat) (cs : List Char) : List (List Char) :=
  (List.range ((cs.length + n - 1) / n)).map fun i => (cs.drop (i * n)).take n

/-- The longest line that an excerpt shows whole. -/
def longestLine : Nat := 120

/-- The length of the pieces of a longer line. -/
def pieceLength : Nat := 80

/-- The lines around a place, with a caret below it.  A long line is shown in pieces up to the one
after the caret's. -/
def excerpt (cs : List Char) (line column : Nat) : List Char :=
  let all := lines cs
  let index := line - 1
  let here := all.getD index []
  let label := fun (n : Nat) => (toString n ++ " |").toList
  if longestLine < here.length then
    let pieces := chunks pieceLength here
    let last := column / pieceLength
    let shown := (pieces.drop 1).take last
    let after := (pieces.drop (last + 1)).take 1
    labelled ((label line, pieces.getD 0 []) :: shown.map (fun p => (['|'], p))
      ++ (['|'], caret (column % pieceLength)) :: after.map (fun p => (['|'], p)))
  else
    labelled
      ((if 0 < index then [(label (line - 1), all.getD (index - 1) [])] else [])
        ++ [(label line, here), (['|'], caret column)]
        ++ (if index + 1 < all.length then [(label (line + 1), all.getD (index + 1) [])] else []))

end QueryTools.Text
