import Packrat.Cursor
import Packrat.Text.Slice

/-! Cursors over text. Positions are byte offsets, so they can be handed to a line table. -/

namespace Packrat.Cursor

variable {δ : Type}

def ofText (text : String) (data : δ) : Cursor Char δ := .ofList .utf8 text.toList data

theorem extent_ofText (text : String) (data : δ) :
    (ofText text data).extent = Text.byteLength text := Nat.zero_add _

def text (cursor : Cursor Char δ) : String := String.ofList cursor.source

def remaining (cursor : Cursor Char δ) : Except Violation Text.Slice :=
  Text.Slice.new cursor.text cursor.position (Text.byteLength cursor.text)

/-- The text between this cursor and a later one; nothing if the other is earlier. -/
def sliceTo (cursor later : Cursor Char δ) : Except Violation Text.Slice :=
  Text.Slice.new cursor.text cursor.position (max later.position cursor.position)

end Packrat.Cursor
