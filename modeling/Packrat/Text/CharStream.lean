import Packrat.Stream
import Packrat.Text.Slice

/-! Streams of characters over a shared buffer. The offset counts bytes. -/

namespace Packrat.Text

variable {δ : Type}

/-- A place in a buffer. -/
structure CharStream (δ : Type) where
  buffer : String
  offset : Nat
  data : δ

namespace CharStream

def ofText (text : String) (data : δ) : CharStream δ := ⟨text, 0, data⟩

/-- The first character of the buffer cut at the offset. The cut is refused inside a character and
after the end. -/
def advance (stream : CharStream δ) : Except Violation (Option (Char × CharStream δ)) :=
  match dropBytes? stream.offset stream.buffer.toList with
  | none => .error .brokenCharacter
  | some [] => .ok none
  | some (c :: _) => .ok (some (c, { stream with offset := stream.offset + c.utf8Size }))

def isAtEnd (stream : CharStream δ) : Bool := byteLength stream.buffer ≤ stream.offset

def remaining (stream : CharStream δ) : Except Violation Slice :=
  Slice.new stream.buffer stream.offset (byteLength stream.buffer)

/-- The text up to a later stream of the same buffer; nothing if the other is earlier. -/
def sliceTo (stream later : CharStream δ) : Except Violation Slice :=
  Slice.new stream.buffer stream.offset (max later.offset stream.offset)

end CharStream

instance : Streaming (CharStream δ) Char δ where
  advance := CharStream.advance
  position := CharStream.offset
  data := CharStream.data
  withData stream data := { stream with data := data }
  isAtEnd := CharStream.isAtEnd

end Packrat.Text
