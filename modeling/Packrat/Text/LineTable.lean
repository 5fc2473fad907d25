import Packrat.Text.Slice
import Packrat.Text.Location

/-! The lines of a source text, for turning byte offsets into lines and columns. Lines end at a
line feed, and what follows the last one is a line too, so every offset up to the end has a line. -/

namespace Packrat.Text

/-- A line: the offset it starts at and its text without the line feed. -/
structure Line where
  start : Nat
  text : Slice

/-- The lines of `buffer` from a line that starts at `start`, with `text` still to be read from
`offset` on. -/
def linesFrom (buffer : String) (start offset : Nat) (text : List Char) (ordered : start ≤ offset)
    (whole : offset + Metric.utf8.span text = byteLength buffer) : List Line :=
  match text with
  | [] => [⟨start, buffer, start, offset, ordered, by simp at whole; omega⟩]
  | c :: text =>
    if c = '\n' then
      ⟨start, buffer, start, offset, ordered, by omega⟩ ::
        linesFrom buffer (offset + c.utf8Size) (offset + c.utf8Size) text (Nat.le_refl _)
          (by rw [← whole, Metric.span_cons, ← Nat.add_assoc]; rfl)
    else
      linesFrom buffer start (offset + c.utf8Size) text (by omega)
        (by rw [← whole, Metric.span_cons, ← Nat.add_assoc]; rfl)

theorem linesFrom_head {buffer : String} {start offset : Nat} {text : List Char}
    {ordered : start ≤ offset} {whole : offset + Metric.utf8.span text = byteLength buffer} :
    ∃ line rest, linesFrom buffer start offset text ordered whole = line :: rest ∧
      line.start = start := by
  fun_induction linesFrom with
  | case1 => exact ⟨_, _, rfl, rfl⟩
  | case2 => exact ⟨_, _, rfl, rfl⟩
  | case3 start offset ordered c text whole other ih => exact ih

/-- The lines of a source, in order, and its length in bytes. The first line starts at 0. -/
structure LineTable where
  lines : List Line
  length : Nat
  head : ∃ line rest, lines = line :: rest ∧ line.start = 0

/-- Bisects the `size` ascending numbers from `base` on for `wanted`: where it is, or where it would
have to be put in. Those before `base` are smaller, those behind the last one greater. -/
def bisect (numbers : List Nat) (wanted base size : Nat) (some : 0 < size)
    (inside : base + size ≤ numbers.length) : Except Nat Nat :=
  if single : size = 1 then
    if numbers[base] = wanted then .ok base
    else if numbers[base] < wanted then .error (base + 1)
    else .error base
  else if wanted < numbers[base + size / 2] then
    bisect numbers wanted base (size - size / 2) (by omega) (by omega)
  else
    bisect numbers wanted (base + size / 2) (size - size / 2) (by omega) (by omega)
termination_by size
decreasing_by all_goals omega

/-- Searches ascending numbers for `wanted`: its index, or the index of the first greater one. -/
def search (numbers : List Nat) (wanted : Nat) : Except Nat Nat :=
  if some : 0 < numbers.length then bisect numbers wanted 0 numbers.length some (by omega)
  else .error 0

/-- The number that an answer of a search stands for: the one found, or the one before the place. -/
def answered : Except Nat Nat → Nat
  | .ok index => index
  | .error insertion => insertion - 1

theorem answered_bisect_lt (numbers : List Nat) (wanted base size : Nat) (some : 0 < size)
    (inside : base + size ≤ numbers.length) :
    answered (bisect numbers wanted base size some inside) < numbers.length := by
  fun_induction bisect with
  | case1 base _ inside equal => exact Nat.lt_of_succ_le inside
  | case2 base _ inside unequal smaller => exact Nat.lt_of_succ_le inside
  | case3 base _ inside unequal greater => simp only [answered]; omega
  | case4 base size some inside single before ih => exact ih
  | case5 base size some inside single behind ih => exact ih

theorem answered_search_lt {numbers : List Nat} (some : 0 < numbers.length) (wanted : Nat) :
    answered (search numbers wanted) < numbers.length := by
  rw [search, dif_pos some]
  exact answered_bisect_lt ..

namespace LineTable

def ofSource (source : String) : LineTable :=
  ⟨linesFrom source 0 0 source.toList (Nat.le_refl _) (by simp [byteLength]), byteLength source,
    linesFrom_head⟩

def lineCount (table : LineTable) : Nat := table.lines.length

def lineStart? (table : LineTable) (line : Nat) : Option Nat := table.lines[line]?.map Line.start

def lineText? (table : LineTable) (line : Nat) : Option Slice := table.lines[line]?.map Line.text

def starts (table : LineTable) : List Nat := table.lines.map Line.start

theorem starts_pos (table : LineTable) : 0 < table.starts.length := by
  obtain ⟨line, rest, lines, _⟩ := table.head
  rw [starts, lines]
  exact Nat.succ_pos _

/-- The location of an offset. Its line is the one that a search of the starts finds there, or else
the one before the place where the offset would have to be put in. The first line starts at 0, so
that place is never before it. -/
def locate (table : LineTable) (offset : Nat) : Except InvalidPosition Location :=
  if table.length < offset then .error ⟨offset, table.length⟩
  else
    let line := answered (search table.starts offset)
    have inside : line < table.starts.length := answered_search_lt table.starts_pos offset
    .ok ⟨line, offset - table.starts[line], offset⟩

def lineColumn (table : LineTable) (offset : Nat) : Except InvalidPosition (Nat × Nat) :=
  (table.locate offset).map fun location => (location.line, location.column)

end LineTable

end Packrat.Text
