import Packrat.Proofs.Text.Layout
import Mathlib.Data.Set.Function

/-! Where the lines of a source lie among its bytes, and where an offset lies among the lines. The
number of line feeds in front of an offset grows with the offset; everything about locating an
offset comes from that. -/

namespace Packrat.Text

/-! Lines and columns, read off the bytes. -/

/-- The line an offset is in: the line feeds in front of it. -/
def lineOf (source : String) (offset : Nat) : Nat := ((bytes source).take offset).count lineFeed

/-- The column an offset is at: the bytes in front of it back to the last line feed or the start. -/
def columnOf (source : String) (offset : Nat) : Nat :=
  (((bytes source).take offset).reverse.takeWhile (· != lineFeed)).length

theorem lineOf_mono (source : String) {offset later : Nat} (le : offset ≤ later) :
    lineOf source offset ≤ lineOf source later :=
  (List.take_prefix_take_left le).sublist.count_le lineFeed

theorem lineOf_of_append {source : String} {front back : List UInt8}
    (cut : front ++ back = bytes source) : lineOf source front.length = front.count lineFeed := by
  rw [lineOf, ← cut, List.take_left]

/-! The lines of the table. -/

/-- A line in its place: the bytes in front of it, its own, and the bytes behind it. -/
structure Lies (all : List UInt8) (number : Nat) (line : Line) (front middle back : List UInt8) :
    Prop where
  whole : front ++ (middle ++ back) = all
  count_front : front.count lineFeed = number
  start_eq : line.start = front.length
  length_eq : line.text.length = middle.length
  unbroken : lineFeed ∉ middle
  front_ended : front = [] ∨ ∃ rest, front = rest ++ [lineFeed]
  back_ended : back = [] ∨ ∃ rest, back = lineFeed :: rest

/-- What is in front of a place in the line: what is in front of the line, and the line's own bytes
up to the place. -/
theorem Lies.take_add {all : List UInt8} {number : Nat} {line : Line}
    {front middle back : List UInt8} (lies : Lies all number line front middle back) {column : Nat}
    (inside : column ≤ line.text.length) :
    all.take (line.start + column) = front ++ middle.take column := by
  have short : column ≤ middle.length := lies.length_eq ▸ inside
  rw [← lies.whole, lies.start_eq, List.take_length_add_append, List.take_append_of_le_length short]

/-- What a line is of the characters of its source, it is of the bytes. -/
theorem Holds.lies {source : String} {front own back : List Char} {line : Line}
    (holds : Holds source front own back line) (ended : back = [] ∨ ∃ rest, back = '\n' :: rest) :
    Lies (bytes source) (front.count '\n') line (encoded front) (encoded own) (encoded back) where
  whole := by rw [bytes_eq, holds.whole, encoded_append, encoded_append]
  count_front := count_encoded front
  start_eq := by rw [holds.start_eq, length_encoded]
  length_eq := by rw [holds.length_eq, length_encoded]
  unbroken := by
    rw [← List.count_eq_zero, count_encoded]
    exact List.count_eq_zero.mpr holds.unbroken
  front_ended := by
    obtain rfl | ⟨rest, rfl⟩ := holds.front_ended
    · exact .inl rfl
    · exact .inr ⟨encoded rest, encoded_append rest _⟩
  back_ended := by
    obtain rfl | ⟨rest, rfl⟩ := ended
    · exact .inl rfl
    · exact .inr ⟨encoded rest, rfl⟩

namespace LineTable

variable {source : String} {number : Nat} {line : Line}

theorem ofSource_lies (found : (ofSource source).lines[number]? = some line) :
    ∃ front middle back, Lies (bytes source) number line front middle back := by
  obtain ⟨texts, laid⟩ := ofSource_laid source
  obtain ⟨front, own, back, holds, count, borders⟩ := laid.borders found
  obtain rfl : front.count '\n' = number := by simpa using count
  exact ⟨_, _, _, holds.lies borders.ended⟩

theorem lineCount_ofSource (source : String) :
    (ofSource source).lineCount = (bytes source).count lineFeed + 1 := by
  obtain ⟨texts, laid⟩ := ofSource_laid source
  rw [bytes_eq, count_encoded]
  simpa [lineCount] using laid.count_eq

/-- The line an offset is in is a line of the table. -/
theorem exists_line (source : String) (offset : Nat) :
    ∃ line, (ofSource source).lines[lineOf source offset]? = some line := by
  have few : lineOf source offset ≤ (bytes source).count lineFeed :=
    (List.take_sublist offset (bytes source)).count_le lineFeed
  have inside : lineOf source offset < (ofSource source).lines.length := by
    have count := lineCount_ofSource source
    simp only [lineCount] at count
    omega
  exact ⟨_, List.getElem?_eq_getElem inside⟩

/-! A line and the offsets in it. -/

/-- Every offset in a line has the number of the line for its line. -/
theorem lineOf_add (found : (ofSource source).lines[number]? = some line) {column : Nat}
    (inside : column ≤ line.text.length) : lineOf source (line.start + column) = number := by
  obtain ⟨front, middle, back, lies⟩ := ofSource_lies found
  have cut := lies.take_add inside
  have feeds : (middle.take column).count lineFeed = 0 :=
    List.count_eq_zero.mpr fun member => lies.unbroken (List.mem_of_mem_take member)
  rw [lineOf, cut, List.count_append, feeds, lies.count_front, Nat.add_zero]

/-- Every offset in a line has its distance from the start of the line for its column. -/
theorem columnOf_add (found : (ofSource source).lines[number]? = some line) {column : Nat}
    (inside : column ≤ line.text.length) : columnOf source (line.start + column) = column := by
  obtain ⟨front, middle, back, lies⟩ := ofSource_lies found
  have cut := lies.take_add inside
  have passed : ∀ byte ∈ (middle.take column).reverse, (byte != lineFeed) = true := by
    intro byte member
    have inMiddle : byte ∈ middle := List.mem_of_mem_take (List.mem_reverse.mp member)
    simpa using fun same : byte = lineFeed => lies.unbroken (same ▸ inMiddle)
  have stopped : front.reverse.takeWhile (· != lineFeed) = [] := by
    obtain rfl | ⟨rest, rfl⟩ := lies.front_ended
    · rfl
    · simp
  rw [columnOf, cut, List.reverse_append, List.takeWhile_append_of_pos passed, stopped]
  simpa using lies.length_eq ▸ inside

/-- An offset lies between the ends of the line it is in. -/
theorem start_le_of_lineOf {offset : Nat} (within : offset ≤ byteLength source)
    (found : (ofSource source).lines[lineOf source offset]? = some line) :
    line.start ≤ offset ∧ offset ≤ line.start + line.text.length := by
  obtain ⟨front, middle, back, lies⟩ := ofSource_lies found
  rw [lies.start_eq, lies.length_eq]
  constructor
  · by_contra before
    obtain rfl | ⟨rest, rfl⟩ := lies.front_ended
    · simp at before
    · have cut : rest ++ ([lineFeed] ++ (middle ++ back)) = bytes source := by simp [← lies.whole]
      have fewer : lineOf source offset ≤ lineOf source rest.length :=
        lineOf_mono source (by simp at before; omega)
      have count : rest.count lineFeed + 1 = lineOf source offset := by
        simpa using lies.count_front
      rw [lineOf_of_append cut] at fewer
      omega
  · by_contra behind
    obtain rfl | ⟨rest, rfl⟩ := lies.back_ended
    · have length := congrArg List.length lies.whole
      simp [length_bytes] at length
      omega
    · have cut : (front ++ (middle ++ [lineFeed])) ++ rest = bytes source := by simp [← lies.whole]
      have more : lineOf source (front ++ (middle ++ [lineFeed])).length ≤ lineOf source offset :=
        lineOf_mono source (by simp; omega)
      have count : (front ++ (middle ++ [lineFeed])).count lineFeed =
          front.count lineFeed + (middle.count lineFeed + 1) := by simp
      rw [lineOf_of_append cut, count, lies.count_front] at more
      omega

/-- An offset is as far behind the start of the line it is in as its column says. -/
theorem start_add_columnOf {offset : Nat} (within : offset ≤ byteLength source)
    (found : (ofSource source).lines[lineOf source offset]? = some line) :
    line.start + columnOf source offset = offset := by
  obtain ⟨le, inside⟩ := start_le_of_lineOf within found
  have column : columnOf source (line.start + (offset - line.start)) = offset - line.start :=
    columnOf_add found (by omega)
  rw [Nat.add_sub_cancel' le] at column
  omega

/-- A line that starts at or before an offset is not behind the line the offset is in. -/
theorem le_lineOf (found : (ofSource source).lines[number]? = some line) {offset : Nat}
    (le : line.start ≤ offset) : number ≤ lineOf source offset := by
  have same : lineOf source line.start = number := lineOf_add found (Nat.zero_le _)
  exact same ▸ lineOf_mono source le

/-- A line that starts at or behind an offset is not before the line the offset is in. -/
theorem lineOf_le (found : (ofSource source).lines[number]? = some line) {offset : Nat}
    (le : offset ≤ line.start) : lineOf source offset ≤ number := by
  have same : lineOf source line.start = number := lineOf_add found (Nat.zero_le _)
  exact same ▸ lineOf_mono source le

/-! Searching the starts of the lines. -/

/-- What a search of ordered starts for an offset may answer: where an equal one is, or the place
between the smaller and the greater ones. -/
inductive Searched (starts : List Nat) (offset : Nat) : Except Nat Nat → Prop
  | found {index : Nat} (equal : starts[index]? = some offset) : Searched starts offset (.ok index)
  | missing {insertion : Nat} (inside : insertion ≤ starts.length)
      (smaller : ∀ index start, index < insertion → starts[index]? = some start → start < offset)
      (greater : ∀ index start, insertion ≤ index → starts[index]? = some start → offset < start) :
      Searched starts offset (.error insertion)

theorem Searched.of_bounds {numbers : List Nat} {wanted insertion : Nat}
    (inside : insertion ≤ numbers.length)
    (smaller : ∀ index (known : index < numbers.length), index < insertion →
      numbers[index] < wanted)
    (greater : ∀ index (known : index < numbers.length), insertion ≤ index →
      wanted < numbers[index]) : Searched numbers wanted (.error insertion) := by
  refine .missing inside ?_ ?_
  · intro index number before found
    obtain ⟨known, rfl⟩ := List.getElem?_eq_some_iff.mp found
    exact smaller index known before
  · intro index number behind found
    obtain ⟨known, rfl⟩ := List.getElem?_eq_some_iff.mp found
    exact greater index known behind

/-- Bisecting answers as a search may, as long as what it has left out on either side is smaller or
greater. -/
theorem bisect_searched {numbers : List Nat} {wanted base size : Nat} {some : 0 < size}
    {inside : base + size ≤ numbers.length} (ascending : numbers.Pairwise (· < ·))
    (smaller : ∀ index (known : index < numbers.length), index < base → numbers[index] < wanted)
    (greater : ∀ index (known : index < numbers.length), base + size ≤ index →
      wanted < numbers[index]) :
    Searched numbers wanted (bisect numbers wanted base size some inside) := by
  have ordered := List.pairwise_iff_getElem.mp ascending
  fun_induction bisect with
  | case1 base _ inside equal => exact .found (List.getElem?_eq_some_iff.mpr ⟨_, equal⟩)
  | case2 base _ inside unequal less =>
    refine .of_bounds inside (fun index known before => ?_) greater
    by_cases last : index = base
    · subst last
      exact less
    · exact smaller index known (by omega)
  | case3 base _ inside unequal more =>
    refine .of_bounds (by omega) smaller fun index known behind => ?_
    by_cases first : index = base
    · subst first
      omega
    · exact greater index known (by omega)
  | case4 base size some inside single before ih =>
    refine ih smaller fun index known behind => ?_
    by_cases middle : index = base + size / 2
    · subst middle
      exact before
    · exact Nat.lt_trans before (ordered _ _ _ known (by omega))
  | case5 base size some inside single behind ih =>
    refine ih (fun index known before => ?_) fun index known after => greater index known (by omega)
    exact Nat.lt_of_lt_of_le (ordered _ _ known _ before) (Nat.le_of_not_lt behind)

/-- The search answers as a search may. -/
theorem search_searched {numbers : List Nat} (ascending : numbers.Pairwise (· < ·)) (wanted : Nat) :
    Searched numbers wanted (search numbers wanted) := by
  unfold search
  split
  · exact bisect_searched ascending (fun _ _ => nofun) fun _ known beyond => by omega
  · rename_i none
    exact .missing (Nat.zero_le _) (fun _ _ => nofun) fun index number _ found => by
      have known := (List.getElem?_eq_some_iff.mp found).1
      omega

/-- Any such search of the line starts leads to the line the offset is in: it finds the line, or the
insertion point just behind it. -/
theorem searched_iff {offset : Nat} (within : offset ≤ byteLength source)
    (outcome : Except Nat Nat) :
    Searched ((ofSource source).lines.map Line.start) offset outcome ↔
      outcome = if columnOf source offset = 0 then .ok (lineOf source offset)
        else .error (lineOf source offset + 1) := by
  obtain ⟨line, here⟩ := exists_line source offset
  have place := start_add_columnOf within here
  have starts {index start : Nat}
      (at_index : ((ofSource source).lines.map Line.start)[index]? = some start) :
      ∃ other, (ofSource source).lines[index]? = some other ∧ other.start = start := by
    simpa using at_index
  constructor
  · intro searched
    cases searched with
    | found equal =>
      obtain ⟨other, found, rfl⟩ := starts equal
      have number : lineOf source other.start = _ := lineOf_add found (Nat.zero_le _)
      have column : columnOf source other.start = 0 := columnOf_add found (Nat.zero_le _)
      rw [if_pos column, number]
    | @missing insertion inside smaller greater =>
      have start_line : ((ofSource source).lines.map Line.start)[lineOf source offset]? =
          some line.start := by simp [here]
      have behind : lineOf source offset < insertion := by
        by_contra before
        have := greater _ _ (Nat.le_of_not_lt before) start_line
        omega
      have start_lt := smaller _ _ behind start_line
      have next : insertion = lineOf source offset + 1 := by
        by_contra further
        have short : lineOf source offset + 1 < (ofSource source).lines.length := by
          rw [List.length_map] at inside
          omega
        have found := List.getElem?_eq_getElem short
        have lt := smaller (lineOf source offset + 1) _ (by omega)
          (by rw [List.getElem?_map, found]; rfl)
        have := le_lineOf found (Nat.le_of_lt lt)
        omega
      rw [if_neg (by omega), next]
  · rintro rfl
    split
    · rename_i column
      exact .found (by simp [here]; omega)
    · rename_i column
      refine .missing ?_ ?_ ?_
      · have inside := (List.getElem?_eq_some_iff.mp here).1
        rwa [List.length_map]
      · intro index start before at_index
        obtain ⟨other, found, rfl⟩ := starts at_index
        by_contra le
        have le_index := lineOf_le found (Nat.le_of_not_lt le)
        obtain rfl : index = lineOf source offset := by omega
        cases here.symm.trans found
        omega
      · intro index start behind at_index
        obtain ⟨other, found, rfl⟩ := starts at_index
        by_contra le
        have := le_lineOf found (Nat.le_of_not_lt le)
        omega

/-! Locating an offset. -/

theorem locate_of_lt {offset : Nat} (beyond : byteLength source < offset) :
    (ofSource source).locate offset = .error ⟨offset, byteLength source⟩ := if_pos beyond

theorem locate_of_le {offset : Nat} (within : offset ≤ byteLength source) :
    (ofSource source).locate offset =
      .ok ⟨lineOf source offset, columnOf source offset, offset⟩ := by
  obtain ⟨texts, laid⟩ := ofSource_laid source
  have searched := search_searched laid.starts_increase offset
  have answer := (searched_iff within _).mp searched
  have number : answered (search (ofSource source).starts offset) = lineOf source offset := by
    rw [starts, answer]
    split <;> rfl
  obtain ⟨line, here⟩ := exists_line source offset
  have start : (ofSource source).starts[lineOf source offset]? = some line.start := by
    rw [starts, List.getElem?_map, here]
    rfl
  have place := start_add_columnOf within here
  have inside : ¬ (ofSource source).length < offset := Nat.not_lt.mpr within
  rw [locate, if_neg inside]
  simp only [number, (List.getElem?_eq_some_iff.mp start).2]
  rw [show offset - line.start = columnOf source offset by omega]

/-- Every place in a line is where some offset is located. -/
theorem locate_add (found : (ofSource source).lines[number]? = some line) {column : Nat}
    (inside : column ≤ line.text.length) :
    (ofSource source).locate (line.start + column) =
      .ok ⟨number, column, line.start + column⟩ := by
  obtain ⟨front, middle, back, lies⟩ := ofSource_lies found
  have within : line.start + column ≤ byteLength source := by
    rw [← length_bytes, ← lies.whole, lies.start_eq]
    have short : column ≤ middle.length := lies.length_eq ▸ inside
    simp
    omega
  rw [locate_of_le within, lineOf_add found inside, columnOf_add found inside]

theorem lineColumn_of_le {offset : Nat} (within : offset ≤ byteLength source) :
    (ofSource source).lineColumn offset = .ok (lineOf source offset, columnOf source offset) := by
  rw [lineColumn, locate_of_le within]
  rfl

/-- The lines and columns of a table: a column may be as great as the length of its line. -/
def places (table : LineTable) : Set (Nat × Nat) :=
  {place | ∃ text, table.lineText? place.1 = some text ∧ place.2 ≤ text.length}

theorem mem_places {table : LineTable} {column : Nat} :
    (number, column) ∈ table.places ↔
      ∃ line, table.lines[number]? = some line ∧ column ≤ line.text.length := by
  simp [places, lineText?]

/-- Offsets up to the end and places correspond one to one. -/
theorem bijOn_lineColumn (source : String) :
    Set.BijOn (ofSource source).lineColumn {offset | offset ≤ byteLength source}
      (Except.ok '' (ofSource source).places) := by
  refine ⟨?maps, ?injective, ?surjective⟩
  case maps =>
    intro offset within
    obtain ⟨line, here⟩ := exists_line source offset
    have place := start_add_columnOf within here
    have inside := (start_le_of_lineOf within here).2
    exact ⟨_, mem_places.mpr ⟨line, here, by omega⟩, (lineColumn_of_le within).symm⟩
  case injective =>
    intro offset within other within' same
    rw [lineColumn_of_le within, lineColumn_of_le within'] at same
    obtain ⟨sameLine, sameColumn⟩ := Prod.mk.inj (Except.ok.inj same)
    obtain ⟨line, here⟩ := exists_line source offset
    rw [← start_add_columnOf within here, ← start_add_columnOf within' (sameLine ▸ here),
      sameColumn]
  case surjective =>
    rintro _ ⟨⟨number, column⟩, valid, rfl⟩
    obtain ⟨line, found, inside⟩ := mem_places.mp valid
    have located := locate_add found inside
    refine ⟨line.start + column, ?_, by rw [lineColumn, located]; rfl⟩
    by_contra beyond
    rw [locate_of_lt (Nat.lt_of_not_le beyond)] at located
    cases located

/-- A table locates the offsets up to the end of its source and no others. The line of an offset is
the number of line feeds in front of it and its column the number of bytes since the last of them;
the start of that line and the column lead back to the offset, every column of every line is
reached from its offset, and so offsets and places correspond one to one. Any search of the line
starts that answers as `Searched` says leads to the same line. -/
theorem ofSource_locates (source : String) :
    let table := ofSource source
    (∀ offset, table.locate offset = .error ⟨offset, byteLength source⟩ ↔
      byteLength source < offset) ∧
    (∀ offset, offset ≤ byteLength source →
      let line := ((bytes source).take offset).count lineFeed
      let column := (((bytes source).take offset).reverse.takeWhile (· != lineFeed)).length
      table.locate offset = .ok ⟨line, column, offset⟩ ∧
      (∃ start text, table.lineStart? line = some start ∧ table.lineText? line = some text ∧
        start + column = offset ∧ column ≤ text.length) ∧
      ∀ outcome, Searched (table.lines.map Line.start) offset outcome ↔
        outcome = if column = 0 then .ok line else .error (line + 1)) ∧
    (∀ line start text column, table.lineStart? line = some start →
      table.lineText? line = some text → column ≤ text.length →
      table.locate (start + column) = .ok ⟨line, column, start + column⟩) ∧
    Set.BijOn table.lineColumn {offset | offset ≤ byteLength source} (Except.ok '' table.places) := by
  refine ⟨?beyond, ?within, ?back, bijOn_lineColumn source⟩
  case beyond =>
    refine fun offset => ⟨fun fails => ?_, locate_of_lt⟩
    by_contra within
    rw [locate_of_le (Nat.le_of_not_lt within)] at fails
    cases fails
  case within =>
    intro offset within
    obtain ⟨line, here⟩ := exists_line source offset
    have place := start_add_columnOf within here
    have inside := (start_le_of_lineOf within here).2
    have start : (ofSource source).lineStart? (lineOf source offset) = some line.start := by
      rw [lineStart?, here]; rfl
    have text : (ofSource source).lineText? (lineOf source offset) = some line.text := by
      rw [lineText?, here]; rfl
    exact ⟨locate_of_le within, ⟨_, _, start, text, place, by rw [columnOf] at place; omega⟩,
      searched_iff within⟩
  case back =>
    intro number start text column at_start at_text inside
    obtain ⟨line, found, rfl⟩ := Option.map_eq_some_iff.mp at_start
    rw [lineText?, found] at at_text
    cases at_text
    exact locate_add found inside

/-- A character of two bytes is two columns wide. -/
example : (ofSource "é\nb").lineColumn 2 = .ok (0, 2) :=
  (lineColumn_of_le (by decide)).trans (by decide)

end LineTable

end Packrat.Text
