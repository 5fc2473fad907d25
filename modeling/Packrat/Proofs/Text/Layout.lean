import Packrat.Text.LineTable

/-! How the lines of a source are laid out. Each line starts where the line feed before it ends and
stops at the next one, so that nothing is lost between two lines and their texts, joined by line
feeds, are the source. -/

namespace Packrat.Text

/-! The bytes of a text. -/

def lineFeed : UInt8 := 10

def encoded (text : List Char) : List UInt8 := text.flatMap String.utf8EncodeChar

def bytes (source : String) : List UInt8 := source.toUTF8.data.toList

theorem bytes_eq (source : String) : bytes source = encoded source.toList := by
  rw [bytes, String.toUTF8, ← String.utf8Encode_toList]
  simp [List.utf8Encode, encoded]

theorem encoded_cons (c : Char) (text : List Char) :
    encoded (c :: text) = String.utf8EncodeChar c ++ encoded text := List.flatMap_cons

theorem encoded_append (front back : List Char) :
    encoded (front ++ back) = encoded front ++ encoded back := List.flatMap_append

theorem length_encoded (text : List Char) : (encoded text).length = Metric.utf8.span text := by
  induction text with
  | nil => simp [encoded]
  | cons c text ih =>
    rw [encoded_cons, List.length_append, ih, String.length_utf8EncodeChar, Metric.span_cons]
    rfl

theorem length_bytes (source : String) : (bytes source).length = byteLength source := by
  rw [bytes_eq, length_encoded, byteLength]

/-- No other character has the byte of the line feed in its encoding. -/
theorem lineFeed_notMem_utf8EncodeChar {c : Char} (other : c ≠ '\n') :
    lineFeed ∉ String.utf8EncodeChar c := by
  have unlike : c.toNat ≠ 10 := fun same => other (Char.ext (UInt32.toNat_inj.mp same))
  intro member
  unfold String.utf8EncodeChar at member
  simp only [Char.toNat_val] at member
  split at member
  · have same := congrArg UInt8.toNat (List.mem_singleton.mp member)
    simp [lineFeed] at same
    omega
  · split at member
    · simp [lineFeed, ← UInt8.toNat_inj] at member
      omega
    · split at member <;>
      · simp [lineFeed, ← UInt8.toNat_inj] at member
        omega

theorem count_encoded (text : List Char) : (encoded text).count lineFeed = text.count '\n' := by
  induction text with
  | nil => rfl
  | cons c text ih =>
    rw [encoded_cons, List.count_append, ih]
    by_cases feed : c = '\n'
    · subst feed
      rw [List.count_cons_self, Nat.add_comm]
      rfl
    · rw [List.count_eq_zero.mpr (lineFeed_notMem_utf8EncodeChar feed), List.count_cons_of_ne feed,
        Nat.zero_add]

/-! The lines as parts of the source. -/

/-- The line is this part of the source: `front` is in front of it and `back` behind it. -/
structure Holds (source : String) (front own back : List Char) (line : Line) : Prop where
  whole : source.toList = front ++ (own ++ back)
  front_ended : front = [] ∨ ∃ rest, front = rest ++ ['\n']
  unbroken : '\n' ∉ own
  buffer_eq : line.text.buffer = source
  start_eq : line.start = Metric.utf8.span front
  text_start : line.text.start = line.start
  text_stop : line.text.stop = line.start + Metric.utf8.span own

/-- The lines are what is left of the source behind `front`, and `texts` are their texts. -/
inductive Laid (source : String) : List Char → List (List Char) → List Line → Prop
  | last {front own : List Char} {line : Line} (holds : Holds source front own [] line) :
      Laid source front [own] [line]
  | cons {front own rest : List Char} {texts : List (List Char)} {line : Line} {lines : List Line}
      (holds : Holds source front own ('\n' :: rest) line)
      (onward : Laid source (front ++ (own ++ ['\n'])) texts lines) :
      Laid source front (own :: texts) (line :: lines)

section

variable {source : String} {front own back : List Char} {texts : List (List Char)}
  {line next : Line} {lines : List Line}

/-- The line ends between two characters, or at the end of the source. -/
theorem Holds.stop_eq (holds : Holds source front own back line) :
    line.text.stop = Metric.utf8.span (front ++ own) := by
  rw [holds.text_stop, holds.start_eq, Metric.span_append]

theorem Holds.text_eq (holds : Holds source front own back line) :
    line.text.text = .ok (String.ofList own) := by
  have whole : line.text.buffer.toList = front ++ (own ++ back) := by
    rw [holds.buffer_eq, holds.whole]
  exact Slice.text_of_cut whole (holds.text_start.trans holds.start_eq)
    (holds.text_start ▸ holds.text_stop)

theorem Holds.behind_eq (holds : Holds source front own back line) :
    dropBytes? line.text.stop source.toList = some back := by
  rw [holds.stop_eq, holds.whole, ← List.append_assoc]
  exact dropBytes?_span _ _

theorem Holds.length_eq (holds : Holds source front own back line) :
    line.text.length = Metric.utf8.span own := by
  rw [Slice.length, holds.text_stop, holds.text_start, Nat.add_sub_cancel_left]

theorem Holds.isEmpty_iff (holds : Holds source front own back line) :
    line.text.isEmpty ↔ own = [] := by
  rw [Slice.isEmpty, holds.length_eq, beq_iff_eq]
  exact ⟨Metric.eq_nil_of_span _, fun none => by rw [none]; rfl⟩

/-- With `front` behind and `current` read of the line that starts there, what is left is laid out
in lines. -/
theorem linesFrom_laid {start offset : Nat} {text : List Char} {ordered : start ≤ offset}
    {inside : offset + Metric.utf8.span text = byteLength source} (front current : List Char)
    (whole : source.toList = front ++ (current ++ text))
    (ended : front = [] ∨ ∃ rest, front = rest ++ ['\n'])
    (starts : start = Metric.utf8.span front)
    (reached : offset = start + Metric.utf8.span current) (unbroken : '\n' ∉ current) :
    ∃ texts, Laid source front texts (linesFrom source start offset text ordered inside) := by
  fun_induction linesFrom generalizing front current with
  | case1 start offset ordered inside =>
    exact ⟨_, .last ⟨whole, ended, unbroken, rfl, starts, rfl, reached⟩⟩
  | case2 start offset ordered text inside ih =>
    obtain ⟨texts, onward⟩ := ih (front ++ (current ++ ['\n'])) [] (by simp [whole])
      (.inr ⟨front ++ current, by simp⟩) (by simp [reached, starts, Nat.add_assoc]; rfl) (by simp)
      (by simp)
    exact ⟨_, .cons ⟨whole, ended, unbroken, rfl, starts, rfl, reached⟩ onward⟩
  | case3 start offset ordered c text inside other ih =>
    exact ih front (current ++ [c]) (by simp [whole]) ended starts
      (by simp [reached, Nat.add_assoc]; rfl) (by simp [unbroken, Ne.symm other])

theorem LineTable.ofSource_laid (source : String) :
    ∃ texts, Laid source [] texts (ofSource source).lines :=
  linesFrom_laid [] [] rfl (.inl rfl) rfl rfl (by simp)

namespace Laid

variable (laid : Laid source front texts lines)
include laid

theorem texts_ne_nil : texts ≠ [] := by
  cases laid <;> simp

/-- The texts joined by line feeds are what is left of the source. -/
theorem join : source.toList = front ++ ['\n'].intercalate texts := by
  induction laid with
  | last holds => simpa using holds.whole
  | @cons front own rest texts line lines holds onward ih =>
    rw [ih, List.intercalate_cons_of_ne_nil onward.texts_ne_nil]
    simp

theorem texts_eq : lines.map (·.text.text) = texts.map fun text => .ok (String.ofList text) := by
  induction laid with
  | last holds => simp [holds.text_eq]
  | cons holds onward ih => simp [holds.text_eq, ih]

theorem head_start : (lines.map Line.start).head? = some (Metric.utf8.span front) := by
  cases laid with
  | last holds => simp [holds.start_eq]
  | cons holds onward => simp [holds.start_eq]

theorem count_eq : front.count '\n' + lines.length = source.toList.count '\n' + 1 := by
  induction laid with
  | last holds =>
    have none := List.count_eq_zero.mpr holds.unbroken
    simp [holds.whole, none]
  | cons holds onward ih =>
    have none := List.count_eq_zero.mpr holds.unbroken
    simp [none] at ih
    simp
    omega

theorem le_start : ∀ line ∈ lines, Metric.utf8.span front ≤ line.start := by
  induction laid with
  | last holds => simp [holds.start_eq]
  | cons holds onward ih =>
    intro line member
    obtain rfl | later := List.mem_cons.mp member
    · exact Nat.le_of_eq holds.start_eq.symm
    · exact Nat.le_trans (by simp) (ih line later)

theorem starts_increase : (lines.map Line.start).Pairwise (· < ·) := by
  induction laid with
  | last holds => simp
  | @cons front own rest texts line lines holds onward ih =>
    refine List.pairwise_cons.mpr ⟨?_, ih⟩
    intro start member
    obtain ⟨later, present, rfl⟩ := List.mem_map.mp member
    have positive := Metric.utf8.width_pos '\n'
    have le := onward.le_start later present
    simp only [Metric.span_append, Metric.span_cons] at le
    rw [holds.start_eq]
    omega

end Laid

/-- What comes behind a line: a line feed and the next line, or the end of the source. -/
def Borders (line : Line) (back : List Char) : Option Line → Prop
  | some next => next.start = line.text.stop + 1 ∧ ∃ rest, back = '\n' :: rest
  | none => back = []

theorem Borders.ended {next? : Option Line} (borders : Borders line back next?) :
    back = [] ∨ ∃ rest, back = '\n' :: rest := by
  cases next? with
  | none => exact .inl borders
  | some next => exact .inr borders.2

/-- Every line is a part of the source, with as many line feeds in front of it as lines and up to the
next line. -/
theorem Laid.borders (laid : Laid source front texts lines) {number : Nat}
    (found : lines[number]? = some line) :
    ∃ before own back, Holds source before own back line ∧
      before.count '\n' = front.count '\n' + number ∧ Borders line back lines[number + 1]? := by
  induction laid generalizing number with
  | last holds =>
    cases number with
    | zero =>
      cases found
      exact ⟨_, _, _, holds, rfl, rfl⟩
    | succ number => simp at found
  | @cons front own rest texts first lines holds onward ih =>
    cases number with
    | zero =>
      cases found
      obtain ⟨next, head, start⟩ : ∃ next, lines.head? = some next ∧
          next.start = Metric.utf8.span (front ++ (own ++ ['\n'])) := by
        simpa using onward.head_start
      refine ⟨_, _, _, holds, rfl, ?_⟩
      rw [List.getElem?_cons_succ, ← List.head?_eq_getElem?, head]
      refine ⟨?_, rest, rfl⟩
      rw [start, holds.stop_eq, ← List.append_assoc, Metric.span_append]
      rfl
    | succ number =>
      obtain ⟨before, own, back, later, count, borders⟩ := ih found
      refine ⟨before, own, back, later, ?_, borders⟩
      have none := List.count_eq_zero.mpr holds.unbroken
      rw [count]
      simp [none]
      omega

/-- The last line ends the source. It is empty where the source is empty or ends in a line feed. -/
theorem Laid.last_line (laid : Laid source front texts lines) :
    ∃ last, lines.getLast? = some last ∧
      (last.text.isEmpty ↔ source.toList = [] ∨ source.toList.getLast? = some '\n') := by
  induction laid with
  | @last front own line holds =>
    refine ⟨line, rfl, ?_⟩
    rw [holds.isEmpty_iff, holds.whole, List.append_nil]
    obtain rfl | ⟨rest, c, rfl⟩ := List.eq_nil_or_concat own
    · obtain rfl | ⟨rest, rfl⟩ := holds.front_ended <;> simp
    · have other : c ≠ '\n' := fun same => holds.unbroken (by simp [same])
      simp [← List.append_assoc, other]
  | @cons front own rest texts line lines holds onward ih =>
    obtain ⟨last, found, empty⟩ := ih
    exact ⟨last, by simp [List.getLast?_cons, found], empty⟩

/-- The bounds of the lines in bytes that are read one by one from `offset` on, in a line that starts
at `start`. -/
def bounds (start offset : Nat) : List UInt8 → List (Nat × Nat)
  | [] => [(start, offset)]
  | byte :: rest =>
    if byte = lineFeed then (start, offset) :: bounds (offset + 1) (offset + 1) rest
    else bounds start (offset + 1) rest

theorem bounds_append {start offset : Nat} {front rest : List UInt8} (unbroken : lineFeed ∉ front) :
    bounds start offset (front ++ rest) = bounds start (offset + front.length) rest := by
  induction front generalizing offset with
  | nil => rfl
  | cons byte front ih =>
    obtain ⟨other, unbroken⟩ := not_or.mp (mt List.mem_cons.mpr unbroken)
    rw [List.cons_append, bounds, if_neg (Ne.symm other), ih unbroken, List.length_cons,
      Nat.add_assoc, Nat.add_comm 1]

/-- To scan the characters for line feeds is to scan the bytes: no other character has that byte. -/
theorem bounds_linesFrom {start offset : Nat} {text : List Char} {ordered : start ≤ offset}
    {inside : offset + Metric.utf8.span text = byteLength source} :
    (linesFrom source start offset text ordered inside).map
        (fun line => (line.text.start, line.text.stop)) = bounds start offset (encoded text) := by
  fun_induction linesFrom with
  | case1 => rfl
  | case2 start offset ordered text inside ih => exact congrArg ((start, offset) :: ·) ih
  | case3 start offset ordered c text inside other ih =>
    rw [ih, encoded_cons, bounds_append (lineFeed_notMem_utf8EncodeChar other),
      String.length_utf8EncodeChar]

end

/-- The lines of a source are those that a scan of its bytes finds. They start at its beginning and
each behind the one before. A line stops at the line feed just in front of the next one, or at the
end of the source; between these two places it can be read and has no line feed. Joined by line feeds
the texts are the source, so there is one line more than line feeds, and the last one is empty where
nothing follows the last line feed. -/
theorem ofSource_layout (source : String) :
    let table := LineTable.ofSource source
    (table.lines.map fun line => (line.text.start, line.text.stop)) = bounds 0 0 (bytes source) ∧
    (table.lines.map Line.start).head? = some 0 ∧
    (table.lines.map Line.start).Pairwise (· < ·) ∧
    (∀ number line, table.lines[number]? = some line →
      line.text.buffer = source ∧ line.text.start = line.start ∧
      (∃ text, line.text.text = .ok text ∧ '\n' ∉ text.toList) ∧
      match table.lines[number + 1]? with
      | some next => next.start = line.text.stop + 1 ∧
          ∃ rest, dropBytes? line.text.stop source.toList = some ('\n' :: rest)
      | none => line.text.stop = byteLength source) ∧
    (∃ texts, (table.lines.map fun line => line.text.text) = texts.map .ok ∧
      "\n".intercalate texts = source) ∧
    table.lineCount = source.toList.count '\n' + 1 ∧
    ∃ last, table.lines.getLast? = some last ∧
      (last.text.isEmpty ↔ source = "" ∨ source.toList.getLast? = some '\n') := by
  intro table
  obtain ⟨texts, laid⟩ : ∃ texts, Laid source [] texts table.lines := LineTable.ofSource_laid source
  refine ⟨?scan, laid.head_start, laid.starts_increase, ?lines, ?texts, ?count, ?last⟩
  case scan => rw [bytes_eq]; exact bounds_linesFrom
  case lines =>
    intro number line found
    obtain ⟨front, own, back, holds, -, borders⟩ := laid.borders found
    refine ⟨holds.buffer_eq, holds.text_start, ⟨_, holds.text_eq, ?_⟩, ?_⟩
    · simpa using holds.unbroken
    · cases following : table.lines[number + 1]? with
      | some next =>
        rw [following] at borders
        obtain ⟨start, rest, rfl⟩ := borders
        exact ⟨start, rest, holds.behind_eq⟩
      | none =>
        rw [following] at borders
        rw [holds.stop_eq, byteLength, holds.whole, show back = [] from borders, List.append_nil]
  case texts =>
    refine ⟨texts.map String.ofList, ?_, ?_⟩
    · rw [laid.texts_eq, List.map_map]
      rfl
    · apply String.toList_injective
      rw [String.toList_intercalate, laid.join, List.map_map]
      simp [Function.comp_def]
  case count => simpa [LineTable.lineCount] using laid.count_eq
  case last => simpa using laid.last_line

/-- Behind a line feed at the end one more line starts, with nothing in it. -/
example : (LineTable.ofSource "é\nb\n").lines.map (fun line => (line.start, line.text.text)) =
    [(0, .ok "é"), (3, .ok "b"), (5, .ok "")] := rfl

end Packrat.Text
