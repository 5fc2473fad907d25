import Packrat.Proofs.Text.Literal
import Packrat.Proofs.Text.Walk

/-! Literals in any case. The literal and the characters are folded one by one and then compared, so
what matches has as many characters as the literal, and to match the whole of a text goes both
ways. -/

namespace Packrat

variable {ι δ : Type} {M : Memory}

namespace Cursor

variable {cursor : Cursor ι δ}

/-- A filter that gives every item an image shows the images. -/
theorem Shows.filtered {items : List ι} (shows : cursor.Shows items) (type : String)
    (image : ι → ι) :
    (cursor.filtered ⟨type, fun item => .ok (image item)⟩).Shows (items.map image) := by
  change cursor.ahead.map (fun item => (cursor.read item).bind fun seen => .ok (image seen)) = _
  have through := congrArg (List.map fun seen => seen.bind fun item => .ok (image item)) shows
  simpa [Except.bind, Function.comp_def] using through

theorem skip_filtered (cursor : Cursor ι δ) (filter : Filter ι) (count : Nat) :
    (cursor.filtered filter).skip count = (cursor.skip count).filtered filter := by
  induction count generalizing cursor with
  | zero => rfl
  | succ count ih =>
    cases ahead : cursor.ahead with
    | nil =>
      have finished : (cursor.filtered filter).ahead = [] := ahead
      rw [skip_at_end ahead, skip_at_end finished]
    | cons item rest =>
      have next : (cursor.filtered filter).ahead = item :: rest := ahead
      rw [skip_succ ahead, skip_succ next, ← ih]
      rfl

end Cursor

namespace Text

/-- The text has as many characters as the literal, and they are the literal's own one by one when
both are folded. -/
structure Agrees (fold : Char → Char) (literal text : List Char) : Prop where
  enough : literal.length ≤ text.length
  same : ∀ (index : Nat) (c d : Char), literal[index]? = some c → text[index]? = some d →
    fold c = fold d

variable {fold : Char → Char} {c d : Char} {literal text : List Char}

theorem agrees_nil (text : List Char) : Agrees fold [] text := ⟨Nat.zero_le _, by simp⟩

theorem not_agrees_nil : ¬ Agrees fold (c :: literal) [] := fun agrees => nomatch agrees.enough

theorem agrees_cons_iff :
    Agrees fold (c :: literal) (d :: text) ↔ fold c = fold d ∧ Agrees fold literal text := by
  constructor
  · intro agrees
    refine ⟨agrees.same 0 c d rfl rfl, Nat.le_of_succ_le_succ agrees.enough, ?_⟩
    exact fun index => agrees.same (index + 1)
  · rintro ⟨first, agrees⟩
    refine ⟨Nat.succ_le_succ agrees.enough, ?_⟩
    intro index a b here there
    cases index with
    | zero =>
      cases here
      cases there
      exact first
    | succ index => exact agrees.same index a b here there

theorem agrees_iff_prefix_map : Agrees fold literal text ↔ literal.map fold <+: text.map fold := by
  induction literal generalizing text with
  | nil => simp [agrees_nil]
  | cons c literal ih =>
    cases text with
    | nil => simp [not_agrees_nil]
    | cons d text => rw [agrees_cons_iff, ih, List.map_cons, List.map_cons, List.cons_prefix_cons]

section

variable {cursor : Cursor Char δ} {literal : String}

/-- A folded literal behind the filter that folds matches where the characters agree with it. -/
theorem withFilter_string (type : String) (fold : Char → Char) (some : literal ≠ "")
    (shows : cursor.Shows text) (session : Session Char δ M) :
    let folded := String.ofList (literal.toList.map fold)
    Parser.withFilter ⟨type, fun c => .ok (fold c)⟩ (string folded : TextParser δ M String) cursor
        session =
      if literal.toList.map fold <+: text.map fold then
        (.done folded (cursor.skip literal.length), session)
      else (.fail (.stringMismatch folded), session) := by
  intro folded
  have spelling : folded.toList = literal.toList.map fold := String.toList_ofList
  have length : folded.length = literal.length := by simp [← String.length_toList, spelling]
  have named : folded ≠ "" := by
    intro empty
    rw [empty] at length
    exact some (String.length_eq_zero_iff.mp length.symm)
  unfold Parser.withFilter
  rw [string_eq named (shows.filtered type fold), spelling]
  by_cases begins : literal.toList.map fold <+: text.map fold
  · simp only [if_pos begins, length, Cursor.skip_filtered]
    rfl
  · simp only [if_neg begins]

theorem stringInsensitive_of_agrees (some : literal ≠ "") (shows : cursor.Shows text)
    (agrees : Agrees foldCase literal.toList text) (session : Session Char δ M) :
    (stringInsensitive literal : TextParser δ M String) cursor session =
      (.done (foldText literal) (cursor.skip literal.length), session) :=
  (withFilter_string _ foldCase some shows session).trans (if_pos (agrees_iff_prefix_map.mp agrees))

theorem stringInsensitive_of_differs (some : literal ≠ "") (shows : cursor.Shows text)
    (differs : ¬ Agrees foldCase literal.toList text) (session : Session Char δ M) :
    (stringInsensitive literal : TextParser δ M String) cursor session =
      (.fail (.stringMismatch (foldText literal)), session) :=
  (withFilter_string _ foldCase some shows session).trans
    (if_neg (mt agrees_iff_prefix_map.mpr differs))

/-- A literal in any case matches the whole of a text that folds to the same. -/
theorem stringInsensitive_whole_iff {other : String} (some : literal ≠ "") (data : δ)
    (session : Session Char δ M) :
    (∃ value rest, (stringInsensitive literal (Cursor.ofText other data) session).1 =
        .done value rest ∧ rest.isAtEnd) ↔
      literal.toList.map foldCase = other.toList.map foldCase := by
  have shows : (Cursor.ofText other data).Shows other.toList := Cursor.shows_of_bare rfl
  have ends : ((Cursor.ofText other data).skip literal.length).isAtEnd ↔
      other.toList.length ≤ literal.toList.length := by
    simp [Cursor.isAtEnd, Cursor.ofText, Cursor.ofList, String.length_toList]
  by_cases agrees : Agrees foldCase literal.toList other.toList
  · rw [stringInsensitive_of_agrees some shows agrees]
    have begins := agrees_iff_prefix_map.mp agrees
    constructor
    · rintro ⟨_, _, same, finished⟩
      cases same
      apply begins.eq_of_length
      have long := ends.mp finished
      have enough := agrees.enough
      rw [List.length_map, List.length_map]
      omega
    · intro same
      have long := congrArg List.length same
      rw [List.length_map, List.length_map] at long
      exact ⟨_, _, rfl, ends.mpr (Nat.le_of_eq long.symm)⟩
  · rw [stringInsensitive_of_differs some shows agrees]
    constructor
    · rintro ⟨_, _, same, _⟩
      cases same
    · intro same
      exact absurd (agrees_iff_prefix_map.mpr (same ▸ List.prefix_rfl)) agrees

/-- A literal in any case matches where enough characters are left and agree with it one by one in
folded case. The value is the folded literal, and the cursor moves over as many characters as the
literal has, in the case and with the bytes they have themselves. Whether one text matches the whole
of another does not depend on which of them is the literal. -/
theorem stringInsensitive_agrees (some : literal ≠ "") (onText : cursor.OnText)
    (session : Session Char δ M) :
    let read := cursor.ahead.take literal.length
    let rest := cursor.skip literal.length
    (Agrees foldCase literal.toList cursor.ahead →
      stringInsensitive literal cursor session = (.done (foldText literal) rest, session) ∧
      cursor.Walks read rest ∧ read.length = literal.length ∧ rest.data = cursor.data ∧
      rest.position = cursor.position + byteLength (String.ofList read)) ∧
    (¬ Agrees foldCase literal.toList cursor.ahead →
      stringInsensitive literal cursor session =
        (.fail (.stringMismatch (foldText literal)), session)) ∧
    ∀ other, other ≠ "" → ∀ (data data' : δ) (session session' : Session Char δ M),
      (∃ value rest, (stringInsensitive literal (Cursor.ofText other data) session).1 =
        .done value rest ∧ rest.isAtEnd) ↔
      (∃ value rest, (stringInsensitive other (Cursor.ofText literal data') session').1 =
        .done value rest ∧ rest.isAtEnd) := by
  intro read rest
  have shows : cursor.Shows cursor.ahead := Cursor.shows_of_bare onText.bare
  refine ⟨?agrees, fun differs => stringInsensitive_of_differs some shows differs session, ?whole⟩
  case agrees =>
    intro agrees
    have enough : literal.length ≤ cursor.ahead.length := by
      rw [← String.length_toList]
      exact agrees.enough
    have length : read.length = literal.length := List.length_take_of_le enough
    have walk : cursor.Walks read (cursor.skip read.length) :=
      Cursor.walks_skip onText.bare (List.take_append_drop _ _).symm
    rw [length] at walk
    refine ⟨stringInsensitive_of_agrees some shows agrees session, walk, length,
      ((Cursor.Beside.refl cursor).skip _).data_eq, ?_⟩
    rw [byteLength, String.toList_ofList, ← onText.utf8]
    exact Cursor.position_skip cursor literal.length
  case whole =>
    intro other some' data data' session session'
    rw [stringInsensitive_whole_iff some, stringInsensitive_whole_iff some']
    exact eq_comm

/-- The sign of the kelvin is three bytes wide and folds to a letter of one byte. -/
theorem stringInsensitive_agrees_kelvin :
    "K" ≠ "" ∧ (Cursor.ofText "\u212a!" ()).OnText ∧
    Agrees foldCase "K".toList (Cursor.ofText "\u212a!" ()).ahead ∧
    ∃ session : Session Char Unit ⟨Unit, Unit, Unit⟩,
      stringInsensitive "K" (Cursor.ofText "\u212a!" ()) session =
        (.done "k" ((Cursor.ofText "\u212a!" ()).skip 1), session) ∧
      ((Cursor.ofText "\u212a!" ()).skip 1).position = 3 := by
  have onText : (Cursor.ofText "\u212a!" ()).OnText := Cursor.onText_ofText ..
  have folds : foldCase 'K' = foldCase '\u212a' := by decide +kernel
  have value : foldText "K" = "k" := by decide +kernel
  have agrees : Agrees foldCase "K".toList (Cursor.ofText "\u212a!" ()).ahead :=
    agrees_cons_iff.mpr ⟨folds, agrees_nil _⟩
  let session : Session Char Unit ⟨Unit, Unit, Unit⟩ := Session.new none ()
  have read := (stringInsensitive_agrees (by decide) onText session).1 agrees
  exact ⟨by decide, onText, agrees, session, value ▸ read.1, rfl⟩

end

end Text

end Packrat
