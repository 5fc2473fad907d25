import Packrat.Proofs.Standing
import Packrat.Text.Character

/-! Literals on any view of the characters. A literal matches where the characters that the filters
show begin with it, and it ends right behind them; the session stays as it was. -/

namespace Packrat

open Packrat.Parser

variable {ι δ : Type} {M : Memory} {ε : Type}

namespace Cursor

variable {cursor : Cursor ι δ} {item : ι} {items : List ι}

/-- The items that are still to be read, as the filters show them. -/
def Shows (cursor : Cursor ι δ) (items : List ι) : Prop :=
  cursor.ahead.map cursor.read = items.map .ok

theorem shows_of_bare (bare : cursor.filters = []) : cursor.Shows cursor.ahead := by
  unfold Shows
  congr
  funext item
  exact read_of_no_filters bare item

theorem Shows.ahead_nil (shows : cursor.Shows []) : cursor.ahead = [] := by
  simpa [Shows] using shows

theorem Shows.ahead_cons (shows : cursor.Shows (item :: items)) :
    ∃ first rest, cursor.ahead = first :: rest ∧ cursor.read first = .ok item ∧
      rest.map cursor.read = items.map .ok := by
  unfold Shows at shows
  cases ahead : cursor.ahead with
  | nil => simp [ahead] at shows
  | cons first rest =>
    simp only [ahead, List.map_cons, List.cons.injEq] at shows
    exact ⟨first, rest, rfl, shows⟩

theorem Shows.advance_nil (shows : cursor.Shows []) : cursor.advance = .ok none := by
  unfold advance
  rw [shows.ahead_nil]

theorem Shows.advance_cons (shows : cursor.Shows (item :: items)) :
    cursor.advance = .ok (some (item, cursor.skip 1)) := by
  obtain ⟨first, rest, ahead, read, _⟩ := shows.ahead_cons
  rw [← past_eq_skip ahead]
  unfold advance
  simp only [ahead, read]
  rfl

theorem Shows.skip_one (shows : cursor.Shows (item :: items)) : (cursor.skip 1).Shows items := by
  obtain ⟨first, rest, ahead, _, shown⟩ := shows.ahead_cons
  rw [← past_eq_skip ahead]
  exact shown

end Cursor

/-! One item. -/

section

variable {cursor : Cursor ι δ} {item : ι} {items : List ι}

theorem satisfy_of_nil [OfStreamError ε] (accepts : ι → Bool) (error : ε)
    (shows : cursor.Shows []) (session : Session ι δ M) :
    satisfy accepts error cursor session = (.fail (ofStreamError .endOfInput), session) := by
  simp [satisfy, Parser.inspect, Parser.handle, anyItem, shows.advance_nil, failWith]

theorem satisfy_of_cons [OfStreamError ε] (accepts : ι → Bool) (error : ε)
    (shows : cursor.Shows (item :: items)) (session : Session ι δ M) :
    satisfy accepts error cursor session =
      if accepts item then (.done item (cursor.skip 1), session) else (.fail error, session) := by
  simp only [satisfy, Parser.inspect, Parser.handle, anyItem, shows.advance_cons]
  split <;> rfl

end

namespace Text

variable {cursor : Cursor Char δ} {literal : String} {text : List Char}

theorem spelled_of_prefix {characters : List Char} (begins : characters <+: text)
    (shows : cursor.Shows text) (session : Session Char δ M) :
    spelled literal characters cursor session =
      (.done () (cursor.skip characters.length), session) := by
  induction characters generalizing cursor text with
  | nil => rfl
  | cons c characters ih =>
    obtain ⟨rest, rfl⟩ := begins
    have first : (Parser.satisfy (· == c) (TextError.stringMismatch literal) : TextParser δ M Char)
        cursor session = (.done c (cursor.skip 1), session) := by
      rw [satisfy_of_cons _ _ shows]
      simp
    simp only [spelled, Parser.inspect, Parser.handle, first]
    rw [ih (List.prefix_append ..) shows.skip_one, List.length_cons, Nat.add_comm, Cursor.skip_add]

theorem spelled_of_not_prefix (literal : String) {characters : List Char}
    (differs : ¬ characters <+: text) (shows : cursor.Shows text) (session : Session Char δ M) :
    ∃ error, spelled literal characters cursor session = (.fail error, session) := by
  induction characters generalizing cursor text with
  | nil => exact absurd List.nil_prefix differs
  | cons c characters ih =>
    cases text with
    | nil =>
      refine ⟨ofStreamError .endOfInput, ?_⟩
      simp [spelled, Parser.inspect, Parser.handle, satisfy_of_nil _ _ shows, failWith]
    | cons other text =>
      by_cases same : other = c
      · subst same
        have shorter : ¬ characters <+: text :=
          fun begins => differs ((List.prefix_cons_inj other).mpr begins)
        obtain ⟨error, failed⟩ := ih shorter shows.skip_one
        refine ⟨error, ?_⟩
        simp [spelled, Parser.inspect, Parser.handle, satisfy_of_cons _ _ shows, failed]
      · refine ⟨.stringMismatch literal, ?_⟩
        simp [spelled, Parser.inspect, Parser.handle, satisfy_of_cons _ _ shows, same, failWith]

/-- A literal matches exactly where it comes next. -/
theorem string_eq (some : literal ≠ "") (shows : cursor.Shows text) (session : Session Char δ M) :
    (string literal : TextParser δ M String) cursor session =
      if literal.toList <+: text then (.done literal (cursor.skip literal.length), session)
      else (.fail (.stringMismatch literal), session) := by
  unfold string
  rw [if_neg (mt String.isEmpty_iff.mp some)]
  by_cases begins : literal.toList <+: text
  · simp only [Parser.handle, spelled_of_prefix begins shows, if_pos begins, String.length_toList]
    rfl
  · obtain ⟨error, failed⟩ := spelled_of_not_prefix literal begins shows session
    simp only [Parser.handle, failed, if_neg begins]
    rfl

end Text

end Packrat
