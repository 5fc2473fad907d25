import Packrat.Proofs.Parser.Ensures
import Packrat.Proofs.Standing

/-! What the parsers of items answer where nothing filters the items: one item is the next one, and a
run is the longest one. -/

namespace Packrat

open Packrat.Parser

variable {ι δ : Type} {M : Memory} {ε ε' : Type}
  {invariant : Session ι δ M → Prop} {cursor : Cursor ι δ}

/-! One item. -/

theorem Cursor.advance_of_bare {item : ι} {rest : List ι} (bare : cursor.filters = [])
    (ahead : cursor.ahead = item :: rest) :
    cursor.advance = .ok (some (item, cursor.past item rest)) := by
  unfold Cursor.advance
  split
  · rename_i none
    simp [ahead] at none
  · rename_i other rest' cut
    obtain ⟨rfl, rfl⟩ := List.cons.inj (ahead.symm.trans cut)
    rw [Cursor.read_of_no_filters bare]
    rfl

theorem Cursor.advance_at_end (finished : cursor.ahead = []) : cursor.advance = .ok none := by
  unfold Cursor.advance
  split
  · rfl
  · rename_i cut
    simp [finished] at cut

theorem answers_satisfy [OfStreamError ε] {accepts : ι → Bool} {error : ε} {item : ι}
    {rest : List ι} (bare : cursor.filters = []) (ahead : cursor.ahead = item :: rest)
    (accepted : accepts item) :
    Answers invariant (satisfy accepts error) cursor (.done item (cursor.past item rest)) := by
  have next : Answers invariant (anyItem : Parser ι δ M ε ι) cursor
      (.done item (cursor.past item rest)) := fun _ holds => by
    simp [anyItem, Cursor.advance_of_bare bare ahead, holds]
  exact next.inspect_done (by simp only [accepted, if_true]; exact ensures_constant rfl)

/-- Without the item the parser fails: with its own error, or because nothing is left. -/
theorem fails_satisfy [OfStreamError ε] {accepts : ι → Bool} {error : ε}
    (bare : cursor.filters = []) (refused : cursor.ahead.takeWhile accepts = []) :
    Answers invariant (satisfy accepts error) cursor
      (.fail (if cursor.ahead = [] then ofStreamError .endOfInput else error)) := by
  cases ahead : cursor.ahead with
  | nil =>
    have none : Answers invariant (anyItem : Parser ι δ M ε ι) cursor
        (.fail (ofStreamError .endOfInput)) := fun _ holds => by
      simp [anyItem, Cursor.advance_at_end ahead, holds]
    exact none.inspect_fail
  | cons item rest =>
    have next : Answers invariant (anyItem : Parser ι δ M ε ι) cursor
        (.done item (cursor.past item rest)) := fun _ holds => by
      simp [anyItem, Cursor.advance_of_bare bare ahead, holds]
    have unfit : accepts item = false := by
      cases fit : accepts item
      · rfl
      · simp [ahead, fit] at refused
    exact next.inspect_done (by simp only [unfit]; exact ensures_failWith rfl)

/-! Runs of items. -/

variable {room : Nat} (roomy : ∀ session, invariant session → session.reach = room)
include roomy

theorem answers_many_of_refuses [OfStreamError ε] {accepts : ι → Bool} {error : ε}
    (bare : cursor.filters = []) (refused : cursor.ahead.takeWhile accepts = []) :
    Answers invariant (many (satisfy accepts error) : Parser ι δ M ε' (List ι)) cursor
      (.done [] cursor) := by
  have stop : Answers invariant
      (Parser.maybe (satisfy accepts error) : Parser ι δ M ε' (Option ι)) cursor
      (.done none cursor) := (fails_satisfy bare refused).handle_fail (ensures_constant rfl)
  refine Ensures.rounds roomy stop ?_ nofun nofun nofun
  intro rest same
  cases same
  rfl

theorem answers_many_satisfy [OfStreamError ε] {accepts : ι → Bool} {error : ε}
    (bare : cursor.filters = []) (inside : cursor.extent ≤ room) :
    Answers invariant (many (satisfy accepts error) : Parser ι δ M ε' (List ι)) cursor
      (.done (cursor.ahead.takeWhile accepts) (cursor.skipWhile accepts)) := by
  induction ahead : cursor.ahead generalizing cursor with
  | nil =>
    rw [Cursor.skipWhile_of_refuses (by simp [ahead])]
    exact answers_many_of_refuses roomy bare (by simp [ahead])
  | cons item rest ih =>
    by_cases accepted : accepts item
    · have next : Answers invariant
          (Parser.maybe (satisfy accepts error) : Parser ι δ M ε' (Option ι)) cursor
          (.done (some item) (cursor.past item rest)) :=
        (answers_satisfy bare ahead accepted).handle_done (ensures_constant rfl)
      refine Ensures.rounds roomy next nofun ?_ nofun nofun
      intro value after same
      cases same
      have free : (cursor.past item rest).filters = [] := bare
      have within : (cursor.past item rest).extent ≤ room := by rwa [Cursor.extent_past ahead]
      refine ⟨Cursor.position_lt_past .., Nat.le_trans (Cursor.position_le_extent _) within, ?_⟩
      refine (ih free within rfl).weaken ?_
      intro reply same
      subst same
      refine ⟨nofun, ?_⟩
      rw [Cursor.skipWhile_of_accepts ahead accepted]
      simp [Reply.map, accepted]
    · have refused : cursor.ahead.takeWhile accepts = [] := by simp [ahead, accepted]
      rw [Cursor.skipWhile_of_refuses refused]
      simpa [accepted] using answers_many_of_refuses roomy bare refused

end Packrat
