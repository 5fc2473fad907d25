import Packrat.Proofs.Parser.Agreement
import Packrat.Proofs.Parser.Memoization

/-! When a memoized parser replies as another parser does that uses no table: the table then claims
nothing but replies of that parser, and running the memoized parser leaves its own entry alone. -/

namespace Packrat.Parser

variable {ι δ : Type} {M : Memory} {reaches : δ → Bool} {key : Memo.Key} {replace : Bool}
  {parser plain : Parser ι δ M M.Failure M.Value} {filters : List (Filter ι)}
  {cursor : Cursor ι δ} {session : Session ι δ M}

/-- A memoized parser stores under its own key only. -/
theorem recalled_memoize {name : Memo.Key} {position : Nat} (other : name ≠ key)
    (run : ∀ later : Session ι δ M, later.recalled = session.recalled →
      (parser cursor later).2.recalled position name = session.recalled position name) :
    (memoize reaches key replace parser cursor session).2.recalled position name =
      session.recalled position name := by
  have memoizes := memoizes_memoize reaches key replace parser cursor session
  generalize memoize reaches key replace parser cursor session = result at memoizes ⊢
  cases memoizes with
  | unreachable => exact run _ rfl
  | mismatched found other => rfl
  | hit found same => rfl
  | missed absent caches => exact (caches.recalled_other other position).trans (run _ rfl)
  | replaced found failed replacing caches =>
    exact (caches.recalled_other other position).trans (run _ rfl)

/-- What a table may claim about a key at a position. -/
abbrev Claims (ι δ : Type) (M : Memory) : Type :=
  Nat → Memo.Key → Memo.Entry ViewType M.Failure (M.Value × Cursor ι δ) → Prop

/-- Sessions with the same room, of which the first recalls nothing but what may be claimed. -/
def transparent (cursors : List (Filter ι) → Cursor ι δ → Prop) (room : Nat)
    (claims : Claims ι δ M) : Accord ι δ M where
  cursors := cursors
  sessions session session' := session.reach = room ∧ session'.reach = room ∧
    ∀ position key entry, session.recalled position key = some entry → claims position key entry

variable {cursors : List (Filter ι) → Cursor ι δ → Prop} {room : Nat} {claims : Claims ι δ M}

/-- The claims for a key behind these filters are the replies of the parser. -/
structure Claims.For (claims : Claims ι δ M) (key : Memo.Key) (room : Nat)
    (plain : Parser ι δ M M.Failure M.Value) (place : Cursor ι δ → Prop) : Prop where
  holds : ∀ cursor entry, place cursor → claims cursor.position key entry →
    entry.type = cursor.type ∧
      ∀ session, session.reach = room → (plain cursor session).1 = .ofOutcome entry.outcome
  made : ∀ cursor outcome, place cursor →
    (∀ session, session.reach = room → (plain cursor session).1 = .ofOutcome outcome) →
    claims cursor.position key ⟨key, cursor.type, outcome⟩

theorem Caches.transparent {run result} {later : Session ι δ M}
    (caches : Caches key cursor run result) (right : claims.For key room plain (cursors filters))
    (place : cursors filters cursor)
    (sessions : (transparent cursors room claims).sessions run.2 later)
    (reply : ∀ session, session.reach = room → (plain cursor session).1 = run.1)
    (mutable : ∀ entry, run.2.recalled cursor.position key = some entry →
      Memo.succeeded entry.outcome = false) :
    result.1 = run.1 ∧ (transparent cursors room claims).sessions result.2 later := by
  obtain ⟨reach, reach', claimed⟩ := sessions
  cases caches with
  | halted => exact ⟨rfl, reach, reach', claimed⟩
  | tableless none => exact ⟨rfl, reach, reach', claimed⟩
  | stored shared accepted =>
    refine ⟨rfl, reach, reach', fun position name entry found => ?_⟩
    rw [Session.recalled_store shared accepted] at found
    split at found
    · rename_i here
      cases found
      rw [here.1, here.2]
      exact right.made _ _ place reply
    · exact claimed position name entry found
  | refused shared rejected =>
    obtain ⟨entry, found, succeeded⟩ := success_of_refused shared rejected
    rw [mutable entry found] at succeeded
    cases succeeded

/-- A memoized parser replies as the plain one, if it does so where its outcome is not cached. -/
theorem agree_memoize_plain (right : claims.For key room plain (cursors filters))
    (agree : Agree (transparent cursors room claims) filters parser plain)
    (steady : ∀ cursor session session', session.reach = session'.reach →
      (plain cursor session).1 = (plain cursor session').1)
    (frame : ∀ cursor session,
      (parser cursor session).2.recalled cursor.position key =
        session.recalled cursor.position key) :
    Agree (transparent cursors room claims) filters (memoize reaches key replace parser) plain := by
  intro cursor session session' place shared
  have run (later : Session ι δ M) (kept : (transparent cursors room claims).sessions later session')
      (mutable : ∀ entry, later.recalled cursor.position key = some entry →
        Memo.succeeded entry.outcome = false)
      {result} (caches : Caches key cursor (parser cursor later) result) :
      result.1 = (plain cursor session').1 ∧
        (transparent cursors room claims).sessions result.2 (plain cursor session').2 := by
    obtain ⟨same, kept, _⟩ := agree cursor later session' place kept
    have reply (other : Session ι δ M) (reach : other.reach = room) :
        (plain cursor other).1 = (parser cursor later).1 :=
      same ▸ steady cursor other session' (reach.trans shared.2.1.symm)
    -- The run leaves its own entry alone, so no success is in the way of its outcome.
    obtain ⟨kept', sessions⟩ := caches.transparent right place kept reply
      (by rw [frame]; exact mutable)
    exact ⟨kept'.trans same, sessions⟩
  obtain ⟨same, kept, within⟩ := agree cursor session session' place shared
  have replies : (memoize reaches key replace parser cursor session).1 = (plain cursor session').1 ∧
      (transparent cursors room claims).sessions
        (memoize reaches key replace parser cursor session).2 (plain cursor session').2 := by
    have memoizes := memoizes_memoize reaches key replace parser cursor session
    generalize memoize reaches key replace parser cursor session = result at memoizes ⊢
    cases memoizes with
    | unreachable =>
      obtain ⟨same, kept, _⟩ := agree cursor (session.note (.tableUnreachable key)) session' place
        shared
      exact ⟨same, kept⟩
    | mismatched found other =>
      exact absurd (right.holds _ _ place (shared.2.2 _ _ _ found)).1 other
    | hit found type =>
      have reply := (right.holds _ _ place (shared.2.2 _ _ _ found)).2 session' shared.2.1
      exact ⟨reply.symm, shared.1, kept.2.1, shared.2.2⟩
    | missed absent caches =>
      refine run session shared (fun entry found => ?_) caches
      rw [absent] at found
      cases found
    | replaced found failed replacing caches =>
      refine run (session.note (.failureReplaced key cursor.position)) shared
        (fun entry held => ?_) caches
      cases found.symm.trans held
      exact failed
  refine ⟨replies.1, replies.2, fun value rest done => ?_⟩
  exact within value rest (same.trans (replies.1.symm.trans done))

end Packrat.Parser
