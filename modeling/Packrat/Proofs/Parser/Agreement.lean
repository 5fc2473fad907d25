import Packrat.Proofs.Parser.Coupling

/-! Two parsers agree if they reply the same from the cursors and in the sessions of an accord, and
stay within it. To agree is to be coupled where cursors correspond to themselves. -/

namespace Packrat

variable {ι δ : Type} {M : Memory}

/-- The cursors behind the filters, and the pairs of sessions, that two parsers are compared at. -/
structure Accord (ι δ : Type) (M : Memory) where
  cursors : List (Filter ι) → Cursor ι δ → Prop
  sessions : Session ι δ M → Session ι δ M → Prop

/-- Reading items, going behind filters and writing the log all stay within the accord. -/
structure Accord.Stable (accord : Accord ι δ M) : Prop where
  reach_eq : accord.sessions session session' → session.reach = session'.reach
  note : accord.sessions session session' →
    ∀ event, accord.sessions (session.note event) (session'.note event)
  past : accord.cursors filters cursor → cursor.ahead = item :: rest →
    accord.cursors filters (cursor.past item rest)
  filtered : accord.cursors filters cursor →
    ∀ filter, accord.cursors (filter :: filters) (cursor.filtered filter)
  unfiltered : accord.cursors (filter :: filters) cursor → accord.cursors filters cursor.unfiltered

/-- Every cursor of the accord corresponds to itself, whatever ends the parse. -/
def Accord.coupling (accord : Accord ι δ M) : Coupling ι δ M where
  cursors filters cursor cursor' := cursor = cursor' ∧ accord.cursors filters cursor
  sessions := accord.sessions
  causes _ := True
  admits _ := True
  onward := False

theorem Accord.Stable.coupling {accord : Accord ι δ M} (stable : accord.Stable) :
    accord.coupling.Stable where
  advance place := by
    obtain ⟨rfl, place⟩ := place
    exact shown_of_same rfl (fun _ => rfl) (fun _ _ _ => trivial)
      fun item rest ahead => ⟨rfl, stable.past place ahead⟩
  ordinary _ := trivial
  total _ := trivial
  filtered place _ := ⟨congrArg (Cursor.filtered · _) place.1, stable.filtered place.2 _⟩
  unfiltered place := ⟨congrArg Cursor.unfiltered place.1, stable.unfiltered place.2⟩
  rounds coupled := by
    apply coupled.rounds_of_level
    · exact fun _ _ place => congrArg Cursor.position place.1
    · exact fun _ _ => stable.reach_eq
    · exact fun _ _ => stable.note
    · trivial

namespace Parser

variable {ε α : Type} {accord : Accord ι δ M} {filters : List (Filter ι)}

/-- The parsers reply the same behind these filters and stay within the accord. -/
def Agree (accord : Accord ι δ M) (filters : List (Filter ι)) (parser parser' : Parser ι δ M ε α) :
    Prop :=
  ∀ cursor session session', accord.cursors filters cursor → accord.sessions session session' →
    (parser cursor session).1 = (parser' cursor session').1 ∧
      accord.sessions (parser cursor session).2 (parser' cursor session').2 ∧
      ∀ value rest, (parser cursor session).1 = .done value rest → accord.cursors filters rest

theorem agree_iff_coupled {parser parser' : Parser ι δ M ε α} :
    Agree accord filters parser parser' ↔ Coupled accord.coupling filters parser parser' := by
  constructor
  · rintro agree cursor _ session session' ⟨rfl, place⟩ shared
    obtain ⟨same, kept, within⟩ := agree cursor session session' place shared
    refine ⟨?_, kept⟩
    rw [← same]
    cases reply : (parser cursor session).1 with
    | done value rest => exact .done ⟨⟨rfl, within value rest reply⟩, False.elim⟩
    | fail error => exact .fail
    | halt cause => exact .halt trivial
  · intro coupled cursor session session' place shared
    obtain ⟨paired, kept⟩ := coupled cursor cursor session session' ⟨rfl, place⟩ shared
    generalize (parser cursor session).1 = reply, (parser' cursor session').1 = reply' at paired
    cases paired with
    | done ends =>
      obtain ⟨rfl, within⟩ := ends.place
      refine ⟨rfl, kept, ?_⟩
      rintro _ _ ⟨⟩
      exact within
    | fail => exact ⟨rfl, kept, nofun⟩
    | halt _ => exact ⟨rfl, kept, nofun⟩

theorem agree_halt (cause : Halt) :
    Agree accord filters (halt cause : Parser ι δ M ε α) (halt cause) :=
  fun _ _ _ _ shared => ⟨rfl, shared, nofun⟩

end Parser

end Packrat
