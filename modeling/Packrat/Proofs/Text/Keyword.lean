import Packrat.Proofs.Parser.Choice
import Packrat.Proofs.Text.Literal
import Packrat.Text.Cursor
import Packrat.Text.Keyword
import Mathlib.Data.List.Nodup

/-! Dispatch on keywords takes the longest one. A beginning of a key is below the key, so keys tried
in descending order are tried longest first wherever two of them begin the same text. -/

namespace Packrat

namespace Text

variable {δ : Type} {M : Memory} {α : Type}

/-! The order of the keys. -/

theorem keyword_trans (a b c : String × α) (ab : !decide (a.1 < b.1)) (bc : !decide (b.1 < c.1)) :
    !decide (a.1 < c.1) := by
  simp only [Bool.not_eq_true', decide_eq_false_iff_not, String.not_lt] at ab bc ⊢
  exact String.le_trans bc ab

theorem keyword_total (a b : String × α) : !decide (a.1 < b.1) || !decide (b.1 < a.1) := by
  simp only [Bool.or_eq_true, Bool.not_eq_true', decide_eq_false_iff_not, String.not_lt]
  exact String.le_total b.1 a.1

/-- What begins a longer text is below it. -/
theorem lt_of_begins {short long : String} (begins : short.toList <+: long.toList)
    (longer : short.length < long.length) : short < long := by
  apply Classical.byContradiction
  intro above
  have same : short.toList = long.toList :=
    List.le_antisymm begins.le (List.not_lt.mp (mt String.lt_iff.mpr above))
  rw [String.toList_injective same] at longer
  exact Nat.lt_irrefl _ longer

theorem keywordOrder_perm (entries : List (String × α)) : (keywordOrder entries).Perm entries :=
  List.mergeSort_perm ..

theorem keywordOrder_descends (entries : List (String × α)) :
    (keywordOrder entries).Pairwise fun left right => ¬ left.1 < right.1 := by
  have sorted := List.pairwise_mergeSort keyword_trans keyword_total entries
  exact sorted.imp (by simp)

/-- Entries of one key keep their order. -/
theorem filter_keywordOrder (entries : List (String × α)) (key : String) :
    (keywordOrder entries).filter (·.1 = key) = entries.filter (·.1 = key) := by
  have level : (entries.filter (·.1 = key)).Pairwise
      fun left right => (!decide (left.1 < right.1)) = true := by
    apply List.pairwise_of_forall_mem_list
    intro left present right present'
    have own : left.1 = key := by simpa using (List.mem_filter.mp present).2
    have own' : right.1 = key := by simpa using (List.mem_filter.mp present').2
    rw [own, own', decide_eq_false (String.lt_irrefl key)]
    rfl
  have kept : (entries.filter (·.1 = key)).Sublist (keywordOrder entries) :=
    List.sublist_mergeSort keyword_trans keyword_total level List.filter_sublist
  have inside := kept.filter (·.1 = key)
  rw [List.filter_filter] at inside
  simp only [Bool.and_self] at inside
  exact (inside.eq_of_length ((keywordOrder_perm entries).filter _).length_eq.symm).symm

/-- Entries with distinct keys are tried in an order of their own. -/
theorem keywordOrder_eq_of_perm {entries entries' : List (String × α)}
    (distinct : (entries.map Prod.fst).Nodup) (perm : entries'.Perm entries) :
    keywordOrder entries' = keywordOrder entries := by
  have among := keywordOrder_perm entries
  apply List.Perm.eq_of_pairwise _ (keywordOrder_descends _) (keywordOrder_descends _)
    (((keywordOrder_perm entries').trans perm).trans among.symm)
  intro left right present present' above below
  have same := String.le_antisymm (String.not_lt.mp below) (String.not_lt.mp above)
  exact List.inj_on_of_nodup_map distinct
    (((keywordOrder_perm entries').trans perm).mem_iff.mp present) (among.mem_iff.mp present') same

/-! The key that is taken. -/

/-- The entry has the longest of the keys that begin the text, and it is the first with its key. -/
structure Longest (entries : List (String × α)) (text : List Char) (entry : String × α) : Prop where
  begins : entry.1.toList <+: text
  longest : ∀ other ∈ entries, other.1.toList <+: text → other.1.length ≤ entry.1.length
  first : ∃ front back, entries = front ++ entry :: back ∧ ∀ other ∈ front, other.1 ≠ entry.1

section

variable {entries front back : List (String × α)} {entry : String × α}

/-- What is not tried before an entry is not above it. -/
theorem not_lt_of_order (order : keywordOrder entries = front ++ entry :: back) :
    ∀ other ∈ entries, other ∈ front ∨ ¬ entry.1 < other.1 := by
  intro other present
  have tried := (keywordOrder_perm entries).mem_iff.mpr present
  have descends := keywordOrder_descends entries
  rw [order, List.mem_append, List.mem_cons] at tried
  rw [order, List.pairwise_append, List.pairwise_cons] at descends
  obtain before | same | after := tried
  · exact .inl before
  · rw [same]
    exact .inr (String.lt_irrefl _)
  · exact .inr (descends.2.1.1 other after)

/-- The entry of a key that is tried first is the one listed first. -/
theorem first_of_order (order : keywordOrder entries = front ++ entry :: back)
    (others : ∀ other ∈ front, other.1 ≠ entry.1) :
    ∃ front back, entries = front ++ entry :: back ∧ ∀ other ∈ front, other.1 ≠ entry.1 := by
  have none : front.filter (·.1 = entry.1) = [] := by
    simpa only [List.filter_eq_nil_iff, decide_eq_true_eq] using others
  have own : entries.filter (·.1 = entry.1) = entry :: back.filter (·.1 = entry.1) := by
    rw [← filter_keywordOrder, order, List.filter_append, none]
    simp
  obtain ⟨front', back', cut, others', _⟩ := List.filter_eq_cons_iff.mp own
  exact ⟨front', back', cut, by simpa using others'⟩

/-- The first key in the order of trial that begins the text is the longest. -/
theorem longest_of_order {text : List Char} (order : keywordOrder entries = front ++ entry :: back)
    (begins : entry.1.toList <+: text) (refused : ∀ other ∈ front, ¬ other.1.toList <+: text) :
    Longest entries text entry := by
  refine ⟨begins, ?_, first_of_order order fun other before same =>
    refused other before (same ▸ begins)⟩
  intro other present begins'
  apply Classical.byContradiction
  intro longer
  have longer : entry.1.length < other.1.length := Nat.lt_of_not_le longer
  have inside : entry.1.toList <+: other.1.toList :=
    List.prefix_of_prefix_length_le begins begins'
      (by simpa only [String.length_toList] using Nat.le_of_lt longer)
  obtain before | below := not_lt_of_order order other present
  · exact refused other before begins'
  · exact below (lt_of_begins inside longer)

/-- Of the keys that begin the text, one is tried first. -/
theorem first_begins (entries : List (String × α)) (text : List Char)
    (some : ∃ entry ∈ entries, entry.1.toList <+: text) :
    ∃ front entry back, keywordOrder entries = front ++ entry :: back ∧
      entry.1.toList <+: text ∧ ∀ other ∈ front, ¬ other.1.toList <+: text := by
  obtain ⟨candidate, listed, begins⟩ := some
  have isSome : ((keywordOrder entries).find? fun entry =>
      decide (entry.1.toList <+: text)).isSome := by
    rw [List.find?_isSome]
    exact ⟨candidate, (keywordOrder_perm entries).mem_iff.mpr listed, by simpa using begins⟩
  obtain ⟨entry, found⟩ := Option.isSome_iff_exists.mp isSome
  obtain ⟨begins', front, back, order, refused⟩ := List.find?_eq_some_iff_append.mp found
  exact ⟨front, entry, back, order, by simpa using begins', by simpa using refused⟩

/-- The least key is tried last. -/
theorem least_last (some : entries ≠ []) :
    ∃ front least, keywordOrder entries = front ++ [least] ∧
      ∀ entry ∈ entries, ¬ entry.1 < least.1 := by
  have perm := keywordOrder_perm entries
  have tried : keywordOrder entries ≠ [] := by
    intro empty
    rw [empty] at perm
    exact some perm.symm.eq_nil
  obtain ⟨front, least, order⟩ : ∃ front least, keywordOrder entries = front ++ [least] :=
    ⟨_, _, (List.dropLast_concat_getLast tried).symm⟩
  refine ⟨front, least, order, ?_⟩
  intro entry present
  have descends := keywordOrder_descends entries
  rw [order, List.pairwise_append] at descends
  by_cases before : entry ∈ front
  · exact descends.2.2 entry before least List.mem_cons_self
  · have same : entry = least := by
      simpa [order, before] using perm.mem_iff.mpr present
    rw [same]
    exact String.lt_irrefl _

end

section

variable {entries : List (String × TextParser δ M α)} {cursor : Cursor Char δ} {text : List Char}

theorem stringChoice_eq (entries : List (String × TextParser δ M α)) :
    stringChoice entries =
      .predictiveChoice ((keywordOrder entries).map fun entry => (string entry.1, entry.2)) := rfl

/-- The entries that are tried before one whose key begins the text fail and leave no trace. -/
theorem keyword_refused {front : List (String × TextParser δ M α)}
    (named : ∀ entry ∈ front, entry.1 ≠ "") (shows : cursor.Shows text)
    (refused : ∀ entry ∈ front, ¬ entry.1.toList <+: text) (session : Session Char δ M) :
    ∀ pair ∈ front.map fun entry => (string entry.1, entry.2),
      ∃ error, pair.1 cursor session = (.fail error, session) := by
  intro pair member
  obtain ⟨entry, present, rfl⟩ := List.mem_map.mp member
  refine ⟨.stringMismatch entry.1, ?_⟩
  dsimp only
  rw [string_eq (named entry present) shows, if_neg (refused entry present)]

theorem stringChoice_of_begins (named : ∀ entry ∈ entries, entry.1 ≠ "")
    (shows : cursor.Shows text) (session : Session Char δ M)
    (some : ∃ entry ∈ entries, entry.1.toList <+: text) :
    ∃ entry, Longest entries text entry ∧
      stringChoice entries cursor session = entry.2 (cursor.skip entry.1.length) session := by
  obtain ⟨front, entry, back, order, begins, refused⟩ := first_begins entries text some
  refine ⟨entry, longest_of_order order begins refused, ?_⟩
  have named' : ∀ other ∈ front ++ entry :: back, other.1 ≠ "" :=
    fun other present => named other ((keywordOrder_perm entries).mem_iff.mp (order ▸ present))
  have passed := keyword_refused (fun other before => named' other (List.mem_append_left _ before))
    shows refused session
  rw [stringChoice_eq, order, List.map_append, List.map_cons,
    Parser.predictiveChoice_append (by simp) passed]
  apply Parser.predictiveChoice_of_done
  rw [string_eq (named' entry (by simp)) shows, if_pos begins]

theorem stringChoice_of_no_begins (some : entries ≠ []) (named : ∀ entry ∈ entries, entry.1 ≠ "")
    (shows : cursor.Shows text) (session : Session Char δ M)
    (none : ∀ entry ∈ entries, ¬ entry.1.toList <+: text) :
    ∃ least ∈ entries, (∀ entry ∈ entries, ¬ entry.1 < least.1) ∧
      stringChoice entries cursor session = (.fail (.stringMismatch least.1), session) := by
  obtain ⟨front, least, order, lowest⟩ := least_last some
  have present : ∀ entry ∈ front ++ [least], entry ∈ entries :=
    fun entry tried => (keywordOrder_perm entries).mem_iff.mp (order ▸ tried)
  have last : least ∈ entries := present least (by simp)
  have earlier : ∀ entry ∈ front, entry ∈ entries :=
    fun entry before => present entry (List.mem_append_left _ before)
  have passed := keyword_refused (fun entry before => named entry (earlier entry before)) shows
    (fun entry before => none entry (earlier entry before)) session
  refine ⟨least, last, lowest, ?_⟩
  rw [stringChoice_eq, order, List.map_append, Parser.predictiveChoice_append (by simp) passed]
  apply Parser.predictiveChoice_of_fail
  rw [string_eq (named least last) shows, if_neg (none least last)]

/-- Where some key begins the text, the parser of the longest one runs behind it and has the last
word; where none does, the least key is reported. The order of entries with distinct keys does not
matter. -/
theorem stringChoice_longest (some : entries ≠ []) (named : ∀ entry ∈ entries, entry.1 ≠ "")
    (shows : cursor.Shows text) (session : Session Char δ M) :
    ((∃ entry ∈ entries, entry.1.toList <+: text) →
      ∃ entry, Longest entries text entry ∧
        stringChoice entries cursor session = entry.2 (cursor.skip entry.1.length) session) ∧
    ((∀ entry ∈ entries, ¬ entry.1.toList <+: text) →
      ∃ least ∈ entries, (∀ entry ∈ entries, ¬ entry.1 < least.1) ∧
        stringChoice entries cursor session = (.fail (.stringMismatch least.1), session)) ∧
    ((entries.map Prod.fst).Nodup → ∀ entries', entries'.Perm entries →
      stringChoice entries' = stringChoice entries) := by
  refine ⟨stringChoice_of_begins named shows session,
    stringChoice_of_no_begins some named shows session, ?_⟩
  intro distinct entries' perm
  rw [stringChoice_eq, stringChoice_eq, keywordOrder_eq_of_perm distinct perm]

/-- Comparisons, each with its number; one of them is listed twice. -/
def comparisons : List (String × TextParser Unit ⟨Unit, Unit, Unit⟩ Nat) :=
  [("<", .constant 0), ("<=", .constant 1), (">", .constant 2), ("<", .constant 3)]

theorem stringChoice_longest_comparisons :
    comparisons ≠ [] ∧ (∀ entry ∈ comparisons, entry.1 ≠ "") ∧
    (Cursor.ofText "<=1" ()).Shows "<=1".toList ∧
    ∃ entry, Longest comparisons "<=1".toList entry ∧
      stringChoice comparisons (Cursor.ofText "<=1" ()) (Session.new none ()) =
        entry.2 ((Cursor.ofText "<=1" ()).skip entry.1.length) (Session.new none ()) := by
  have some : comparisons ≠ [] := by simp [comparisons]
  have named : ∀ entry ∈ comparisons, entry.1 ≠ "" := by simp [comparisons]
  have shows : (Cursor.ofText "<=1" ()).Shows "<=1".toList := Cursor.shows_of_bare rfl
  refine ⟨some, named, shows, ?_⟩
  apply (stringChoice_longest some named shows (Session.new none ())).1
  exact ⟨("<=", .constant 1), by simp [comparisons], ['1'], by decide⟩

end

end Text

end Packrat
