import Mathlib.Data.List.Nodup
import ProjectScan.Client

/-!
Objects that are read have distinct keys. A key that comes again in the text sets the field that is
there, so each object in the making keeps its keys distinct from one lexeme to the next.
-/

namespace ProjectScan

namespace Json

def HasDistinctKeys : Json → Prop
  | .object fields => (fields.map (·.1)).Nodup
  | _ => True

theorem nodup_setField {fields : List (String × Json)} (distinct : (fields.map (·.1)).Nodup)
    (key : String) (value : Json) : ((setField fields key value).map (·.1)).Nodup := by
  rw [keys_setField]
  split
  · exact distinct
  · rename_i absent
    rw [List.nodup_append]
    refine ⟨distinct, List.nodup_singleton key, ?_⟩
    rintro earlier member last isLast rfl
    exact absent (List.mem_singleton.mp isLast ▸ member)

def Open.HasDistinctKeys : Open → Prop
  | .list _ => True
  | .object fields _ => (fields.map (·.1)).Nodup

/-- What was read so far has distinct keys, in every container that is still open. -/
def Expecting.HasDistinctKeys : Expecting → Prop
  | .value outer | .itemOrEnd outer | .keyOrEnd outer => ∀ part ∈ outer, part.HasDistinctKeys
  | .key fields outer | .colon fields _ outer =>
      (fields.map (·.1)).Nodup ∧ ∀ part ∈ outer, part.HasDistinctKeys
  | .more found outer => found.HasDistinctKeys ∧ ∀ part ∈ outer, part.HasDistinctKeys

def Lexeme.IsFlat : Lexeme → Prop
  | .named value => value.HasDistinctKeys
  | _ => True

theorem Numeral.value_hasDistinctKeys {numeral : Numeral} {value : Json}
    (read : numeral.value = .ok value) : value.HasDistinctKeys := by
  unfold Numeral.value at read
  split at read
  · split at read
    · cases read
      trivial
    · cases read
    · cases read
  · cases read
    trivial

theorem begin?_hasDistinctKeys {outer : List Open} {next : Placed} {after : Expecting}
    (distinct : ∀ part ∈ outer, part.HasDistinctKeys) (flat : next.lexeme.IsFlat)
    (taken : begin? outer next = .ok after) : after.HasDistinctKeys := by
  unfold begin? at taken
  cases lexeme : next.lexeme with
  | openList =>
      rw [lexeme] at taken
      cases taken
      exact distinct
  | openObject =>
      rw [lexeme] at taken
      cases taken
      exact distinct
  | text value =>
      rw [lexeme] at taken
      cases taken
      exact ⟨trivial, distinct⟩
  | named value =>
      rw [lexeme] at taken flat
      cases taken
      exact ⟨flat, distinct⟩
  | numeral numeral =>
      rw [lexeme] at taken
      dsimp only at taken
      cases read : numeral.value with
      | error stop =>
          rw [read] at taken
          cases taken
      | ok value =>
          rw [read] at taken
          cases taken
          exact ⟨Numeral.value_hasDistinctKeys read, distinct⟩
  | _ =>
      rw [lexeme] at taken
      cases taken

theorem beginKey?_hasDistinctKeys {fields : List (String × Json)} {outer : List Open}
    {next : Placed} {after : Expecting} (distinct : (fields.map (·.1)).Nodup)
    (outside : ∀ part ∈ outer, part.HasDistinctKeys)
    (taken : beginKey? fields outer next = .ok after) : after.HasDistinctKeys := by
  unfold beginKey? at taken
  split at taken
  · cases taken
    exact ⟨distinct, outside⟩
  · cases taken
  · cases taken

theorem continue?_hasDistinctKeys {value : Json} {outer : List Open} {next : Placed}
    {after : Expecting} (outside : ∀ part ∈ outer, part.HasDistinctKeys)
    (taken : continue? value outer next = .ok after) : after.HasDistinctKeys := by
  unfold continue? at taken
  split at taken
  · cases taken
  · cases taken
    rw [List.forall_mem_cons] at outside
    exact List.forall_mem_cons.mpr ⟨trivial, outside.2⟩
  · cases taken
    rw [List.forall_mem_cons] at outside
    exact ⟨trivial, outside.2⟩
  · cases taken
    rw [List.forall_mem_cons] at outside
    exact ⟨nodup_setField outside.1 _ _, outside.2⟩
  · cases taken
    rw [List.forall_mem_cons] at outside
    exact ⟨nodup_setField outside.1 _ _, outside.2⟩
  · cases taken

theorem take?_hasDistinctKeys {expecting after : Expecting} {next : Placed}
    (distinct : expecting.HasDistinctKeys) (flat : next.lexeme.IsFlat)
    (taken : take? expecting next = .ok after) : after.HasDistinctKeys := by
  unfold take? at taken
  cases expecting with
  | value outer => exact begin?_hasDistinctKeys distinct flat taken
  | itemOrEnd outer =>
      dsimp only at taken
      split at taken
      · cases taken
        exact ⟨trivial, distinct⟩
      · have outside : ∀ part ∈ Open.list [] :: outer, part.HasDistinctKeys :=
          List.forall_mem_cons.mpr ⟨trivial, distinct⟩
        exact begin?_hasDistinctKeys outside flat taken
  | keyOrEnd outer =>
      dsimp only at taken
      split at taken
      · cases taken
        exact ⟨List.nodup_nil, distinct⟩
      · have none : (([] : List (String × Json)).map (·.1)).Nodup := List.nodup_nil
        exact beginKey?_hasDistinctKeys none distinct taken
  | key fields outer => exact beginKey?_hasDistinctKeys distinct.1 distinct.2 taken
  | colon fields key outer =>
      dsimp only at taken
      split at taken
      · cases taken
        exact List.forall_mem_cons.mpr ⟨distinct.1, distinct.2⟩
      · cases taken
  | more value outer => exact continue?_hasDistinctKeys distinct.2 taken

theorem nextLexeme_isFlat (c : Char) (rest : List Char) : (nextLexeme c rest).1.IsFlat := by
  unfold nextLexeme
  split
  · rename_i lexeme found
    unfold punctuation? at found
    (repeat' split at found) <;> cases found <;> trivial
  · split
    · split <;> trivial
    · split
      · rename_i value after found
        unfold named? at found
        obtain ⟨entry, listed, same⟩ := Option.map_eq_some_iff.mp found
        have member := List.mem_of_find?_eq_some listed
        cases same
        simp only [names, List.mem_cons, List.not_mem_nil, or_false] at member
        rcases member with rfl | rfl | rfl | rfl | rfl | rfl <;> trivial
      · split <;> trivial

theorem lexemes_isFlat (source : List Char) : ∀ placed ∈ lexemes source, placed.lexeme.IsFlat := by
  fun_induction lexemes source with
  | case1 => nofun
  | case2 c rest _ ih => exact ih
  | case3 c rest _ ih => exact List.forall_mem_cons.mpr ⟨nextLexeme_isFlat c rest, ih⟩

theorem readLexemes_hasDistinctKeys {placed : List Placed} {expecting : Expecting} {value : Json}
    (distinct : expecting.HasDistinctKeys) (flat : ∀ next ∈ placed, next.lexeme.IsFlat)
    (read : readLexemes expecting placed = .ok value) : value.HasDistinctKeys := by
  induction placed generalizing expecting with
  | nil =>
      cases expecting with
      | more found outer =>
          cases outer with
          | nil =>
              cases read
              exact distinct.1
          | cons => cases read
      | _ => cases read
  | cons next rest ih =>
      rw [List.forall_mem_cons] at flat
      unfold readLexemes at read
      cases taken : take? expecting next with
      | error stop =>
          rw [taken] at read
          cases read
      | ok after =>
          rw [taken] at read
          exact ih (take?_hasDistinctKeys distinct flat.1 taken) flat.2 read

theorem read_hasDistinctKeys {source : List Char} {value : Json} (found : read source = .ok value) :
    value.HasDistinctKeys := by
  unfold read at found
  split at found
  · cases found
  · split at found
    · rename_i same
      cases found
      have begins : (Expecting.value []).HasDistinctKeys :=
        fun part member => absurd member List.not_mem_nil
      exact readLexemes_hasDistinctKeys begins (lexemes_isFlat source) same
    · cases found
    · cases found

end Json

theorem Response.value_hasDistinctKeys (response : Response) : response.value.HasDistinctKeys := by
  unfold Response.value
  split
  · rename_i value decoded
    exact Json.read_hasDistinctKeys (Json.readWithin_eq_ok_iff.mp decoded).2
  · trivial

end ProjectScan
