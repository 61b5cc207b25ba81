import ProjectScan.Client
import ProjectScan.Proofs.WrittenJson

/-!
Bodies with and without a guard. A body is read exactly if it is JSON text with blanks in front of it
or with blanks and the guard. The blanks are more than the gaps that JSON text may begin with; this
changes no value, since a text that begins with another blank is no JSON text, and no JSON text begins
with the guard. A text that is too deep for the stack is too deep behind blanks and guards as well.
-/

namespace ProjectScan.Body

open Json Text

def Plain (body text : List Char) : Prop :=
  ∃ blanks, (∀ c ∈ blanks, isBlank c = true) ∧ body = blanks ++ text

def Guarded (body text : List Char) : Prop := Plain body (guard ++ text)

theorem trimStart_of_plain {body text : List Char} (plain : Plain body text) :
    trimStart body = trimStart text := by
  obtain ⟨blanks, blank, rfl⟩ := plain
  exact List.dropWhile_append_of_pos blank

theorem plain_trimStart (body : List Char) : Plain body (trimStart body) := by
  refine ⟨body.takeWhile isBlank, ?_, List.takeWhile_append_dropWhile.symm⟩
  intro c member
  exact List.all_eq_true.mp List.all_takeWhile c member

theorem isBlank_starter {c : Char} (starts : c ∈ starters) : isBlank c = false := by
  have all : starters.all (fun c => !isBlank c) = true := by decide
  simpa using List.all_eq_true.mp all c starts

theorem isBlank_of_isGap {c : Char} (gap : isGap c = true) : isBlank c = true := by
  simp only [isGap, Bool.or_eq_true, decide_eq_true_eq] at gap
  rcases gap with ((rfl | rfl) | rfl) | rfl <;> decide

theorem trimStart_of_begins {text : List Char} (begins : Begins text) :
    trimStart text = text.dropWhile isGap := by
  obtain ⟨c, rest, starts, shape⟩ := begins
  have gaps : ∀ c ∈ text.takeWhile isGap, isBlank c = true := fun c member =>
    isBlank_of_isGap (List.all_eq_true.mp List.all_takeWhile c member)
  have whole : text = text.takeWhile isGap ++ c :: rest := by
    rw [← shape, List.takeWhile_append_dropWhile]
  rw [shape, whole]
  unfold trimStart
  rw [List.dropWhile_append_of_pos gaps, List.dropWhile_cons, isBlank_starter starts]
  rfl

theorem unguarded_guarded {body text : List Char} (guarded : Guarded body text) :
    unguarded body = text := by
  have trimmed : trimStart body = guard ++ text := trimStart_of_plain guarded
  unfold unguarded
  dsimp only
  rw [trimmed, if_pos (List.isPrefixOf_iff_prefix.mpr (List.prefix_append guard text)),
    List.drop_left]

theorem not_guard_prefix {text : List Char} (begins : Begins text) : ¬ guard <+: trimStart text := by
  intro guarded
  rw [trimStart_of_begins begins] at guarded
  obtain ⟨c, rest, starts, shape⟩ := begins
  rw [shape] at guarded
  have first : ')' = c := (List.cons_prefix_cons.mp guarded).1
  subst first
  exact absurd starts (by decide)

theorem unguarded_plain {body text : List Char} (plain : Plain body text) (begins : Begins text) :
    unguarded body = text.dropWhile isGap := by
  unfold unguarded
  dsimp only
  rw [trimStart_of_plain plain, if_neg, trimStart_of_begins begins]
  exact fun guarded => not_guard_prefix begins (List.isPrefixOf_iff_prefix.mp guarded)

theorem plain_or_guarded (body : List Char) :
    Plain body (unguarded body) ∨ Guarded body (unguarded body) := by
  unfold unguarded
  dsimp only
  split
  · rename_i begins
    right
    obtain ⟨rest, shape⟩ := List.isPrefixOf_iff_prefix.mp begins
    rw [← shape, List.drop_left]
    have plain := plain_trimStart body
    rwa [← shape] at plain
  · left
    exact plain_trimStart body

theorem not_guarded {body text other : List Char} (plain : Plain body text)
    (begins : Begins text) : ¬ Guarded body other := by
  intro guarded
  apply not_guard_prefix begins
  rw [← trimStart_of_plain plain, trimStart_of_plain guarded]
  exact List.prefix_append guard other

section Decode

variable {body text : List Char} {room : Nat}

theorem decode_eq_ok_iff (value : Json) : decode body room = .ok value ↔
    ∃ text, (Plain body text ∨ Guarded body text) ∧ readWithin room text = .ok value := by
  constructor
  · intro decoded
    exact ⟨unguarded body, plain_or_guarded body, decoded⟩
  · rintro ⟨text, plain | guarded, reads⟩
    · unfold decode
      rw [unguarded_plain plain (begins_of_readWithin reads)]
      exact readWithin_dropWhile.mpr reads
    · unfold decode
      rw [unguarded_guarded guarded]
      exact reads

theorem decode_eq_tooDeep_iff (excess : Excess) : decode body room = .error (.tooDeep excess) ↔
    ∃ text, (Plain body text ∨ Guarded body text) ∧
      readWithin room text = .error (.tooDeep excess) := by
  constructor
  · intro deep
    exact ⟨unguarded body, plain_or_guarded body, deep⟩
  · rintro ⟨text, plain | guarded, deep⟩
    · have own := readWithin_eq_tooDeep_iff.mp deep
      unfold decode
      rw [unguarded_plain plain (begins_of_excess? own), readWithin_eq_tooDeep_iff,
        excess?_dropWhile]
      exact own
    · unfold decode
      rw [unguarded_guarded guarded]
      exact deep

end Decode

theorem decode_written {value : Json} (plain : value.IsPlain) {room : Nat}
    (few : (lexemes (written value)).countP (·.lexeme.opens) ≤ room) :
    decode (written value) room = .ok value :=
  (decode_eq_ok_iff value).mpr ⟨_, .inl ⟨[], nofun, rfl⟩, readWithin_written plain few⟩

/-- A body is read exactly if it is blanks and JSON text, or blanks, the guard and JSON text. It is
never both, and it has the value of that text. Every other body is refused for its value, unless the
text in it, with or without the guard, is too deep for the stack. -/
theorem decode_accepts (body : List Char) (room : Nat) :
    (∀ value, decode body room = .ok value ↔
      ∃ text, (Plain body text ∨ Guarded body text) ∧ readWithin room text = .ok value) ∧
    (∀ text value other, Plain body text → readWithin room text = .ok value →
      ¬ Guarded body other) ∧
    (∀ excess, decode body room = .error (.tooDeep excess) ↔
      ∃ text, (Plain body text ∨ Guarded body text) ∧
        readWithin room text = .error (.tooDeep excess)) ∧
    ((∀ text, Plain body text ∨ Guarded body text →
        (∀ value, readWithin room text ≠ .ok value) ∧
          ∀ excess, readWithin room text ≠ .error (.tooDeep excess)) →
      ∃ fault, decode body room = .error fault ∧
        (Failure.json fault).name ∈ ["ValueError", "JSONDecodeError"]) := by
  refine ⟨decode_eq_ok_iff, ?_, decode_eq_tooDeep_iff, ?_⟩
  · intro text value other plain reads
    exact not_guarded plain (begins_of_readWithin reads)
  · intro others
    cases decoded : decode body room with
    | ok value =>
        obtain ⟨text, form, reads⟩ := (decode_eq_ok_iff value).mp decoded
        exact absurd reads ((others text form).1 value)
    | error fault =>
        refine ⟨fault, rfl, ?_⟩
        cases fault with
        | wrong what line column offset => exact List.mem_cons_of_mem _ List.mem_cons_self
        | tooLong digits => exact List.mem_cons_self
        | tooDeep excess =>
            obtain ⟨text, form, deep⟩ := (decode_eq_tooDeep_iff excess).mp decoded
            exact absurd deep ((others text form).2 excess)

theorem decode_behind_guards :
    decode (' ' :: guard ++ ['[', '1', ']']) = .ok (.list [.whole 1]) ∧
      (∀ other, ¬ Guarded ['[', ']'] other) ∧
      decode (' ' :: guard ++ List.replicate 1000 '[') = .error (.tooDeep .list) ∧
      ∃ fault, decode (guard ++ (guard ++ ['[', ']'])) = .error fault ∧
        (Failure.json fault).name ∈ ["ValueError", "JSONDecodeError"] := by
  have one : ∀ item ∈ [Json.whole 1], item.IsPlain :=
    List.forall_mem_singleton.mpr (.whole (by decide))
  have reads : readWithin usualRoom ['[', '1', ']'] = .ok (.list [.whole 1]) :=
    readWithin_written (.list one) (by decide +kernel)
  have nothing : (Json.list []).IsPlain := .list fun item member => absurd member List.not_mem_nil
  have empty : readWithin usualRoom ['[', ']'] = .ok (.list []) :=
    readWithin_written nothing (by decide +kernel)
  have blank : ∀ c ∈ [' '], isBlank c = true := List.forall_mem_singleton.mpr (by decide)
  have deep : readWithin usualRoom (List.replicate 1000 '[') = .error (.tooDeep .list) :=
    readWithin_eq_tooDeep_iff.mpr (excess?_brackets (by decide))
  refine ⟨?_, ?_, ?_, ?_⟩
  · exact ((decode_accepts _ _).1 _).mpr ⟨_, .inr ⟨[' '], blank, rfl⟩, reads⟩
  · exact fun other => (decode_accepts _ _).2.1 _ _ other ⟨[], nofun, rfl⟩ empty
  · exact ((decode_accepts _ _).2.2.1 _).mpr ⟨_, .inr ⟨[' '], blank, rfl⟩, deep⟩
  · have once : Guarded (guard ++ (guard ++ ['[', ']'])) (guard ++ ['[', ']']) := ⟨[], nofun, rfl⟩
    apply (decode_accepts _ usualRoom).2.2.2
    intro text form
    have stray : ¬ Begins text := by
      intro begins
      rcases form with plain | guarded
      · exact not_guarded plain begins once
      · have same := (unguarded_guarded guarded).symm.trans (unguarded_guarded once)
        subst same
        exact not_guard_prefix begins (by decide)
    exact ⟨fun value reads => stray (begins_of_readWithin reads),
      fun excess deep => stray (begins_of_excess? (readWithin_eq_tooDeep_iff.mp deep))⟩

/-- A thousand brackets are no JSON text, but they are not refused for their value. -/
theorem brackets_too_deep :
    (∀ text value, Plain (List.replicate 1000 '[') text ∨ Guarded (List.replicate 1000 '[') text →
      readWithin usualRoom text ≠ .ok value) ∧
    ¬ ∃ fault, decode (List.replicate 1000 '[') = .error fault ∧
      (Failure.json fault).name ∈ ["ValueError", "JSONDecodeError"] := by
  have unguarded : unguarded (List.replicate 1000 '[') = List.replicate 1000 '[' := by decide +kernel
  have deep : decode (List.replicate 1000 '[') = .error (.tooDeep .list) := by
    unfold decode
    rw [unguarded, readWithin_eq_tooDeep_iff]
    exact excess?_brackets (by decide)
  constructor
  · intro text value form reads
    have decoded := (decode_eq_ok_iff value).mpr ⟨text, form, reads⟩
    rw [deep] at decoded
    cases decoded
  · rintro ⟨fault, refused, named⟩
    rw [deep] at refused
    cases refused
    exact absurd named (by decide)

end ProjectScan.Body

namespace ProjectScan

theorem Response.decoded_of_written {response : Response} {value : Json}
    (body : response.body.toList = Json.written value) (plain : value.IsPlain)
    (few : (Json.lexemes response.body.toList).countP (·.lexeme.opens) ≤ response.room) :
    response.decoded = .ok value := by
  unfold decoded
  rw [body] at few ⊢
  exact Body.decode_written plain few

end ProjectScan
