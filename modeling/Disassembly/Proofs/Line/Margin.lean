import Disassembly.Line

/-!
Where the address of a line stands. The margin of a line is empty if the line starts with the mark of
an address; otherwise it ends with the first space that such a mark follows. A text with neither has
no margin. The texts that can be the margin of some line are told by themselves, without what
follows.
-/

namespace Disassembly.Line

/-- `before` and `after` stand around the first space that is followed by a `0x`. -/
structure FirstMark (text before after : List Char) : Prop where
  cut : text = before ++ ' ' :: '0' :: 'x' :: after
  first : ∀ earlier later, text = earlier ++ ' ' :: '0' :: 'x' :: later →
    before.length ≤ earlier.length

inductive Located : List Char → List Char → List Char → Prop where
  | front (after : List Char) : Located ('0' :: 'x' :: after) [] after
  | inside {text before after : List Char} (notFront : ¬['0', 'x'] <+: text)
      (mark : FirstMark text before after) : Located text (before ++ [' ']) after

def IsMargin (margin : List Char) : Prop :=
  margin = [] ∨ margin.getLast? = some ' ' ∧ ¬['0', 'x'] <+: margin ∧
    ¬[' ', '0', 'x'] <:+: margin.dropLast

instance (margin : List Char) : Decidable (IsMargin margin) :=
  inferInstanceAs (Decidable (margin = [] ∨ margin.getLast? = some ' ' ∧ ¬['0', 'x'] <+: margin ∧
    ¬[' ', '0', 'x'] <:+: margin.dropLast))

theorem findMark_eq_some {text margin after : List Char}
    (found : findMark text = some (margin, after)) :
    ∃ before, margin = before ++ [' '] ∧ FirstMark text before after := by
  fun_induction findMark text generalizing margin with
  | case1 => simp at found
  | case2 rest =>
      obtain ⟨rfl, rfl⟩ := Prod.mk.inj (Option.some.inj found)
      exact ⟨[], rfl, rfl, fun _ _ _ => Nat.zero_le _⟩
  | case3 character rest notHere induction =>
      obtain ⟨⟨front, later⟩, foundLater, same⟩ := Option.map_eq_some_iff.mp found
      obtain ⟨rfl, rfl⟩ := Prod.mk.inj same
      obtain ⟨before, rfl, cut, first⟩ := induction foundLater
      refine ⟨character :: before, rfl, by rw [cut, List.cons_append], ?_⟩
      intro earlier after split
      cases earlier with
      | nil =>
          obtain ⟨space, mark⟩ := List.cons.inj split
          exact absurd mark (notHere after space)
      | cons head earlier =>
          have bound := first earlier after (List.cons.inj split).2
          simpa using bound

theorem FirstMark.findMark {text before after : List Char} (mark : FirstMark text before after) :
    findMark text = some (before ++ [' '], after) := by
  induction before generalizing text with
  | nil =>
      rw [mark.cut]
      rfl
  | cons character before induction =>
      have cut := mark.cut
      subst cut
      have later : FirstMark (before ++ ' ' :: '0' :: 'x' :: after) before after := by
        refine ⟨rfl, fun earlier rest split => ?_⟩
        have bound := mark.first (character :: earlier) rest
          (by rw [List.cons_append, split, List.cons_append])
        simpa using bound
      -- A mark at the front would stand before the first one.
      have notHere : ∀ rest, character = ' ' →
          before ++ ' ' :: '0' :: 'x' :: after = '0' :: 'x' :: rest → False := by
        intro rest space same
        have bound := mark.first [] rest (by rw [space, List.cons_append, same]; rfl)
        simp at bound
      rw [List.cons_append, Line.findMark.eq_3 _ _ notHere, induction later]
      rfl

theorem findMark_eq_none_iff (text : List Char) :
    findMark text = none ↔ ¬[' ', '0', 'x'] <:+: text := by
  fun_induction findMark text with
  | case1 => simp
  | case2 rest =>
      have here : [' ', '0', 'x'] <:+: ' ' :: '0' :: 'x' :: rest := ⟨[], rest, rfl⟩
      simp [here]
  | case3 character rest notHere induction =>
      have notPrefix : ¬[' ', '0', 'x'] <+: character :: rest := by
        rintro ⟨later, same⟩
        obtain ⟨space, mark⟩ := List.cons.inj same
        exact notHere later space.symm mark.symm
      rw [Option.map_eq_none_iff, induction, List.infix_cons_iff]
      simp [notPrefix]

theorem locate_of_not_front {text : List Char} (notFront : ¬['0', 'x'] <+: text) :
    locate text = findMark text := by
  unfold locate
  split
  · rename_i rest
    exact absurd ⟨rest, rfl⟩ notFront
  · rfl

theorem locate_eq_some_iff {text margin after : List Char} :
    locate text = some (margin, after) ↔ Located text margin after := by
  constructor
  · intro found
    by_cases front : ['0', 'x'] <+: text
    · obtain ⟨rest, rfl⟩ := front
      obtain ⟨rfl, rfl⟩ := Prod.mk.inj (Option.some.inj found)
      exact .front rest
    · rw [locate_of_not_front front] at found
      obtain ⟨before, rfl, mark⟩ := findMark_eq_some found
      exact .inside front mark
  · intro located
    cases located with
    | front => rfl
    | inside notFront mark => rw [locate_of_not_front notFront, mark.findMark]

theorem locate_eq_none_iff (text : List Char) :
    locate text = none ↔ ¬['0', 'x'] <+: text ∧ ¬[' ', '0', 'x'] <:+: text := by
  by_cases front : ['0', 'x'] <+: text
  · obtain ⟨rest, rfl⟩ := front
    simp [locate]
  · rw [locate_of_not_front front, findMark_eq_none_iff]
    simp [front]

theorem Located.text_eq {text margin after : List Char} (located : Located text margin after) :
    text = margin ++ '0' :: 'x' :: after := by
  cases located with
  | front => rfl
  | inside _ mark => rw [mark.cut, List.append_assoc, List.singleton_append]

theorem Located.isMargin {text margin after : List Char} (located : Located text margin after) :
    IsMargin margin := by
  cases located with
  | front => exact Or.inl rfl
  | @inside text before after notFront mark =>
      refine Or.inr ⟨by simp, fun front => notFront ?_, ?_⟩
      · refine front.trans ⟨'0' :: 'x' :: after, ?_⟩
        rw [mark.cut, List.append_assoc, List.singleton_append]
      · rw [List.dropLast_concat]
        rintro ⟨earlier, between, rfl⟩
        have bound := mark.first earlier (between ++ ' ' :: '0' :: 'x' :: after)
          (by rw [mark.cut]; simp)
        simp only [List.length_append, List.length_cons, List.length_nil] at bound
        omega

/-- Two marks that both follow a space do not overlap. -/
theorem mark_not_straddled {before earlier after later : List Char}
    (same : before ++ ' ' :: '0' :: 'x' :: after = earlier ++ ' ' :: '0' :: 'x' :: later)
    (shorter : earlier.length < before.length) : [' ', '0', 'x'] <:+: before := by
  rcases List.append_eq_append_iff.mp same with ⟨between, longer, _⟩ | ⟨between, cut, tail⟩
  · rw [longer, List.length_append] at shorter
    omega
  · rw [cut, List.length_append] at shorter
    match between, tail with
    | [], _ => simp at shorter
    | [_], tail => simp at tail
    | [_, _], tail => simp at tail
    | space :: zero :: mark :: between, tail =>
        obtain ⟨rfl, rfl, rfl, _⟩ : ' ' = space ∧ '0' = zero ∧ 'x' = mark ∧ _ := by simpa using tail
        exact ⟨earlier, between, by rw [cut]; simp⟩

theorem IsMargin.located {margin : List Char} (isMargin : IsMargin margin) (after : List Char) :
    Located (margin ++ '0' :: 'x' :: after) margin after := by
  rcases isMargin with rfl | ⟨last, notFront, noMark⟩
  · exact .front after
  · obtain ⟨before, rfl⟩ := List.getLast?_eq_some_iff.mp last
    rw [List.dropLast_concat] at noMark
    apply Located.inside
    · intro front
      match before, front with
      | [], front => simp at front
      | [_], front => simp at front
      | first :: second :: before, ⟨rest, same⟩ =>
          obtain ⟨rfl, rfl, _⟩ : '0' = first ∧ 'x' = second ∧ _ := by simpa using same
          exact notFront ⟨before ++ [' '], rfl⟩
    · refine ⟨by simp, fun earlier later same => ?_⟩
      apply Nat.le_of_not_lt
      intro shorter
      rw [List.append_assoc, List.singleton_append] at same
      exact noMark (mark_not_straddled same shorter)

end Disassembly.Line
