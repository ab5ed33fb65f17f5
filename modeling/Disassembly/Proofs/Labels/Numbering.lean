import Disassembly.Proofs.Operand.Target
import Disassembly.Tracker
import Mathlib.Data.List.Sort
import Mathlib.Data.Set.Card

/-!
The numbers of labels. The labels of some instructions belong to the targets of jumps that have an
instruction, and the number in a label is that of the smaller targets. Two targets never share a
label, whatever the number of digits, and the order of the instructions does not count. Nothing is
assumed about the addresses: they may repeat and come in any order.
-/

namespace Disassembly.Labels

open Text

def IsTarget (family : Family) (instructions : List Instruction) (address : Int) : Prop :=
  (∃ instruction ∈ instructions, instruction.address = address) ∧
    ∃ instruction ∈ instructions, ∃ operand ∈ instruction.operands,
      Operand.jumpTarget family instruction.mnemonic operand = some address

theorem mem_insertAddress (address other : Int) (list : List Int) :
    other ∈ insertAddress address list ↔ other = address ∨ other ∈ list := by
  induction list with
  | nil => simp [insertAddress]
  | cons first rest induction =>
      unfold insertAddress
      split
      · simp
      · split
        · rename_i same
          simp [same]
        · rw [List.mem_cons, induction, List.mem_cons]
          exact or_left_comm

theorem pairwise_insertAddress (address : Int) {list : List Int}
    (ascends : list.Pairwise (· < ·)) : (insertAddress address list).Pairwise (· < ·) := by
  induction list with
  | nil => exact List.pairwise_singleton _ _
  | cons first rest induction =>
      obtain ⟨above, later⟩ := List.pairwise_cons.mp ascends
      unfold insertAddress
      split
      · rename_i below
        apply List.Pairwise.cons
        · intro other member
          rcases List.mem_cons.mp member with same | inRest
          · rw [same]
            exact below
          · exact below.trans (above other inRest)
        · exact ascends
      · split
        · exact ascends
        · rename_i notBelow different
          apply List.Pairwise.cons
          · intro other member
            rcases (mem_insertAddress address other rest).mp member with same | inRest
            · omega
            · exact above other inRest
          · exact induction later

theorem mem_ascending (address : Int) (addresses : List Int) :
    address ∈ ascending addresses ↔ address ∈ addresses := by
  induction addresses with
  | nil => rfl
  | cons first rest induction =>
      have step : ascending (first :: rest) = insertAddress first (ascending rest) := rfl
      rw [step, mem_insertAddress, induction, List.mem_cons]

theorem pairwise_ascending (addresses : List Int) : (ascending addresses).Pairwise (· < ·) := by
  induction addresses with
  | nil => exact List.Pairwise.nil
  | cons first rest induction => exact pairwise_insertAddress first induction

/-- Addresses in ascending order are determined by which they are. -/
theorem ascending_eq {left right : List Int} (same : ∀ address, address ∈ left ↔ address ∈ right) :
    ascending left = ascending right := by
  apply (pairwise_ascending left).eq_of_mem_iff (pairwise_ascending right)
  intro address
  rw [mem_ascending, mem_ascending]
  exact same address

theorem mem_targets (family : Family) (instructions : List Instruction) (address : Int) :
    address ∈ targets family (AddressIndex.ofInstructions instructions) instructions ↔
      IsTarget family instructions address := by
  rw [targets, List.mem_filter, AddressIndex.covers_ofInstructions, and_comm, IsTarget]
  simp [jumpTargets]

/-! Names and numbers. -/

def number (label : List Char) : Nat := Nat.ofDigitChars 10 label.tail 0

theorem number_name (value : Nat) : number (name value) = value := by
  simp [number, name, padLeft, Nat.ofDigitChars_append]

theorem name_injective : Function.Injective name := Function.LeftInverse.injective number_name

def numbered (start : Nat) (addresses : List Int) : Labels :=
  (addresses.zipIdx start).map fun entry => (entry.1, name entry.2)

theorem numbered_cons (start : Nat) (address : Int) (rest : List Int) :
    numbered start (address :: rest) = (address, name start) :: numbered (start + 1) rest := rfl

theorem addresses_numbered (start : Nat) (addresses : List Int) :
    (numbered start addresses).map Prod.fst = addresses := by
  induction addresses generalizing start with
  | nil => rfl
  | cons address rest induction => rw [numbered_cons, List.map_cons, induction]

theorem names_numbered (start : Nat) (addresses : List Int) :
    (numbered start addresses).map Prod.snd =
      (List.range' start addresses.length).map name := by
  induction addresses generalizing start with
  | nil => rfl
  | cons address rest induction =>
      rw [numbered_cons, List.map_cons, induction, List.length_cons, List.range'_succ,
        List.map_cons]

/-- Among ascending addresses the number of an address is that of the smaller ones. -/
theorem label?_numbered (start : Nat) {addresses : List Int}
    (ascends : addresses.Pairwise (· < ·)) (address : Int) :
    (numbered start addresses).label? address =
      if address ∈ addresses then some (name (start + addresses.countP (· < address)))
      else none := by
  induction addresses generalizing start with
  | nil => rfl
  | cons first rest induction =>
      obtain ⟨above, later⟩ := List.pairwise_cons.mp ascends
      have tail := induction (start + 1) later
      rw [numbered_cons, label?, List.lookup_cons]
      rw [label?] at tail
      -- No address is below the first one, and the first one is below all others.
      by_cases here : address = first
      · subst here
        have none : rest.countP (· < address) = 0 := by
          rw [List.countP_eq_zero]
          intro other member
          have bound := above other member
          simp
          omega
        simp [none]
      · have different : (address == first) = false := by simpa using here
        rw [different, tail]
        by_cases member : address ∈ rest
        · have bound := above address member
          have counted : (first :: rest).countP (· < address) = rest.countP (· < address) + 1 :=
            List.countP_cons_of_pos (decide_eq_true bound)
          rw [if_pos member, if_pos (List.mem_cons_of_mem first member), counted,
            Nat.add_assoc, Nat.add_comm 1]
        · simp [member, here]

/-- Among ascending addresses none is counted twice. -/
theorem countP_eq_ncard {addresses : List Int} (ascends : addresses.Pairwise (· < ·))
    (bound : Int) :
    addresses.countP (· < bound) = {other | other ∈ addresses ∧ other < bound}.ncard := by
  have distinct : (addresses.filter (· < bound)).Nodup :=
    (ascends.imp fun below => ne_of_lt below).filter _
  have elements : {other | other ∈ addresses ∧ other < bound} =
      ((addresses.filter (· < bound)).toFinset : Set Int) := by
    ext other
    simp
  rw [List.countP_eq_length_filter, elements, Set.ncard_coe_finset,
    List.toFinset_card_of_nodup distinct]

/-! The labels of instructions. -/

theorem ofInstructions_eq (family : Family) (instructions : List Instruction) :
    ofInstructions family instructions =
      numbered 0 (ascending
        (targets family (AddressIndex.ofInstructions instructions) instructions)) := rfl

theorem label?_ofInstructions (family : Family) (instructions : List Instruction)
    (address : Int) [Decidable (IsTarget family instructions address)] :
    (ofInstructions family instructions).label? address =
      if IsTarget family instructions address then
        some (name {other | IsTarget family instructions other ∧ other < address}.ncard)
      else none := by
  rw [ofInstructions_eq, label?_numbered 0 (pairwise_ascending _),
    countP_eq_ncard (pairwise_ascending _), Nat.zero_add]
  simp only [mem_ascending, mem_targets]

theorem IsTarget.mono {family : Family} {left right : List Instruction} (included : left ⊆ right)
    {address : Int} (isTarget : IsTarget family left address) :
    IsTarget family right address := by
  obtain ⟨⟨instruction, member, at_address⟩, source, jumps, rest⟩ := isTarget
  exact ⟨⟨instruction, included member, at_address⟩, source, included jumps, rest⟩

theorem IsTarget.perm {family : Family} {left right : List Instruction} (same : left.Perm right)
    {address : Int} (isTarget : IsTarget family left address) :
    IsTarget family right address :=
  isTarget.mono same.subset

theorem ofInstructions_perm (family : Family) {left right : List Instruction}
    (same : left.Perm right) : ofInstructions family left = ofInstructions family right := by
  rw [ofInstructions_eq, ofInstructions_eq]
  congr 1
  apply ascending_eq
  intro address
  rw [mem_targets, mem_targets]
  exact ⟨IsTarget.perm same, IsTarget.perm same.symm⟩

/-- What the labels of some instructions are. The number in a label is that of the smaller
targets, in four digits or more. -/
structure Ranked (family : Family) (instructions : List Instruction) (labels : Labels) : Prop where
  finite : {address | IsTarget family instructions address}.Finite
  labelled : ∀ address, (labels.label? address).isSome ↔ IsTarget family instructions address
  label_eq : ∀ address label, labels.label? address = some label →
    label = 'L' :: padLeft 4 '0' (Nat.toDigits 10
      {other | IsTarget family instructions other ∧ other < address}.ncard)
  distinct : ∀ left right label,
    labels.label? left = some label → labels.label? right = some label → left = right
  ascends : (labels.map Prod.fst).Pairwise (· < ·)
  numbers : labels.map Prod.snd = (List.range labels.length).map name

theorem finite_isTarget (family : Family) (instructions : List Instruction) :
    {address | IsTarget family instructions address}.Finite := by
  apply (List.finite_toSet
    (targets family (AddressIndex.ofInstructions instructions) instructions)).subset
  intro address isTarget
  exact (mem_targets family instructions address).mpr isTarget

/-- Of two targets the smaller one has fewer targets below it. -/
theorem ncard_lt_ncard {family : Family} {instructions : List Instruction} {left right : Int}
    (isTarget : IsTarget family instructions left) (below : left < right) :
    {other | IsTarget family instructions other ∧ other < left}.ncard <
      {other | IsTarget family instructions other ∧ other < right}.ncard := by
  apply Set.ncard_lt_ncard
  · constructor
    · intro other member
      exact ⟨member.1, member.2.trans below⟩
    · intro included
      have itself := included ⟨isTarget, below⟩
      exact lt_irrefl left itself.2
  · apply (finite_isTarget family instructions).subset
    intro other member
    exact member.1

theorem ranked_ofInstructions (family : Family) (instructions : List Instruction) :
    Ranked family instructions (ofInstructions family instructions) := by
  classical
  have found : ∀ address label, (ofInstructions family instructions).label? address = some label →
      IsTarget family instructions address ∧
        label = name {other | IsTarget family instructions other ∧ other < address}.ncard := by
    intro address label known
    rw [label?_ofInstructions] at known
    split at known
    · rename_i isTarget
      exact ⟨isTarget, (Option.some.inj known).symm⟩
    · cases known
  constructor
  case finite => exact finite_isTarget family instructions
  case labelled =>
    intro address
    rw [label?_ofInstructions]
    by_cases isTarget : IsTarget family instructions address <;> simp [isTarget]
  case label_eq =>
    intro address label known
    exact (found address label known).2
  case distinct =>
    intro left right label leftKnown rightKnown
    obtain ⟨leftTarget, leftLabel⟩ := found left label leftKnown
    obtain ⟨rightTarget, rightLabel⟩ := found right label rightKnown
    have sameNumber := name_injective (leftLabel.symm.trans rightLabel)
    rcases lt_trichotomy left right with below | same | above
    · exact absurd sameNumber (ncard_lt_ncard leftTarget below).ne
    · exact same
    · exact absurd sameNumber (ncard_lt_ncard rightTarget above).ne'
  case ascends =>
    rw [ofInstructions_eq, addresses_numbered]
    exact pairwise_ascending _
  case numbers =>
    have length : (ofInstructions family instructions).length =
        (ascending (targets family (AddressIndex.ofInstructions instructions)
          instructions)).length := by
      rw [ofInstructions_eq, ← List.length_map Prod.fst, addresses_numbered]
    rw [length, ofInstructions_eq, names_numbered, List.range_eq_range']

/-- The numbers in labels are in the order of their addresses. -/
theorem Ranked.number_lt_number_iff {family : Family} {instructions : List Instruction}
    {labels : Labels} (ranked : Ranked family instructions labels) {left right : Int}
    {leftLabel rightLabel : List Char} (leftKnown : labels.label? left = some leftLabel)
    (rightKnown : labels.label? right = some rightLabel) :
    number leftLabel < number rightLabel ↔ left < right := by
  have leftTarget := (ranked.labelled left).mp (by rw [leftKnown]; rfl)
  have rightTarget := (ranked.labelled right).mp (by rw [rightKnown]; rfl)
  have leftNamed : leftLabel = name _ := ranked.label_eq left leftLabel leftKnown
  have rightNamed : rightLabel = name _ := ranked.label_eq right rightLabel rightKnown
  rw [leftNamed, rightNamed, number_name, number_name]
  constructor
  · intro fewer
    by_contra notBelow
    rcases (not_lt.mp notBelow).lt_or_eq with above | same
    · exact absurd fewer (ncard_lt_ncard rightTarget above).le.not_gt
    · rw [same] at fewer
      exact lt_irrefl _ fewer
  · exact ncard_lt_ncard leftTarget

end Disassembly.Labels

namespace Disassembly.Tracker

def ofInstructions (instructions : List Instruction) : Tracker := instructions.foldl record empty

theorem foldl_record (tracker : Tracker) (instructions : List Instruction) :
    instructions.foldl record tracker =
      ⟨tracker.instructions ++ instructions, tracker.labels,
        instructions.foldl AddressIndex.add tracker.index⟩ := by
  induction instructions generalizing tracker with
  | nil => rw [List.append_nil, List.foldl_nil, List.foldl_nil]
  | cons instruction rest induction =>
      rw [List.foldl_cons, induction, List.foldl_cons]
      simp [record]

theorem labels_buildLabels (family : Family) (instructions : List Instruction) :
    ((ofInstructions instructions).buildLabels family).labels =
      Labels.ofInstructions family instructions := by
  rw [ofInstructions, foldl_record]
  rfl

/-- The labels a tracker builds are those of the ranked targets, whatever order the instructions
came in. Whether an operand is a target is decided for every operand: what is taken for an address
has a value. -/
theorem buildLabels_ranks_targets (family : Family) (instructions : List Instruction) :
    (∀ mnemonic operand, Operand.isAddress family (some mnemonic) operand = true →
      (Operand.jumpTarget family mnemonic operand).isSome) ∧
    Labels.Ranked family instructions
      ((ofInstructions instructions).buildLabels family).labels ∧
    ∀ other, instructions.Perm other →
      ((ofInstructions other).buildLabels family).labels =
        ((ofInstructions instructions).buildLabels family).labels := by
  constructor
  · intro mnemonic operand address
    rw [Operand.jumpTarget_of_isAddress address]
    rfl
  constructor
  · rw [labels_buildLabels]
    exact Labels.ranked_ofInstructions family instructions
  · intro other same
    rw [labels_buildLabels, labels_buildLabels]
    exact Labels.ofInstructions_perm family same.symm

end Disassembly.Tracker
