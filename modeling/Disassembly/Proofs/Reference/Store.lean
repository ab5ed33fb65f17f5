import Disassembly.Listing.Rendering

/-!
What one request for descriptions does to a store. The slot of the family is loaded if it was not,
and the slot of the other family is left alone. Whoever asks again gets the same descriptions and no
report, whatever the documents have become. A refused document is counted and leaves everything else
as it was. Rendering a listing asks once for every instruction, so all its lines come from one and
the same descriptions, or there are no lines at all.
-/

namespace Disassembly.Reference

def LoadReport.family : LoadReport → Family
  | .loaded family _ => family
  | .failed family _ => family

def Slot.loadedFrom (documents : Documents) (family : Family) (slot : Slot) : Slot :=
  match slot.descriptions with
  | some _ => slot
  | none => ⟨slot.loads + 1, (Store.load documents family).toOption.map Prod.fst⟩

namespace Store

/-- The refusal that meets whoever asks for a family. A family that is known meets none. -/
def refusal? (store : Store) (documents : Documents) (family : Family) : Option Markup.Refusal :=
  match (store.slot family).descriptions, (documents family).read with
  | none, .refused refusal => some refusal
  | _, _ => none

@[simp] theorem slot_setSlot_self (store : Store) (slot : Slot) (family : Family) :
    (store.setSlot slot family).slot family = slot := by
  cases family <;> rfl

theorem slot_setSlot_other (store : Store) (slot : Slot) {family asked : Family}
    (other : asked ≠ family) : (store.setSlot slot family).slot asked = store.slot asked := by
  cases family with
  | x86 =>
      cases asked with
      | x86 => exact absurd rfl other
      | arm => rfl
  | arm =>
      cases asked with
      | x86 => rfl
      | arm => exact absurd rfl other

theorem load_eq_error_iff {documents : Documents} {family : Family} {refusal : Markup.Refusal} :
    load documents family = .error refusal ↔ (documents family).read = .refused refusal := by
  rw [load]
  cases (documents family).read <;> simp

theorem refusal?_of_known {store : Store} {family : Family} {descriptions : Descriptions}
    (known : (store.slot family).descriptions = some descriptions) (documents : Documents) :
    store.refusal? documents family = none := by
  rw [refusal?, known]

theorem refusal?_eq_some_iff {store : Store} {documents : Documents} {family : Family}
    {refusal : Markup.Refusal} :
    store.refusal? documents family = some refusal ↔
      (store.slot family).descriptions = none ∧ load documents family = .error refusal := by
  rw [load_eq_error_iff, refusal?]
  cases (store.slot family).descriptions <;> cases (documents family).read <;> simp

theorem access_of_known {store : Store} {family : Family} {descriptions : Descriptions}
    (known : (store.slot family).descriptions = some descriptions) (documents : Documents) :
    store.access documents family = (.ok descriptions, store, []) := by
  rw [access, known]

theorem access_of_loaded {store : Store} {documents : Documents} {family : Family}
    {descriptions : Descriptions} {report : LoadReport}
    (unknown : (store.slot family).descriptions = none)
    (loaded : load documents family = .ok (descriptions, report)) :
    store.access documents family =
      (.ok descriptions, store.setSlot ⟨store.loads family + 1, some descriptions⟩ family,
        [report]) := by
  rw [access, unknown]
  simp only [loaded]

theorem access_of_refused {store : Store} {documents : Documents} {family : Family}
    {refusal : Markup.Refusal} (refused : store.refusal? documents family = some refusal) :
    store.access documents family =
      (.error refusal, store.setSlot ⟨store.loads family + 1, none⟩ family, []) := by
  rcases refusal?_eq_some_iff.mp refused with ⟨unknown, failed⟩
  rw [access, unknown]
  simp only [failed]

/-- A family that is asked for is known already, or its document is loaded, or it is refused. -/
theorem access_cases (store : Store) (documents : Documents) (family : Family) :
    (∃ descriptions, (store.slot family).descriptions = some descriptions) ∨
      (∃ descriptions report, (store.slot family).descriptions = none ∧
        load documents family = .ok (descriptions, report)) ∨
      ∃ refusal, store.refusal? documents family = some refusal := by
  cases known : (store.slot family).descriptions with
  | some descriptions => exact .inl ⟨descriptions, rfl⟩
  | none =>
      right
      cases outcome : load documents family with
      | ok found => exact .inl ⟨found.1, found.2, rfl, rfl⟩
      | error refusal => exact .inr ⟨refusal, refusal?_eq_some_iff.mpr ⟨known, outcome⟩⟩

theorem slot_access_self (store : Store) (documents : Documents) (family : Family) :
    (store.access documents family).2.1.slot family =
      (store.slot family).loadedFrom documents family := by
  rcases access_cases store documents family with
    ⟨descriptions, known⟩ | ⟨descriptions, report, unknown, loaded⟩ | ⟨refusal, refused⟩
  · rw [access_of_known known, Slot.loadedFrom, known]
  · rw [access_of_loaded unknown loaded, Slot.loadedFrom, unknown, loaded]
    exact slot_setSlot_self _ _ _
  · rcases refusal?_eq_some_iff.mp refused with ⟨unknown, failed⟩
    rw [access_of_refused refused, Slot.loadedFrom, unknown, failed]
    exact slot_setSlot_self _ _ _

theorem slot_access_other (store : Store) (documents : Documents) {family asked : Family}
    (other : asked ≠ family) :
    (store.access documents family).2.1.slot asked = store.slot asked := by
  rcases access_cases store documents family with
    ⟨descriptions, known⟩ | ⟨descriptions, report, unknown, loaded⟩ | ⟨refusal, refused⟩
  · rw [access_of_known known]
  · rw [access_of_loaded unknown loaded]
    exact slot_setSlot_other _ _ other
  · rw [access_of_refused refused]
    exact slot_setSlot_other _ _ other

/-- Whoever is not refused gets the descriptions that the store has from then on. -/
theorem exists_access {store : Store} {documents : Documents} {family : Family}
    (allowed : store.refusal? documents family = none) :
    ∃ descriptions, (store.access documents family).1 = .ok descriptions ∧
      ((store.access documents family).2.1.slot family).descriptions = some descriptions := by
  rcases access_cases store documents family with
    ⟨descriptions, known⟩ | ⟨descriptions, report, unknown, loaded⟩ | ⟨refusal, refused⟩
  · rw [access_of_known known]
    exact ⟨descriptions, rfl, known⟩
  · rw [access_of_loaded unknown loaded]
    refine ⟨descriptions, rfl, ?_⟩
    rw [slot_setSlot_self]
  · cases allowed.symm.trans refused

theorem access_eq_error_iff {store : Store} {documents : Documents} {family : Family}
    {refusal : Markup.Refusal} :
    (store.access documents family).1 = .error refusal ↔
      store.refusal? documents family = some refusal := by
  constructor
  · intro failed
    cases outcome : store.refusal? documents family with
    | none =>
        rcases exists_access outcome with ⟨_, found, _⟩
        cases failed.symm.trans found
    | some given =>
        rw [access_of_refused outcome, Except.error.injEq] at failed
        rw [failed]
  · intro refused
    rw [access_of_refused refused]

theorem refusal?_of_access {store : Store} {documents : Documents} {family : Family}
    {descriptions : Descriptions} (found : (store.access documents family).1 = .ok descriptions) :
    store.refusal? documents family = none := by
  apply Option.eq_none_iff_forall_not_mem.mpr
  intro refusal refused
  cases found.symm.trans (access_eq_error_iff.mpr refused)

theorem known_access {store : Store} {documents : Documents} {family : Family}
    {descriptions : Descriptions} (found : (store.access documents family).1 = .ok descriptions) :
    ((store.access documents family).2.1.slot family).descriptions = some descriptions := by
  rcases exists_access (refusal?_of_access found) with ⟨same, isFound, known⟩
  rw [found, Except.ok.injEq] at isFound
  rw [known, isFound]

/-- What was found once is found again, and nothing is reported. -/
theorem access_again {store : Store} {documents : Documents} {family : Family}
    {descriptions : Descriptions} (found : (store.access documents family).1 = .ok descriptions)
    (later : Documents) :
    (store.access documents family).2.1.access later family =
      (.ok descriptions, (store.access documents family).2.1, []) :=
  access_of_known (known_access found) later

/-- To find one family takes no refusal from another. -/
theorem refusal?_access {store : Store} {documents : Documents} {family : Family}
    {descriptions : Descriptions} (found : (store.access documents family).1 = .ok descriptions) :
    (store.access documents family).2.1.refusal? documents = store.refusal? documents := by
  funext asked
  by_cases same : asked = family
  · subst same
    rw [refusal?_of_known (known_access found), refusal?_of_access found]
  · rw [refusal?, refusal?, slot_access_other store documents same]

theorem family_of_mem_access {store : Store} {documents : Documents} {family : Family}
    {report : LoadReport} (member : report ∈ (store.access documents family).2.2) :
    report.family = family := by
  rcases access_cases store documents family with
    ⟨descriptions, known⟩ | ⟨descriptions, given, unknown, loaded⟩ | ⟨refusal, refused⟩
  · rw [access_of_known known] at member
    cases member
  · rw [access_of_loaded unknown loaded, List.mem_singleton] at member
    rw [load] at loaded
    split at loaded <;> cases loaded <;> rw [member] <;> rfl
  · rw [access_of_refused refused] at member
    cases member

def Holds (documents : Documents) (store : Store) : Prop :=
  ∀ family descriptions, (store.slot family).descriptions = some descriptions →
    ∃ report, load documents family = .ok (descriptions, report)

theorem holds_empty (documents : Documents) : empty.Holds documents := by
  intro family descriptions known
  cases family with
  | x86 => cases known
  | arm => cases known

theorem fst_access_of_unknown {store : Store} {family : Family}
    (unknown : (store.slot family).descriptions = none) (documents : Documents) :
    (store.access documents family).1 = (load documents family).map Prod.fst := by
  rcases access_cases store documents family with
    ⟨descriptions, known⟩ | ⟨descriptions, report, _, loaded⟩ | ⟨refusal, refused⟩
  · cases unknown.symm.trans known
  · rw [access_of_loaded unknown loaded, loaded]
    rfl
  · rw [access_of_refused refused, (refusal?_eq_some_iff.mp refused).2]
    rfl

/-- Such a store gives what loading the document gives, found or refused. -/
theorem Holds.access_eq {documents : Documents} {store : Store} (holds : store.Holds documents)
    (family : Family) :
    (store.access documents family).1 = (load documents family).map Prod.fst := by
  cases known : (store.slot family).descriptions with
  | some descriptions =>
      rcases holds family descriptions known with ⟨report, loaded⟩
      rw [access_of_known known, loaded]
      rfl
  | none => exact fst_access_of_unknown known documents

theorem Holds.access_of_loaded {documents : Documents} {store : Store} {family : Family}
    {descriptions : Descriptions} {report : LoadReport} (holds : store.Holds documents)
    (loaded : load documents family = .ok (descriptions, report)) :
    (store.access documents family).1 = .ok descriptions := by
  rw [holds.access_eq, loaded, Except.map]

theorem Holds.access {documents : Documents} {store : Store} (holds : store.Holds documents)
    (family : Family) : (store.access documents family).2.1.Holds documents := by
  intro asked descriptions known
  by_cases same : asked = family
  · subst same
    rw [slot_access_self, Slot.loadedFrom] at known
    cases before : (store.slot asked).descriptions with
    | some earlier =>
        rw [before] at known
        exact holds asked descriptions (before.trans (before.symm.trans known))
    | none =>
        rw [before] at known
        cases outcome : load documents asked with
        | ok found =>
            rw [outcome] at known
            cases known
            exact ⟨found.2, rfl⟩
        | error refusal =>
            rw [outcome] at known
            cases known
  · rw [slot_access_other store documents same] at known
    exact holds asked descriptions known

end Store

/-- A document of a single element, in an encoding that no code page can describe. -/
def refusedDocument : Source :=
  .file (Text.Utf8.encode "<?xml version=\x271.0\x27 encoding=\x27gbk\x27?><r/>".toList)

end Disassembly.Reference

namespace Disassembly.Listing

open Reference

theorem renderFrom_nil (listing : Listing) (documents : Documents) (store : Store) :
    listing.renderFrom documents store [] = ⟨.ok [], store, []⟩ := rfl

/-- All lines of a listing are described from what the first of them finds. -/
theorem renderFrom_of_ne_nil (listing : Listing) (documents : Documents) (store : Store)
    {instructions : List Instruction} (filled : instructions ≠ []) :
    listing.renderFrom documents store instructions =
      let found := store.access documents listing.architecture.family
      ⟨found.1.map fun descriptions => instructions.flatMap fun instruction =>
          listing.instructionLines instruction
            (descriptions.describe (describedMnemonic instruction)),
        found.2.1, found.2.2⟩ := by
  induction instructions generalizing store with
  | nil => exact absurd rfl filled
  | cons instruction rest induction =>
      rw [renderFrom, Store.lookup]
      cases found : (store.access documents listing.architecture.family).1 with
      | error refusal => simp [found, Except.map]
      | ok descriptions =>
          by_cases more : rest = []
          · subst more
            simp [found, renderFrom_nil, Except.map]
          · simp [found, induction _ more, Store.access_again found, Except.map]

theorem renderThrough_of_nil (listing : Listing) (none : listing.instructions = [])
    (documents : Documents) (store : Store) :
    listing.renderThrough documents store = ⟨.ok [], store, []⟩ := by
  rw [renderThrough, none, renderFrom_nil]

theorem renderThrough_of_ne_nil (listing : Listing) (filled : listing.instructions ≠ [])
    (documents : Documents) (store : Store) :
    listing.renderThrough documents store =
      let found := store.access documents listing.architecture.family
      ⟨found.1.map fun descriptions => listing.render descriptions.describe, found.2.1,
        found.2.2⟩ :=
  renderFrom_of_ne_nil listing documents store filled

theorem holds_renderThrough (listing : Listing) {documents : Documents} {store : Store}
    (holds : store.Holds documents) :
    (listing.renderThrough documents store).store.Holds documents := by
  by_cases none : listing.instructions = []
  · rw [renderThrough_of_nil listing none]
    exact holds
  · rw [renderThrough_of_ne_nil listing none]
    exact holds.access _

theorem renderThrough_lines_of_access (listing : Listing) {documents : Documents} {store : Store}
    {descriptions : Descriptions}
    (found : (store.access documents listing.architecture.family).1 = .ok descriptions) :
    (listing.renderThrough documents store).lines = .ok (listing.render descriptions.describe) := by
  by_cases none : listing.instructions = []
  · rw [renderThrough_of_nil listing none, render, none, List.flatMap_nil]
  · rw [renderThrough_of_ne_nil listing none]
    exact congrArg (Except.map _) found

/-- A listing is rendered unless an instruction asks for a document that is refused. -/
theorem exists_renderThrough_lines (listing : Listing) {documents : Documents} {store : Store}
    (allowed : listing.instructions = [] ∨
      store.refusal? documents listing.architecture.family = none) :
    ∃ describe, (listing.renderThrough documents store).lines = .ok (listing.render describe) := by
  rcases allowed with none | allowed
  · refine ⟨fun _ => .none, ?_⟩
    rw [renderThrough_of_nil listing none, render, none, List.flatMap_nil]
  · rcases Store.exists_access allowed with ⟨descriptions, found, _⟩
    exact ⟨_, listing.renderThrough_lines_of_access found⟩

theorem renderThrough_lines_of_refused (listing : Listing) {documents : Documents} {store : Store}
    {refusal : Markup.Refusal} (filled : listing.instructions ≠ [])
    (refused : store.refusal? documents listing.architecture.family = some refusal) :
    (listing.renderThrough documents store).lines = .error refusal := by
  rw [renderThrough_of_ne_nil listing filled, Store.access_of_refused refused]
  rfl

end Disassembly.Listing
