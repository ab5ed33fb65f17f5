import Mathlib.Data.List.Induction
import Mathlib.Data.List.TakeWhile
import Mathlib.Data.Nat.Find
import Disassembly.Proofs.Markup.Tree
import Disassembly.Reference.Store

/-!
The descriptions of a document as a law about its element tree. Only the closings of `mnem` and
`brief` elements count, in document order and however the elements are nested. A mnemonic has the
description that closes first behind its name, where its last name with a description behind it is
the one that counts. A name without letters, and a name behind the last description, give nothing.
-/

namespace Disassembly.Markup.Tree

mutual

def fullText : Tree → List Char
  | .text content => content
  | .element _ children => fullTexts children

def fullTexts : List Tree → List Char
  | [] => []
  | tree :: rest => fullText tree ++ fullTexts rest

end

mutual

/-- A tree as it is kept when nothing of it is let go. -/
def node : Tree → Reference.Node
  | .text content => .text content
  | .element tag children => .element tag.text (nodes children)

def nodes : List Tree → List Reference.Node
  | [] => []
  | tree :: rest => node tree :: nodes rest

end

mutual

theorem fullText_node (tree : Tree) : (node tree).fullText = fullText tree := by
  cases tree with
  | text content => rfl
  | element tag children => exact fullTexts_nodes children

theorem fullTexts_nodes (trees : List Tree) :
    Reference.Node.fullTexts (nodes trees) = fullTexts trees := by
  cases trees with
  | nil => rfl
  | cons tree rest =>
      rw [nodes, Reference.Node.fullTexts, fullText_node tree, fullTexts_nodes rest, fullTexts]

end

end Disassembly.Markup.Tree

namespace Disassembly.Reference

open Markup Text

/-- An element `mnem` or `brief` closes with its full text. -/
inductive Closing where
  | mnemonic (content : List Char)
  | brief (content : List Char)
deriving DecidableEq, Repr

namespace Closing

/-- What the closing of an element counts for. The case of its name does not matter. -/
def ofName (name content : List Char) : List Closing :=
  if lower name = "mnem".toList then [.mnemonic content]
  else if lower name = "brief".toList then [.brief content]
  else []

mutual

def ofTree : Markup.Tree → List Closing
  | .text _ => []
  | .element tag children =>
      ofTrees children ++ ofName tag.base (Markup.Tree.fullTexts children)

def ofTrees : List Markup.Tree → List Closing
  | [] => []
  | tree :: rest => ofTree tree ++ ofTrees rest

end

def ofRole (content : List Char) : Role → List Closing
  | .mnemonic => [.mnemonic content]
  | .brief => [.brief content]
  | .other => []

end Closing

/-- The last brace of a tag ends the address, wherever else braces stand in it. -/
theorem localName_text (tag : Tag) : localName tag.text = lower tag.base := by
  have simple : ∀ character ∈ tag.base.reverse, (character != '\x7d') = true := by
    intro character member
    rw [bne_iff_ne]
    rintro rfl
    exact tag.simple (List.mem_reverse.mp member)
  have run : tag.text.reverse.takeWhile (· != '\x7d') = tag.base.reverse := by
    rw [Tag.text]
    cases tag.address with
    | none => exact List.takeWhile_eq_self_iff.mpr simple
    | some address => simp [List.takeWhile_append_of_pos simple]
  rw [localName, run, List.reverse_reverse]

theorem Closing.ofRole_ofTag (tag : Tag) (content : List Char) :
    ofRole content (Role.ofTag tag.text) = ofName tag.base content := by
  rw [Role.ofTag, localName_text, ofName]
  split
  · rfl
  · split <;> rfl

def NamedAt (closings : List Closing) (mnemonic : List Char) (place : Nat) : Prop :=
  ∃ content, closings[place]? = some (.mnemonic content) ∧ lower (strip content) = mnemonic

def BriefAt (closings : List Closing) (description : List Char) (place : Nat) : Prop :=
  ∃ content, closings[place]? = some (.brief content) ∧ strip content = description

def BriefBehind (closings : List Closing) (place : Nat) : Prop :=
  ∃ description later, place < later ∧ BriefAt closings description later

def Described (closings : List Closing) (mnemonic : List Char) : Prop :=
  ∃ place, NamedAt closings mnemonic place ∧ BriefBehind closings place

def Waiting (closings : List Closing) (mnemonic : List Char) : Prop :=
  ∃ place, NamedAt closings mnemonic place ∧ ¬ BriefBehind closings place

/-- The last name of the mnemonic with a description behind it, and the first description to close
behind that name. -/
structure DescribedAt (closings : List Closing) (mnemonic description : List Char)
    (name brief : Nat) : Prop where
  named : NamedAt closings mnemonic name
  described : BriefAt closings description brief
  behind : name < brief
  first : ∀ other between, name < between → between < brief → ¬ BriefAt closings other between
  last : ∀ later, name < later → NamedAt closings mnemonic later → ¬ BriefBehind closings later

section Places

variable {closings : List Closing} {mnemonic description content : List Char} {place : Nat}

theorem NamedAt.lt_length (named : NamedAt closings mnemonic place) : place < closings.length := by
  obtain ⟨_, found, _⟩ := named
  exact (List.getElem?_eq_some_iff.mp found).1

theorem BriefAt.lt_length (described : BriefAt closings description place) :
    place < closings.length := by
  obtain ⟨_, found, _⟩ := described
  exact (List.getElem?_eq_some_iff.mp found).1

theorem getElem?_concat_eq_some_iff {closing found : Closing} :
    (closings ++ [closing])[place]? = some found ↔
      closings[place]? = some found ∨ place = closings.length ∧ closing = found := by
  rw [List.getElem?_append]
  by_cases inside : place < closings.length
  · rw [if_pos inside]
    constructor
    · exact .inl
    · rintro (same | ⟨outside, _⟩)
      · exact same
      · omega
  · rw [if_neg inside, List.getElem?_eq_none (by omega : closings.length ≤ place),
      List.getElem?_singleton]
    by_cases next : place = closings.length
    · simp [next]
    · have later : place - closings.length ≠ 0 := by omega
      simp [next, later]

theorem namedAt_concat_mnemonic :
    NamedAt (closings ++ [.mnemonic content]) mnemonic place ↔
      NamedAt closings mnemonic place ∨
        place = closings.length ∧ lower (strip content) = mnemonic := by
  simp only [NamedAt, getElem?_concat_eq_some_iff, Closing.mnemonic.injEq, or_and_right,
    exists_or, and_assoc, exists_and_left, exists_eq_left']

theorem namedAt_concat_brief :
    NamedAt (closings ++ [.brief content]) mnemonic place ↔ NamedAt closings mnemonic place := by
  simp [NamedAt, getElem?_concat_eq_some_iff]

theorem briefAt_concat_mnemonic :
    BriefAt (closings ++ [.mnemonic content]) description place ↔
      BriefAt closings description place := by
  simp [BriefAt, getElem?_concat_eq_some_iff]

theorem briefAt_concat_brief :
    BriefAt (closings ++ [.brief content]) description place ↔
      BriefAt closings description place ∨
        place = closings.length ∧ strip content = description := by
  simp only [BriefAt, getElem?_concat_eq_some_iff, Closing.brief.injEq, or_and_right,
    exists_or, and_assoc, exists_and_left, exists_eq_left']

theorem briefBehind_concat_mnemonic :
    BriefBehind (closings ++ [.mnemonic content]) place ↔ BriefBehind closings place := by
  simp [BriefBehind, briefAt_concat_mnemonic]

/-- Behind a new description stands nothing, and it stands behind everything else. -/
theorem briefBehind_concat_brief :
    BriefBehind (closings ++ [.brief content]) place ↔ place < closings.length := by
  constructor
  · rintro ⟨_, later, before, described⟩
    have inside := described.lt_length
    rw [List.length_append, List.length_singleton] at inside
    omega
  · intro before
    exact ⟨_, _, before, briefAt_concat_brief.mpr (.inr ⟨rfl, rfl⟩)⟩

theorem not_briefBehind_length (closings : List Closing) : ¬ BriefBehind closings closings.length := by
  rintro ⟨_, _, before, described⟩
  exact absurd described.lt_length (by omega)

/-- Of the places where a mnemonic is named one is the last. -/
theorem exists_last_named (named : NamedAt closings mnemonic place) :
    ∃ last, place ≤ last ∧ NamedAt closings mnemonic last ∧
      ∀ later, last < later → ¬ NamedAt closings mnemonic later := by
  classical
  have inside := named.lt_length
  refine ⟨Nat.findGreatest (NamedAt closings mnemonic) closings.length,
    Nat.le_findGreatest (Nat.le_of_lt inside) named, Nat.findGreatest_spec (Nat.le_of_lt inside) named, ?_⟩
  intro later behind again
  exact Nat.findGreatest_is_greatest behind (Nat.le_of_lt again.lt_length) again

/-- Another name, which so far has no description behind it, changes no description. -/
theorem describedAt_concat_mnemonic {name brief : Nat} :
    DescribedAt (closings ++ [.mnemonic content]) mnemonic description name brief ↔
      DescribedAt closings mnemonic description name brief := by
  constructor
  · intro ⟨named, described, behind, first, last⟩
    rw [briefAt_concat_mnemonic] at described
    simp only [briefAt_concat_mnemonic, briefBehind_concat_mnemonic] at first last
    rcases namedAt_concat_mnemonic.mp named with named | ⟨rfl, _⟩
    · exact ⟨named, described, behind, first, fun later after again =>
        last later after (namedAt_concat_mnemonic.mpr (.inl again))⟩
    · exact absurd described.lt_length (by omega)
  · intro ⟨named, described, behind, first, last⟩
    refine ⟨namedAt_concat_mnemonic.mpr (.inl named), briefAt_concat_mnemonic.mpr described,
      behind, ?_, ?_⟩
    · simpa only [briefAt_concat_mnemonic] using first
    · intro later after again
      rw [briefBehind_concat_mnemonic]
      rcases namedAt_concat_mnemonic.mp again with again | ⟨rfl, _⟩
      · exact last later after again
      · exact not_briefBehind_length closings

/-- A new description is that of all mnemonics waiting for one. -/
theorem describedAt_concat_brief_of_waiting (waiting : Waiting closings mnemonic) :
    (∃ name brief,
        DescribedAt (closings ++ [.brief content]) mnemonic description name brief) ↔
      strip content = description := by
  obtain ⟨place, named, nothingBehind⟩ := waiting
  constructor
  · rintro ⟨name, brief, told⟩
    have notBefore : ¬ name < place := fun before =>
      told.last place before (namedAt_concat_brief.mpr named)
        (briefBehind_concat_brief.mpr named.lt_length)
    rcases briefAt_concat_brief.mp told.described with described | ⟨_, same⟩
    · exact absurd ⟨description, brief, by have := told.behind; omega, described⟩ nothingBehind
    · exact same
  · rintro rfl
    obtain ⟨last, notBefore, lastNamed, nameless⟩ := exists_last_named named
    refine ⟨last, closings.length, namedAt_concat_brief.mpr lastNamed,
      briefAt_concat_brief.mpr (.inr ⟨rfl, rfl⟩), lastNamed.lt_length, ?_, ?_⟩
    · intro other between after before isBrief
      rcases briefAt_concat_brief.mp isBrief with isBrief | ⟨atEnd, _⟩
      · exact nothingBehind ⟨other, between, by omega, isBrief⟩
      · omega
    · intro later after again
      exact absurd (namedAt_concat_brief.mp again) (nameless later after)

theorem describedAt_concat_brief_of_not_waiting {name brief : Nat}
    (settled : ¬ Waiting closings mnemonic) :
    DescribedAt (closings ++ [.brief content]) mnemonic description name brief ↔
      DescribedAt closings mnemonic description name brief := by
  constructor
  · intro ⟨named, described, behind, first, last⟩
    rw [namedAt_concat_brief] at named
    rcases briefAt_concat_brief.mp described with described | ⟨rfl, _⟩
    · refine ⟨named, described, behind, ?_, ?_⟩
      · intro other between after before isBrief
        exact first other between after before (briefAt_concat_brief.mpr (.inl isBrief))
      · intro later after again
        exact absurd (briefBehind_concat_brief.mpr again.lt_length)
          (last later after (namedAt_concat_brief.mpr again))
    · refine absurd ⟨name, named, ?_⟩ settled
      rintro ⟨other, later, after, isBrief⟩
      exact first other later after isBrief.lt_length (briefAt_concat_brief.mpr (.inl isBrief))
  · intro ⟨named, described, behind, first, last⟩
    refine ⟨namedAt_concat_brief.mpr named, briefAt_concat_brief.mpr (.inl described), behind,
      ?_, ?_⟩
    · intro other between after before isBrief
      rcases briefAt_concat_brief.mp isBrief with isBrief | ⟨rfl, _⟩
      · exact first other between after before isBrief
      · exact absurd described.lt_length (by omega)
    · intro later after again
      rw [namedAt_concat_brief] at again
      exact absurd ⟨later, again, last later after again⟩ settled

theorem described_concat_mnemonic :
    Described (closings ++ [.mnemonic content]) mnemonic ↔ Described closings mnemonic := by
  simp only [Described, namedAt_concat_mnemonic, briefBehind_concat_mnemonic]
  constructor
  · rintro ⟨place, named | ⟨rfl, _⟩, behind⟩
    · exact ⟨place, named, behind⟩
    · exact absurd behind (not_briefBehind_length closings)
  · rintro ⟨place, named, behind⟩
    exact ⟨place, .inl named, behind⟩

theorem described_concat_brief :
    Described (closings ++ [.brief content]) mnemonic ↔
      Waiting closings mnemonic ∨ Described closings mnemonic := by
  simp only [Described, namedAt_concat_brief, briefBehind_concat_brief]
  constructor
  · rintro ⟨place, named, _⟩
    by_cases behind : BriefBehind closings place
    · exact .inr ⟨place, named, behind⟩
    · exact .inl ⟨place, named, behind⟩
  · rintro (⟨place, named, _⟩ | ⟨place, named, _⟩)
    · exact ⟨place, named, named.lt_length⟩
    · exact ⟨place, named, named.lt_length⟩

theorem waiting_concat_mnemonic :
    Waiting (closings ++ [.mnemonic content]) mnemonic ↔
      lower (strip content) = mnemonic ∨ Waiting closings mnemonic := by
  simp only [Waiting, namedAt_concat_mnemonic, briefBehind_concat_mnemonic]
  constructor
  · rintro ⟨place, named | ⟨_, same⟩, nothingBehind⟩
    · exact .inr ⟨place, named, nothingBehind⟩
    · exact .inl same
  · rintro (same | ⟨place, named, nothingBehind⟩)
    · exact ⟨closings.length, .inr ⟨rfl, same⟩, not_briefBehind_length closings⟩
    · exact ⟨place, .inl named, nothingBehind⟩

theorem not_waiting_concat_brief : ¬ Waiting (closings ++ [.brief content]) mnemonic := by
  rintro ⟨place, named, nothingBehind⟩
  exact nothingBehind (briefBehind_concat_brief.mpr (namedAt_concat_brief.mp named).lt_length)

end Places

namespace Descriptions

theorem description?_cons (known description asked : List Char) (rest : Descriptions) :
    description? ((known, description) :: rest) asked =
      if asked = known then some description else rest.description? asked := by
  rw [description?, List.lookup_cons]
  by_cases same : asked = known
  · simp [same]
  · simp [same, beq_eq_false_iff_ne.mpr same, description?]

theorem description?_set (mnemonic description asked : List Char) (descriptions : Descriptions) :
    description? (descriptions.set mnemonic description) asked =
      if asked = mnemonic then some description else descriptions.description? asked := by
  induction descriptions with
  | nil => rw [set, description?_cons]
  | cons entry rest induction =>
      obtain ⟨known, earlier⟩ := entry
      by_cases found : known = mnemonic
      · subst found
        rw [set, if_pos rfl, description?_cons, description?_cons]
        split <;> rfl
      · rw [set, if_neg found, description?_cons, description?_cons, induction]
        by_cases same : asked = known
        · simp [same, found]
        · simp [same]

theorem description?_setAll (mnemonics : List (List Char)) (description asked : List Char)
    (descriptions : Descriptions) :
    description? (descriptions.setAll mnemonics description) asked =
      if asked ∈ mnemonics then some description else descriptions.description? asked := by
  rw [setAll]
  induction mnemonics generalizing descriptions with
  | nil => rfl
  | cons mnemonic rest induction =>
      rw [List.foldl_cons, induction, description?_set]
      by_cases later : asked ∈ rest
      · simp [later]
      · by_cases same : asked = mnemonic
        · simp [same]
        · simp [later, same]

/-- A mnemonic with a description keeps its place, and another one goes to the end. -/
theorem keys_set (mnemonic description : List Char) (descriptions : Descriptions) :
    (descriptions.set mnemonic description).map Prod.fst =
      if mnemonic ∈ descriptions.map Prod.fst then descriptions.map Prod.fst
      else descriptions.map Prod.fst ++ [mnemonic] := by
  induction descriptions with
  | nil => rfl
  | cons entry rest induction =>
      obtain ⟨known, earlier⟩ := entry
      by_cases found : known = mnemonic
      · simp [set, found]
      · simp only [set, if_neg found, List.map_cons, induction, List.mem_cons,
          Ne.symm found, false_or]
        split <;> rfl

theorem nodup_keys_set {descriptions : Descriptions}
    (distinct : (descriptions.map Prod.fst).Nodup) (mnemonic description : List Char) :
    ((descriptions.set mnemonic description).map Prod.fst).Nodup := by
  rw [keys_set]
  split
  · exact distinct
  · rename_i absent
    rw [List.nodup_append]
    refine ⟨distinct, by simp, ?_⟩
    rintro known member other isMnemonic rfl
    exact absent (List.mem_singleton.mp isMnemonic ▸ member)

theorem nodup_keys_setAll {descriptions : Descriptions}
    (distinct : (descriptions.map Prod.fst).Nodup) (mnemonics : List (List Char))
    (description : List Char) :
    ((descriptions.setAll mnemonics description).map Prod.fst).Nodup := by
  rw [setAll]
  induction mnemonics generalizing descriptions with
  | nil => exact distinct
  | cons mnemonic rest induction => exact induction (nodup_keys_set distinct mnemonic description)

end Descriptions

/-- The descriptions are those that the closings give, and each mnemonic stands once. -/
structure Descriptions.GivenBy (closings : List Closing) (descriptions : Descriptions) :
    Prop where
  present : ∀ mnemonic, (descriptions.description? mnemonic).isSome ↔
    mnemonic ≠ [] ∧ Described closings mnemonic
  value : ∀ mnemonic description, descriptions.description? mnemonic = some description ↔
    mnemonic ≠ [] ∧ ∃ name brief, DescribedAt closings mnemonic description name brief
  distinct : (descriptions.map Prod.fst).Nodup

namespace Collector

/-- What a closing does to the mnemonics that wait for a description and to the descriptions. -/
def note (known : List (List Char) × Descriptions) : Closing →
    List (List Char) × Descriptions
  | .mnemonic content =>
      let mnemonic := lower (strip content)
      if mnemonic.isEmpty || known.1.contains mnemonic then known
      else (mnemonic :: known.1, known.2)
  | .brief content => ([], known.2.setAll known.1 (strip content))

def noted (closings : List Closing) : List (List Char) × Descriptions :=
  closings.foldl note ([], [])

theorem noted_concat (closings : List Closing) (closing : Closing) :
    noted (closings ++ [closing]) = note (noted closings) closing :=
  List.foldl_append

theorem mem_pending_note_mnemonic (known : List (List Char) × Descriptions)
    (content mnemonic : List Char) :
    mnemonic ∈ (note known (.mnemonic content)).1 ↔
      mnemonic ∈ known.1 ∨ mnemonic ≠ [] ∧ lower (strip content) = mnemonic := by
  simp only [note]
  split
  · rename_i passed
    simp only [Bool.or_eq_true, List.isEmpty_iff, List.contains_iff_mem] at passed
    constructor
    · exact .inl
    · rintro (member | ⟨filled, rfl⟩)
      · exact member
      · exact passed.resolve_left filled
  · rename_i fresh
    simp only [Bool.or_eq_true, List.isEmpty_iff, List.contains_iff_mem, not_or] at fresh
    rw [List.mem_cons]
    constructor
    · rintro (rfl | member)
      · exact .inr ⟨fresh.1, rfl⟩
      · exact .inl member
    · rintro (member | ⟨_, rfl⟩)
      · exact .inr member
      · exact .inl rfl

theorem descriptions_note_mnemonic (known : List (List Char) × Descriptions)
    (content : List Char) : (note known (.mnemonic content)).2 = known.2 := by
  simp only [note]
  split <;> rfl

structure Tracks (closings : List Closing) (known : List (List Char) × Descriptions) : Prop where
  waiting : ∀ mnemonic, mnemonic ∈ known.1 ↔ mnemonic ≠ [] ∧ Waiting closings mnemonic
  given : known.2.GivenBy closings

theorem tracks_nil : Tracks [] ([], []) where
  waiting mnemonic := by simp [Waiting, NamedAt]
  given :=
    { present := fun mnemonic => by simp [Descriptions.description?, Described, NamedAt]
      value := fun mnemonic description => by
        rw [Descriptions.description?, List.lookup_nil]
        constructor
        · rintro ⟨⟩
        · rintro ⟨_, name, brief, place⟩
          exact absurd place.named.lt_length (Nat.not_lt_zero name)
      distinct := List.nodup_nil }

theorem tracks_mnemonic {closings : List Closing} {known : List (List Char) × Descriptions}
    (tracks : Tracks closings known) (content : List Char) :
    Tracks (closings ++ [.mnemonic content]) (note known (.mnemonic content)) where
  waiting mnemonic := by
    rw [mem_pending_note_mnemonic, tracks.waiting, waiting_concat_mnemonic, and_or_left, or_comm]
  given := by
    rw [descriptions_note_mnemonic]
    constructor
    · intro mnemonic
      rw [tracks.given.present, described_concat_mnemonic]
    · intro mnemonic description
      simp only [tracks.given.value, describedAt_concat_mnemonic]
    · exact tracks.given.distinct

theorem tracks_brief {closings : List Closing} {known : List (List Char) × Descriptions}
    (tracks : Tracks closings known) (content : List Char) :
    Tracks (closings ++ [.brief content]) (note known (.brief content)) := by
  have settled : ∀ mnemonic, mnemonic ∉ known.1 → mnemonic ≠ [] → ¬ Waiting closings mnemonic :=
    fun mnemonic absent filled waiting =>
      absent ((tracks.waiting mnemonic).mpr ⟨filled, waiting⟩)
  constructor
  case waiting => simp [note, not_waiting_concat_brief]
  case given =>
    constructor
    · intro mnemonic
      rw [note, Descriptions.description?_setAll, described_concat_brief]
      by_cases waits : mnemonic ∈ known.1
      · obtain ⟨filled, waiting⟩ := (tracks.waiting mnemonic).mp waits
        simp [waits, filled, waiting]
      · rw [if_neg waits, tracks.given.present]
        apply and_congr_right
        intro filled
        rw [or_iff_right (settled mnemonic waits filled)]
    · intro mnemonic description
      rw [note, Descriptions.description?_setAll]
      by_cases waits : mnemonic ∈ known.1
      · obtain ⟨filled, waiting⟩ := (tracks.waiting mnemonic).mp waits
        simp [waits, filled, describedAt_concat_brief_of_waiting waiting]
      · rw [if_neg waits, tracks.given.value]
        apply and_congr_right
        intro filled
        simp only [describedAt_concat_brief_of_not_waiting (settled mnemonic waits filled)]
    · exact Descriptions.nodup_keys_setAll tracks.given.distinct _ _

theorem tracks_noted (closings : List Closing) : Tracks closings (noted closings) := by
  induction closings using List.reverseRecOn with
  | nil => exact tracks_nil
  | append_singleton closings closing induction =>
      rw [noted_concat]
      cases closing with
      | mnemonic content => exact tracks_mnemonic induction content
      | brief content => exact tracks_brief induction content

def keepAll (kept : List Node) (opened : List OpenElement) : List OpenElement :=
  kept.foldl (fun opened node => keep node opened) opened

theorem keepAll_cons (kept : List Node) (element : OpenElement) (outer : List OpenElement) :
    keepAll kept (element :: outer) =
      ⟨element.tag, kept.reverse ++ element.children⟩ :: outer := by
  rw [keepAll]
  induction kept generalizing element with
  | nil => rfl
  | cons node rest induction =>
      rw [List.foldl_cons, keep, induction, List.reverse_cons, List.append_assoc]
      rfl

/-- A collector behind some closings, with children added to the innermost open element. -/
def behind (collector : Collector) (kept : List Node) (closings : List Closing) : Collector :=
  let known := closings.foldl note (collector.pending, collector.descriptions)
  ⟨keepAll kept collector.opened, collector.capturing, known.1, known.2⟩

theorem behind_behind (collector : Collector) (front back : List Node)
    (earlier later : List Closing) :
    (collector.behind front earlier).behind back later =
      collector.behind (front ++ back) (earlier ++ later) := by
  simp [behind, keepAll]

theorem conclude_eq (collector : Collector) (role : Role) (content : List Char) :
    conclude { collector with capturing := collector.capturing + if role = .other then 0 else 1 }
        role content =
      collector.behind [] (Closing.ofRole content role) := by
  cases role with
  | mnemonic =>
      simp only [conclude, behind, Closing.ofRole, note, keepAll, List.foldl_cons, List.foldl_nil]
      split <;> simp
  | brief => simp [conclude, behind, Closing.ofRole, note, keepAll]
  | other => simp [conclude, behind, Closing.ofRole, keepAll]

theorem step_closing (collector : Collector) (tag closed : List Char) (kept : List Node)
    (closings : List Closing) :
    step ((step collector (.opening tag)).behind kept closings) (.closing closed) =
      (collector.behind [] closings).behind
        (if collector.capturing = 0 then [] else [.element tag kept])
        (Closing.ofRole (Node.fullTexts kept) (Role.ofTag tag)) := by
  have concluded := conclude_eq
    ⟨⟨tag, kept.reverse⟩ :: collector.opened, collector.capturing,
      (collector.behind [] closings).pending, (collector.behind [] closings).descriptions⟩
    (Role.ofTag tag) (Node.fullTexts kept)
  simp only [step, behind, keepAll_cons, List.append_nil, List.reverse_reverse, Node.fullText]
    at concluded ⊢
  rw [concluded]
  by_cases idle : collector.capturing = 0
  · simp [idle, keepAll]
  · simp [idle, keepAll]

/-- Where no child that counts is missing, an element closes with its full text. -/
theorem ofRole_fullTexts_kept {collector : Collector} {tag : Tag} {kept : List Node}
    {children : List Markup.Tree}
    (complete : 0 < (step collector (.opening tag.text)).capturing →
      kept = Markup.Tree.nodes children) :
    Closing.ofRole (Node.fullTexts kept) (Role.ofTag tag.text) =
      Closing.ofName tag.base (Markup.Tree.fullTexts children) := by
  rw [← Closing.ofRole_ofTag]
  by_cases other : Role.ofTag tag.text = .other
  · rw [other]
    rfl
  · rw [complete (by simp [step, other]), Markup.Tree.fullTexts_nodes]

mutual

/-- Following a tree notes its closings. Of its nodes none is missing where its text is needed. -/
theorem foldl_step_events (tree : Markup.Tree) (collector : Collector) :
    ∃ kept, tree.events.foldl step collector = collector.behind kept (Closing.ofTree tree) ∧
      (0 < collector.capturing → kept = [tree.node]) := by
  cases tree with
  | text content => exact ⟨[.text content], rfl, fun _ => rfl⟩
  | element tag children =>
      obtain ⟨kept, followed, complete⟩ :=
        foldl_step_allEvents children (step collector (.opening tag.text))
      refine ⟨if collector.capturing = 0 then [] else [.element tag.text kept], ?_, ?_⟩
      · rw [Markup.Tree.events, List.foldl_cons, List.foldl_append, followed, List.foldl_cons,
          List.foldl_nil, step_closing, ofRole_fullTexts_kept complete, behind_behind, Closing.ofTree,
          List.nil_append]
      · intro capturing
        have all := complete (Nat.lt_of_lt_of_le capturing (Nat.le_add_right _ _))
        rw [if_neg (by omega), all, Markup.Tree.node]

theorem foldl_step_allEvents (trees : List Markup.Tree) (collector : Collector) :
    ∃ kept, (Markup.Tree.allEvents trees).foldl step collector =
        collector.behind kept (Closing.ofTrees trees) ∧
      (0 < collector.capturing → kept = Markup.Tree.nodes trees) := by
  cases trees with
  | nil => exact ⟨[], rfl, fun _ => rfl⟩
  | cons tree rest =>
      obtain ⟨front, first, whole⟩ := foldl_step_events tree collector
      obtain ⟨back, second, wholeRest⟩ :=
        foldl_step_allEvents rest (collector.behind front (Closing.ofTree tree))
      refine ⟨front ++ back, ?_, fun capturing => ?_⟩
      · rw [Markup.Tree.allEvents, List.foldl_append, first, second, behind_behind, Closing.ofTrees]
      · rw [whole capturing, wholeRest capturing, Markup.Tree.nodes, List.singleton_append]

end

end Collector

namespace Descriptions

theorem parse_eq_ok_iff {bytes : List UInt8} {descriptions : Descriptions} :
    parse bytes = .ok descriptions ↔
      ∃ events, Document.read bytes = .ok events ∧ ofEvents events = descriptions := by
  rw [parse]
  cases Document.read bytes <;> simp [Except.map]

theorem ofEvents_eq_noted (root : Markup.Tree) :
    ofEvents root.events = (Collector.noted (Closing.ofTree root)).2 := by
  obtain ⟨kept, followed, _⟩ := Collector.foldl_step_events root .initial
  rw [ofEvents, followed]
  rfl

/-- Every element tree gives its mnemonics the descriptions that follow them, and a document that
is read has an element tree. -/
theorem ofEvents_givenBy_closings :
    (∀ root : Markup.Tree, (ofEvents root.events).GivenBy (Closing.ofTree root)) ∧
      ∀ bytes descriptions, parse bytes = .ok descriptions ↔
        ∃ tag children, Document.read bytes = .ok (Markup.Tree.element tag children).events ∧
          ofEvents (Markup.Tree.element tag children).events = descriptions := by
  constructor
  · intro root
    rw [ofEvents_eq_noted]
    exact (Collector.tracks_noted (Closing.ofTree root)).given
  · intro bytes descriptions
    rw [parse_eq_ok_iff]
    constructor
    · rintro ⟨events, isRead, given⟩
      obtain ⟨tag, children, rfl⟩ := Document.exists_element_of_read isRead
      exact ⟨tag, children, isRead, given⟩
    · rintro ⟨tag, children, isRead, given⟩
      exact ⟨_, isRead, given⟩

/-- The name closes behind the description inside it and stays without one. -/
example :
    ofEvents (Markup.Tree.element ⟨some "reference".toList, "MNEM".toList, by decide⟩
      [.text "Jo".toList,
        .element ⟨none, "brief".toList, by decide⟩ [.text "Jump".toList]]).events = [] := by
  decide

end Descriptions

end Disassembly.Reference
