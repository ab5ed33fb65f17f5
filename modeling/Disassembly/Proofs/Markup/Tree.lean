import Disassembly.Markup.Document

/-!
Element trees. An element is reported when it opens and when it closes, with the events of its
children between. Whatever document is read, its events are those of one element tree: every tag is
closed where it belongs, also across the texts of entities, and nothing is reported outside the one
element that the document holds. In a tree the tag of an element is taken apart into the address of
its namespace and its simple name.
-/

namespace Disassembly.Markup

/-- No brace in the name, so that the last one of the written tag ends the address. -/
structure Tag where
  address : Option (List Char)
  base : List Char
  simple : '\x7d' ∉ base

def Tag.text (tag : Tag) : List Char :=
  match tag.address with
  | none => tag.base
  | some address => '\x7b' :: (address ++ '\x7d' :: tag.base)

inductive Tree where
  | text (content : List Char)
  | element (tag : Tag) (children : List Tree)

namespace Tree

mutual

def events : Tree → List Event
  | .text content => [.text content]
  | .element tag children => .opening tag.text :: (allEvents children ++ [.closing tag.text])

def allEvents : List Tree → List Event
  | [] => []
  | tree :: rest => events tree ++ allEvents rest

end

theorem allEvents_append (front back : List Tree) :
    allEvents (front ++ back) = allEvents front ++ allEvents back := by
  induction front with
  | nil => rfl
  | cons tree rest induction =>
      rw [List.cons_append, allEvents, induction, allEvents, List.append_assoc]

theorem allEvents_singleton (tree : Tree) : allEvents [tree] = tree.events :=
  List.append_nil _

end Tree

/-! Tags that are read. -/

theorem notMem_of_continuesName {encoding : Encoding} {name : List Char}
    (continues : ∀ character ∈ name, continuesName encoding character = true) :
    '\x7d' ∉ name := by
  intro member
  have never : continuesName encoding '\x7d' = false := rfl
  rw [continues _ member] at never
  cases never

theorem notMem_of_readSimpleName {encoding : Encoding} {text name rest : List Char}
    (isRead : readSimpleName encoding text = some (name, rest)) : '\x7d' ∉ name := by
  cases text with
  | nil => cases isRead
  | cons first more =>
      rw [readSimpleName] at isRead
      split at isRead
      · rename_i starts
        rcases Prod.mk.inj (Option.some.inj isRead) with ⟨rfl, _⟩
        have continues : ∀ character ∈ first :: more.takeWhile (continuesName encoding),
            continuesName encoding character = true := by
          intro character member
          rcases List.mem_cons.mp member with rfl | inRun
          · rw [continuesName, starts, Bool.true_or]
          · exact List.all_eq_true.mp List.all_takeWhile _ inRun
        exact notMem_of_continuesName continues
      · cases isRead

theorem Name.notMem_of_read {encoding : Encoding} {text rest : List Char} {name : Name}
    (isRead : Name.read encoding text = some (name, rest)) : '\x7d' ∉ name.base := by
  simp only [Name.read, Option.bind_eq_bind, Option.bind_eq_some_iff] at isRead
  rcases isRead with ⟨⟨first, behind⟩, isFirst, isRead⟩
  split at isRead
  · rcases Option.bind_eq_some_iff.mp isRead with ⟨⟨second, _⟩, isSecond, isRead⟩
    split at isRead
    · cases isRead
    · rcases Prod.mk.inj (Option.some.inj isRead) with ⟨rfl, _⟩
      exact notMem_of_readSimpleName isSecond
  · rcases Prod.mk.inj (Option.some.inj isRead) with ⟨rfl, _⟩
    exact notMem_of_readSimpleName isFirst

/-- The tag of an open element has no brace in its simple name. -/
theorem OpenElement.exists_tag (element : OpenElement) (simple : '\x7d' ∉ element.name.base) :
    ∃ tag : Tag, tag.text = element.tag := by
  rw [OpenElement.tag, Bindings.tag]
  split
  · exact ⟨⟨none, element.name.base, simple⟩, rfl⟩
  · exact ⟨⟨some _, element.name.base, simple⟩, rfl⟩

namespace Token

def HasSimpleName : Token → Prop
  | .opening name _ _ => '\x7d' ∉ name.base
  | _ => True

theorem hasSimpleName_of_readOpening {encoding : Encoding} {text : List Char} {token : Token}
    (isRead : readOpening encoding text = some token) : token.HasSimpleName := by
  simp only [readOpening, Option.bind_eq_bind, Option.bind_eq_some_iff] at isRead
  rcases isRead with ⟨⟨name, rest⟩, isName, ⟨attributes, closed, _⟩, _, same⟩
  rw [← Option.some.inj same]
  exact Name.notMem_of_read isName

theorem hasSimpleName_of_ofCut {origin : Origin} {written : List Char} {token : Token}
    (isRead : ofCut origin written = some token) : token.HasSimpleName := by
  unfold ofCut at isRead
  split at isRead
  · simp only [readClosing, Option.bind_eq_bind, Option.bind_eq_some_iff] at isRead
    rcases isRead with ⟨_, _, isRead⟩
    split at isRead
    · rw [← Option.some.inj isRead]
      trivial
    · cases isRead
  · rcases Option.map_eq_some_iff.mp isRead with ⟨_, _, rfl⟩
    trivial
  · simp only [Option.bind_eq_bind, Option.bind_eq_some_iff] at isRead
    rcases isRead with ⟨_, _, _, _, same⟩
    rw [← Option.some.inj same]
    trivial
  · rcases Option.map_eq_some_iff.mp isRead with ⟨_, _, rfl⟩
    trivial
  · exact hasSimpleName_of_readOpening isRead
  · rcases Option.map_eq_some_iff.mp isRead with ⟨_, _, rfl⟩
    trivial
  · split at isRead
    · cases isRead
    · rw [← Option.some.inj isRead]
      trivial

end Token

namespace Content

/-- The events close the opened elements one after the other, whole trees standing in front of each
closing. Behind the last one a document has nothing, and a replacement text whole trees. -/
def Completes (origin : Origin) : List OpenElement → List Event → Prop
  | [], events => ∃ trees, events = Tree.allEvents trees ∧ (origin ≠ .replacement → trees = [])
  | element :: outer, events => ∃ trees later,
      events = Tree.allEvents trees ++ .closing element.tag :: later ∧ Completes origin outer later

theorem completes_prepend {origin : Origin} {opened : List OpenElement} {events : List Event}
    (inside : opened ≠ [] ∨ origin = .replacement) (trees : List Tree)
    (completes : Completes origin opened events) :
    Completes origin opened (Tree.allEvents trees ++ events) := by
  cases opened with
  | nil =>
      obtain ⟨later, rfl, _⟩ := completes
      refine ⟨trees ++ later, (Tree.allEvents_append trees later).symm, fun document => ?_⟩
      exact absurd (inside.resolve_left (by simp)) document
  | cons element outer =>
      obtain ⟨between, later, rfl, outside⟩ := completes
      refine ⟨trees ++ between, later, ?_, outside⟩
      rw [Tree.allEvents_append, List.append_assoc]

/-- Following a reference to an entity adds the events of whole trees. -/
def AddsTrees (follow : List Char → Bindings → Progress → Option Progress) : Prop :=
  ∀ name bindings progress after, follow name bindings progress = some after →
    ∃ trees, after.events = (Tree.allEvents trees).reverse ++ progress.events

theorem enter_spec {declared : Declared} {origin : Origin} {bindings : Bindings}
    {progress after : Progress} {name : Name} {attributes : List (Name × List Char)}
    {closed : Bool} {element : OpenElement}
    (entered : enter declared origin bindings progress name attributes closed =
      some (element, after)) :
    element.name = name ∧ after.events = .opening element.tag :: progress.events := by
  simp only [enter, Option.bind_eq_bind, Option.bind_eq_some_iff, Option.some.injEq,
    Prod.mk.injEq] at entered
  obtain ⟨_, _, inner, _, rfl, rfl⟩ := entered
  exact ⟨rfl, rfl⟩

/-- What a token adds fits in front of whatever completes the elements that are open after it. -/
theorem completes_of_step {declared : Declared}
    {follow : List Char → Bindings → Progress → Option Progress} (adds : AddsTrees follow)
    {origin : Origin} {bindings : Bindings} {opened openedAfter : List OpenElement}
    {progress after : Progress} {token : Token} (simple : token.HasSimpleName)
    (inside : opened ≠ [] ∨ origin = .replacement)
    (stepped : step declared follow origin bindings opened progress token =
      some (openedAfter, after)) :
    ∃ added, after.events = added.reverse ++ progress.events ∧
      ∀ later, Completes origin openedAfter later → Completes origin opened (added ++ later) := by
  cases token with
  | opening name attributes closed =>
      simp only [step, Option.bind_eq_bind, Option.bind_eq_some_iff] at stepped
      obtain ⟨⟨element, entered⟩, isEntered, stepped⟩ := stepped
      obtain ⟨sameName, sameEvents⟩ := enter_spec isEntered
      rcases element.exists_tag (by rw [sameName]; exact simple) with ⟨tag, isTag⟩
      split at stepped
      · obtain ⟨rfl, rfl⟩ := Prod.mk.inj (Option.some.inj stepped)
        refine ⟨(Tree.element tag []).events, ?_, fun later completes => ?_⟩
        · rw [emit, sameEvents, Tree.events, isTag]
          rfl
        · have fits := completes_prepend inside [.element tag []] completes
          rwa [Tree.allEvents_singleton] at fits
      · obtain ⟨rfl, rfl⟩ := Prod.mk.inj (Option.some.inj stepped)
        refine ⟨[.opening element.tag], sameEvents, fun later completes => ?_⟩
        obtain ⟨children, outside, rfl, completes⟩ := completes
        have fits := completes_prepend inside [.element tag children] completes
        rw [Tree.allEvents_singleton, Tree.events, isTag, List.cons_append, List.append_assoc]
          at fits
        exact fits
  | closing name =>
      cases opened with
      | nil => cases stepped
      | cons element outer =>
          simp only [step] at stepped
          split at stepped
          · obtain ⟨rfl, rfl⟩ := Prod.mk.inj (Option.some.inj stepped)
            exact ⟨[.closing element.tag], rfl, fun later completes => ⟨[], later, rfl, completes⟩⟩
          · cases stepped
  | data content =>
      obtain ⟨rfl, rfl⟩ := Prod.mk.inj (Option.some.inj stepped)
      exact ⟨[.text content], rfl, fun _ => completes_prepend inside [.text content]⟩
  | reference referent =>
      cases referent with
      | character value =>
          obtain ⟨rfl, rfl⟩ := Prod.mk.inj (Option.some.inj stepped)
          exact ⟨[.text [value]], rfl, fun _ => completes_prepend inside [.text [value]]⟩
      | predefined value =>
          obtain ⟨rfl, rfl⟩ := Prod.mk.inj (Option.some.inj stepped)
          exact ⟨[.text [value]], rfl, fun _ => completes_prepend inside [.text [value]]⟩
      | entity name =>
          obtain ⟨followed, isFollowed, same⟩ := Option.map_eq_some_iff.mp stepped
          obtain ⟨rfl, rfl⟩ := Prod.mk.inj same
          obtain ⟨trees, events⟩ := adds name bindings progress followed isFollowed
          exact ⟨Tree.allEvents trees, events, fun _ => completes_prepend inside trees⟩
  | aside =>
      obtain ⟨rfl, rfl⟩ := Prod.mk.inj (Option.some.inj stepped)
      exact ⟨[], rfl, fun _ completes => completes⟩

/-- Reading goes on until the elements that were open at its start are closed. -/
theorem completes_of_read {declared : Declared}
    {follow : List Char → Bindings → Progress → Option Progress} (adds : AddsTrees follow)
    {origin : Origin} {outer : Bindings} {fuel : Nat} {opened : List OpenElement}
    {text rest : List Char} {progress after : Progress}
    (inside : opened ≠ [] ∨ origin = .replacement)
    (isRead : read declared follow origin outer fuel opened text progress = some (after, rest)) :
    ∃ events, after.events = events.reverse ++ progress.events ∧
      Completes origin opened events := by
  induction fuel generalizing opened text progress with
  | zero => cases isRead
  | succ fuel induction =>
      cases text with
      | nil =>
          simp only [read] at isRead
          split at isRead
          · rename_i ends
            obtain ⟨rfl, rfl⟩ := Prod.mk.inj (Option.some.inj isRead)
            have none : opened = [] := by simpa using (Bool.and_eq_true_iff.mp ends).2
            subst none
            exact ⟨[], rfl, [], rfl, fun _ => rfl⟩
          · cases isRead
      | cons first text =>
          simp only [read, Option.bind_eq_bind, Option.bind_eq_some_iff] at isRead
          obtain ⟨⟨written, behind⟩, _, expansion, _, token, isToken, ⟨openedAfter, stepped⟩,
            isStep, isRead⟩ := isRead
          obtain ⟨added, events, fits⟩ :=
            completes_of_step adds (Token.hasSimpleName_of_ofCut isToken) inside isStep
          split at isRead
          · rename_i ends
            obtain ⟨rfl, rfl⟩ := Prod.mk.inj (Option.some.inj isRead)
            have none : openedAfter = [] := by simpa using (Bool.and_eq_true_iff.mp ends).2
            subst none
            refine ⟨added, events, ?_⟩
            have completes := fits [] ⟨[], rfl, fun _ => rfl⟩
            rwa [List.append_nil] at completes
          · rename_i goesOn
            have stillInside : openedAfter ≠ [] ∨ origin = .replacement := by
              by_cases none : openedAfter = []
              · by_cases replacement : origin = .replacement
                · exact .inr replacement
                · exact absurd (by simp [none, replacement]) goesOn
              · exact .inl none
            obtain ⟨later, eventsAfter, completes⟩ := induction stillInside isRead
            refine ⟨added ++ later, ?_, fits later completes⟩
            rw [eventsAfter, events, List.reverse_append, List.append_assoc]

theorem addsTrees_readEntity (declared : Declared) (depth : Nat) (opened : List (List Char)) :
    AddsTrees (readEntity declared depth opened) := by
  induction depth generalizing opened with
  | zero =>
      intro name bindings progress after found
      cases found
  | succ depth induction =>
      intro name bindings progress after found
      rw [readEntity] at found
      split at found
      · split at found
        · cases found
        · obtain ⟨⟨followed, rest⟩, isRead, rfl⟩ := Option.map_eq_some_iff.mp found
          obtain ⟨events, same, trees, rfl, _⟩ :=
            completes_of_read (induction (name :: opened)) (.inr rfl) isRead
          exact ⟨trees, same⟩
      · cases found

end Content

namespace Token

/-- No mark of markup is the start of a name. -/
theorem ne_of_startsName {encoding : Encoding} {first : Char}
    (starts : startsName encoding first = true) : first ≠ '/' ∧ first ≠ '!' ∧ first ≠ '?' := by
  refine ⟨?_, ?_, ?_⟩ <;> rintro rfl <;> exact absurd starts (by simp [startsName])

theorem cut_of_startsName {encoding : Encoding} {first : Char}
    (starts : startsName encoding first = true) (rest : List Char) :
    cut ('<' :: first :: rest) =
      (cutTag none (first :: rest)).map fun found => ('<' :: found.1, found.2) := by
  obtain ⟨_, bang, question⟩ := ne_of_startsName starts
  unfold cut
  split <;> simp_all

theorem ofCut_of_startsName {encoding : Encoding} {first : Char}
    (starts : startsName encoding first = true) (rest : List Char) :
    ofCut (.document encoding) ('<' :: first :: rest) = readOpening encoding (first :: rest) := by
  obtain ⟨slash, bang, question⟩ := ne_of_startsName starts
  unfold ofCut
  split <;> simp_all [Origin.encoding]

theorem exists_opening_of_readOpening {encoding : Encoding} {text : List Char} {token : Token}
    (isRead : readOpening encoding text = some token) :
    ∃ name attributes closed, token = .opening name attributes closed := by
  simp only [readOpening, Option.bind_eq_bind, Option.bind_eq_some_iff] at isRead
  obtain ⟨⟨name, rest⟩, _, ⟨attributes, closed, _⟩, _, same⟩ := isRead
  exact ⟨name, attributes, closed, (Option.some.inj same).symm⟩

theorem exists_cons_of_cutTag {quote : Option Char} {first : Char} {text written rest : List Char}
    (found : cutTag quote (first :: text) = some (written, rest)) :
    ∃ more, written = first :: more := by
  simp only [cutTag] at found
  split at found
  · rename_i ends
    obtain ⟨rfl, _⟩ := Prod.mk.inj (Option.some.inj found)
    have mark := of_decide_eq_true (Bool.and_eq_true_iff.mp ends).2
    exact ⟨[], by rw [mark]⟩
  · obtain ⟨⟨front, back⟩, _, same⟩ := Option.map_eq_some_iff.mp found
    exact ⟨front, (Prod.mk.inj same).1.symm⟩

end Token

namespace Content

/-- Where an element starts, reading a document stops when it is closed. -/
theorem exists_element_of_read {declared : Declared}
    {follow : List Char → Bindings → Progress → Option Progress} (adds : AddsTrees follow)
    {encoding : Encoding} {outer : Bindings} {fuel : Nat} {text rest : List Char}
    {progress after : Progress} (starts : Document.startsElement encoding text = true)
    (isRead : read declared follow (.document encoding) outer fuel [] text progress =
      some (after, rest)) :
    ∃ tag children,
      after.events = (Tree.element tag children).events.reverse ++ progress.events := by
  unfold Document.startsElement at starts
  split at starts
  · rename_i first more
    cases fuel with
    | zero => cases isRead
    | succ fuel =>
        simp only [read, Option.bind_eq_bind, Option.bind_eq_some_iff] at isRead
        obtain ⟨⟨written, behind⟩, isCut, expansion, _, token, isToken,
          ⟨openedAfter, stepped⟩, isStep, isRead⟩ := isRead
        rw [Token.cut_of_startsName starts] at isCut
        obtain ⟨⟨written, _⟩, isWritten, same⟩ := Option.map_eq_some_iff.mp isCut
        obtain ⟨rfl, rfl⟩ := Prod.mk.inj same
        obtain ⟨inTag, rfl⟩ := Token.exists_cons_of_cutTag isWritten
        rw [Token.ofCut_of_startsName starts] at isToken
        have simple := Token.hasSimpleName_of_readOpening isToken
        obtain ⟨name, attributes, closed, rfl⟩ := Token.exists_opening_of_readOpening isToken
        simp only [step, Option.bind_eq_bind, Option.bind_eq_some_iff] at isStep
        obtain ⟨⟨element, entered⟩, isEntered, isStep⟩ := isStep
        obtain ⟨sameName, sameEvents⟩ := enter_spec isEntered
        rcases element.exists_tag (by rw [sameName]; exact simple) with ⟨tag, isTag⟩
        split at isStep
        · -- A tag that closes its element ends the document at once.
          obtain ⟨rfl, rfl⟩ := Prod.mk.inj (Option.some.inj isStep)
          rw [if_pos (by simp)] at isRead
          obtain ⟨rfl, rfl⟩ := Prod.mk.inj (Option.some.inj isRead)
          refine ⟨tag, [], ?_⟩
          rw [emit, sameEvents, Tree.events, isTag]
          rfl
        · obtain ⟨rfl, rfl⟩ := Prod.mk.inj (Option.some.inj isStep)
          rw [if_neg (by simp)] at isRead
          obtain ⟨events, same, children, later, rfl, trees, rfl, none⟩ :=
            completes_of_read adds (.inl (List.cons_ne_nil _ _)) isRead
          refine ⟨tag, children, ?_⟩
          rw [same, sameEvents, none (by simp)]
          simp [Tree.events, Tree.allEvents, isTag]
  · cases starts

end Content

namespace Document

theorem exists_element_of_readSource {source : Source} {events : List Event}
    (isRead : readSource source = some events) :
    ∃ tag children, events = (Tree.element tag children).events := by
  simp only [readSource, Option.bind_eq_bind, Option.bind_eq_some_iff] at isRead
  obtain ⟨⟨declared, text⟩, _, isRead⟩ := isRead
  split at isRead
  · cases isRead
  · rename_i starts
    obtain ⟨⟨progress, rest⟩, inside, isRead⟩ := Option.bind_eq_some_iff.mp isRead
    split at isRead
    · obtain ⟨tag, children, same⟩ := Content.exists_element_of_read
        (Content.addsTrees_readEntity declared _ []) (by simpa using starts) inside
      refine ⟨tag, children, ?_⟩
      rw [← Option.some.inj isRead, same, List.append_nil, List.reverse_reverse]
    · cases isRead

theorem read_eq_ok_iff {bytes : List UInt8} {events : List Event} :
    Document.read bytes = .ok events ↔
      ∃ source, Source.ofBytes bytes = .ok source ∧ readSource source = some events := by
  rw [Document.read]
  cases Source.ofBytes bytes with
  | error flaw => simp [bind, Except.bind]
  | ok source => simp [bind, Except.bind, Flaw.require_eq_ok_iff]

/-- The events of a document are those of an element. -/
theorem exists_element_of_read {bytes : List UInt8} {events : List Event}
    (isRead : Document.read bytes = .ok events) :
    ∃ tag children, events = (Tree.element tag children).events := by
  rcases read_eq_ok_iff.mp isRead with ⟨_, _, isRead⟩
  exact exists_element_of_readSource isRead

end Document

end Disassembly.Markup
