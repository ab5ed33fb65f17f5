import Mathlib.Logic.Function.Basic
import Disassembly.Proofs.Reference.Closings

/-!
The elements of a document as separate things that are made while its events come in. An element
knows which elements are its children, and text stands in an element in front of its first child or
behind an element that is closed. Elements are numbered as they open. Once an element is closed,
what stands inside it is its tree, and no later event changes that.
-/

namespace Disassembly.Markup

def openings (events : List Event) : Nat :=
  events.countP fun
    | .opening _ => true
    | _ => false

@[simp] theorem openings_nil : openings [] = 0 := rfl

@[simp] theorem openings_append (front back : List Event) :
    openings (front ++ back) = openings front + openings back :=
  List.countP_append

@[simp] theorem openings_opening (tag : List Char) (rest : List Event) :
    openings (.opening tag :: rest) = openings rest + 1 :=
  List.countP_cons_of_pos rfl

@[simp] theorem openings_text (content : List Char) (rest : List Event) :
    openings (.text content :: rest) = openings rest :=
  List.countP_cons_of_neg Bool.false_ne_true

@[simp] theorem openings_closing (tag : List Char) (rest : List Event) :
    openings (.closing tag :: rest) = openings rest :=
  List.countP_cons_of_neg Bool.false_ne_true

namespace Tree

/-- An item among two parts stands in the back part or in the front part. -/
theorem exists_between_of_append_eq {front back passed rest : List Event} {event : Event}
    (same : front ++ back = passed ++ event :: rest) :
    (∃ between, passed = front ++ between ∧ back = between ++ event :: rest) ∨
      ∃ between, front = passed ++ event :: between := by
  rcases List.append_eq_append_iff.mp same with inBack | ⟨between, inFront, same⟩
  · exact .inl inBack
  · cases between with
    | nil => exact .inl ⟨[], by simpa using inFront.symm, same.symm⟩
    | cons first between =>
        obtain ⟨rfl, _⟩ := List.cons.inj same
        exact .inr ⟨between, inFront⟩

/-- Where a closing is reported, the element it closes was opened, and whole trees stand between. -/
theorem exists_opening_of_closing {trees : List Tree} {passed rest : List Event}
    {closed : List Char} (same : allEvents trees = passed ++ .closing closed :: rest) :
    ∃ (before : List Event) (tag : Tag) (children : List Tree), tag.text = closed ∧
      passed = before ++ .opening tag.text :: allEvents children := by
  match trees with
  | [] => cases passed <;> cases same
  | .text content :: more =>
      cases passed with
      | nil => cases same
      | cons event passed =>
          obtain ⟨rfl, inMore⟩ := List.cons.inj same
          obtain ⟨before, tag, children, sameTag, rfl⟩ := exists_opening_of_closing inMore
          exact ⟨.text content :: before, tag, children, sameTag, rfl⟩
  | .element tag children :: more =>
      cases passed with
      | nil => cases same
      | cons event passed =>
          rw [allEvents, events, List.cons_append, List.append_assoc, List.cons_append] at same
          obtain ⟨rfl, behind⟩ := List.cons.inj same
          rcases exists_between_of_append_eq behind with ⟨between, rfl, atEnd⟩ | ⟨between, inside⟩
          · cases between with
            | nil =>
                obtain ⟨sameClosing, _⟩ := List.cons.inj atEnd
                exact ⟨[], tag, children, Event.closing.inj sameClosing, by simp⟩
            | cons event between =>
                obtain ⟨rfl, inMore⟩ := List.cons.inj atEnd
                obtain ⟨before, inner, trees, sameTag, rfl⟩ := exists_opening_of_closing inMore
                exact ⟨.opening tag.text :: (allEvents children ++ .closing tag.text :: before),
                  inner, trees, sameTag, by simp⟩
          · obtain ⟨before, inner, trees, sameTag, rfl⟩ := exists_opening_of_closing inside
            exact ⟨.opening tag.text :: before, inner, trees, sameTag, rfl⟩

theorem append_events_element (before : List Event) (tag : Tag) (children : List Tree)
    (behind : List Event) :
    before ++ (element tag children).events ++ behind =
      before ++ .opening tag.text :: allEvents children ++ .closing tag.text :: behind := by
  simp [events]

end Tree

end Disassembly.Markup

namespace Disassembly.Reference

open Markup

/-- An element. It is known by its key, how many elements opened before it. -/
structure Element where
  tag : List Char
  /-- The text in front of the first child. -/
  text : List Char
  children : List Nat
  /-- The text behind the closed element, up to the next element. -/
  tail : List Char
deriving DecidableEq, Repr

/-- All text in an element, looking as deep as said. -/
def fullText (elements : Nat → Element) : Nat → Nat → List Char
  | 0, _ => []
  | depth + 1, key =>
      (elements key).text ++ (elements key).children.flatMap fun child =>
        fullText elements depth child ++ (elements child).tail

structure Builder where
  elements : Nat → Element
  made : Nat
  /-- The elements not yet closed, innermost first. -/
  inside : List Nat
  /-- The element that closed last, when no element opened since. -/
  behind : Option Nat

namespace Builder

def initial : Builder := ⟨fun _ => ⟨[], [], [], []⟩, 0, [], none⟩

/-- What becomes of an element when text and new elements come in. The text goes behind the element
that closed last or into the innermost open one, and this one gets the new elements as children. -/
def receive (builder : Builder) (content : List Char) (children : List Nat) (key : Nat) : Element :=
  let element := builder.elements key
  { element with
    text := if builder.behind = none ∧ builder.inside.head? = some key then element.text ++ content
      else element.text,
    children := if builder.inside.head? = some key then element.children ++ children
      else element.children,
    tail := if builder.behind = some key then element.tail ++ content else element.tail }

def grow (builder : Builder) : Event → Builder
  | .opening tag =>
      ⟨Function.update (builder.receive [] [builder.made]) builder.made ⟨tag, [], [], []⟩,
        builder.made + 1, builder.made :: builder.inside, none⟩
  | .text content => { builder with elements := builder.receive content [] }
  | .closing _ =>
      match builder.inside with
      | [] => builder
      | key :: outer => { builder with inside := outer, behind := some key }

def growAll (builder : Builder) (events : List Event) : Builder := events.foldl grow builder

@[simp] theorem growAll_nil (builder : Builder) : builder.growAll [] = builder := rfl

@[simp] theorem growAll_cons (builder : Builder) (event : Event) (rest : List Event) :
    builder.growAll (event :: rest) = (builder.grow event).growAll rest := rfl

theorem growAll_append (builder : Builder) (front back : List Event) :
    builder.growAll (front ++ back) = (builder.growAll front).growAll back :=
  List.foldl_append

/-- What every event preserves all events preserve. -/
theorem growAll_preserves (property : Builder → Prop)
    (step : ∀ builder event, property builder → property (builder.grow event)) {builder : Builder}
    (holds : property builder) (events : List Event) : property (builder.growAll events) := by
  induction events generalizing builder with
  | nil => exact holds
  | cons event rest induction => exact induction (step builder event holds)

@[simp] theorem tag_receive (builder : Builder) (content : List Char) (children : List Nat)
    (key : Nat) : (builder.receive content children key).tag = (builder.elements key).tag := rfl

/-- Elements at which reading does not stand stay as they are. -/
theorem receive_of_ne {builder : Builder} {key : Nat} (notInside : builder.inside.head? ≠ some key)
    (notBehind : builder.behind ≠ some key) (content : List Char) (children : List Nat) :
    builder.receive content children key = builder.elements key := by
  simp [receive, notInside, notBehind]

theorem grow_opening_of_ne {builder : Builder} {key : Nat} (old : key ≠ builder.made)
    (tag : List Char) :
    (builder.grow (.opening tag)).elements key = builder.receive [] [builder.made] key :=
  Function.update_of_ne old _ _

@[simp] theorem grow_opening_self (builder : Builder) (tag : List Char) :
    (builder.grow (.opening tag)).elements builder.made = ⟨tag, [], [], []⟩ :=
  Function.update_self _ _ _

@[simp] theorem elements_grow_closing (builder : Builder) (tag : List Char) :
    (builder.grow (.closing tag)).elements = builder.elements := by
  simp only [grow]
  split <;> rfl

@[simp] theorem made_grow_closing (builder : Builder) (tag : List Char) :
    (builder.grow (.closing tag)).made = builder.made := by
  simp only [grow]
  split <;> rfl

theorem grow_closing_of_inside {builder : Builder} {key : Nat} {outer : List Nat}
    (inside : builder.inside = key :: outer) (tag : List Char) :
    builder.grow (.closing tag) = { builder with inside := outer, behind := some key } := by
  rw [grow, inside]

theorem made_growAll (builder : Builder) (events : List Event) :
    (builder.growAll events).made = builder.made + openings events := by
  induction events generalizing builder with
  | nil => rfl
  | cons event rest induction =>
      rw [growAll_cons, induction]
      cases event with
      | opening tag =>
          rw [openings_opening, Nat.add_comm (openings rest), ← Nat.add_assoc]
          rfl
      | text content => rw [openings_text, grow]
      | closing tag => rw [openings_closing, made_grow_closing]

theorem made_le_grow (builder : Builder) (event : Event) :
    builder.made ≤ (builder.grow event).made :=
  (made_growAll builder [event]).symm ▸ Nat.le_add_right _ _

end Builder

def lead : List Tree → List Char
  | [] => []
  | .text content :: rest => content ++ lead rest
  | .element _ _ :: _ => []

/-- The elements that no other element encloses, where the first element to open has this key. -/
def topKeys (next : Nat) : List Tree → List Nat
  | [] => []
  | .text _ :: rest => topKeys next rest
  | .element _ children :: rest =>
      next :: topKeys (next + 1 + openings (Tree.allEvents children)) rest

mutual

/-- The elements from this key on are those of the tree, each with its texts and its children. -/
def StandsAt (elements : Nat → Element) (tail : List Char) (next : Nat) : Tree → Prop
  | .text _ => True
  | .element tag children =>
      elements next = ⟨tag.text, lead children, topKeys (next + 1) children, tail⟩ ∧
        StandAt elements (next + 1) children

def StandAt (elements : Nat → Element) (next : Nat) : List Tree → Prop
  | [] => True
  | tree :: rest =>
      StandsAt elements (lead rest) next tree ∧ StandAt elements (next + openings tree.events) rest

end

theorem openings_element (tag : Tag) (children : List Tree) :
    openings (Tree.element tag children).events = openings (Tree.allEvents children) + 1 := by
  simp [Tree.events]

mutual

theorem StandsAt.congr {before after : Nat → Element} {tail : List Char} {next : Nat} {tree : Tree}
    (same : ∀ key, next ≤ key → key < next + openings tree.events → after key = before key)
    (stands : StandsAt before tail next tree) : StandsAt after tail next tree := by
  cases tree with
  | text content => trivial
  | element tag children =>
      rw [openings_element] at same
      refine ⟨(same next (by omega) (by omega)).trans stands.1, StandAt.congr ?_ stands.2⟩
      exact fun key atLeast below => same key (by omega) (by omega)

theorem StandAt.congr {before after : Nat → Element} {next : Nat} {trees : List Tree}
    (same : ∀ key, next ≤ key → key < next + openings (Tree.allEvents trees) →
      after key = before key)
    (stand : StandAt before next trees) : StandAt after next trees := by
  cases trees with
  | nil => trivial
  | cons tree rest =>
      rw [Tree.allEvents, openings_append] at same
      refine ⟨StandsAt.congr ?_ stand.1, StandAt.congr ?_ stand.2⟩
      · exact fun key atLeast below => same key (by omega) (by omega)
      · exact fun key atLeast below => same key (by omega) (by omega)

end

mutual

/-- The text of elements that are those of a tree is the text of the tree. -/
theorem StandsAt.fullText_eq {elements : Nat → Element} {tail : List Char} {key : Nat} {tag : Tag}
    {children : List Tree} (stands : StandsAt elements tail key (.element tag children))
    {depth : Nat} (deep : openings (Tree.allEvents children) < depth) :
    fullText elements depth key = Tree.fullTexts children := by
  cases depth with
  | zero => cases deep
  | succ depth =>
      rw [fullText, stands.1]
      exact StandAt.fullTexts_eq stands.2 (Nat.lt_succ_iff.mp deep)

theorem StandAt.fullTexts_eq {elements : Nat → Element} {next : Nat} {trees : List Tree}
    (stand : StandAt elements next trees) {depth : Nat}
    (deep : openings (Tree.allEvents trees) ≤ depth) :
    lead trees ++ (topKeys next trees).flatMap
        (fun child => fullText elements depth child ++ (elements child).tail) =
      Tree.fullTexts trees := by
  match trees with
  | [] => rfl
  | .text content :: rest =>
      have later : StandAt elements next rest := stand.2
      rw [Tree.allEvents, Tree.events, List.singleton_append, openings_text] at deep
      rw [lead, topKeys, List.append_assoc, StandAt.fullTexts_eq later deep]
      rfl
  | .element tag children :: rest =>
      rw [Tree.allEvents, openings_append, openings_element] at deep
      obtain ⟨stands, later⟩ := stand
      rw [openings_element, ← Nat.add_assoc, Nat.add_right_comm] at later
      have own : fullText elements depth next = Tree.fullTexts children :=
        StandsAt.fullText_eq stands (by omega)
      rw [lead, topKeys, List.nil_append, List.flatMap_cons, own, stands.1, List.append_assoc,
        StandAt.fullTexts_eq later (by omega)]
      rfl

end

namespace Builder

variable {builder : Builder}

theorem receive_receive (builder : Builder) (front back : List Char) (earlier later : List Nat) :
    { builder with elements := builder.receive front earlier }.receive back later =
      builder.receive (front ++ back) (earlier ++ later) := by
  funext key
  simp only [receive]
  split_ifs <;> simp [*]

def OpenOlder (builder : Builder) : Prop := ∀ key ∈ builder.inside, key < builder.made

theorem OpenOlder.head?_ne (older : builder.OpenOlder) {key : Nat} (notOlder : builder.made ≤ key) :
    builder.inside.head? ≠ some key := by
  intro first
  exact absurd (older key (List.mem_of_head? first)) (by omega)

theorem OpenOlder.opening (older : builder.OpenOlder) (tag : List Char) :
    (builder.grow (.opening tag)).OpenOlder := by
  intro key member
  rcases List.mem_cons.mp member with rfl | member
  · exact Nat.lt_succ_self _
  · exact Nat.lt_succ_of_lt (older key member)

structure Grown (before after : Builder) (trees : List Tree) : Prop where
  inside : after.inside = before.inside
  earlier : ∀ key < before.made,
    after.elements key = before.receive (lead trees) (topKeys before.made trees) key
  stand : StandAt after.elements before.made trees

structure GrownElement (before after : Builder) (tag : Tag) (children : List Tree) : Prop where
  inside : after.inside = before.inside
  behind : after.behind = some before.made
  earlier : ∀ key < before.made, after.elements key = before.receive [] [before.made] key
  stands : StandsAt after.elements [] before.made (.element tag children)

theorem GrownElement.of_children {tag : Tag} {children : List Tree}
    (inner : Grown (builder.grow (.opening tag.text))
      ((builder.grow (.opening tag.text)).growAll (Tree.allEvents children)) children) :
    GrownElement builder (builder.growAll (Tree.element tag children).events) tag children := by
  have closing := grow_closing_of_inside inner.inside tag.text
  rw [Tree.events, growAll_cons, growAll_append, growAll_cons, growAll_nil, closing]
  constructor
  case inside => rfl
  case behind => rfl
  case earlier =>
    intro key old
    have notOwn : key ≠ builder.made := Nat.ne_of_lt old
    rw [inner.earlier key (Nat.lt_succ_of_lt old),
      receive_of_ne (by simpa [grow] using notOwn.symm) (by simp [grow]), grow_opening_of_ne notOwn]
  case stands =>
    refine ⟨?_, inner.stand⟩
    rw [inner.earlier builder.made (Nat.lt_succ_self _)]
    simp [receive, grow]

/-- Trees behind an element do to the elements what they do behind what the element has done. -/
theorem Grown.element_cons {closed after : Builder} {tag : Tag} {children rest : List Tree}
    (older : builder.OpenOlder) (own : GrownElement builder closed tag children)
    (made : closed.made = builder.made + 1 + openings (Tree.allEvents children))
    (later : Grown closed after rest) : Grown builder after (.element tag children :: rest) := by
  have unmoved : ∀ key, builder.made < key → key < closed.made →
      after.elements key = closed.elements key := by
    intro key young old
    rw [later.earlier key old]
    apply receive_of_ne
    · rw [own.inside]
      exact older.head?_ne (Nat.le_of_lt young)
    · rw [own.behind]
      exact fun same => Nat.ne_of_lt young (Option.some.inj same)
  constructor
  case inside => rw [later.inside, own.inside]
  case earlier =>
    intro key old
    have notOwn : builder.made ≠ key := Nat.ne_of_gt old
    rw [later.earlier key (by omega)]
    simp only [receive, own.behind, own.inside, own.earlier key old, lead, topKeys, made,
      Option.some.injEq, notOwn, List.append_nil, if_false, ite_self, reduceCtorEq, false_and]
    split_ifs <;> simp
  case stand =>
    refine ⟨⟨?_, ?_⟩, ?_⟩
    · have notHead := older.head?_ne (Nat.le_refl builder.made)
      rw [later.earlier builder.made (by omega)]
      simp [receive, own.behind, own.inside, own.stands.1, notHead]
    · exact own.stands.2.congr fun key young old => unmoved key (by omega) (by omega)
    · have same : builder.made + openings (Tree.element tag children).events = closed.made := by
        rw [made, openings_element]
        omega
      rw [same]
      exact later.stand

theorem grown_allEvents (builder : Builder) (older : builder.OpenOlder) (trees : List Tree) :
    Grown builder (builder.growAll (Tree.allEvents trees)) trees := by
  match trees with
  | [] =>
      refine ⟨rfl, fun key old => ?_, trivial⟩
      simp [Tree.allEvents, receive, lead, topKeys]
  | .text content :: rest =>
      have later := grown_allEvents (builder.grow (.text content)) older rest
      refine ⟨later.inside, fun key old => ?_, trivial, later.stand⟩
      rw [Tree.allEvents, Tree.events, List.singleton_append, growAll_cons, later.earlier key old,
        grow, receive_receive]
      rfl
  | .element tag children :: rest =>
      have own := GrownElement.of_children (grown_allEvents _ (older.opening tag.text) children)
      have made : (builder.growAll (Tree.element tag children).events).made =
          builder.made + 1 + openings (Tree.allEvents children) := by
        rw [made_growAll, openings_element]
        omega
      rw [Tree.allEvents, growAll_append]
      refine .element_cons older own made (grown_allEvents _ ?_ rest)
      intro key member
      have old := older key (own.inside ▸ member)
      omega

/-- The events of an element leave it closed and whole. -/
theorem grownElement_events (older : builder.OpenOlder) (tag : Tag) (children : List Tree) :
    GrownElement builder (builder.growAll (Tree.element tag children).events) tag children :=
  .of_children (grown_allEvents _ (older.opening tag.text) children)

/-- An element is whole, and no further event reaches what stands inside it. -/
structure Settled (builder : Builder) (key : Nat) (tag : Tag) (children : List Tree) : Prop where
  made : key + 1 + openings (Tree.allEvents children) ≤ builder.made
  inside : ∀ opened ∈ builder.inside,
    opened < key ∨ key + 1 + openings (Tree.allEvents children) ≤ opened
  behind : ∀ last, builder.behind = some last →
    last ≤ key ∨ key + 1 + openings (Tree.allEvents children) ≤ last
  stands : ∃ tail, StandsAt builder.elements tail key (.element tag children)

theorem settled_element (older : builder.OpenOlder) (tag : Tag) (children : List Tree) :
    Settled (builder.growAll (Tree.element tag children).events) builder.made tag children := by
  have own := grownElement_events older tag children
  constructor
  case made =>
    rw [made_growAll, openings_element]
    omega
  case inside =>
    intro opened member
    exact .inl (older opened (own.inside ▸ member))
  case behind =>
    intro last isLast
    exact .inl (Nat.le_of_eq (Option.some.inj (isLast.symm.trans own.behind)))
  case stands => exact ⟨[], own.stands⟩

section Settled

variable {key : Nat} {tag : Tag} {children : List Tree}

theorem Settled.head?_ne (settled : builder.Settled key tag children) {inner : Nat}
    (atLeast : key ≤ inner) (below : inner < key + 1 + openings (Tree.allEvents children)) :
    builder.inside.head? ≠ some inner := by
  intro first
  have := settled.inside inner (List.mem_of_head? first)
  omega

/-- What comes in can only change the text behind the element. -/
theorem Settled.stands_receive (settled : builder.Settled key tag children) (content : List Char)
    (added : List Nat) :
    ∃ tail, StandsAt (builder.receive content added) tail key (.element tag children) := by
  obtain ⟨tail, own, inner⟩ := settled.stands
  refine ⟨(builder.receive content added key).tail, ?_, inner.congr fun other young old => ?_⟩
  · simp [receive, own, settled.head?_ne (Nat.le_refl key) (by omega)]
  · apply receive_of_ne (settled.head?_ne (by omega) old)
    intro last
    have := settled.behind other last
    omega

theorem Settled.grow (settled : builder.Settled key tag children) (event : Event) :
    (builder.grow event).Settled key tag children := by
  have made := settled.made
  cases event with
  | opening opened =>
      refine ⟨Nat.le_succ_of_le made, fun other member => ?_, nofun, ?_⟩
      · rcases List.mem_cons.mp member with rfl | member
        · exact .inr made
        · exact settled.inside other member
      · obtain ⟨tail, stands⟩ := settled.stands_receive [] [builder.made]
        refine ⟨tail, stands.congr fun other young old => grow_opening_of_ne ?_ opened⟩
        rw [openings_element] at old
        omega
  | text content => exact ⟨made, settled.inside, settled.behind, settled.stands_receive content []⟩
  | closing closed =>
      cases inside : builder.inside with
      | nil => simpa [Builder.grow, inside] using settled
      | cons innermost outer =>
          rw [grow_closing_of_inside inside]
          refine ⟨made, fun other member => ?_, fun last isLast => ?_, settled.stands⟩
          · exact settled.inside other (inside ▸ List.mem_cons_of_mem _ member)
          · obtain rfl := Option.some.inj isLast
            exact (settled.inside innermost (inside ▸ List.mem_cons_self)).imp_left Nat.le_of_lt

theorem Settled.growAll (settled : builder.Settled key tag children) (events : List Event) :
    (builder.growAll events).Settled key tag children :=
  growAll_preserves (Settled · key tag children) (fun _ event before => before.grow event) settled
    events

end Settled

/-- Children are younger than their parents, and inner elements than outer ones. -/
structure Ordered (builder : Builder) : Prop where
  older : builder.OpenOlder
  descending : builder.inside.Pairwise (· > ·)
  child : ∀ parent child, child ∈ (builder.elements parent).children →
    parent < child ∧ child < builder.made
  distinct : ∀ parent, (builder.elements parent).children.Nodup

theorem ordered_initial : initial.Ordered :=
  ⟨fun _ => nofun, .nil, fun _ _ => nofun, fun _ => .nil⟩

/-- A new element is a child of the innermost open element and of no other. -/
theorem Ordered.children_opening (ordered : builder.Ordered) (tag : List Char) (parent : Nat) :
    ((builder.grow (.opening tag)).elements parent).children =
      if builder.inside.head? = some parent then
        (builder.elements parent).children ++ [builder.made]
      else (builder.elements parent).children := by
  by_cases own : parent = builder.made
  · subst own
    have childless : (builder.elements builder.made).children = [] := by
      rw [List.eq_nil_iff_forall_not_mem]
      intro child member
      have := ordered.child builder.made child member
      omega
    rw [grow_opening_self, if_neg (ordered.older.head?_ne (Nat.le_refl _)), childless]
  · rw [grow_opening_of_ne own]
    rfl

theorem children_grow_text (builder : Builder) (content : List Char) (parent : Nat) :
    ((builder.grow (.text content)).elements parent).children =
      (builder.elements parent).children := by
  simp [grow, receive]

theorem Ordered.grow (ordered : builder.Ordered) (event : Event) :
    (builder.grow event).Ordered := by
  cases event with
  | opening tag =>
      refine ⟨ordered.older.opening tag, ?_, fun parent child member => ?_, fun parent => ?_⟩
      · exact List.pairwise_cons.mpr ⟨ordered.older, ordered.descending⟩
      · rw [ordered.children_opening] at member
        have made : (builder.grow (.opening tag)).made = builder.made + 1 := rfl
        split at member
        · rename_i first
          rcases List.mem_append.mp member with member | member
          · have := ordered.child parent child member
            omega
          · rw [List.mem_singleton.mp member]
            exact ⟨ordered.older parent (List.mem_of_head? first), Nat.lt_succ_self _⟩
        · have := ordered.child parent child member
          omega
      · rw [ordered.children_opening]
        split
        · refine List.nodup_append.mpr ⟨ordered.distinct parent, List.pairwise_singleton _ _, ?_⟩
          rintro child member other isNew rfl
          have := ordered.child parent child member
          have := List.mem_singleton.mp isNew
          omega
        · exact ordered.distinct parent
  | text content =>
      refine ⟨ordered.older, ordered.descending, fun parent child member => ?_, fun parent => ?_⟩
      · exact ordered.child parent child (children_grow_text builder content parent ▸ member)
      · exact children_grow_text builder content parent ▸ ordered.distinct parent
  | closing tag =>
      cases inside : builder.inside with
      | nil => simpa [Builder.grow, inside] using ordered
      | cons innermost outer =>
          rw [grow_closing_of_inside inside]
          refine ⟨fun key member => ?_, ?_, ordered.child, ordered.distinct⟩
          · exact ordered.older key (inside ▸ List.mem_cons_of_mem _ member)
          · exact (List.pairwise_cons.mp (inside ▸ ordered.descending)).2

theorem Ordered.growAll (ordered : builder.Ordered) (events : List Event) :
    (builder.growAll events).Ordered :=
  growAll_preserves Ordered (fun _ event before => before.grow event) ordered events

/-- Whose child an element is does not change. -/
theorem Ordered.mem_children_grow (ordered : builder.Ordered) {child : Nat}
    (old : child < builder.made) (event : Event) (parent : Nat) :
    child ∈ ((builder.grow event).elements parent).children ↔
      child ∈ (builder.elements parent).children := by
  cases event with
  | opening tag =>
      rw [ordered.children_opening]
      split
      · simp [Nat.ne_of_lt old]
      · rfl
  | text content => rw [children_grow_text]
  | closing tag => rw [elements_grow_closing]

theorem Ordered.mem_children_growAll (ordered : builder.Ordered) {child : Nat}
    (old : child < builder.made) (events : List Event) (parent : Nat) :
    child ∈ ((builder.growAll events).elements parent).children ↔
      child ∈ (builder.elements parent).children := by
  induction events generalizing builder with
  | nil => rfl
  | cons event rest induction =>
      rw [growAll_cons, induction (ordered.grow event)
        (Nat.lt_of_lt_of_le old (made_le_grow builder event)), ordered.mem_children_grow old]

theorem tag_grow {key : Nat} (old : key < builder.made) (event : Event) :
    ((builder.grow event).elements key).tag = (builder.elements key).tag := by
  cases event with
  | opening tag => rw [grow_opening_of_ne (Nat.ne_of_lt old), tag_receive]
  | text content => rfl
  | closing tag => rw [elements_grow_closing]

theorem tag_growAll {key : Nat} (old : key < builder.made) (events : List Event) :
    ((builder.growAll events).elements key).tag = (builder.elements key).tag := by
  induction events generalizing builder with
  | nil => rfl
  | cons event rest induction =>
      rw [growAll_cons, induction (Nat.lt_of_lt_of_le old (made_le_grow builder event)),
        tag_grow old]

def ofEvents (events : List Event) : Builder := initial.growAll events

theorem made_ofEvents (events : List Event) : (ofEvents events).made = openings events :=
  (made_growAll initial events).trans (Nat.zero_add _)

theorem ordered_ofEvents (events : List Event) : (ofEvents events).Ordered :=
  ordered_initial.growAll events

theorem ofEvents_append (front back : List Event) :
    ofEvents (front ++ back) = (ofEvents front).growAll back :=
  growAll_append initial front back

theorem grow_ofEvents (events : List Event) (event : Event) :
    (ofEvents events).grow event = ofEvents (events ++ [event]) :=
  (ofEvents_append events [event]).symm

theorem tag_ofEvents_opening (before : List Event) (tag : List Char) (behind : List Event) :
    ((ofEvents (before ++ .opening tag :: behind)).elements (openings before)).tag = tag := by
  rw [ofEvents_append, growAll_cons, ← made_ofEvents, tag_growAll (Nat.lt_succ_self _),
    grow_opening_self]

section Element

variable (before : List Event) (tag : Tag) (children : List Tree)

theorem inside_ofEvents_opening :
    (ofEvents (before ++ .opening tag.text :: Tree.allEvents children)).inside =
      openings before :: (ofEvents before).inside := by
  have older := (ordered_ofEvents before).older.opening tag.text
  rw [ofEvents_append, growAll_cons, (grown_allEvents _ older children).inside, ← made_ofEvents]
  rfl

theorem inside_ofEvents_element :
    (ofEvents (before ++ (Tree.element tag children).events)).inside =
      (ofEvents before).inside := by
  rw [ofEvents_append]
  exact (grownElement_events (ordered_ofEvents before).older tag children).inside

theorem settled_ofEvents_element (behind : List Event) :
    (ofEvents (before ++ (Tree.element tag children).events ++ behind)).Settled (openings before)
      tag children := by
  rw [ofEvents_append, ofEvents_append, ← made_ofEvents]
  exact (settled_element (ordered_ofEvents before).older tag children).growAll behind

/-- An element is a child of the element that is innermost where it opens. -/
theorem mem_children_ofEvents_element (behind : List Event) (parent : Nat) :
    openings before ∈
        ((ofEvents (before ++ (Tree.element tag children).events ++ behind)).elements
          parent).children ↔
      (ofEvents before).inside.head? = some parent := by
  have ordered := ordered_ofEvents before
  have fresh : (ofEvents before).made ∉ ((ofEvents before).elements parent).children :=
    fun member => Nat.lt_irrefl _ (ordered.child parent _ member).2
  rw [List.append_assoc, ofEvents_append, Tree.events, List.cons_append, growAll_cons,
    ← made_ofEvents, (ordered.grow _).mem_children_growAll (Nat.lt_succ_self _),
    ordered.children_opening]
  split <;> simp [*]

end Element

end Builder

end Disassembly.Reference
