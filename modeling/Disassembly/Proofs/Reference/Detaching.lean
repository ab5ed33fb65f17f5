import Disassembly.Proofs.Reference.Loop

/-!
Letting elements go is safe and complete. The loop never fails, for an element that closes is the
innermost open one and still a child of the next. An element `mnem` or `brief` has all its text when
it closes, so the descriptions are those of the loop that lets nothing go. And where no open element
needs its text, the open elements have no child that the loop is through with. A root that is itself
`mnem` or `brief` needs its text up to its end, and there is nothing to take it away from.
-/

namespace Disassembly.Reference

open Markup

namespace Collector

def ofEvents (events : List Event) : Collector := events.foldl step .initial

theorem ofEvents_concat (events : List Event) (event : Event) :
    ofEvents (events ++ [event]) = step (ofEvents events) event :=
  List.foldl_append

def known (collector : Collector) : List (List Char) × Descriptions :=
  (collector.pending, collector.descriptions)

/-- What the collector has behind the children of an element, and what the closing adds to it. -/
theorem ofEvents_element (before : List Event) (tag : Tag) (children : List Tree) :
    let inside := ofEvents (before ++ .opening tag.text :: Tree.allEvents children)
    let outside := ofEvents (before ++ (Tree.element tag children).events)
    inside.capturing = (ofEvents before).capturing + (Role.ofTag tag.text).need ∧
      outside.capturing = (ofEvents before).capturing ∧
      outside.known = (Closing.ofName tag.base (Tree.fullTexts children)).foldl note
        inside.known := by
  intro inside outside
  obtain ⟨kept, followed, complete⟩ :=
    foldl_step_allEvents children (step (ofEvents before) (.opening tag.text))
  have isInside : inside =
      (step (ofEvents before) (.opening tag.text)).behind kept (Closing.ofTrees children) :=
    List.foldl_append.trans followed
  have isOutside : outside = step inside (.closing tag.text) := by
    rw [← ofEvents_concat, ← Tree.append_events_element, List.append_nil]
  rw [isOutside, isInside, step_closing, ofRole_fullTexts_kept complete]
  exact ⟨rfl, rfl, rfl⟩

end Collector

/-- The loop is behind the events `passed`, and the elements are made ahead of it by the events
`ahead`. It has let go of some elements, each of them closed before and none of them inside an open
element that needs its text. -/
structure Follows (trees : List Tree) (passed ahead : List Event) (gone : List Nat)
    (handled : List Signal) (loop : Loop) (rest : List Event) : Prop where
  document : Tree.allEvents trees = passed ++ (ahead ++ rest)
  builder : loop.builder = (Builder.ofEvents (passed ++ ahead)).without gone
  waiting : loop.waiting = (Builder.ofEvents passed).report ahead
  told : handled = Builder.initial.report passed
  opened : loop.opened = (Builder.ofEvents passed).inside
  capturing : loop.capturing = loop.needed
  collected : ((Collector.ofEvents passed).capturing : Int) = loop.capturing
  known : (Collector.ofEvents passed).known = loop.known
  closed : ∀ child ∈ gone, .closed child ∈ handled
  older : ∀ key ∈ loop.opened, loop.role key ≠ .other → ∀ child ∈ gone, child < key

/-- Where neither an element nor one around it needs its text, its closed children are let go. The
root counts as such an element also when it is closed. -/
def Releases (passed ahead : List Event) (gone : List Nat) (handled : List Signal) (loop : Loop) :
    Prop :=
  ∀ key outer, key :: outer <:+ loop.opened ∨ key = 0 ∧ outer = [] →
    (∀ opened ∈ key :: outer, loop.role opened = .other) →
    ∀ child ∈ ((Builder.ofEvents (passed ++ ahead)).elements key).children,
      .closed child ∈ handled → child ∈ gone

namespace Follows

variable {trees : List Tree} {passed ahead rest : List Event} {gone : List Nat}
  {handled : List Signal} {loop : Loop}

theorem initial (trees : List Tree) :
    Follows trees [] [] [] [] .initial (Tree.allEvents trees) where
  document := rfl
  builder := rfl
  waiting := rfl
  told := rfl
  opened := rfl
  capturing := rfl
  collected := rfl
  known := rfl
  closed := nofun
  older := nofun

theorem past_of_told (follows : Follows trees passed ahead gone handled loop rest) {key : Nat}
    (told : .closed key ∈ handled) : (Builder.ofEvents passed).Past key :=
  Builder.ordered_initial.past_of_report (follows.told ▸ told)

theorem not_gone_of_opened (follows : Follows trees passed ahead gone handled loop rest) {key : Nat}
    (opened : key ∈ loop.opened) : key ∉ gone := fun isGone =>
  (follows.past_of_told (follows.closed key isGone)).2 (follows.opened ▸ opened)

theorem made_le (follows : Follows trees passed ahead gone handled loop rest) :
    (Builder.ofEvents passed).made ≤ loop.builder.made := by
  rw [follows.builder]
  show _ ≤ (Builder.ofEvents (passed ++ ahead)).made
  rw [Builder.made_ofEvents, Builder.made_ofEvents, openings_append]
  exact Nat.le_add_right _ _

theorem opened_lt (follows : Follows trees passed ahead gone handled loop rest) {key : Nat}
    (opened : key ∈ loop.opened) : key < loop.builder.made :=
  Nat.lt_of_lt_of_le
    ((Builder.ordered_ofEvents passed).older key (follows.opened ▸ opened)) follows.made_le

theorem fresh (follows : Follows trees passed ahead gone handled loop rest) :
    (Builder.ofEvents (passed ++ ahead)).made ∉ gone := by
  intro isGone
  have old := (follows.past_of_told (follows.closed _ isGone)).1
  have := follows.made_le
  rw [follows.builder] at this
  exact Nat.lt_irrefl _ (Nat.lt_of_lt_of_le old this)

theorem capturing_eq_zero_iff (follows : Follows trees passed ahead gone handled loop rest) :
    loop.capturing = 0 ↔ ∀ key ∈ loop.opened, loop.role key = .other := by
  rw [follows.capturing, Int.natCast_eq_zero, Loop.needed_eq_zero_iff]

theorem role_feed {key : Nat} (old : key < loop.builder.made) (event : Event) :
    (loop.feed event).role key = loop.role key :=
  congrArg Role.ofTag (Builder.tag_grow old event)

theorem feed {event : Event}
    (follows : Follows trees passed ahead gone handled loop (event :: rest)) :
    Follows trees passed (ahead ++ [event]) gone handled (loop.feed event) rest := by
  have sameRole : ∀ key ∈ loop.opened, (loop.feed event).role key = loop.role key :=
    fun key opened => role_feed (follows.opened_lt opened) event
  have grown : Builder.ofEvents (passed ++ (ahead ++ [event])) =
      (Builder.ofEvents (passed ++ ahead)).grow event := by
    rw [← List.append_assoc, Builder.grow_ofEvents]
  constructor
  case document => rw [follows.document, List.append_assoc, List.singleton_append]
  case builder =>
    rw [grown, ← Builder.grow_without follows.fresh, ← follows.builder]
    rfl
  case waiting =>
    rw [Builder.report_concat, ← follows.waiting, ← Builder.ofEvents_append, Loop.feed,
      follows.builder]
    rfl
  case told => exact follows.told
  case opened => exact follows.opened
  case capturing =>
    have sameNeeded : (loop.feed event).needed = loop.needed :=
      List.countP_congr fun key opened => by rw [sameRole key opened]
    exact follows.capturing.trans (congrArg Nat.cast sameNeeded.symm)
  case collected => exact follows.collected
  case known => exact follows.known
  case closed => exact follows.closed
  case older =>
    intro key opened needs
    exact follows.older key opened (sameRole key opened ▸ needs)

/-- The loop is told nothing of text. -/
theorem text {content : List Char}
    (follows : Follows trees passed (.text content :: ahead) gone handled loop rest) :
    Follows trees (passed ++ [.text content]) ahead gone handled loop rest := by
  constructor
  case document => rw [follows.document, List.append_assoc, List.singleton_append, List.cons_append]
  case builder => rw [← List.append_cons, follows.builder]
  case waiting =>
    rw [follows.waiting, ← Builder.grow_ofEvents]
    rfl
  case told => rw [follows.told, Builder.report_concat, Builder.signals, List.append_nil]
  case opened =>
    rw [follows.opened, ← Builder.grow_ofEvents]
    rfl
  case capturing => exact follows.capturing
  case collected =>
    rw [Collector.ofEvents_concat]
    exact follows.collected
  case known =>
    rw [Collector.ofEvents_concat]
    exact follows.known
  case closed => exact follows.closed
  case older => exact follows.older

theorem enter {tag : List Char} {later : List Signal}
    (follows : Follows trees passed (.opening tag :: ahead) gone handled loop rest)
    (waiting : later = (Builder.ofEvents (passed ++ [.opening tag])).report ahead) :
    Follows trees (passed ++ [.opening tag]) ahead gone (handled ++ [.opened (openings passed)])
      (Loop.enter (openings passed) { loop with waiting := later }) rest := by
  have role : loop.role (openings passed) = Role.ofTag tag := by
    rw [Loop.role, follows.builder]
    exact congrArg Role.ofTag (Builder.tag_ofEvents_opening passed tag ahead)
  constructor
  case document => rw [follows.document, List.append_assoc, List.singleton_append, List.cons_append]
  case builder => exact List.append_cons passed _ ahead ▸ follows.builder
  case waiting => exact waiting
  case told =>
    rw [follows.told, Builder.report_concat, ← Builder.made_ofEvents]
    rfl
  case opened =>
    rw [Loop.enter, follows.opened, ← Builder.grow_ofEvents, ← Builder.made_ofEvents]
    rfl
  case capturing =>
    rw [Loop.needed_enter, Int.natCast_add]
    exact congrArg (· + _) follows.capturing
  case collected =>
    rw [Collector.ofEvents_concat, Collector.step, ← role, Int.natCast_add, follows.collected]
    rfl
  case known =>
    rw [Collector.ofEvents_concat]
    exact follows.known
  case closed => exact fun child isGone => List.mem_append_left _ (follows.closed child isGone)
  case older =>
    intro key opened needs child isGone
    rcases List.mem_cons.mp opened with rfl | opened
    · have := (follows.past_of_told (follows.closed child isGone)).1
      rwa [Builder.made_ofEvents] at this
    · exact follows.older key opened needs child isGone

section Closing

variable {before : List Event} {tag : Tag} {children : List Tree} {later : List Signal}
  (follows : Follows trees (before ++ .opening tag.text :: Tree.allEvents children)
    (.closing tag.text :: ahead) gone handled loop rest)

include follows

theorem opened_eq : loop.opened = openings before :: (Builder.ofEvents before).inside := by
  rw [follows.opened, Builder.inside_ofEvents_opening]

theorem builder_eq :
    loop.builder =
      (Builder.ofEvents (before ++ (Tree.element tag children).events ++ ahead)).without gone := by
  rw [follows.builder, Tree.append_events_element]

theorem role_closing : loop.role (openings before) = Role.ofTag tag.text := by
  obtain ⟨tail, own, _⟩ := (Builder.settled_ofEvents_element before tag children ahead).stands
  rw [Loop.role, follows.builder_eq]
  exact congrArg (Role.ofTag ·.tag) own

/-- An element whose text is needed is whole when it closes. -/
theorem stands (needs : loop.role (openings before) ≠ .other) :
    ∃ tail, StandsAt loop.builder.elements tail (openings before) (.element tag children) := by
  obtain ⟨tail, stands⟩ := (Builder.settled_ofEvents_element before tag children ahead).stands
  have opened : openings before ∈ loop.opened := follows.opened_eq ▸ List.mem_cons_self
  rw [follows.builder_eq]
  exact ⟨tail, (Builder.ordered_ofEvents _).stands_without
    (follows.older (openings before) opened needs) stands⟩

theorem content_eq (needs : loop.role (openings before) ≠ .other) :
    loop.content (openings before) = Tree.fullTexts children := by
  obtain ⟨tail, stands⟩ := follows.stands needs
  have made := (Builder.settled_ofEvents_element before tag children ahead).made
  refine stands.fullText_eq ?_
  rw [follows.builder_eq]
  exact Nat.lt_of_lt_of_le (by omega) made

theorem closing_eq :
    Closing.ofRole (loop.content (openings before)) (loop.role (openings before)) =
      Closing.ofName tag.base (Tree.fullTexts children) := by
  by_cases other : loop.role (openings before) = .other
  · rw [← Closing.ofRole_ofTag, ← follows.role_closing, other]
    rfl
  · rw [follows.content_eq other, follows.role_closing, Closing.ofRole_ofTag]

theorem leave
    (waiting : later =
      (Builder.ofEvents (before ++ (Tree.element tag children).events)).report ahead) :
    Follows trees (before ++ (Tree.element tag children).events) ahead gone
      (handled ++ [.closed (openings before)])
      (Loop.leave (openings before) (Builder.ofEvents before).inside
        { loop with waiting := later }) rest := by
  have same : before ++ (Tree.element tag children).events =
      before ++ .opening tag.text :: Tree.allEvents children ++ [.closing tag.text] := by
    rw [← Tree.append_events_element, List.append_nil]
  obtain ⟨capturing, lowered, noted⟩ := Collector.ofEvents_element before tag children
  constructor
  case document =>
    rw [follows.document, same, List.append_assoc _ [_], List.singleton_append, List.cons_append]
  case builder => exact follows.builder_eq
  case waiting => exact waiting
  case told =>
    rw [follows.told, same, Builder.report_concat]
    exact congrArg (_ ++ ·) (Builder.signals_closing
      (Builder.inside_ofEvents_opening before tag children) tag.text).symm
  case opened => exact (Builder.inside_ofEvents_element before tag children).symm
  case capturing =>
    have counted : loop.needed = _ + (loop.role (openings before)).need :=
      Loop.needed_leave follows.opened_eq
    have whole := follows.capturing
    change loop.capturing - ((loop.role (openings before)).need : Int) = _
    rw [whole, counted, Int.natCast_add, Int.add_sub_cancel]
    rfl
  case collected =>
    have whole := follows.collected
    change _ = loop.capturing - ((loop.role (openings before)).need : Int)
    rw [lowered, ← whole, capturing, follows.role_closing, Int.natCast_add, Int.add_sub_cancel]
  case known =>
    rw [noted, follows.known, ← follows.closing_eq]
    rfl
  case closed => exact fun child isGone => List.mem_append_left _ (follows.closed child isGone)
  case older =>
    intro key opened
    exact follows.older key (follows.opened_eq ▸ List.mem_cons_of_mem _ opened)

end Closing

/-- What the loop is told of a closing is the element that it closes. -/
theorem exists_closing {closed : List Char}
    (follows : Follows trees passed (.closing closed :: ahead) gone handled loop rest) :
    ∃ (before : List Event) (tag : Tag) (children : List Tree), tag.text = closed ∧
      passed = before ++ .opening tag.text :: Tree.allEvents children ∧
      loop.waiting = .closed (openings before) ::
        (Builder.ofEvents (before ++ (Tree.element tag children).events)).report ahead := by
  obtain ⟨before, tag, children, rfl, rfl⟩ := Tree.exists_opening_of_closing follows.document
  have signals := Builder.signals_closing
    (Builder.inside_ofEvents_opening before tag children) tag.text
  refine ⟨before, tag, children, rfl, rfl, ?_⟩
  rw [follows.waiting, Builder.report, signals, List.singleton_append, Builder.grow_ofEvents,
    ← Tree.append_events_element, List.append_nil]

/-- A closed child of the innermost open element can be let go where no text is needed. -/
theorem letGo (follows : Follows trees passed ahead gone handled loop rest) {child parent : Nat}
    {outer : List Nat} (told : .closed child ∈ handled) (kept : child ∉ gone)
    (opened : loop.opened = parent :: outer) (idle : loop.capturing = 0)
    (isChild : ∀ other,
      child ∈ ((Builder.ofEvents (passed ++ ahead)).elements other).children ↔ other = parent) :
    ∃ after, loop.letGo child = some after ∧ after.opened = loop.opened ∧
      (∀ key, after.role key = loop.role key) ∧
      Follows trees passed ahead (child :: gone) handled after rest := by
  have ordered := Builder.ordered_ofEvents (passed ++ ahead)
  have removed : loop.builder.remove parent child =
      (Builder.ofEvents (passed ++ ahead)).without (child :: gone) := by
    rw [follows.builder]
    exact ordered.remove_without fun other member => (isChild other).mp member
  have retained : child ∈ (loop.builder.elements parent).children := by
    rw [follows.builder]
    exact List.mem_filter.mpr ⟨(isChild parent).mpr rfl, by simpa using kept⟩
  have sameRole : ∀ key,
      Loop.role { loop with builder := loop.builder.remove parent child } key = loop.role key := by
    intro key
    rw [Loop.role, removed, Loop.role, follows.builder]
    rfl
  have nothingNeeded := follows.capturing_eq_zero_iff.mp idle
  refine ⟨{ loop with builder := loop.builder.remove parent child }, ?_, rfl, sameRole, ?_⟩
  · rw [Loop.letGo, opened]
    exact if_pos retained
  · constructor
    case document => exact follows.document
    case builder => exact removed
    case waiting => exact follows.waiting
    case told => exact follows.told
    case opened => exact follows.opened
    case capturing =>
      rw [Loop.needed]
      simp only [sameRole]
      exact follows.capturing
    case collected => exact follows.collected
    case known => exact follows.known
    case closed =>
      intro other isGone
      rcases List.mem_cons.mp isGone with rfl | isGone
      · exact told
      · exact follows.closed other isGone
    case older =>
      intro key isOpen needs
      exact absurd ((sameRole key).trans (nothingNeeded key isOpen)) needs

end Follows

namespace Releases

variable {trees : List Tree} {passed ahead rest : List Event} {gone : List Nat}
  {handled : List Signal} {loop : Loop}

theorem feed {event : Event} (releases : Releases passed ahead gone handled loop)
    (follows : Follows trees passed ahead gone handled loop (event :: rest)) :
    Releases passed (ahead ++ [event]) gone handled (loop.feed event) := by
  intro key outer place idle child member told
  have ordered := Builder.ordered_ofEvents (passed ++ ahead)
  have old : child < (Builder.ofEvents (passed ++ ahead)).made := by
    have made := follows.made_le
    rw [follows.builder] at made
    exact Nat.lt_of_lt_of_le (follows.past_of_told told).1 made
  rw [← List.append_assoc, Builder.ofEvents_append, ordered.mem_children_growAll old] at member
  refine releases key outer place (fun opened inside => ?_) child member told
  have made : opened < loop.builder.made := by
    rcases place with stillOpen | ⟨rfl, rfl⟩
    · exact follows.opened_lt (stillOpen.mem inside)
    · rw [List.mem_singleton.mp inside, follows.builder]
      exact Nat.zero_lt_of_lt old
  exact (Follows.role_feed made event).symm.trans (idle opened inside)

theorem text {content : List Char}
    (releases : Releases passed (.text content :: ahead) gone handled loop) :
    Releases (passed ++ [.text content]) ahead gone handled loop := by
  rw [Releases, List.append_assoc, List.singleton_append]
  exact releases

theorem enter {tag : List Char} {later : List Signal}
    (releases : Releases passed (.opening tag :: ahead) gone handled loop)
    (follows : Follows trees passed (.opening tag :: ahead) gone handled loop rest) :
    Releases (passed ++ [.opening tag]) ahead gone (handled ++ [.opened (openings passed)])
      (Loop.enter (openings passed) { loop with waiting := later }) := by
  intro key outer place idle child member told
  rw [List.append_assoc, List.singleton_append] at member
  have told : .closed child ∈ handled := by simpa using told
  rcases place with stillOpen | root
  · rcases List.suffix_cons_iff.mp stillOpen with same | stillOpen
    · -- The element has only now opened, and what is inside it opens later.
      obtain ⟨rfl, rfl⟩ := List.cons.inj same
      have young := ((Builder.ordered_ofEvents _).child _ child member).1
      have old := (follows.past_of_told told).1
      rw [Builder.made_ofEvents] at old
      exact absurd old (Nat.lt_asymm young)
    · exact releases key outer (.inl stillOpen) idle child member told
  · exact releases key outer (.inr root) idle child member told

/-- When an element closes, it is the only one to be asked about again. -/
theorem leave {before : List Event} {tag : Tag} {children : List Tree} {left : Loop}
    {goneBehind : List Nat}
    (releases : Releases (before ++ .opening tag.text :: Tree.allEvents children)
      (.closing tag.text :: ahead) gone handled loop)
    (follows : Follows trees (before ++ .opening tag.text :: Tree.allEvents children)
      (.closing tag.text :: ahead) gone handled loop rest)
    (opened : left.opened = (Builder.ofEvents before).inside)
    (sameRole : ∀ key, left.role key = loop.role key) (more : gone ⊆ goneBehind)
    (isGone : left.opened ≠ [] → (∀ key ∈ left.opened, left.role key = .other) →
      openings before ∈ goneBehind) :
    Releases (before ++ (Tree.element tag children).events) ahead goneBehind
      (handled ++ [.closed (openings before)]) left := by
  intro key outer place idle child member told
  rcases List.mem_append.mp told with told | told
  · refine more (releases key outer ?_ (fun other inside => ?_) child ?_ told)
    · rw [follows.opened_eq, ← opened]
      exact place.imp_left fun stillOpen => stillOpen.trans (List.suffix_cons _ _)
    · exact (sameRole other).symm.trans (idle other inside)
    · rwa [Tree.append_events_element] at member
  · obtain rfl : child = openings before := by simpa using told
    rw [Builder.mem_children_ofEvents_element] at member
    obtain ⟨around, inside⟩ : ∃ around, left.opened = key :: around := by
      rw [opened]
      exact List.head?_eq_some_iff.mp member
    have descending : (key :: around).Pairwise (· > ·) := by
      rw [← inside, opened]
      exact (Builder.ordered_ofEvents before).descending
    have below := (List.pairwise_cons.mp descending).1
    -- The closed element stands right inside the elements that are asked about.
    have same : around = outer := by
      rcases place with stillOpen | ⟨rfl, rfl⟩
      · rcases List.suffix_cons_iff.mp (inside ▸ stillOpen) with same | deeper
        · exact (List.cons.inj same).2.symm
        · exact absurd (below key (deeper.mem List.mem_cons_self)) (Nat.lt_irrefl key)
      · exact List.eq_nil_iff_forall_not_mem.mpr fun other member =>
          Nat.not_lt_zero other (below other member)
    rw [inside, same] at isGone
    exact isGone (List.cons_ne_nil _ _) idle

end Releases

structure Detaches (detaching : Bool) (trees : List Tree) (passed ahead : List Event)
    (gone : List Nat) (handled : List Signal) (loop : Loop) (rest : List Event) : Prop where
  follows : Follows trees passed ahead gone handled loop rest
  releases : detaching = true → Releases passed ahead gone handled loop

namespace Detaches

variable {detaching : Bool} {trees : List Tree} {passed ahead rest : List Event} {gone : List Nat}
  {handled : List Signal} {loop : Loop} {signal : Signal} {later : List Signal}

theorem initial (detaching : Bool) (trees : List Tree) :
    Detaches detaching trees [] [] [] [] .initial (Tree.allEvents trees) :=
  ⟨.initial trees, fun _ _ _ _ _ _ _ told => by cases told⟩

theorem feed {event : Event}
    (detaches : Detaches detaching trees passed ahead gone handled loop (event :: rest)) :
    Detaches detaching trees passed (ahead ++ [event]) gone handled (loop.feed event) rest :=
  ⟨detaches.follows.feed, fun lets => (detaches.releases lets).feed detaches.follows⟩

/-- What the loop is told next is the opening or the closing of an element of the document. -/
theorem exists_next (detaches : Detaches detaching trees passed ahead gone handled loop rest)
    (waits : loop.waiting = signal :: later) :
    (∃ passed tag ahead,
      Detaches detaching trees passed (.opening tag :: ahead) gone handled loop rest ∧
        signal = .opened (openings passed) ∧
        later = (Builder.ofEvents (passed ++ [.opening tag])).report ahead) ∨
      ∃ (before : List Event) (tag : Tag) (children : List Tree) (ahead : List Event),
        Detaches detaching trees (before ++ .opening tag.text :: Tree.allEvents children)
          (.closing tag.text :: ahead) gone handled loop rest ∧
        signal = .closed (openings before) ∧
        later =
          (Builder.ofEvents (before ++ (Tree.element tag children).events)).report ahead := by
  induction ahead generalizing passed with
  | nil => cases waits.symm.trans detaches.follows.waiting
  | cons event ahead induction =>
      cases event with
      | text content =>
          exact induction ⟨detaches.follows.text, fun lets => (detaches.releases lets).text⟩
      | opening tag =>
          obtain ⟨rfl, rfl⟩ := List.cons.inj (waits.symm.trans detaches.follows.waiting)
          refine .inl ⟨passed, tag, ahead, detaches, ?_, ?_⟩
          · rw [Builder.made_ofEvents]
          · rw [← Builder.grow_ofEvents]
            rfl
      | closing closed =>
          obtain ⟨before, tag, children, rfl, rfl, closes⟩ := detaches.follows.exists_closing
          obtain ⟨rfl, rfl⟩ := List.cons.inj (waits.symm.trans closes)
          exact .inr ⟨before, tag, children, ahead, detaches, rfl, rfl⟩

/-- The loop goes on from an element that closes. -/
theorem exists_leave {before : List Event} {tag : Tag} {children : List Tree}
    (detaches : Detaches detaching trees (before ++ .opening tag.text :: Tree.allEvents children)
      (.closing tag.text :: ahead) gone handled loop rest)
    (told : later =
      (Builder.ofEvents (before ++ (Tree.element tag children).events)).report ahead) :
    ∃ after, Loop.handle detaching { loop with waiting := later } (.closed (openings before)) =
        some after ∧
      ∃ goneBehind, Detaches detaching trees (before ++ (Tree.element tag children).events) ahead
        goneBehind (handled ++ [.closed (openings before)]) after rest := by
  obtain ⟨follows, releases⟩ := detaches
  let left := Loop.leave (openings before) (Builder.ofEvents before).inside
    { loop with waiting := later }
  have handles : Loop.handle detaching { loop with waiting := later } (.closed (openings before)) =
      if detaching && left.capturing = 0 then left.letGo (openings before) else some left := by
    simp only [Loop.handle, follows.opened_eq]
    rfl
  have followsLeft := follows.leave told
  rw [handles]
  by_cases lets : (detaching && left.capturing = 0) = true
  · rw [if_pos lets]
    obtain ⟨letsGo, idle⟩ := Bool.and_eq_true_iff.mp lets
    have idle : left.capturing = 0 := of_decide_eq_true idle
    cases inside : (Builder.ofEvents before).inside with
    | nil =>
        have none : left.opened = [] := inside
        refine ⟨left, ?_, gone, followsLeft, fun _ => ?_⟩
        · rw [Loop.letGo, none]
        · exact (releases letsGo).leave follows rfl (fun _ => rfl) (List.Subset.refl gone)
            fun some _ => absurd none some
    | cons parent outer =>
        have kept : openings before ∉ gone :=
          follows.not_gone_of_opened (follows.opened_eq ▸ List.mem_cons_self)
        have isChild : ∀ other, openings before ∈ ((Builder.ofEvents
            (before ++ (Tree.element tag children).events ++ ahead)).elements other).children ↔
              other = parent := by
          intro other
          rw [Builder.mem_children_ofEvents_element, inside, List.head?_cons, Option.some.injEq,
            eq_comm]
        obtain ⟨after, isAfter, opened, sameRole, followsAfter⟩ := followsLeft.letGo
          (List.mem_append_right _ List.mem_cons_self) kept inside idle isChild
        refine ⟨after, isAfter, openings before :: gone, followsAfter, fun _ => ?_⟩
        exact (releases letsGo).leave follows opened sameRole (List.subset_cons_self _ _)
          fun _ _ => List.mem_cons_self
  · rw [if_neg lets]
    refine ⟨left, rfl, gone, followsLeft, fun letsGo => ?_⟩
    refine (releases letsGo).leave follows rfl (fun _ => rfl) (List.Subset.refl gone) ?_
    intro _ idle
    exact absurd (by simpa [letsGo] using followsLeft.capturing_eq_zero_iff.mpr idle) lets

theorem exists_handle (detaches : Detaches detaching trees passed ahead gone handled loop rest)
    (waits : loop.waiting = signal :: later) :
    ∃ after, Loop.handle detaching { loop with waiting := later } signal = some after ∧
      ∃ passed ahead gone,
        Detaches detaching trees passed ahead gone (handled ++ [signal]) after rest := by
  rcases detaches.exists_next waits with
    ⟨passed, tag, ahead, next, rfl, told⟩ | ⟨before, tag, children, ahead, next, rfl, told⟩
  · exact ⟨_, rfl, _, ahead, gone, next.follows.enter told, fun lets =>
      (next.releases lets).enter next.follows⟩
  · obtain ⟨after, handles, goneBehind, behind⟩ := next.exists_leave told
    exact ⟨after, handles, _, ahead, goneBehind, behind⟩

/-- Whatever state the loop comes to, it follows the events. -/
theorem of_reaches
    (reaches : Reaches detaching (Tree.allEvents trees) handled loop rest) :
    ∃ passed ahead gone, Detaches detaching trees passed ahead gone handled loop rest := by
  induction reaches with
  | start => exact ⟨[], [], [], .initial detaching trees⟩
  | feed _ induction =>
      obtain ⟨passed, ahead, gone, detaches⟩ := induction
      exact ⟨passed, _, gone, detaches.feed⟩
  | handle _ waits handles induction =>
      obtain ⟨passed, ahead, gone, detaches⟩ := induction
      obtain ⟨after, handles', behind⟩ := detaches.exists_handle waits
      obtain rfl := Option.some.inj (handles.symm.trans handles')
      exact behind

/-- With all events in and nothing left to look at, the loop is behind the whole document. -/
theorem exists_finished (detaches : Detaches detaching trees passed ahead gone handled loop [])
    (done : loop.waiting = []) :
    ∃ gone, Detaches detaching trees (Tree.allEvents trees) [] gone handled loop [] := by
  induction ahead generalizing passed with
  | nil =>
      have same : Tree.allEvents trees = passed := by simpa using detaches.follows.document
      exact ⟨gone, same ▸ detaches⟩
  | cons event ahead induction =>
      cases event with
      | text content =>
          exact induction ⟨detaches.follows.text, fun lets => (detaches.releases lets).text⟩
      | opening tag => cases done.symm.trans detaches.follows.waiting
      | closing closed =>
          obtain ⟨_, _, _, _, _, closes⟩ := detaches.follows.exists_closing
          cases done.symm.trans closes

end Detaches

structure Safe (detaching : Bool) (document : List Event) (handled : List Signal) (loop : Loop)
    (rest : List Event) : Prop where
  counted : loop.capturing = loop.needed
  /-- An element that closes is the innermost open one and not yet taken away from its parent. -/
  retained : ∀ key later, loop.waiting = .closed key :: later →
    ∃ outer, loop.opened = key :: outer ∧
      ∀ parent ∈ outer.head?, key ∈ (loop.builder.elements parent).children
  proceeds : ∀ signal later, loop.waiting = signal :: later →
    (Loop.handle detaching { loop with waiting := later } signal).isSome
  /-- An element `mnem` or `brief` that closes has all that the document has inside it. -/
  whole : ∀ key later, loop.waiting = .closed key :: later → loop.role key ≠ .other →
    ∃ before tag children behind tail,
      document = before ++ (Tree.element tag children).events ++ behind ∧
        openings before = key ∧
        StandsAt loop.builder.elements tail key (.element tag children) ∧
        loop.content key = Tree.fullTexts children
  /-- Where no text is needed, neither an open element nor the root has a child that the loop is
  through with. The closed root is left out if it is itself `mnem` or `brief`. -/
  released : detaching = true → loop.capturing = 0 →
    ∀ key, key ∈ loop.opened ∨ key = 0 ∧ loop.role 0 = .other →
      ∀ child ∈ (loop.builder.elements key).children, .closed child ∉ handled
  /-- The collector of descriptions knows the same behind the same events. -/
  collected : ∃ passed ahead, document = passed ++ (ahead ++ rest) ∧
    handled = Builder.initial.report passed ∧
    ((Collector.ofEvents passed).capturing : Int) = loop.capturing ∧
    (Collector.ofEvents passed).known = loop.known
  result : rest = [] → loop.waiting = [] → loop.known.2 = Descriptions.ofEvents document

namespace Detaches

variable {detaching : Bool} {trees : List Tree} {passed ahead rest : List Event} {gone : List Nat}
  {handled : List Signal} {loop : Loop} {key : Nat} {later : List Signal}

theorem retained (detaches : Detaches detaching trees passed ahead gone handled loop rest)
    (waits : loop.waiting = .closed key :: later) :
    ∃ outer, loop.opened = key :: outer ∧
      ∀ parent ∈ outer.head?, key ∈ (loop.builder.elements parent).children := by
  rcases detaches.exists_next waits with
    ⟨_, _, _, _, ⟨⟩, _⟩ | ⟨before, tag, children, ahead, next, same, _⟩
  obtain rfl := Signal.closed.inj same
  have follows := next.follows
  have kept : openings before ∉ gone :=
    follows.not_gone_of_opened (follows.opened_eq ▸ List.mem_cons_self)
  refine ⟨_, follows.opened_eq, fun parent isParent => ?_⟩
  rw [follows.builder_eq]
  refine List.mem_filter.mpr ⟨?_, decide_eq_true kept⟩
  exact (Builder.mem_children_ofEvents_element before tag children ahead parent).mpr isParent

theorem whole (detaches : Detaches detaching trees passed ahead gone handled loop rest)
    (waits : loop.waiting = .closed key :: later) (needs : loop.role key ≠ .other) :
    ∃ before tag children behind tail,
      Tree.allEvents trees = before ++ (Tree.element tag children).events ++ behind ∧
        openings before = key ∧
        StandsAt loop.builder.elements tail key (.element tag children) ∧
        loop.content key = Tree.fullTexts children := by
  rcases detaches.exists_next waits with
    ⟨_, _, _, _, ⟨⟩, _⟩ | ⟨before, tag, children, ahead, next, same, _⟩
  obtain rfl := Signal.closed.inj same
  obtain ⟨tail, stands⟩ := next.follows.stands needs
  refine ⟨before, tag, children, ahead ++ rest, tail, ?_, rfl, stands,
    next.follows.content_eq needs⟩
  rw [next.follows.document, Tree.append_events_element]
  simp

theorem released (detaches : Detaches detaching trees passed ahead gone handled loop rest)
    (lets : detaching = true) (idle : loop.capturing = 0)
    (place : key ∈ loop.opened ∨ key = 0 ∧ loop.role 0 = .other) {child : Nat}
    (member : child ∈ (loop.builder.elements key).children) : .closed child ∉ handled := by
  intro told
  have follows := detaches.follows
  rw [follows.builder] at member
  obtain ⟨member, kept⟩ := List.mem_filter.mp member
  refine of_decide_eq_true kept ?_
  rcases place with opened | ⟨rfl, other⟩
  · obtain ⟨inner, outer, split⟩ := List.append_of_mem opened
    have stillOpen : key :: outer <:+ loop.opened := ⟨inner, split.symm⟩
    have nothingNeeded := follows.capturing_eq_zero_iff.mp idle
    exact detaches.releases lets key outer (.inl stillOpen)
      (fun around inside => nothingNeeded around (stillOpen.mem inside)) child member told
  · refine detaches.releases lets 0 [] (.inr ⟨rfl, rfl⟩) (fun around inside => ?_) child member told
    exact List.mem_singleton.mp inside ▸ other

theorem safe (detaches : Detaches detaching trees passed ahead gone handled loop rest) :
    Safe detaching (Tree.allEvents trees) handled loop rest where
  counted := detaches.follows.capturing
  retained _ _ := detaches.retained
  proceeds signal later waits := by
    obtain ⟨after, handles, _⟩ := detaches.exists_handle waits
    rw [handles]
    rfl
  whole _ _ := detaches.whole
  released lets idle _ place _ := detaches.released lets idle place
  collected := ⟨passed, ahead, detaches.follows.document, detaches.follows.told,
    detaches.follows.collected, detaches.follows.known⟩
  result := by
    rintro rfl done
    obtain ⟨_, finished⟩ := detaches.exists_finished done
    rw [← finished.follows.known]
    rfl

end Detaches

namespace Reaches

variable {detaching : Bool} {trees : List Tree} {document rest : List Event} {handled : List Signal}
  {loop : Loop}

theorem exists_fed (reaches : Reaches detaching document handled loop rest) :
    ∃ fed, Reaches detaching document handled fed [] := by
  induction rest generalizing loop with
  | nil => exact ⟨loop, reaches⟩
  | cons event rest induction => exact induction reaches.feed

theorem exists_finished {waiting : List Signal}
    (reaches : Reaches detaching (Tree.allEvents trees) handled loop [])
    (waits : loop.waiting = waiting) :
    ∃ more last, Reaches detaching (Tree.allEvents trees) (handled ++ more) last [] ∧
      last.waiting = [] := by
  induction waiting generalizing handled loop with
  | nil => exact ⟨[], loop, by rwa [List.append_nil], waits⟩
  | cons signal later induction =>
      obtain ⟨_, _, _, detaches⟩ := Detaches.of_reaches reaches
      obtain ⟨after, handles, _⟩ := detaches.exists_handle waits
      obtain ⟨more, last, finished, done⟩ :=
        induction (reaches.handle waits handles) (Loop.waiting_of_handle handles)
      exact ⟨signal :: more, last, by simpa using finished, done⟩

end Reaches

/-- Every state of the loop is safe, and from every state the loop comes to the end of the document
with the descriptions that the document gives. This is so whether elements are let go or not. -/
theorem letting_go_is_safe_and_complete (tag : Tag) (children : List Tree) (detaching : Bool)
    {handled : List Signal} {loop : Loop} {rest : List Event}
    (reaches : Reaches detaching (Tree.element tag children).events handled loop rest) :
    Safe detaching (Tree.element tag children).events handled loop rest ∧
      ∃ more last,
        Reaches detaching (Tree.element tag children).events (handled ++ more) last [] ∧
          last.waiting = [] ∧
          last.known.2 = Descriptions.ofEvents (Tree.element tag children).events := by
  rw [← Tree.allEvents_singleton] at reaches ⊢
  obtain ⟨_, _, _, detaches⟩ := Detaches.of_reaches reaches
  obtain ⟨fed, isFed⟩ := reaches.exists_fed
  obtain ⟨more, last, finished, done⟩ := isFed.exists_finished rfl
  obtain ⟨_, _, _, atEnd⟩ := Detaches.of_reaches finished
  exact ⟨detaches.safe, more, last, finished, done, atEnd.safe.result rfl done⟩

/-- Behind its only entry the root is empty, and of the name with markup inside nothing is lost. -/
theorem root_lets_go_of_its_entry :
    let document := (Tree.element ⟨none, "ref".toList, by decide⟩
      [.element ⟨none, "mnem".toList, by decide⟩ [.text "N".toList,
        .element ⟨none, "b".toList, by decide⟩ [.text "O".toList], .text "P".toList]]).events
    ∃ handled loop, Reaches true document handled loop [] ∧ Safe true document handled loop [] ∧
      handled = [.opened 0, .opened 1, .opened 2, .closed 2, .closed 1] ∧ loop.opened = [0] ∧
      (loop.builder.elements 0).children = [] ∧ (loop.builder.elements 1).children = [2] ∧
      loop.known = (["nop".toList], []) := by
  intro document
  have begun : Reaches true document [] .initial document := .start
  have fed := begun.feed.feed.feed.feed.feed.feed.feed.feed.feed
  have opened := ((fed.handle rfl rfl).handle rfl rfl).handle rfl rfl
  have closed := (opened.handle rfl rfl).handle rfl rfl
  have safe := (letting_go_is_safe_and_complete _ _ true closed).1
  exact ⟨_, _, closed, safe, rfl, rfl, rfl, rfl, rfl⟩

/-- A root that is itself `mnem` keeps its children, since it needs text up to its end. -/
theorem captured_root_keeps_its_child :
    ∃ handled loop, Reaches true (Tree.element ⟨none, "mnem".toList, by decide⟩
        [.text "a".toList, .element ⟨none, "b".toList, by decide⟩ []]).events handled loop [] ∧
      loop.waiting = [] ∧ loop.opened = [] ∧ loop.capturing = 0 ∧
      1 ∈ (loop.builder.elements 0).children ∧ .closed 1 ∈ handled := by
  have begun : Reaches true (Tree.element ⟨none, "mnem".toList, by decide⟩
      [.text "a".toList, .element ⟨none, "b".toList, by decide⟩ []]).events [] .initial _ := .start
  have fed := begun.feed.feed.feed.feed.feed
  have reached := (((fed.handle rfl rfl).handle rfl rfl).handle rfl rfl).handle rfl rfl
  exact ⟨_, _, reached, rfl, rfl, rfl, List.mem_singleton_self 1, by decide⟩

end Disassembly.Reference
