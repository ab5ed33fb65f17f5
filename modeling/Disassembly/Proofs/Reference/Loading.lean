import Disassembly.Proofs.Reference.Store
import Disassembly.Reference.Requests
import Mathlib.Data.List.Forall2

/-!
Whole runs of requests whose documents may be replaced at any time. A request asks a store for the
descriptions of some families, one after the other, and ends at the first refusal. Of each family
the document is read at the first request that asks for it and, unless it was refused, never again:
all answers from then on come from the document as it stood at that moment, and one report, of a
failure or of a success, is all that is ever made. A refused document leaves the family unknown, so
that it is read again, each time it is asked for, until it is not refused.
-/

namespace Disassembly.Reference

open Text

def Slot.reportsFrom (documents : Documents) (family : Family) (slot : Slot) : List LoadReport :=
  match slot.descriptions with
  | some _ => []
  | none => ((Store.load documents family).toOption.map Prod.snd).toList

namespace Store

variable {store : Store} {documents : Documents} {family : Family} {families : List Family}

/-- The families of a list that are really asked for: none behind the first that is refused. -/
def asked (store : Store) (documents : Documents) : List Family → List Family
  | [] => []
  | family :: rest =>
      family :: if store.refusal? documents family = none then asked store documents rest else []

def accessAll (documents : Documents) : Store → List Family → Store × List LoadReport
  | store, [] => (store, [])
  | store, family :: rest =>
      match (store.access documents family).1 with
      | .ok _ =>
          let (last, later) := accessAll documents (store.access documents family).2.1 rest
          (last, (store.access documents family).2.2 ++ later)
      | .error _ => (store.access documents family).2

theorem accessAll_cons_of_found {descriptions : Descriptions}
    (found : (store.access documents family).1 = .ok descriptions) (rest : List Family) :
    store.accessAll documents (family :: rest) =
      (((store.access documents family).2.1.accessAll documents rest).1,
        (store.access documents family).2.2 ++
          ((store.access documents family).2.1.accessAll documents rest).2) := by
  rw [accessAll, found]

theorem accessAll_cons_of_failed {refusal : Markup.Refusal}
    (failed : (store.access documents family).1 = .error refusal) (rest : List Family) :
    store.accessAll documents (family :: rest) = (store.access documents family).2 := by
  rw [accessAll, failed]

theorem accessAll_singleton (store : Store) (documents : Documents) (family : Family) :
    store.accessAll documents [family] = (store.access documents family).2 := by
  cases found : (store.access documents family).1 with
  | ok descriptions => rw [accessAll_cons_of_found found, accessAll, List.append_nil]
  | error refusal => exact accessAll_cons_of_failed found []

theorem asked_cons_of_found {descriptions : Descriptions}
    (found : (store.access documents family).1 = .ok descriptions) (rest : List Family) :
    store.asked documents (family :: rest) =
      family :: (store.access documents family).2.1.asked documents rest := by
  have same : (store.access documents family).2.1.asked documents rest =
      store.asked documents rest := by
    induction rest with
    | nil => rfl
    | cons next rest induction => rw [asked, asked, refusal?_access found, induction]
  rw [asked, if_pos (refusal?_of_access found), same]

theorem asked_cons_of_failed {refusal : Markup.Refusal}
    (failed : (store.access documents family).1 = .error refusal) (rest : List Family) :
    store.asked documents (family :: rest) = [family] := by
  have refused := access_eq_error_iff.mp failed
  rw [asked, if_neg (by simp [refused])]

def reportsOf (family : Family) (reports : List LoadReport) : List LoadReport :=
  reports.filter fun report => report.family = family

theorem reportsOf_append (family : Family) (left right : List LoadReport) :
    reportsOf family (left ++ right) = reportsOf family left ++ reportsOf family right :=
  List.filter_append _ _

theorem reportsOf_access_self (store : Store) (documents : Documents) (family : Family) :
    reportsOf family (store.access documents family).2.2 =
      (store.slot family).reportsFrom documents family := by
  have own : ∀ report ∈ (store.access documents family).2.2, report.family = family :=
    fun _ member => family_of_mem_access member
  rw [reportsOf, List.filter_eq_self.mpr (by simpa using own), Slot.reportsFrom]
  rcases access_cases store documents family with
    ⟨descriptions, known⟩ | ⟨descriptions, report, unknown, loaded⟩ | ⟨refusal, refused⟩
  · rw [access_of_known known, known]
  · rw [access_of_loaded unknown loaded, unknown, loaded]
    rfl
  · rcases refusal?_eq_some_iff.mp refused with ⟨unknown, failed⟩
    rw [access_of_refused refused, unknown, failed]
    rfl

theorem reportsOf_access_other (store : Store) (documents : Documents) {family asked : Family}
    (other : asked ≠ family) : reportsOf asked (store.access documents family).2.2 = [] := by
  apply List.filter_eq_nil_iff.mpr
  intro report member
  rw [family_of_mem_access member]
  simpa using Ne.symm other

theorem accessAll_of_not_asked (store : Store) (absent : family ∉ store.asked documents families) :
    (store.accessAll documents families).1.slot family = store.slot family ∧
      reportsOf family (store.accessAll documents families).2 = [] := by
  induction families generalizing store with
  | nil => exact ⟨rfl, rfl⟩
  | cons first rest induction =>
      cases found : (store.access documents first).1 with
      | ok descriptions =>
          rw [asked_cons_of_found found] at absent
          rcases not_or.mp (mt List.mem_cons.mpr absent) with ⟨other, later⟩
          rcases induction _ later with ⟨slot, reports⟩
          rw [accessAll_cons_of_found found, reportsOf_append, slot, reports,
            reportsOf_access_other store documents other, slot_access_other store documents other]
          exact ⟨rfl, rfl⟩
      | error refusal =>
          rw [asked_cons_of_failed found] at absent
          have other := List.ne_of_not_mem_cons absent
          rw [accessAll_cons_of_failed found]
          exact ⟨slot_access_other store documents other,
            reportsOf_access_other store documents other⟩

theorem accessAll_of_known {descriptions : Descriptions} (store : Store)
    (known : (store.slot family).descriptions = some descriptions) (documents : Documents)
    (families : List Family) :
    (store.accessAll documents families).1.slot family = store.slot family ∧
      reportsOf family (store.accessAll documents families).2 = [] := by
  induction families generalizing store with
  | nil => exact ⟨rfl, rfl⟩
  | cons first rest induction =>
      have kept : (store.access documents first).2.1.slot family = store.slot family ∧
          reportsOf family (store.access documents first).2.2 = [] := by
        by_cases here : family = first
        · subst here
          rw [access_of_known known]
          exact ⟨rfl, rfl⟩
        · exact ⟨slot_access_other store documents here,
            reportsOf_access_other store documents here⟩
      cases found : (store.access documents first).1 with
      | ok descriptions =>
          rcases induction _ (by rw [kept.1, known]) with ⟨slot, reports⟩
          rw [accessAll_cons_of_found found, reportsOf_append, slot, reports, kept.1, kept.2]
          exact ⟨rfl, rfl⟩
      | error refusal =>
          rw [accessAll_cons_of_failed found]
          exact kept

/-- A family that is asked for more than once is loaded the first time. -/
theorem accessAll_of_asked (store : Store) (member : family ∈ store.asked documents families) :
    (store.accessAll documents families).1.slot family =
        (store.slot family).loadedFrom documents family ∧
      reportsOf family (store.accessAll documents families).2 =
        (store.slot family).reportsFrom documents family := by
  induction families generalizing store with
  | nil => cases member
  | cons first rest induction =>
      cases found : (store.access documents first).1 with
      | ok descriptions =>
          rw [accessAll_cons_of_found found, reportsOf_append]
          by_cases here : family = first
          · subst here
            rcases accessAll_of_known _ (known_access found) documents rest with ⟨slot, reports⟩
            rw [slot, reports, slot_access_self, reportsOf_access_self, List.append_nil]
            exact ⟨rfl, rfl⟩
          · rw [asked_cons_of_found found] at member
            rcases induction _ ((List.mem_cons.mp member).resolve_left here) with ⟨slot, reports⟩
            rw [slot, reports, slot_access_other store documents here,
              reportsOf_access_other store documents here]
            exact ⟨rfl, rfl⟩
      | error refusal =>
          rw [asked_cons_of_failed found, List.mem_singleton] at member
          subst member
          rw [accessAll_cons_of_failed found]
          exact ⟨slot_access_self store documents family,
            reportsOf_access_self store documents family⟩

end Store

namespace Request

/-- The families whose descriptions a request asks for, in order. Rendering asks for those of its
family as soon as there is an instruction. -/
def families : Request → List Family
  | .lookup _ architecture | .entries architecture | .count architecture => [architecture.family]
  | .shared first second => [first.family, second.family]
  | .path _ | .replace _ _ => []
  | .render architecture text =>
      if Listing.parseInstructions architecture text = [] then [] else [architecture.family]

inductive RepliedFrom (descriptions : Descriptions) : Request → Reply → Prop
  | lookup (mnemonic : List Char) (architecture : Architecture) :
      RepliedFrom descriptions (.lookup mnemonic architecture)
        (.description (descriptions.describe mnemonic))
  | entries (architecture : Architecture) :
      RepliedFrom descriptions (.entries architecture) (.entries descriptions.sorted)
  | count (architecture : Architecture) :
      RepliedFrom descriptions (.count architecture) (.count descriptions.length)
  | shared (first second : Architecture) :
      RepliedFrom descriptions (.shared first second) (.shared (first.family = second.family))
  | render (architecture : Architecture) (text : List Char) :
      RepliedFrom descriptions (.render architecture text)
        (.lines ((Listing.parse architecture text).render descriptions.describe))
  /-- The document of the other family may be refused. -/
  | apart {first second : Architecture} (apart : first.family ≠ second.family)
      (refusal : Markup.Refusal) :
      RepliedFrom descriptions (.shared first second) (.refused refusal)

def documentsAfter (documents : Documents) : Request → Documents
  | .replace family source => Library.replace documents family source
  | _ => documents

end Request

theorem map_eq_error_iff {Found Told : Type} {tell : Found → Told}
    {outcome : Except Markup.Refusal Found} {refusal : Markup.Refusal} :
    outcome.map tell = .error refusal ↔ outcome = .error refusal := by
  cases outcome <;> simp [Except.map]

theorem Reply.ofFound_eq_refused_iff {Found : Type} {reply : Found → Reply}
    {outcome : Except Markup.Refusal Found} {refusal : Markup.Refusal}
    (plain : ∀ found, reply found ≠ .refused refusal) :
    Reply.ofFound reply outcome = .refused refusal ↔ outcome = .error refusal := by
  cases outcome with
  | ok found => simp [ofFound, plain found]
  | error given => simp [ofFound]

namespace Library

def after (library : Library) (requests : List Request) : Library :=
  requests.foldl (fun current request => (current.answer request).2.1) library

def refusal? (library : Library) (family : Family) : Option Markup.Refusal :=
  library.store.refusal? library.documents family

/-- The families that a request comes to ask for. -/
def asked (library : Library) (request : Request) : List Family :=
  library.store.asked library.documents request.families

theorem answer_shared_of_found (library : Library) {first : Architecture}
    {descriptions : Descriptions}
    (found : (library.store.access library.documents first.family).1 = .ok descriptions)
    (second : Architecture) :
    library.answer (.shared first second) =
      let after := (library.store.access library.documents first.family).2
      let last := after.1.access library.documents second.family
      (.ofFound (fun _ => .shared (first.family = second.family)) last.1,
        ⟨library.documents, last.2.1⟩, after.2 ++ last.2.2) := by
  simp only [answer, access, found]

theorem answer_shared_of_failed (library : Library) {first : Architecture}
    {refusal : Markup.Refusal}
    (failed : (library.store.access library.documents first.family).1 = .error refusal)
    (second : Architecture) :
    library.answer (.shared first second) =
      let after := (library.store.access library.documents first.family).2
      (.refused refusal, ⟨library.documents, after.1⟩, after.2) := by
  simp only [answer, access, failed]

theorem documents_answer (library : Library) (request : Request) :
    (library.answer request).2.1.documents = request.documentsAfter library.documents := by
  cases request with
  | shared first second =>
      cases found : (library.store.access library.documents first.family).1 with
      | ok descriptions =>
          rw [answer_shared_of_found library found]
          rfl
      | error refusal =>
          rw [answer_shared_of_failed library found]
          rfl
  | path name =>
      rw [answer]
      cases familyNamed? name <;> rfl
  | _ => rfl

/-- All that a request does to the store is to ask it for the descriptions of some families. -/
theorem outcome_answer (library : Library) (request : Request) :
    ((library.answer request).2.1.store, (library.answer request).2.2) =
      library.store.accessAll library.documents request.families := by
  cases request with
  | lookup | entries | count => exact (Store.accessAll_singleton _ _ _).symm
  | shared first second =>
      rw [Request.families]
      cases found : (library.store.access library.documents first.family).1 with
      | ok descriptions =>
          rw [answer_shared_of_found library found, Store.accessAll_cons_of_found found,
            Store.accessAll_singleton]
      | error refusal =>
          rw [answer_shared_of_failed library found, Store.accessAll_cons_of_failed found]
  | path name =>
      rw [answer]
      cases familyNamed? name <;> rfl
  | replace family source => rfl
  | render architecture text =>
      rw [answer, Request.families]
      by_cases none : Listing.parseInstructions architecture text = []
      · rw [if_pos none, Listing.renderThrough_of_nil _ none]
        rfl
      · rw [if_neg none, Listing.renderThrough_of_ne_nil _ none, Store.accessAll_singleton]
        rfl

theorem store_answer (library : Library) (request : Request) :
    (library.answer request).2.1.store =
      (library.store.accessAll library.documents request.families).1 :=
  congrArg Prod.fst (outcome_answer library request)

theorem reports_answer (library : Library) (request : Request) :
    (library.answer request).2.2 =
      (library.store.accessAll library.documents request.families).2 :=
  congrArg Prod.snd (outcome_answer library request)

/-! Replies. -/

theorem repliedFrom_shared (library : Library) {first second : Architecture} {family : Family}
    {descriptions : Descriptions} (needed : family ∈ [first.family, second.family])
    (found : (library.store.access library.documents family).1 = .ok descriptions) :
    Request.RepliedFrom descriptions (.shared first second)
      (library.answer (.shared first second)).1 := by
  cases early : (library.store.access library.documents first.family).1 with
  | ok earlier =>
      rw [answer_shared_of_found library early]
      cases late : ((library.store.access library.documents first.family).2.1.access
        library.documents second.family).1 with
      | ok later =>
          simp only [late]
          exact .shared first second
      | error refusal =>
          simp only [late]
          apply Request.RepliedFrom.apart
          intro same
          -- What was found for the first is there for the second.
          have refused := Store.access_eq_error_iff.mp late
          rw [Store.refusal?_access early, ← same, Store.refusal?_of_access early] at refused
          cases refused
  | error refusal =>
      rw [answer_shared_of_failed library early]
      apply Request.RepliedFrom.apart
      intro same
      simp only [List.mem_cons, ← same, List.not_mem_nil, or_false, or_self] at needed
      rw [needed] at found
      cases found.symm.trans early

theorem reply_of_found (library : Library) {request : Request} {family : Family}
    {descriptions : Descriptions} (needed : family ∈ request.families)
    (found : (library.store.access library.documents family).1 = .ok descriptions) :
    request.RepliedFrom descriptions (library.answer request).1 := by
  cases request with
  | lookup mnemonic architecture =>
      rw [List.mem_singleton.mp needed] at found
      simp only [answer, access, found]
      exact .lookup mnemonic architecture
  | entries architecture =>
      rw [List.mem_singleton.mp needed] at found
      simp only [answer, access, found]
      exact .entries architecture
  | count architecture =>
      rw [List.mem_singleton.mp needed] at found
      simp only [answer, access, found]
      exact .count architecture
  | shared first second => exact repliedFrom_shared library needed found
  | path | replace => cases needed
  | render architecture text =>
      have same : family = architecture.family := by
        rw [Request.families] at needed
        split at needed
        · cases needed
        · exact List.mem_singleton.mp needed
      rw [same] at found
      simp only [answer]
      rw [Listing.renderThrough_lines_of_access _ found]
      exact .render architecture text

/-- Nothing but the refusal of a document that is asked for makes a request fail. -/
theorem reply_eq_refused_iff (library : Library) {request : Request} {refusal : Markup.Refusal} :
    (library.answer request).1 = .refused refusal ↔
      ∃ family ∈ library.asked request, library.refusal? family = some refusal := by
  have one : ∀ family, (∃ other ∈ library.store.asked library.documents [family],
      library.refusal? other = some refusal) ↔
        (library.store.access library.documents family).1 = .error refusal := by
    intro family
    simp [Store.asked, Store.access_eq_error_iff, refusal?]
  cases request with
  | lookup | entries | count =>
      refine Iff.trans (Reply.ofFound_eq_refused_iff ?_) (one _).symm
      intro found
      exact Reply.noConfusion
  | shared first second =>
      rw [asked, Request.families]
      cases found : (library.store.access library.documents first.family).1 with
      | ok descriptions =>
          rw [answer_shared_of_found library found, Store.asked_cons_of_found found]
          have allowed := Store.refusal?_of_access found
          have later := Store.refusal?_access found
          simp [Reply.ofFound_eq_refused_iff, Store.access_eq_error_iff, Store.asked, allowed,
            later, refusal?]
      | error given =>
          rw [answer_shared_of_failed library found, Store.asked_cons_of_failed found]
          simp [refusal?, Store.access_eq_error_iff.mp found]
  | path name =>
      rw [answer]
      cases familyNamed? name <;> simp [asked, Request.families, Store.asked]
  | replace family source => simp [answer, asked, Request.families, Store.asked]
  | render architecture text =>
      rw [asked, Request.families]
      refine Iff.trans (Reply.ofFound_eq_refused_iff ?_) ?_
      · intro lines
        exact Reply.noConfusion
      by_cases none : Listing.parseInstructions architecture text = []
      · rw [if_pos none, Listing.renderThrough_of_nil _ none]
        simp [Store.asked]
      · rw [if_neg none, one, Listing.renderThrough_of_ne_nil _ none]
        exact map_eq_error_iff

/-! The slot of a family. -/

theorem slot_answer_of_not_asked (library : Library) {request : Request} {family : Family}
    (unasked : family ∉ library.asked request) :
    (library.answer request).2.1.store.slot family = library.store.slot family := by
  rw [store_answer]
  exact (Store.accessAll_of_not_asked _ unasked).1

theorem slot_answer_of_asked (library : Library) {request : Request} {family : Family}
    (asked : family ∈ library.asked request) :
    (library.answer request).2.1.store.slot family =
      (library.store.slot family).loadedFrom library.documents family := by
  rw [store_answer]
  exact (Store.accessAll_of_asked _ asked).1

theorem slot_answer_of_known (library : Library) (request : Request) {family : Family}
    {descriptions : Descriptions}
    (known : (library.store.slot family).descriptions = some descriptions) :
    (library.answer request).2.1.store.slot family = library.store.slot family := by
  rw [store_answer]
  exact (Store.accessAll_of_known _ known _ _).1

/-! What one answer shows of a family. -/

def Answer.loads (answer : Answer) : Family → Nat
  | .x86 => answer.x86Loads
  | .arm => answer.armLoads

def reportsOf (family : Family) (answers : List Answer) : List LoadReport :=
  Store.reportsOf family (answers.flatMap Answer.reports)

theorem run_cons (library : Library) (request : Request) (rest : List Request) :
    run library (request :: rest) =
      ⟨(library.answer request).1, (library.answer request).2.1.store.loads .x86,
        (library.answer request).2.1.store.loads .arm, (library.answer request).2.2⟩ ::
        run (library.answer request).2.1 rest := rfl

theorem reportsOf_cons (family : Family) (answer : Answer) (rest : List Answer) :
    reportsOf family (answer :: rest) =
      Store.reportsOf family answer.reports ++ reportsOf family rest := by
  rw [reportsOf, List.flatMap_cons, Store.reportsOf_append]
  rfl

/-- The answers to requests that read no document of a family: the count stays, and nothing is
reported. -/
structure Quiet (family : Family) (count : Nat) (answers : List Answer) : Prop where
  counted : ∀ answer ∈ answers, answer.loads family = count
  reported : reportsOf family answers = []

theorem Quiet.nil (family : Family) (count : Nat) : Quiet family count [] := by
  constructor
  · intro answer member
    cases member
  · rfl

theorem Quiet.cons {family : Family} {count : Nat} {answer : Answer} {rest : List Answer}
    (counted : answer.loads family = count)
    (reported : Store.reportsOf family answer.reports = []) (quiet : Quiet family count rest) :
    Quiet family count (answer :: rest) := by
  constructor
  · exact List.forall_mem_cons.mpr ⟨counted, quiet.counted⟩
  · rw [reportsOf_cons, reported, quiet.reported]
    rfl

theorem loads_answer (library : Library) (request : Request) (family : Family) :
    (⟨(library.answer request).1, (library.answer request).2.1.store.loads .x86,
        (library.answer request).2.1.store.loads .arm, (library.answer request).2.2⟩ :
      Answer).loads family = ((library.answer request).2.1.store.slot family).loads := by
  cases family <;> rfl

/-- Once the descriptions of a family are known, all answers come from them. -/
theorem run_of_known (library : Library) {family : Family} {descriptions : Descriptions}
    (known : (library.store.slot family).descriptions = some descriptions)
    (requests : List Request) :
    Quiet family (library.store.slot family).loads (run library requests) ∧
      List.Forall₂ (fun request answer => family ∈ request.families →
        request.RepliedFrom descriptions answer.reply) requests (run library requests) := by
  induction requests generalizing library with
  | nil => exact ⟨Quiet.nil family _, .nil⟩
  | cons request rest induction =>
      have slot := slot_answer_of_known library request known
      rcases induction (library.answer request).2.1 (by rw [slot, known]) with ⟨quiet, replied⟩
      rw [slot] at quiet
      rw [run_cons]
      constructor
      · apply Quiet.cons
        · rw [loads_answer, slot]
        · rw [reports_answer]
          exact (Store.accessAll_of_known _ known _ _).2
        · exact quiet
      · refine .cons (fun needed => ?_) replied
        apply reply_of_found library needed
        rw [Store.access_of_known known]

/-- The answers to some requests, the first of which has the document of a family read. The
document is the given one, whatever becomes of it later. -/
structure ReadFrom (source : Source) (family : Family) (count : Nat) (descriptions : Descriptions)
    (requests : List Request) (answers : List Answer) : Prop where
  counted : ∀ answer ∈ answers, answer.loads family = count
  replied : List.Forall₂ (fun request answer => family ∈ request.families →
    request.RepliedFrom descriptions answer.reply) requests answers
  failed : (source = .missing ∨ source = .directory ∨
      ∃ bytes, source = .file bytes ∧ Markup.Document.read bytes = .error .malformed) →
    descriptions = complete family [] ∧
      ∃ failure, reportsOf family answers = [.failed family failure]
  loaded : ∀ bytes events, source = .file bytes → Markup.Document.read bytes = .ok events →
    descriptions = complete family (Descriptions.ofEvents events) ∧
      ∃ count, reportsOf family answers = [.loaded family count]

theorem load_of_failed {documents : Documents} {family : Family}
    (failed : documents family = .missing ∨ documents family = .directory ∨
      ∃ bytes, documents family = .file bytes ∧
        Markup.Document.read bytes = .error .malformed) :
    ∃ failure,
      Store.load documents family = .ok (complete family [], .failed family failure) := by
  rcases failed with missing | directory | ⟨bytes, file, malformed⟩
  · exact ⟨.notFound, by rw [Store.load, missing, Source.read]⟩
  · exact ⟨.unreadable, by rw [Store.load, directory, Source.read]⟩
  · exact ⟨.malformed, by rw [Store.load, file, Source.read, parse, malformed, Except.map]⟩

theorem load_of_events {documents : Documents} {family : Family} {bytes : List UInt8}
    {events : List Markup.Event} (file : documents family = .file bytes)
    (read : Markup.Document.read bytes = .ok events) :
    Store.load documents family = .ok (complete family (Descriptions.ofEvents events),
      .loaded family (Descriptions.ofEvents events).length) := by
  rw [Store.load, file, Source.read, parse, read, Except.map]

/-- A request that has the document of a family read gets what it gives, and so does whoever asks
after it. -/
theorem run_of_loaded (library : Library) {family : Family} {count : Nat}
    {descriptions : Descriptions} {report : LoadReport}
    (slot : library.store.slot family = ⟨count, none⟩)
    (loaded : Store.load library.documents family = .ok (descriptions, report)) {first : Request}
    (asked : family ∈ library.asked first) (later : List Request) :
    ReadFrom (library.documents family) family (count + 1) descriptions (first :: later)
      (run library (first :: later)) := by
  have unknown : (library.store.slot family).descriptions = none := by rw [slot]
  have slotAfter : (library.answer first).2.1.store.slot family =
      ⟨count + 1, some descriptions⟩ := by
    rw [slot_answer_of_asked library asked, Slot.loadedFrom, slot, loaded]
    rfl
  have reports : Store.reportsOf family (library.answer first).2.2 = [report] := by
    rw [reports_answer, (Store.accessAll_of_asked _ asked).2, Slot.reportsFrom, unknown, loaded]
    rfl
  rcases run_of_known (library.answer first).2.1 (by rw [slotAfter]) later with ⟨quiet, replied⟩
  rw [slotAfter] at quiet
  have reported : reportsOf family (run library (first :: later)) = [report] := by
    rw [run_cons, reportsOf_cons, reports, quiet.reported]
    rfl
  constructor
  case counted =>
    rw [run_cons]
    refine List.forall_mem_cons.mpr ⟨?_, quiet.counted⟩
    rw [loads_answer, slotAfter]
  case replied =>
    refine .cons (fun needed => ?_) replied
    apply reply_of_found library needed
    rw [Store.access_of_loaded unknown loaded]
  case failed =>
    intro failed
    rcases load_of_failed failed with ⟨failure, load⟩
    rw [load, Except.ok.injEq, Prod.mk.injEq] at loaded
    rw [reported, ← loaded.1, ← loaded.2]
    exact ⟨rfl, failure, rfl⟩
  case loaded =>
    intro bytes events file read
    rw [load_of_events file read, Except.ok.injEq, Prod.mk.injEq] at loaded
    rw [reported, ← loaded.1, ← loaded.2]
    exact ⟨rfl, _, rfl⟩

/-- How a run goes on while a family is not known and its document has been read some number of
times, and refused each time. -/
inductive Course (family : Family) : Nat → Library → List Request → List Answer → Prop
  | done (count : Nat) (library : Library) : Course family count library [] []
  | unasked {count : Nat} {library : Library} {request : Request} {rest : List Request}
      {answer : Answer} {answers : List Answer} (unasked : family ∉ library.asked request)
      (counted : answer.loads family = count)
      (reported : Store.reportsOf family answer.reports = [])
      (onward : Course family count (library.answer request).2.1 rest answers) :
      Course family count library (request :: rest) (answer :: answers)
  /-- Nothing is kept of a document that is refused, and nothing is reported. -/
  | refused {count : Nat} {library : Library} {request : Request} {rest : List Request}
      {answer : Answer} {answers : List Answer} {refusal : Markup.Refusal}
      (asked : family ∈ library.asked request)
      (refused : (library.documents family).read = .refused refusal)
      (replied : answer.reply = .refused refusal) (counted : answer.loads family = count + 1)
      (reported : Store.reportsOf family answer.reports = [])
      (onward : Course family (count + 1) (library.answer request).2.1 rest answers) :
      Course family count library (request :: rest) (answer :: answers)
  /-- From here on the run goes by the document as it stands now. -/
  | read {count : Nat} {library : Library} {request : Request} {rest : List Request}
      {answers : List Answer} {descriptions : Descriptions}
      (asked : family ∈ library.asked request)
      (allowed : ∀ refusal, (library.documents family).read ≠ .refused refusal)
      (read : ReadFrom (library.documents family) family (count + 1) descriptions
        (request :: rest) answers) :
      Course family count library (request :: rest) answers

theorem course_run (library : Library) {family : Family} {count : Nat}
    (slot : library.store.slot family = ⟨count, none⟩) (requests : List Request) :
    Course family count library requests (run library requests) := by
  induction requests generalizing library count with
  | nil => exact .done count library
  | cons request rest induction =>
      by_cases asked : family ∈ library.asked request
      · cases outcome : Store.load library.documents family with
        | ok found =>
            apply Course.read asked
            · intro refusal refused
              cases outcome.symm.trans (Store.load_eq_error_iff.mpr refused)
            · exact run_of_loaded library slot outcome asked rest
        | error refusal =>
            rw [run_cons]
            have unknown : (library.store.slot family).descriptions = none := by rw [slot]
            have refused : library.refusal? family = some refusal :=
              Store.refusal?_eq_some_iff.mpr ⟨unknown, outcome⟩
            have slotAfter :
                (library.answer request).2.1.store.slot family = ⟨count + 1, none⟩ := by
              rw [slot_answer_of_asked library asked, Slot.loadedFrom, slot, outcome]
              rfl
            apply Course.refused asked (Store.load_eq_error_iff.mp outcome)
            · exact (reply_eq_refused_iff library).mpr ⟨family, asked, refused⟩
            · rw [loads_answer, slotAfter]
            · rw [reports_answer, (Store.accessAll_of_asked _ asked).2, Slot.reportsFrom, unknown,
                outcome]
              rfl
            · exact induction _ slotAfter
      · have slotAfter := slot_answer_of_not_asked library asked
        rw [run_cons]
        apply Course.unasked asked
        · rw [loads_answer, slotAfter, slot]
        · rw [reports_answer]
          exact (Store.accessAll_of_not_asked _ asked).2
        · exact induction _ (slotAfter.trans slot)

/-- In every run over a new store, the document of a family is read when a request asks for it. If
it is not refused, it is never read again: from then on it has been read once more, every answer
that needs the family comes from the document as it stood then, and the one report of the whole run
says whether it could be read. If it is refused, so is the request, and the family stays as unknown
as it was. No request fails for another reason. Requests that do not ask for a family leave its slot
as it is, only a replacement changes a document, and both ARM architectures ask for the same
descriptions. -/
theorem run_reads_document_once (family : Family) :
    (∀ documents requests, Course family 0 ⟨documents, Store.empty⟩ requests
      (run ⟨documents, Store.empty⟩ requests)) ∧
    (∀ (library : Library) (request : Request) (refusal : Markup.Refusal),
      (library.answer request).1 = .refused refusal ↔
        ∃ needed ∈ library.asked request, library.refusal? needed = some refusal) ∧
    (∀ (library : Library) (request : Request), family ∉ library.asked request →
      (library.answer request).2.1.store.slot family = library.store.slot family) ∧
    (∀ (library : Library) (request : Request),
      (library.answer request).2.1.documents = request.documentsAfter library.documents) ∧
    (∀ (library : Library) (mnemonic : List Char),
      library.answer (.lookup mnemonic .arm32) = library.answer (.lookup mnemonic .arm64) ∧
        library.answer (.entries .arm32) = library.answer (.entries .arm64)) := by
  constructor
  · intro documents requests
    apply course_run
    cases family <;> rfl
  constructor
  · intro library request refusal
    exact reply_eq_refused_iff library
  constructor
  · intro library request unasked
    exact slot_answer_of_not_asked library unasked
  constructor
  · intro library request
    exact documents_answer library request
  · intro library mnemonic
    exact ⟨rfl, rfl⟩

/-- A refused document is read once more; the one that breaks off then stays, though a whole one
replaces it. -/
theorem run_keeps_broken_document :
    let library : Library := ⟨fun _ => .missing, Store.empty⟩
    let requests := [Request.lookup "ldr".toList .arm64, .replace .x86 refusedDocument,
      .lookup "add".toList .x64, .replace .x86 (.file (Text.Utf8.encode "<a>".toList)),
      .lookup "add".toList .x64, .replace .x86 (.file (Text.Utf8.encode "<a/>".toList)),
      .count .x64]
    Course .x86 0 library requests (run library requests) ∧
      (run library requests).map Answer.x86Loads = [0, 0, 1, 1, 2, 2, 2] ∧
      reportsOf .x86 (run library requests) = [.failed .x86 .malformed] ∧
      Family.x86 ∉ library.asked (.lookup "ldr".toList .arm64) ∧
      (library.answer (.lookup "ldr".toList .arm64)).2.1.store.slot .x86 = ⟨0, none⟩ := by
  intro library requests
  rcases run_reads_document_once .x86 with ⟨course, _, kept, _⟩
  have unasked : Family.x86 ∉ library.asked (.lookup "ldr".toList .arm64) := by decide
  exact ⟨course _ requests, by decide +kernel, by decide +kernel, unasked, kept _ _ unasked⟩

/-- Each request is refused, and each has the document read again. -/
theorem refused_document_is_read_again :
    run ⟨fun _ => refusedDocument, Store.empty⟩
        [.lookup "add".toList .x64, .lookup "add".toList .x64] =
      [⟨.refused .multiByte, 1, 0, []⟩, ⟨.refused .multiByte, 2, 0, []⟩] := by
  decide +kernel

end Library

end Disassembly.Reference
