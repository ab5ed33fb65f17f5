import Disassembly.Proofs.Markup.Written
import Disassembly.Proofs.Reference.Lookup
import Disassembly.Proofs.Text.Lines
import Disassembly.Reference.Bundled

/-!
Documents that are written from entries, and the two that come with the library. The document of
any entries is read, and its descriptions are those that the entries give in order, whatever is
escaped in them. The bundled entries are printable ASCII throughout, so that a description looked
up in them has no blank at its ends and fits on a line.
-/

namespace Disassembly.Reference

open Markup Text

namespace Closing

theorem ofTrees_append (front back : List Markup.Tree) :
    ofTrees (front ++ back) = ofTrees front ++ ofTrees back := by
  induction front with
  | nil => rfl
  | cons tree rest induction =>
      rw [List.cons_append, ofTrees, induction, ofTrees, List.append_assoc]

theorem ofTrees_texts (parts : List (List Char)) : ofTrees (parts.map .text) = [] := by
  induction parts with
  | nil => rfl
  | cons part rest induction => exact induction

theorem fullTexts_texts (parts : List (List Char)) :
    Markup.Tree.fullTexts (parts.map .text) = parts.flatten := by
  induction parts with
  | nil => rfl
  | cons part rest induction =>
      rw [List.map_cons, Markup.Tree.fullTexts, induction]
      rfl

theorem ofName_mnem (content : List Char) : ofName "mnem".toList content = [.mnemonic content] := by
  rw [ofName, if_pos (by decide)]

theorem ofName_brief (content : List Char) : ofName "brief".toList content = [.brief content] := by
  rw [ofName, if_neg (by decide), if_pos (by decide)]

theorem ofName_of_other {name : List Char} (other : lower name ∉ ["mnem".toList, "brief".toList])
    (content : List Char) : ofName name content = [] := by
  simp only [List.mem_cons, List.not_mem_nil, or_false, not_or] at other
  rw [ofName, if_neg other.1, if_neg other.2]

end Closing

namespace Entry

/-- A document can hold the text, and reading it changes nothing. -/
def IsHeld (text : List Char) : Prop :=
  ∀ character ∈ text, isCharacter character = true ∧ character ≠ '\r'

def closings (entry : Entry) : List Closing :=
  (entry.mnemonics.map fun mnemonic => .mnemonic mnemonic.toList) ++
    [.brief entry.description.toList]

def texts (entry : Entry) : List (List Char) :=
  entry.description.toList :: entry.mnemonics.map String.toList

/-- The content is read with the given closings, whatever follows it. -/
def Gives (content : List Char) (closings : List Closing) : Prop :=
  ∃ trees, Content.ReadsAs .utf8 (fun _ => True) content trees ∧
    Closing.ofTrees trees = closings

theorem gives_append {front back : List Char} {first later : List Closing}
    (givesFront : Gives front first) (givesBack : Gives back later) :
    Gives (front ++ back) (first ++ later) := by
  obtain ⟨trees, reads, same⟩ := givesFront
  obtain ⟨treesBack, readsBack, sameBack⟩ := givesBack
  refine ⟨trees ++ treesBack, Content.readsAs_append reads readsBack fun _ _ => trivial, ?_⟩
  rw [Closing.ofTrees_append, same, sameBack]

theorem gives_flatMap {Item : Type} {print : Item → List Char} {closings : Item → List Closing}
    {items : List Item} (each : ∀ item ∈ items, Gives (print item) (closings item)) :
    Gives (items.flatMap print) (items.flatMap closings) := by
  induction items with
  | nil => exact ⟨[], Content.readsAs_nil _, rfl⟩
  | cons item rest induction =>
      obtain ⟨first, later⟩ := List.forall_mem_cons.mp each
      rw [List.flatMap_cons, List.flatMap_cons]
      exact gives_append first (induction later)

theorem readsAs_before_markup {content : List Char} {trees : List Tree}
    (reads : Content.ReadsAs .utf8 (fun _ => True) content trees) :
    Content.ReadsAs .utf8 Content.StartsMarkup content trees :=
  fun standalone follow outer fuel opened rest progress inside noDefault _ =>
    reads standalone follow outer fuel opened rest progress inside noDefault trivial

theorem gives_printElement_escape {name text : List Char}
    (simple : isSimpleName .utf8 name = true) (held : IsHeld text) :
    Gives (printElement name (escape text)) (Closing.ofName name text) := by
  obtain ⟨parts, reads, whole⟩ :=
    Content.exists_readsAs_escape text fun member => (held _ member).2 rfl
  refine ⟨_, Content.readsAs_printElement simple reads, ?_⟩
  rw [Closing.ofTrees, Closing.ofTree, Closing.ofTrees_texts, Closing.fullTexts_texts, whole]
  exact List.append_nil _

theorem gives_print {entry : Entry} (held : ∀ text ∈ entry.texts, IsHeld text) :
    Gives entry.print entry.closings := by
  obtain ⟨description, mnemonics⟩ := List.forall_mem_cons.mp held
  have brief : Gives (printElement "brief".toList (escape entry.description.toList))
      [.brief entry.description.toList] := by
    rw [← Closing.ofName_brief]
    exact gives_printElement_escape (by decide) description
  have names : Gives (entry.mnemonics.flatMap fun mnemonic =>
      printElement "mnem".toList (escape mnemonic.toList))
        (entry.mnemonics.flatMap fun mnemonic => [.mnemonic mnemonic.toList]) := by
    apply gives_flatMap
    intro mnemonic member
    rw [← Closing.ofName_mnem]
    exact gives_printElement_escape (by decide) (mnemonics _ (List.mem_map_of_mem member))
  obtain ⟨trees, reads, same⟩ := gives_append names brief
  refine ⟨_, Content.readsAs_printElement (by decide) (readsAs_before_markup reads), ?_⟩
  have other : ∀ content, Closing.ofName "entry".toList content = [] :=
    Closing.ofName_of_other (by decide)
  rw [Closing.ofTrees, Closing.ofTree, Tag.ofSimpleName, other, same, closings,
    List.map_eq_flatMap, List.append_nil]
  exact List.append_nil _

theorem isCharacter_of_mem_escape {text : List Char} (held : IsHeld text) :
    ∀ character ∈ escape text, isCharacter character = true := by
  intro character member
  obtain ⟨source, isSource, inside⟩ := List.mem_flatMap.mp member
  have marks : ∀ mark ∈ "&lt;".toList ++ "&gt;".toList ++ "&amp;".toList,
      isCharacter mark = true := by decide
  simp only [List.mem_append] at marks
  unfold escapeCharacter at inside
  split at inside
  · exact marks _ (.inl (.inl inside))
  · split at inside
    · exact marks _ (.inl (.inr inside))
    · split at inside
      · exact marks _ (.inr inside)
      · rw [List.mem_singleton.mp inside]
        exact (held source isSource).1

theorem isCharacter_of_mem_print {entry : Entry} (held : ∀ text ∈ entry.texts, IsHeld text) :
    ∀ character ∈ entry.print, isCharacter character = true := by
  obtain ⟨description, mnemonics⟩ := List.forall_mem_cons.mp held
  apply isCharacter_of_mem_printElement (by decide)
  intro character member
  rcases List.mem_append.mp member with inNames | inBrief
  · obtain ⟨mnemonic, isMnemonic, inside⟩ := List.mem_flatMap.mp inNames
    exact isCharacter_of_mem_printElement (by decide)
      (isCharacter_of_mem_escape (mnemonics _ (List.mem_map_of_mem isMnemonic))) character inside
  · exact isCharacter_of_mem_printElement (by decide) (isCharacter_of_mem_escape description)
      character inBrief

/-- The document of any entries is read, and gives what the entries say. -/
theorem exists_parse_printDocument {entries : List Entry}
    (held : ∀ entry ∈ entries, ∀ text ∈ entry.texts, IsHeld text) :
    ∃ descriptions, parse (Utf8.encode (printDocument entries)) = .ok descriptions ∧
      descriptions.GivenBy (entries.flatMap closings) := by
  obtain ⟨trees, reads, same⟩ := gives_flatMap fun entry member => gives_print (held entry member)
  have isRead := Document.read_printElement (by decide : isSimpleName .utf8 "reference".toList = true)
    (readsAs_before_markup reads) (by decide) (by
      intro character member
      obtain ⟨entry, isEntry, inside⟩ := List.mem_flatMap.mp member
      exact isCharacter_of_mem_print (held entry isEntry) character inside)
  refine ⟨_, by rw [parse, printDocument, isRead]; rfl, ?_⟩
  have other : ∀ content, Closing.ofName "reference".toList content = [] :=
    Closing.ofName_of_other (by decide)
  rw [Descriptions.ofEvents_eq_noted, Closing.ofTree, Tag.ofSimpleName, other, same,
    List.append_nil]
  exact (Collector.tracks_noted _).given

end Entry

namespace Bundled

def IsPlain (text : List Char) : Prop :=
  ∀ character ∈ text, 0x20 ≤ character.toNat ∧ character.toNat ≤ 0x7e

/-- Every ASCII byte is a character of its own. -/
theorem isPlain_of_bytes {text : String}
    (bytes : ∀ byte ∈ text.toByteArray.data.toList, 0x20 ≤ byte.toNat ∧ byte.toNat ≤ 0x7e) :
    IsPlain text.toList := by
  intro character member
  have encoded : ∀ byte ∈ String.utf8EncodeChar character,
      0x20 ≤ byte.toNat ∧ byte.toNat ≤ 0x7e := by
    intro byte inside
    apply bytes
    rw [← String.utf8Encode_toList, List.utf8Encode, List.data_toByteArray]
    exact List.mem_flatMap.mpr ⟨character, member, inside⟩
  have value : character.val.toNat = character.toNat := rfl
  have valid := character.valid
  unfold String.utf8EncodeChar at encoded
  simp only [value] at encoded
  split at encoded
  · rename_i small
    have byte := encoded _ (List.mem_singleton_self _)
    rwa [Text.Utf8.toNat_ofNat_of_lt (by omega)] at byte
  · -- A longer spelling starts with a byte that is not ASCII.
    rename_i large
    have notAscii : ∀ value rest, (∀ byte ∈ UInt8.ofNat value :: rest,
        0x20 ≤ byte.toNat ∧ byte.toNat ≤ 0x7e) → 0x7f ≤ value → value < 256 → False := by
      intro value rest within above small
      have first := within _ (List.mem_cons_self ..)
      rw [Text.Utf8.toNat_ofNat_of_lt small] at first
      omega
    split at encoded
    · exact (notAscii _ _ encoded (by omega) (by omega)).elim
    · split at encoded
      · exact (notAscii _ _ encoded (by omega) (by omega)).elim
      · exact (notAscii _ _ encoded (by omega) (by omega)).elim

theorem IsPlain.isHeld {text : List Char} (plain : IsPlain text) : Entry.IsHeld text := by
  intro character member
  obtain ⟨lower, upper⟩ := plain character member
  constructor
  · simp only [isCharacter, Bool.or_eq_true, Bool.and_eq_true, decide_eq_true_eq]
    omega
  · rintro rfl
    exact absurd lower (by decide)

theorem IsPlain.isOneLine {text : List Char} (plain : IsPlain text) : IsOneLine text := by
  intro character member
  obtain ⟨lower, upper⟩ := plain character member
  simp only [isLineBreak, Bool.or_eq_false_iff, Bool.and_eq_false_iff, decide_eq_false_iff_not,
    beq_eq_false_iff_ne]
  omega

/-- The entries of both families are printable ASCII. -/
theorem isPlain_entries (family : Family) :
    ∀ entry ∈ entries family, ∀ text ∈ entry.texts, IsPlain text := by
  have bytes : ∀ entry ∈ entries family, ∀ text ∈ entry.description :: entry.mnemonics,
      text.toByteArray.data.toList.all fun byte =>
        Nat.ble 0x20 byte.toNat && Nat.ble byte.toNat 0x7e := by
    cases family <;> decide +kernel
  intro entry isEntry text isText
  have source : ∃ given ∈ entry.description :: entry.mnemonics, given.toList = text := by
    rcases List.mem_cons.mp isText with rfl | inNames
    · exact ⟨_, List.mem_cons_self .., rfl⟩
    · obtain ⟨mnemonic, member, same⟩ := List.mem_map.mp inNames
      exact ⟨mnemonic, List.mem_cons_of_mem _ member, same⟩
  obtain ⟨given, isGiven, rfl⟩ := source
  apply isPlain_of_bytes
  intro byte member
  simpa [Nat.ble_eq] using List.all_eq_true.mp (bytes entry isEntry given isGiven) byte member

/-- Both bundled documents are read, and give what their entries say. -/
theorem exists_load_documents (family : Family) :
    ∃ descriptions, Store.load documents family =
        .ok (complete family descriptions, .loaded family descriptions.length) ∧
      descriptions.GivenBy ((entries family).flatMap Entry.closings) := by
  obtain ⟨descriptions, parsed, given⟩ := Entry.exists_parse_printDocument
    fun entry isEntry text isText => (isPlain_entries family entry isEntry text isText).isHeld
  refine ⟨descriptions, ?_, given⟩
  rw [Store.load, documents, Source.read, parsed]

theorem isPlain_of_briefAt {family : Family} {description : List Char} {place : Nat}
    (described : BriefAt ((entries family).flatMap Entry.closings) description place) :
    ∃ content, strip content = description ∧ IsPlain content := by
  obtain ⟨content, found, stripped⟩ := described
  obtain ⟨entry, isEntry, inside⟩ := List.mem_flatMap.mp (List.mem_of_getElem? found)
  refine ⟨content, stripped, ?_⟩
  rcases List.mem_append.mp inside with isName | isBrief
  · obtain ⟨_, _, same⟩ := List.mem_map.mp isName
    cases same
  · cases List.mem_singleton.mp isBrief
    exact isPlain_entries family entry isEntry _ (List.mem_cons_self ..)

/-- What is looked up in a bundled reference fits on a line and has no blanks around. -/
theorem describe_bundled {family : Family} {known : Descriptions} {report : LoadReport}
    {mnemonic description : List Char}
    (isLoaded : Store.load documents family = .ok (known, report))
    (found : known.describe mnemonic = some description) :
    Trimmed description ∧ IsOneLine description := by
  obtain ⟨descriptions, loaded, given⟩ := exists_load_documents family
  rw [loaded, Except.ok.injEq, Prod.mk.injEq] at isLoaded
  rw [← isLoaded.1] at found
  obtain ⟨known, isKnown⟩ := (Descriptions.describe_eq_iff.mp found).exists_known rfl
  rw [Descriptions.description?_complete] at isKnown
  rcases exists_read_of_completed isKnown with ⟨_, rfl⟩ | ⟨source, isSource⟩
  · exact ⟨⟨by decide, by decide⟩, by decide⟩
  · obtain ⟨_, name, brief, place⟩ := (given.value source description).mp isSource
    obtain ⟨content, rfl, plain⟩ := isPlain_of_briefAt place.described
    exact ⟨trimmed_strip content, fun character member =>
      plain.isOneLine character ((strip_within content).mem member)⟩

end Bundled

end Disassembly.Reference
