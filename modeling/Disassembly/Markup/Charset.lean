import Disassembly.Markup.CodePage

/-!
Names of encodings besides those that every reader of documents knows. Case does not count in them,
nor do the marks between their words. Most stand for a code page. A name that stands for nothing, or
for an encoding that no code page can describe, is no fault of the document: it stops the reader.
-/

namespace Disassembly.Markup

/-- Why a reader stops at the name of an encoding. -/
inductive Refusal where
  | unknown (name : List Char)
  /-- The name is one of a way to write bytes, not texts. -/
  | notText (name : List Char)
  | multiByte
  /-- The encoding cannot be asked what its bytes stand for. -/
  | inapplicable (name : List Char) (reason : String)
  /-- The encoding cannot go on behind some byte. -/
  | undecodable (reason : String)
deriving DecidableEq, Repr

def Refusal.message : Refusal → List Char
  | .unknown name => "unknown encoding: ".toList ++ name
  | .notText name =>
      '\x27' :: (name ++
        "\x27 is not a text encoding; use codecs.decode() to handle arbitrary codecs".toList)
  | .multiByte => "multi-byte encodings are not supported".toList
  | .inapplicable name reason =>
      "decoding with \x27".toList ++ name ++ "\x27 codec failed (UnicodeError: ".toList ++
        reason.toList ++ [')']
  | .undecodable reason => reason.toList

/-- What is wrong with a document, or with the reader that is to read it. -/
inductive Flaw where
  | malformed
  | refused (refusal : Refusal)
deriving DecidableEq, Repr

def Flaw.require {Value : Type} : Option Value → Except Flaw Value
  | some value => .ok value
  | none => .error .malformed

theorem Flaw.require_eq_ok_iff {Value : Type} {found : Option Value} {value : Value} :
    require found = .ok value ↔ found = some value := by
  cases found <;> simp [require]

namespace Charset

/-- A character may take more than one byte. -/
def multiByte : EncodingNames :=
  ⟨["big5", "big5hkscs", "cp932", "cp949", "cp950", "euc_jis_2004", "euc_jisx0213", "euc_jp",
    "euc_kr", "gb18030", "gb2312", "gbk", "iso2022_kr", "johab", "shift_jis", "shift_jis_2004",
    "shift_jisx0213", "utf_16", "utf_16_be", "utf_16_le", "utf_32", "utf_32_be", "utf_32_le",
    "utf_7"],
   ["big5_tw", "csbig5", "x_mac_trad_chinese", "big5_hkscs", "hkscs", "ms932", "ms_kanji",
    "mskanji", "ms949", "uhc", "ms950", "euc_jis2004", "eucjis2004", "jisx0213", "eucjisx0213",
    "eucjp", "u_jis", "ujis", "euckr", "korean", "ks_c_5601", "ks_c_5601_1987", "ks_x_1001",
    "ksc5601", "ksx1001", "x_mac_korean", "gb18030_2000", "chinese", "csiso58gb231280", "euc_cn",
    "euccn", "eucgb2312_cn", "gb2312_1980", "gb2312_80", "iso_ir_58", "x_mac_simp_chinese",
    "cp936", "ms936", "csiso2022kr", "iso2022kr", "iso_2022_kr", "cp1361", "ms1361",
    "csshiftjis", "s_jis", "shiftjis", "sjis", "x_mac_japanese", "s_jis_2004", "shiftjis2004",
    "sjis_2004", "s_jisx0213", "shiftjisx0213", "sjisx0213", "u16", "utf16",
    "unicodebigunmarked", "utf_16be", "unicodelittleunmarked", "utf_16le", "u32", "utf32",
    "utf_32be", "utf_32le", "u7", "unicode_1_1_utf_7", "utf7"]⟩

/-- Bytes are written as other bytes. -/
def notText : EncodingNames :=
  ⟨["base64_codec", "bz2_codec", "hex_codec", "quopri_codec", "rot_13", "uu_codec", "zlib_codec"],
   ["base64", "base_64", "bz2", "hex", "quopri", "quoted_printable", "quotedprintable", "rot13",
    "uu", "zip", "zlib"]⟩

/-- Some mark of ASCII is no byte of its own or stands at another place. -/
def unlikeAscii : EncodingNames :=
  ⟨["cp037", "cp1026", "cp1140", "cp273", "cp424", "cp500", "cp864", "cp875", "mac_arabic",
    "mac_farsi"],
   ["csibm037", "ebcdic_cp_ca", "ebcdic_cp_nl", "ebcdic_cp_us", "ebcdic_cp_wt", "ibm037",
    "ibm039", "csibm1026", "ibm1026", "ibm1140", "csibm273", "ibm273", "csibm424",
    "ebcdic_cp_he", "ibm424", "csibm500", "ebcdic_cp_be", "ebcdic_cp_ch", "ibm500", "csibm864",
    "ibm864"]⟩

def plainName (name : List Char) : List Char :=
  let words := (name.map Char.toLower).splitOnP fun character => character = '-' || character = '_'
  List.intercalate ['_'] (words.filter fun word => !word.isEmpty)

def pageNamed (name : List Char) : Except Flaw CodePage :=
  let plain := plainName name
  if multiByte.hold plain then .error (.refused .multiByte)
  else if notText.hold plain then .error (.refused (.notText name))
  else if plain = "idna".toList then
    .error (.refused (.inapplicable name "Unsupported error handling replace"))
  else if plain = "undefined".toList then
    .error (.refused (.inapplicable name "undefined encoding"))
  else if plain = "punycode".toList then
    .error (.refused (.undecodable
      "\x27ascii\x27 codec can\x27t decode byte 0x80 in position 82: ordinal not in range(128)"))
  else if unlikeAscii.hold plain then .error .malformed
  else
    match CodePage.all.find? fun known => known.names.hold plain with
    | some known => .ok known.page
    | none => .error (.refused (.unknown name))

end Charset

end Disassembly.Markup
