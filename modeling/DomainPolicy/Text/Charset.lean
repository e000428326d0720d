import DomainPolicy.Text.CodePage.Dos
import DomainPolicy.Text.CodePage.Iso
import DomainPolicy.Text.CodePage.Mac
import DomainPolicy.Text.CodePage.Mainframe
import DomainPolicy.Text.CodePage.Regional
import DomainPolicy.Text.CodePage.Windows
import DomainPolicy.Text.Decoding
import DomainPolicy.Text.Escaped
import DomainPolicy.Text.Multibyte.Basic
import DomainPolicy.Text.Punycode
import DomainPolicy.Text.Split
import DomainPolicy.Text.Switched
import DomainPolicy.Text.Utf7

/-!
# Character sets

* A `Charset` is a way to read bytes as text. `Charset.ofName?` knows each by its name and by other names; in names,
  case does not count, and what is neither a letter nor a digit only keeps words apart.
* Of the encodings whose units have two or four bytes, those without an order of bytes need a byte order mark: without
  one the text cannot be read at all.
* Some names stand for what is not an encoding of text in bytes, or not one that overlooks faults. Nothing is read so.
-/

namespace DomainPolicy

/-- A way to read bytes as text. -/
inductive Charset where
  | ascii
  | latin1
  | page (p : CodePage)
  | unicode (s : Scheme)
  | markedUtf8
  | markedUtf16
  | markedUtf32
  | utf7
  | numberEscapes
  | escapes
  | wide (m : Multibyte)
  | switched (s : Switched)
  | tilde
  | punycode
  | octets
  | letters
  | labels
  deriving DecidableEq, Repr

namespace Charset

/-! ### Names -/

/-- A name with its words in small letters and single underscores between them. A point is part of a word. -/
def fold (name : List Char) : List Char :=
  (words name).dropWhile (· = '_')
where
  words : List Char → List Char
    | [] => []
    | c :: cs =>
      if c.isAlphanum || c == '.' then c.toLower :: words cs
      else
        match words cs with
        | [] => []
        | '_' :: rest => '_' :: rest
        | rest => '_' :: rest

/-- Character sets other than code pages, each with its name and its other names. -/
def named : List (String × List String × Charset) :=
  [("ascii", ["646", "ansi_x3.4_1968", "ansi_x3.4_1986", "ansi_x3_4_1968", "cp367", "csascii", "ibm367",
      "iso646_us", "iso_646.irv_1991", "iso_ir_6", "us", "us_ascii"], ascii),
    ("latin_1", ["8859", "cp819", "csisolatin1", "ibm819", "iso8859", "iso8859_1", "iso_8859_1", "iso_8859_1_1987",
      "iso_ir_100", "l1", "latin", "latin1"], latin1),
    ("charmap", [], latin1),
    ("iso8859_1", [], latin1),
    ("utf_8", ["cp65001", "u8", "utf", "utf8", "utf8_ucs2", "utf8_ucs4"], unicode .utf8),
    ("utf_8_sig", [], markedUtf8),
    ("utf_16", ["u16", "utf16"], markedUtf16),
    ("utf_16_le", ["unicodelittleunmarked", "utf_16le"], unicode (.utf16 .little)),
    ("utf_16_be", ["unicodebigunmarked", "utf_16be"], unicode (.utf16 .big)),
    ("utf_32", ["u32", "utf32"], markedUtf32),
    ("utf_32_le", ["utf_32le"], unicode (.utf32 .little)),
    ("utf_32_be", ["utf_32be"], unicode (.utf32 .big)),
    ("utf_7", ["u7", "unicode_1_1_utf_7", "utf7"], utf7),
    ("unicode_escape", [], escapes),
    ("raw_unicode_escape", [], numberEscapes),
    ("shift_jis", ["csshiftjis", "s_jis", "shiftjis", "sjis", "x_mac_japanese"], wide .shiftJis),
    ("cp932", ["932", "ms932", "ms_kanji", "mskanji"], wide .windowsJapanese),
    ("shift_jisx0213", ["s_jisx0213", "shiftjisx0213", "sjisx0213"], wide (.shiftJisAdded .first)),
    ("shift_jis_2004", ["s_jis_2004", "shiftjis2004", "sjis_2004"], wide (.shiftJisAdded .second)),
    ("euc_jp", ["eucjp", "u_jis", "ujis"], wide .eucJapanese),
    ("euc_jisx0213", ["eucjisx0213"], wide (.eucJapaneseAdded .first)),
    ("euc_jis_2004", ["euc_jis2004", "eucjis2004", "jisx0213"], wide (.eucJapaneseAdded .second)),
    ("gb2312", ["chinese", "csiso58gb231280", "euc_cn", "euccn", "eucgb2312_cn", "gb2312_1980", "gb2312_80", "iso_ir_58",
      "x_mac_simp_chinese"], wide .gb2312),
    ("gbk", ["936", "cp936", "ms936"], wide .gbk),
    ("gb18030", ["gb18030_2000"], wide .gb18030),
    ("big5", ["big5_tw", "csbig5", "x_mac_trad_chinese"], wide .big5),
    ("cp950", ["950", "ms950"], wide .windowsTaiwan),
    ("big5hkscs", ["big5_hkscs", "hkscs"], wide .hongKong),
    ("euc_kr", ["euckr", "korean", "ks_c_5601", "ks_c_5601_1987", "ks_x_1001", "ksc5601", "ksx1001", "x_mac_korean"],
      wide .eucKorean),
    ("cp949", ["949", "ms949", "uhc"], wide .windowsKorean),
    ("johab", ["cp1361", "ms1361"], wide .johab),
    ("hz", ["hz_gb", "hz_gb_2312", "hzgb"], tilde),
    ("punycode", [], punycode),
    ("base64_codec", ["base64", "base_64"], octets),
    ("bz2_codec", ["bz2"], octets),
    ("hex_codec", ["hex"], octets),
    ("quopri_codec", ["quopri", "quoted_printable", "quotedprintable"], octets),
    ("uu_codec", ["uu"], octets),
    ("zlib_codec", ["zip", "zlib"], octets),
    ("rot_13", ["rot13"], letters),
    ("idna", [], labels),
    ("undefined", [], labels)]

def pages : List CodePage :=
  CodePage.isoPages ++ CodePage.windowsPages ++ CodePage.dosPages ++ CodePage.macPages ++ CodePage.mainframePages
    ++ CodePage.regionalPages

/-- All character sets by name. -/
def all : List (String × List String × Charset) :=
  named ++ (Switched.all.map fun s => (s.name, s.aliases, switched s)) ++ pages.map fun p => (p.name, p.aliases, page p)

/-- The character set of a name. A name with a point in it is one of the other names, perhaps with an underscore in the
place of the point. -/
def ofName? (name : List Char) : Option Charset :=
  let folded := fold name
  let word := String.ofList folded
  let plain := String.ofList (folded.map fun c => if c = '.' then '_' else c)
  let other := (all.find? fun e => e.2.1.contains word).or (all.find? fun e => e.2.1.contains plain)
  (other.or (all.find? (·.1 = word))).map fun e => e.2.2

/-! ### Text -/

/-- Why bytes cannot be read as text at all. -/
inductive ReadError where
  | unmarked
  | cutShort
  | notAscii
  | notText
  | notBytes
  | strictOnly
  deriving DecidableEq, Repr

/-- The encoding that a mark of two bytes tells, and the bytes after the mark. -/
def utf16Mark? : Bytes → Option (Scheme × Bytes)
  | 0xFE :: 0xFF :: rest => some (.utf16 .big, rest)
  | 0xFF :: 0xFE :: rest => some (.utf16 .little, rest)
  | _ => none

/-- The encoding that a mark of four bytes tells, and the bytes after the mark. -/
def utf32Mark? : Bytes → Option (Scheme × Bytes)
  | 0x00 :: 0x00 :: 0xFE :: 0xFF :: rest => some (.utf32 .big, rest)
  | 0xFF :: 0xFE :: 0x00 :: 0x00 :: rest => some (.utf32 .little, rest)
  | _ => none

/-- Bytes that must have a mark, unless they are fewer than a unit has. -/
def marked (unit : Nat) (mark : Option (Scheme × Bytes)) (scheme : Scheme) (bs : Bytes) :
    Except ReadError (List Piece) :=
  match mark with
  | some (s, rest) => .ok (s.pieces false rest)
  | none => if bs.length < unit then .ok (scheme.pieces false bs) else .error .unmarked

/-- The code points of bytes. -/
def pieces (c : Charset) (bs : Bytes) : Except ReadError (List Piece) :=
  match c with
  | ascii => .ok (bs.map fun b => if b < 0x80 then Piece.ofNat b.toNat else .broken)
  | latin1 => .ok (bs.map fun b => Piece.ofNat b.toNat)
  | page p => .ok (p.pieces bs)
  | unicode s => .ok (s.pieces false bs)
  | markedUtf8 =>
    .ok (match bs with
      | 0xEF :: 0xBB :: 0xBF :: rest => Scheme.utf8.pieces false rest
      | [0xEF] | [0xEF, 0xBB] => []
      | _ => Scheme.utf8.pieces false bs)
  | markedUtf16 => marked 2 (utf16Mark? bs) (.utf16 .little) bs
  | markedUtf32 => marked 4 (utf32Mark? bs) (.utf32 .little) bs
  | utf7 => .ok (Utf7.pieces .direct bs)
  | numberEscapes => .ok (Escaped.numbers bs)
  | escapes => .ok (Escaped.all bs)
  | wide m => .ok (m.pieces bs)
  | switched s => (s.pieces? bs).elim (.error .cutShort) .ok
  | tilde => .ok (Tilde.pieces bs)
  | punycode => (Punycode.read? bs).elim (.error .notAscii) (.ok ·.pieces)
  | octets => .error .notText
  | letters => .error .notBytes
  | labels => .error .strictOnly

/-- The text of bytes, with `U+FFFD` for what encodes nothing. -/
def read (c : Charset) (bs : Bytes) : Except ReadError Text := (c.pieces bs).map Piece.lenient

/-- The text of bytes without a fault. Units without a mark have their first byte last. -/
def strict? (c : Charset) (bs : Bytes) : Option Text :=
  let pieces? := match c with
    | markedUtf16 => if (utf16Mark? bs).isNone then some (Scheme.pieces false (.utf16 .little) bs) else plain
    | markedUtf32 => if (utf32Mark? bs).isNone then some (Scheme.pieces false (.utf32 .little) bs) else plain
    | punycode => (Punycode.read? bs).bind fun r => if r.isWhole then some r.pieces else none
    | _ => plain
  pieces?.bind Piece.strict
where
  plain : Option (List Piece) := (c.pieces bs).toOption

end Charset

end DomainPolicy
