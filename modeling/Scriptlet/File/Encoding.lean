/-
# Bytes as text

Reading a file means decoding its bytes, strictly: the first bytes that are no
text are reported with their place.  Line ends of every kind then become line
feeds.
-/
import Scriptlet.File.EncodingName
import Scriptlet.File.Escapes
import Scriptlet.File.Idna
import Scriptlet.File.Iso2022
import Scriptlet.File.Utf7
import Scriptlet.File.Utf8
import Scriptlet.File.WideUnits

namespace Scriptlet.File

/-- The encodings that files can be read in. -/
inductive Encoding where
  | utf8
  /-- UTF-8 behind a mark that need not be there. -/
  | markedUtf8
  | utf7
  | utf16 (order : ByteOrder)
  /-- UTF-16 in the order that a mark at the front says. -/
  | markedUtf16
  | utf32 (order : ByteOrder)
  /-- UTF-32 in the order that a mark at the front says. -/
  | markedUtf32
  | ascii
  | latin1
  /-- A code page, given by the characters of its bytes. -/
  | page (chars : String)
  | escaped
  | rawEscaped
  | shiftJis (standard : JisStandard)
  | cp932
  | eucJp (standard : JisStandard)
  | eucKr
  | cp949
  | johab
  | gb2312
  | gbk
  | gb18030
  | hz
  | big5
  | cp950
  | big5Hkscs
  | iso2022 (variant : Iso2022.Variant)
  | punycode
  /-- Domain names. -/
  | idna
  /-- The encoding that no bytes are text in. -/
  | undefined
  deriving DecidableEq, Repr, Inhabited

namespace Encoding

/-- Encodings with characters of several bytes, by their own names. -/
def multibyte : List (String × Encoding) :=
  [("shift_jis", shiftJis .x0208), ("shift_jisx0213", shiftJis .x0213),
   ("shift_jis_2004", shiftJis .x0213Revised), ("cp932", cp932),
   ("euc_jp", eucJp .x0208), ("euc_jisx0213", eucJp .x0213), ("euc_jis_2004", eucJp .x0213Revised),
   ("euc_kr", eucKr), ("cp949", cp949), ("johab", johab),
   ("gb2312", gb2312), ("gbk", gbk), ("gb18030", gb18030), ("hz", hz),
   ("big5", big5), ("cp950", cp950), ("big5hkscs", big5Hkscs)]

/-- The encodings that are no code pages, by their own names. -/
def named : List (String × Encoding) :=
  multibyte ++ Iso2022.Variant.all.map (fun variant => (variant.label, iso2022 variant)) ++
  [("utf_8", utf8), ("utf_8_sig", markedUtf8), ("utf_7", utf7),
   ("utf_16_le", utf16 .lowFirst), ("utf_16_be", utf16 .highFirst), ("utf_16", markedUtf16),
   ("utf_32_le", utf32 .lowFirst), ("utf_32_be", utf32 .highFirst), ("utf_32", markedUtf32),
   ("ascii", ascii), ("idna", idna), ("punycode", punycode),
   ("latin_1", latin1), ("charmap", latin1),
   ("unicode_escape", escaped), ("raw_unicode_escape", rawEscaped), ("undefined", undefined)]

/-- Encodings by name that turn bytes into other bytes. -/
def notText : List String :=
  ["base64_codec", "bz2_codec", "hex_codec", "quopri_codec", "rot_13", "uu_codec", "zlib_codec"]

/-- The encoding that is asked for by `name`. -/
def ofName (name : String) : Except Fault Encoding :=
  if name == "locale" then .ok utf8
  else
    match EncodingName.find? name with
    | none => .error (.unknownEncoding name)
    | some found =>
      if notText.contains found then .error (.notATextEncoding name)
      else
        match named.lookup found, CodePage.all.lookup found with
        | some encoding, _ => .ok encoding
        | none, some chars => .ok (page chars)
        | none, none => .error (.unknownEncoding name)

def characters (encoding : Encoding) (bytes : List Nat) : Except Fault (List Char) :=
  match encoding with
  | utf8 => Utf8.decode bytes
  | markedUtf8 => Utf8.decodeMarked bytes
  | utf7 => Utf7.decode bytes
  | utf16 order => Utf16.decodeAt order 0 bytes
  | markedUtf16 => Utf16.decode bytes
  | utf32 order => Utf32.decodeAt order 0 bytes
  | markedUtf32 => Utf32.decode bytes
  | ascii => Ascii.decode bytes
  | latin1 => .ok (bytes.map Char.ofNat)
  | page chars => CodePage.decode chars bytes
  | escaped => Escapes.decode bytes
  | rawEscaped => Escapes.decodeRaw bytes
  | shiftJis standard => ShiftJis.decode standard bytes
  | cp932 => CodePage932.decode bytes
  | eucJp standard => EucJp.decode standard bytes
  | eucKr => EucKr.decode bytes
  | cp949 => CodePage949.decode bytes
  | johab => Johab.decode bytes
  | gb2312 => Gb2312.decode bytes
  | gbk => Gbk.decode bytes
  | gb18030 => Gb18030.decode bytes
  | hz => Hz.decode bytes
  | big5 => Big5.decode bytes
  | cp950 => CodePage950.decode bytes
  | big5Hkscs => Big5Hkscs.decode bytes
  | iso2022 variant => Iso2022.decode variant bytes
  | punycode => Punycode.decode bytes
  | idna => Idna.decode bytes
  | undefined => .error .undefinedEncoding

/-- The text of a file's bytes, with line ends unified. -/
def decode (encoding : Encoding) (bytes : ByteArray) : Except Fault String :=
  (encoding.characters (bytes.toList.map UInt8.toNat)).map fun chars =>
    String.ofList (Text.unifyLineEnds chars)

end Encoding

end Scriptlet.File
