import EventTasks.Fault

/-!
How the bytes of the settings file are read. The file holds a text in the usual encoding; another
encoding may be asked for by one of its names, and then gives other characters for the same bytes,
or none.
-/
namespace EventTasks.Settings

inductive Encoding where
  | utf8 | latin1 | ascii
deriving DecidableEq, Repr

namespace Encoding

def names : Encoding → List String
  | utf8 => ["utf8", "utf_8", "u8", "utf", "utf8_ucs2", "utf8_ucs4", "cp65001"]
  | latin1 => ["latin1", "latin_1", "latin", "l1", "iso8859_1", "iso_8859_1", "iso8859",
      "iso_8859_1_1987", "iso_ir_100", "8859", "cp819", "ibm819", "csisolatin1"]
  | ascii => ["ascii", "us_ascii", "us", "646", "iso646_us", "iso_646.irv_1991", "iso_ir_6",
      "cp367", "ibm367", "csascii", "ansi_x3.4_1968", "ansi_x3_4_1968", "ansi_x3.4_1986"]

def isNameChar (c : Char) : Bool := c.isAlphanum || c == '.'

def plainChars (parted : Bool) : List Char → List Char
  | [] => []
  | c :: rest =>
    if isNameChar c then
      (if parted then ['_'] else []) ++ c.toLower :: plainChars false rest
    else plainChars true rest

def plainName (name : String) : String :=
  String.ofList (plainChars false (name.toList.dropWhile (!isNameChar ·)))

def ofName? (name : String) : Option Encoding :=
  [utf8, latin1, ascii].find? fun e => plainName name ∈ e.names

def decode (e : Encoding) (text : String) : Except Fault String :=
  let bytes := text.toUTF8.toList.map UInt8.toNat
  match e with
  | utf8 => .ok text
  | latin1 => .ok (String.ofList (bytes.map Char.ofNat))
  | ascii =>
    match bytes.zipIdx.find? fun p => 128 ≤ p.1 with
    | none => .ok text
    | some (byte, position) =>
      .error (.undecodable "ascii" byte position "ordinal not in range(128)")

theorem decode_utf8 (text : String) : utf8.decode text = .ok text := rfl

end Encoding

end EventTasks.Settings
