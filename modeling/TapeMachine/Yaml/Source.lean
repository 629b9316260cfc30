import TapeMachine.Text.Utf8
import TapeMachine.Yaml.Token

/-! The characters of a YAML text. They are fetched page by page, so that what is wrong with a page
matters only once the page is needed. -/

namespace TapeMachine.Yaml

/-- How the characters of a text are written as bytes. -/
inductive Encoding where
  /-- UTF-8. -/
  | utf8
  /-- UTF-16, low bytes first. -/
  | utf16Little
  /-- UTF-16, high bytes first. -/
  | utf16Big
  deriving DecidableEq, Repr

/-- The first character of some bytes. -/
inductive FirstChar where
  /-- A character, and the bytes behind it. -/
  | char (c : Char) (rest : Bytes)
  /-- The bytes end inside a character. -/
  | incomplete
  /-- The bytes are no character. -/
  | invalid (problem : String)

/-- The number of bytes that a character with this first byte takes in UTF-8. -/
def utf8Width? (first : UInt8) : Option Nat :=
  if first < 0x80 then some 1
  else if first < 0xc0 then none
  else if first < 0xe0 then some 2
  else if first < 0xf0 then some 3
  else if first < 0xf8 then some 4
  else none

/-- Reads a character in UTF-8. -/
def firstUtf8 : Bytes → FirstChar
  | [] => .incomplete
  | first :: rest =>
    match utf8Width? first with
    | none => .invalid "invalid leading UTF-8 octet"
    | some width =>
      if rest.length + 1 < width then .incomplete
      else match nextChar? (first :: rest) with
      | some (c, behind) => .char c behind
      | none => .invalid "invalid Unicode character"

/-- A unit of UTF-16. -/
def unit16 (encoding : Encoding) (a b : UInt8) : Nat :=
  if encoding = .utf16Big then a.toNat * 256 + b.toNat else b.toNat * 256 + a.toNat

/-- Reads a character in UTF-16. -/
def firstUtf16 (encoding : Encoding) : Bytes → FirstChar
  | a :: b :: rest =>
    let high := unit16 encoding a b
    if high / 1024 = 0xdc00 / 1024 then .invalid "unexpected low surrogate area"
    else if high / 1024 = 0xd800 / 1024 then
      match rest with
      | c :: d :: behind =>
        let low := unit16 encoding c d
        if low / 1024 = 0xdc00 / 1024 then
          .char (Char.ofNat (0x10000 + high % 1024 * 1024 + low % 1024)) behind
        else .invalid "expected low surrogate area"
      | _ => .incomplete
    else .char (Char.ofNat high) rest
  | _ => .incomplete

/-- Reads a character. -/
def Encoding.first (encoding : Encoding) (bytes : Bytes) : FirstChar :=
  match encoding with
  | .utf8 => firstUtf8 bytes
  | _ => firstUtf16 encoding bytes

/-- The encoding of a text, and the length of the mark of the byte order in front of it. -/
def Encoding.detect : Bytes → Encoding × Nat
  | 0xff :: 0xfe :: _ => (.utf16Little, 2)
  | 0xfe :: 0xff :: _ => (.utf16Big, 2)
  | 0xef :: 0xbb :: 0xbf :: _ => (.utf8, 3)
  | _ => (.utf8, 0)

/-- Whether a character may stand in a text. -/
def isTextChar (c : Char) : Bool :=
  let n := c.toNat
  n = 0x09 || n = 0x0a || n = 0x0d || (0x20 ≤ n && n ≤ 0x7e) || n = 0x85 ||
    (0xa0 ≤ n && n ≤ 0xd7ff) || (0xe000 ≤ n && n ≤ 0xfffd) || 0x10000 ≤ n

/-- The characters of a text, page by page. -/
structure Source where
  /-- The pages. -/
  pages : List (List Char)
  /-- What is wrong with the page behind them. -/
  fault? : Option Error

namespace Source

/-- The number of characters of all pages. -/
def size (source : Source) : Nat := (source.pages.map List.length).foldl (· + ·) 0

/-- Reads the characters of one page, given as much fuel as it has bytes, and returns them with the
bytes of a character that is not complete. -/
def page (encoding : Encoding) (done : List Char) : Nat → Bytes → Except String (List Char × Bytes)
  | 0, bytes => .ok (done.reverse, bytes)
  | fuel + 1, bytes =>
    if bytes = [] then .ok (done.reverse, [])
    else match encoding.first bytes with
    | .incomplete => .ok (done.reverse, bytes)
    | .invalid problem => .error problem
    | .char c rest =>
      if isTextChar c then page encoding (c :: done) fuel rest
      else .error "control characters are not allowed"

/-- The number of bytes of a page. -/
def pageSize : Nat := 512

/-- Cuts bytes into pages, given as much fuel as there are bytes. A character that a page would cut
starts the next one. -/
def ofPages (encoding : Encoding) : Nat → Nat → Bytes → Source
  | 0, _, _ => ⟨[], none⟩
  | fuel + 1, room, bytes =>
    if bytes = [] then ⟨[], none⟩
    else match page encoding [] room (bytes.take room) with
    | .error problem => ⟨[], some (.malformed none problem)⟩
    | .ok (chars, cut) =>
      if chars = [] then ⟨[], some (.malformed none "incomplete character")⟩
      else
        let later := ofPages encoding fuel pageSize (cut ++ bytes.drop room)
        ⟨chars :: later.pages, later.fault?⟩

/-- The characters of a text; the mark of the byte order takes room on the first page. -/
def ofBytes (text : Bytes) : Source :=
  let (encoding, mark) := Encoding.detect text
  ofPages encoding (text.length + 1) (pageSize - mark) (text.drop mark)

end Source

end TapeMachine.Yaml
