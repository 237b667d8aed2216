import TemplateLint.Json.Printer
import TemplateLint.Rpc.Message
import TemplateLint.Text.Blank
import TemplateLint.Text.Utf8

/-!
# Framing

On a stream each message follows a block of headers, of which `Content-Length` counts the bytes of
the message.  Reading stops for good at the first frame that cannot be read.
Main exports: `Frame`, `Frame.read`, `Frame.write`, `Inbox`, `Inbox.next`.
-/

namespace TemplateLint

/-- A header of a frame. -/
structure Header where
  name : String
  value : List UInt8
deriving DecidableEq, Repr

namespace Header

/-- What stands at the start of some bytes. -/
inductive Reading (α : Type) where
  | done (value : α) (rest : List UInt8)
  /-- More bytes are needed to tell. -/
  | unfinished
  | malformed

/-- The marks that may stand in the name of a header. -/
def marks : String := "!#$%&\x27*+-.^_\x60|~"

/-- The byte may stand in the name of a header. -/
def isNameByte (byte : UInt8) : Bool :=
  let c := Char.ofNat byte.toNat
  c.isAlphanum || marks.toList.contains c

/-- The byte may stand in the value of a header. -/
def isValueByte (byte : UInt8) : Bool :=
  byte == 0x09 || (0x20 ≤ byte && byte != 0x7f)

def isBlankByte (byte : UInt8) : Bool :=
  byte == 0x09 || byte == 0x20

def readLineEnd : List UInt8 → Reading Unit
  | 0x0a :: rest => .done () rest
  | 0x0d :: 0x0a :: rest => .done () rest
  | [] => .unfinished
  | [0x0d] => .unfinished
  | _ => .malformed

def trimmed (bytes : List UInt8) : List UInt8 :=
  ((bytes.dropWhile isBlankByte).reverse.dropWhile isBlankByte).reverse

def readLine (bytes : List UInt8) : Reading Header :=
  let name := bytes.takeWhile isNameByte
  match name, bytes.dropWhile isNameByte with
  | [], [] => .unfinished
  | [], _ => .malformed
  | _, [] => .unfinished
  | name, 0x3a :: rest =>
      match readLineEnd (rest.dropWhile isValueByte) with
      | .done _ after => .done ⟨Utf8.display name, trimmed (rest.takeWhile isValueByte)⟩ after
      | .unfinished => .unfinished
      | .malformed => .malformed
  | _, _ => .malformed

/-- The headers up to the empty line, at most as many as are allowed. -/
def readBlock (allowed : Nat) (bytes : List UInt8) : Reading (List Header) :=
  match readLineEnd bytes with
  | .done _ rest => .done [] rest
  | .unfinished => .unfinished
  | .malformed =>
      match allowed with
      | 0 => .malformed
      | allowed + 1 =>
          match readLine bytes with
          | .done header rest =>
              match readBlock allowed rest with
              | .done headers after => .done (header :: headers) after
              | .unfinished => .unfinished
              | .malformed => .malformed
          | .unfinished => .unfinished
          | .malformed => .malformed

/-- The greatest length that may be given. -/
def lengthLimit : Nat := 0xffffffffffffffff

def length? (value : List UInt8) : Option Nat := do
  let text ← Utf8.decode? ⟨value.toArray⟩
  let digits := match text.toList with
    | '+' :: rest => rest
    | digits => digits
  let count ← Text.asciiNat? digits
  if count ≤ lengthLimit then some count else none

def namesOurCharset (value : List UInt8) : Bool :=
  match Utf8.decode? ⟨value.toArray⟩ with
  | none => false
  | some text =>
      let parameters := ((text.splitOn ";").drop 1).map Text.trim
      match parameters.find? fun parameter => parameter.startsWith "charset=" with
      | some parameter => parameter == "charset=utf-8" || parameter == "charset=utf8"
      | none => false

/-- The length that headers give, the last one counting; headers that are not known do not
matter. -/
def contentLength? (headers : List Header) : Option Nat :=
  let step := fun (found : Option (Option Nat)) (header : Header) => do
    let length ← found
    if header.name = "Content-Length" then (length? header.value).map some
    else if header.name = "Content-Type" ∧ !namesOurCharset header.value then none
    else some length
  (headers.foldl step (some none)).join

end Header

/-- What stands at the start of the bytes that came. -/
inductive Frame where
  | body (content rest : List UInt8)
  | unfinished
  | malformed
deriving Repr

namespace Frame

/-- The number of headers that a frame may have. -/
def headerLimit : Nat := 2

def read (bytes : List UInt8) : Frame :=
  match Header.readBlock headerLimit bytes with
  | .unfinished => .unfinished
  | .malformed => .malformed
  | .done headers rest =>
      match Header.contentLength? headers with
      | none => .malformed
      | some length =>
          if rest.length < length then .unfinished
          else .body (rest.take length) (rest.drop length)

def write (message : Json) : String :=
  let text := message.compact
  "Content-Length: " ++ String.ofList (Text.decimal text.utf8ByteSize) ++ "\r\n\r\n" ++ text

end Frame

def Incoming.ofBytes (content : List UInt8) : Except RpcError Incoming :=
  match (Utf8.decode? ⟨content.toArray⟩).bind Json.read? with
  | none => .error .parseError
  | some value =>
      match Incoming.ofJson? value with
      | some incoming => .ok incoming
      | none => .error .invalidRequest

/-! ## A stream of messages -/

/-- Bytes that came and have not been read. -/
structure Inbox where
  bytes : List UInt8
  /-- Nothing more is read. -/
  stopped : Bool
deriving Repr

namespace Inbox

/-- Nothing has come yet. -/
def empty : Inbox := ⟨[], false⟩

def add (inbox : Inbox) (bytes : List UInt8) : Inbox :=
  { inbox with bytes := inbox.bytes ++ bytes }

/-- What reading gives. -/
inductive Step where
  | incoming (incoming : Incoming)
  /-- A frame without a message. -/
  | skipped
  /-- Reading stops, and the sender is told why. -/
  | failed (error : RpcError)
  /-- There is nothing to read yet. -/
  | idle

def next (inbox : Inbox) : Step × Inbox :=
  if inbox.stopped then (.idle, inbox)
  else
    match Frame.read inbox.bytes with
    | .unfinished => (.idle, inbox)
    | .malformed => (.failed .parseError, { inbox with stopped := true })
    | .body [] rest => (.skipped, { inbox with bytes := rest })
    | .body content rest =>
        match Incoming.ofBytes content with
        | .ok incoming => (.incoming incoming, { inbox with bytes := rest })
        | .error error => (.failed error, ⟨rest, true⟩)

/-- Nothing more will come: bytes that are left make no frame. -/
def close (inbox : Inbox) : Step :=
  if inbox.stopped || inbox.bytes.isEmpty then .idle else .failed .parseError

end Inbox

end TemplateLint
