import FileServer.Bytes

/-!
# Response headers

Every response announces the exact length of its body and closes the connection
behind it, so its header is settled by the status and that length
(`ResponseHeader.toBytes`). A blank line ends it, and `findBlankLine?` tells where
the first one begins.
-/

namespace FileServer

/-- How a request was answered. -/
inductive Status
  | ok
  | notFound
  deriving DecidableEq, Repr

namespace Status

/-- The number of the status. -/
def code : Status → Nat
  | ok => 200
  | notFound => 404

/-- The phrase that goes with the number. -/
def reason : Status → String
  | ok => "OK"
  | notFound => "Not Found"

end Status

/-- What stands between a line and the next. -/
def lineEnd : Bytes := [13, 10]

/-- What ends a header: a line end and an empty line. -/
def blankLine : Bytes := [13, 10, 13, 10]

/-- Where the first blank line begins, counting from `start`. -/
def blankLineFrom (start : Nat) : Bytes → Option Nat
  | [] => none
  | b :: bs => if blankLine.isPrefixOf (b :: bs) then some start else blankLineFrom (start + 1) bs

/-- Where the first blank line begins. -/
def findBlankLine? (bs : Bytes) : Option Nat := blankLineFrom 0 bs

/-- What a response says before its body. -/
structure ResponseHeader where
  status : Status
  /-- How many bytes the body has. -/
  length : Nat
  deriving DecidableEq, Repr

namespace ResponseHeader

/-- The header as it goes over the wire. -/
def toBytes (h : ResponseHeader) : Bytes :=
  Bytes.ofString "HTTP/1.1 " ++ Bytes.ofNat h.status.code ++ Bytes.ofString " " ++
    Bytes.ofString h.status.reason ++ lineEnd ++
    Bytes.ofString "Content-Length: " ++ Bytes.ofNat h.length ++ lineEnd ++
    Bytes.ofString "Connection: close" ++ lineEnd ++ lineEnd

/-- The header behind what a buffer holds already. -/
def appendTo (h : ResponseHeader) (buffer : Bytes) : Bytes := buffer ++ h.toBytes

end ResponseHeader

end FileServer
