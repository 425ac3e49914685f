import Parley.Charset
import Parley.Http.MediaType

/-!
Contract: the text of a body.

The content type of a response names the character set of its body. Without one
that is known it is UTF-8.

Owns: `decodeBody`.
-/

namespace Parley.Http

open Parley.Text (Bytes)

def charsetOf (contentType : Option String) : Charset :=
  ((contentType.bind (MediaType.parameter? "charset")).bind
    Charset.ofName?).getD .utf8

def decodeBody (contentType : Option String) (bytes : Bytes) : String :=
  (charsetOf contentType).decodeMarked bytes

end Parley.Http
