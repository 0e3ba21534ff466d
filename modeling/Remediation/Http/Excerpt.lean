import Remediation.Text.Utf8

/-!
Excerpts of texts for logs: no more than the first bytes of a text, and of these only what is
printable ASCII, so that a log neither leaks nor is garbled.
-/

namespace Remediation.Http

/-- How many bytes of a text an excerpt may show. -/
def excerptBytes : Nat := 200

/-- The characters in front of the last boundary that is not behind a place. -/
def front? (bytes : List Nat) (place : Nat) : Option (List Char) := do
  let stop ← Text.boundaryUpTo? bytes place
  Text.ofUtf8? (bytes.take stop)

def isPrintableAscii (c : Char) : Bool :=
  32 ≤ c.toNat && c.toNat < 127

/-- The excerpt of a text, which says how long the text is if it is cut. -/
def excerpt (body : String) : String :=
  let bytes := Text.bytes body.toList
  let shown :=
    if bytes.length ≤ excerptBytes then body.toList
    else
      (front? bytes excerptBytes).getD []
        ++ (s!"... [truncated, {bytes.length} bytes total]").toList
  String.ofList (shown.filter isPrintableAscii)

end Remediation.Http
