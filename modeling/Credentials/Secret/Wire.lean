import Credentials.Json.Reader
import Credentials.Json.Writer
import Credentials.Secret

/-!
# The wire form of secrets

A secret travels as a JSON string with its name, and is read from an object with its name as the only
member and no content as well.
-/

namespace Credentials.Secret

def encode (s : Secret) : String :=
  (Json.string (some s.name)).toText

/-- The secret that a text in wire form stands for. -/
def decode? (text : String) : Option Secret :=
  ((Json.ofString? text).bind Json.variantName?).bind ofName?

end Credentials.Secret
