import Credentials.Text.Bytes

/-!
# Environment variables

A variable holds bytes, which need not be text. `text?` is the view of readers that want text: a
variable that is not well-formed counts as absent.
-/

namespace Credentials.Host

/-- The variables of a process. -/
structure Environment where
  bytes? : String → Option (List UInt8)

namespace Environment

def empty : Environment := ⟨fun _ => none⟩

def set (e : Environment) (name : String) (value : Option (List UInt8)) : Environment :=
  ⟨fun n => if n = name then value else e.bytes? n⟩

theorem bytes?_set (e : Environment) (name : String) (value : Option (List UInt8)) (n : String) :
    (e.set name value).bytes? n = if n = name then value else e.bytes? n := rfl

def text? (e : Environment) (name : String) : Option String :=
  (e.bytes? name).bind Text.ofBytes?

def path? (e : Environment) (name : String) : Option String :=
  (e.bytes? name).map Text.ofBytesLossy

end Environment

/-- Whether the text of a switch turns it on: `1`, or `true` in any case. -/
def isOn (s : String) : Bool :=
  s == "1" || s.toLower == "true"

end Credentials.Host
