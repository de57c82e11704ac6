import SelfConnect.Python.Str

namespace SelfConnect.Python

/-! Appending to a file. The files modelled hold ASCII only, so that a character is
a byte. -/

inductive Write
  | durable
  | refused
  | raised (written : Nat)

/-- The part of a text that a write leaves in the file. -/
def Write.kept (write : Write) (text : Text) : Text :=
  match write with
  | .durable => text
  | .refused => []
  | .raised written => text.take written

def Write.isDurable : Write → Bool
  | .durable => true
  | _ => false

end SelfConnect.Python
