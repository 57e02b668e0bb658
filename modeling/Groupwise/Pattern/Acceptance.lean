import Groupwise.Pattern.Reader
import Groupwise.Pattern.Resolution
import Groupwise.Pattern.Size

/-!
# Accepting patterns

A text is accepted as a regular expression if it can be read, if its parts make sense under its
switches, and if it is not too large.
-/
namespace Groupwise.Pattern

def read (text : String) : Except Refusal Pattern :=
  match Tree.read text with
  | .error fault => .error (.faulty fault)
  | .ok tree =>
    match tree.resolve {} with
    | .error fault => .error (.faulty fault)
    | .ok (p, _) => if p.fits then .ok p else .error (.tooLarge sizeLimit)

/-- The message for a text that is not accepted. -/
def refusalMessage (text : String) (refusal : Refusal) : String :=
  "Invalid pattern: " ++ text ++ " (" ++ refusal.message text ++ ")"

end Groupwise.Pattern
