import DsnBinding.Text

/-!
Texts shortened to a number of bytes. Messages leave room for so many bytes of a name in UTF-8. A
name that fits is shown as it is; of a longer one the characters that fit are shown, and a character
of which only some bytes fit leaves a replacement character.
-/
namespace DsnBinding.Text

def replacementCharacter : Char := '\ufffd'

/-- What is left of the text when only its first bytes are kept. -/
def shortened (bytes : Nat) : Text → Text
  | [] => []
  | c :: t =>
    if c.utf8Size ≤ bytes then c :: shortened (bytes - c.utf8Size) t
    else if bytes = 0 then []
    else [replacementCharacter]

end DsnBinding.Text
