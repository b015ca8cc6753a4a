import GameBundle.Text.AlphanumericTable
import GameBundle.Text.CharRanges

/-!
# Letters and digits
-/

namespace GameBundle.Text

/-- Whether a character is alphabetic or numeric in Unicode. -/
def isAlphanumeric (c : Char) : Bool := inRanges alphanumericRanges c

end GameBundle.Text
