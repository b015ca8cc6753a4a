import GameBundle.Text.Search

/-!
# Texts inside block comments

A text put into a block comment must not end it: each terminator in it is broken up
by a blank.
-/

namespace GameBundle.Script

def commentSafeChars (text : List Char) : List Char :=
  Text.replaceAll '*' ['/'] ['*', ' ', '/'] text

def commentSafe (text : String) : String := String.ofList (commentSafeChars text.toList)

end GameBundle.Script
