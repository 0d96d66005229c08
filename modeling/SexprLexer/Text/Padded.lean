/-!
# Columns of fixed width

Tables and log lines pad their fields with spaces. A field that is already wider than its column
stays whole.
-/

namespace SexprLexer.Text

/-- `text` at the right end of a column of `width` characters. -/
def alignRight (width : Nat) (text : String) : String :=
  String.ofList (text.toList.leftpad width ' ')

/-- `text` at the left end of a column of `width` characters. -/
def alignLeft (width : Nat) (text : String) : String :=
  String.ofList (text.toList.rightpad width ' ')

end SexprLexer.Text
