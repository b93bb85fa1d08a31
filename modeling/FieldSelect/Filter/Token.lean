import FieldSelect.Decimal.Notation
import FieldSelect.Filter.Position

/-! The words and signs of a filter. -/
namespace FieldSelect

inductive Token where
  | identifier (name : String)
  | quoted (chars : String)
  | integer (n : Int64)
  | float (x : Float)
  | star
  | doubleStar
  | glob (pattern : String)
  | regex (pattern : String) (ignoresCase : Bool)
  | variable (name : String)
  | minus
  | colon
  | pipe
  | comma
  | dot
  | leftParen
  | rightParen
  | leftBracket
  | rightBracket
  | leftBrace
  | rightBrace
  | finish

/-- A token with the place where it starts. -/
structure Spanned where
  token : Token
  position : Position

/-- How a token is named in messages. -/
def Token.describe : Token → String
  | .identifier name => "identifier '" ++ name ++ "'"
  | .quoted chars => "string \"" ++ chars ++ "\""
  | .integer n => "integer " ++ toString n.toInt
  | .float x => "number " ++ floatText x
  | .star => "'*'"
  | .doubleStar => "'**'"
  | .glob pattern => "pattern '" ++ pattern ++ "'"
  | .regex pattern _ => "regex ~" ++ pattern ++ "~"
  | .variable name => "variable @" ++ name
  | .minus => "'-'"
  | .colon => "':'"
  | .pipe => "'|'"
  | .comma => "','"
  | .dot => "'.'"
  | .leftParen => "'('"
  | .rightParen => "')'"
  | .leftBracket => "'['"
  | .rightBracket => "']'"
  | .leftBrace => "'\x7b'"
  | .rightBrace => "'\x7d'"
  | .finish => "end of input"

end FieldSelect
