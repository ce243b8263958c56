import Wiring.Text.Quoted

namespace Wiring.Annotation

inductive Fault where
  | noName
  | afterName (c : Char)
  | trailing (rest : List Char)
  | missingValue
  | missingParenthesis
  | missingBrace
  | betweenArguments (rest : List Char)
  | betweenItems (rest : List Char)
  | openTextBlock
  | openString
  | openLiteral
  | openComment
  | unbalanced (c : Char)
  | missingCloser (c : Char)
  deriving DecidableEq, Repr

def Fault.reason : Fault → String
  | noName => "expected '@' followed by a name"
  | afterName c => "unexpected " ++ Text.quoted [c] ++ " after name"
  | trailing rest => "trailing text " ++ Text.quoted rest
  | missingValue => "missing value"
  | missingParenthesis => "missing ')'"
  | missingBrace => "missing '\x7d'"
  | betweenArguments rest => "expected ',' or ')' at " ++ Text.quoted rest
  | betweenItems rest => "expected ',' or '\x7d' at " ++ Text.quoted rest
  | openTextBlock => "unterminated text block"
  | openString => "unterminated string literal"
  | openLiteral => "unterminated literal"
  | openComment => "unterminated comment"
  | unbalanced c => "unbalanced " ++ Text.quoted [c]
  | missingCloser c => "missing " ++ Text.quoted [c]

structure Malformed where
  text : List Char
  fault : Fault
  deriving DecidableEq, Repr

def Malformed.message (m : Malformed) : String :=
  "Cannot parse annotation " ++ Text.quoted m.text ++ ": " ++ m.fault.reason

end Wiring.Annotation
