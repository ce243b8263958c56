namespace Wiring.Text

def lastSegment (s : List Char) : List Char := (s.reverse.takeWhile (· ≠ '.')).reverse

def simpleName (s : String) : String := String.ofList (lastSegment s.toList)

def liesUnder (package above : String) : Bool :=
  above.isEmpty || package == above || (above.toList ++ ['.']).isPrefixOf package.toList

end Wiring.Text
