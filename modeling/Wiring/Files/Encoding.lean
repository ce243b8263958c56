namespace Wiring.Files

def unifyLines : List Char → List Char
  | [] => []
  | '\r' :: '\n' :: r => '\n' :: unifyLines r
  | c :: r => (if c = '\r' then '\n' else c) :: unifyLines r

def latin (bytes : ByteArray) : List Char := bytes.toList.map (fun b => Char.ofNat b.toNat)

def decode (bytes : ByteArray) : String :=
  String.ofList (unifyLines ((String.fromUTF8? bytes).elim (latin bytes) String.toList))

end Wiring.Files
