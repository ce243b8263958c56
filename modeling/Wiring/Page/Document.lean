import Wiring.Page

namespace Wiring.Page

def escape (s : String) : String :=
  String.join (s.toList.map (fun c =>
    if c = '&' then "&amp;" else if c = '<' then "&lt;" else if c = '>' then "&gt;"
    else if c = '"' then "&quot;" else String.ofList [c]))

def escapeData (s : String) : String :=
  String.join (s.toList.map (fun c => if c = '<' then "\\u003c" else String.ofList [c]))

def nodeLine (n : PageNode) : String :=
  "<li style=\"color: " ++ n.color ++ "\" title=\"" ++ escape n.title ++ "\">" ++ escape n.label ++
    "</li>\n"

def edgeLine (e : PageEdge) : String :=
  "<li style=\"color: " ++ e.color ++ "\" title=\"" ++ escape e.title ++ "\">" ++
    escape e.source ++ " → " ++ escape e.target ++ "</li>\n"

def document (p : Page) : String :=
  "<!DOCTYPE html>\n<html>\n<head>\n<meta charset=\"utf-8\">\n<title>Components</title>\n" ++
  "<script type=\"application/json\" id=\"graph\">\n" ++ escapeData p.toJson.render ++
  "\n</script>\n</head>\n<body>\n<h1>Components</h1>\n<ul>\n" ++
  String.join (p.nodes.map nodeLine) ++ "</ul>\n<h1>Relations</h1>\n<ul>\n" ++
  String.join (p.edges.map edgeLine) ++ "</ul>\n</body>\n</html>\n"

end Wiring.Page
