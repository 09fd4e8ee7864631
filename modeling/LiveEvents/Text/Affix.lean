/-!
# Beginnings and ends of texts
-/

namespace LiveEvents.Text

def withoutStart? (start s : String) : Option String :=
  if start.toList.isPrefixOf s.toList then some (String.ofList (s.toList.drop start.length))
  else none

def withoutEnd? (ending s : String) : Option String :=
  if ending.toList.isSuffixOf s.toList then
    some (String.ofList (s.toList.take (s.toList.length - ending.toList.length)))
  else none

def trimEnd (c : Char) (s : String) : String :=
  String.ofList (s.toList.reverse.dropWhile (· = c)).reverse

def without (c : Char) (s : String) : String :=
  String.ofList (s.toList.filter (· ≠ c))

end LiveEvents.Text
