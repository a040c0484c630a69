/-!
# Text in markup

The five characters that mean something in markup are written as entities.
`unescape` replaces entities from left to right and is the way back.
-/

namespace PanelBoard.Dashboard

/-- A character as it stands in markup. -/
def escapeChar (c : Char) : List Char :=
  match c with
  | '&' => ['&', 'a', 'm', 'p', ';']
  | '<' => ['&', 'l', 't', ';']
  | '>' => ['&', 'g', 't', ';']
  | '"' => ['&', 'q', 'u', 'o', 't', ';']
  | '\'' => ['&', '#', '3', '9', ';']
  | _ => [c]

/-- A text as it stands in markup. -/
def escape (cs : List Char) : List Char :=
  cs.flatMap escapeChar

/-- Replace entities from left to right. An ampersand that begins none of the
five stands for itself. -/
def unescape : List Char → List Char
  | '&' :: 'a' :: 'm' :: 'p' :: ';' :: rest => '&' :: unescape rest
  | '&' :: 'l' :: 't' :: ';' :: rest => '<' :: unescape rest
  | '&' :: 'g' :: 't' :: ';' :: rest => '>' :: unescape rest
  | '&' :: 'q' :: 'u' :: 'o' :: 't' :: ';' :: rest => '"' :: unescape rest
  | '&' :: '#' :: '3' :: '9' :: ';' :: rest => '\'' :: unescape rest
  | c :: rest => c :: unescape rest
  | [] => []

end PanelBoard.Dashboard
