/-
Text and tags in HTML. Text is escaped where it stands between tags, and
values of attributes also inside their quotes.
-/
import Coursebook.Text.Basic

namespace Coursebook.Html

def escapeChar (c : Char) : Text :=
  match c with
  | '&' => "&amp;".toList
  | '<' => "&lt;".toList
  | '>' => "&gt;".toList
  | c => [c]

def escapeQuotedChar (c : Char) : Text := if c = '"' then "&quot;".toList else escapeChar c

def escape (s : Text) : Text := s.flatMap escapeChar

def escapeQuoted (s : Text) : Text := s.flatMap escapeQuotedChar

/-- An attribute with a value that needs no more escaping. -/
def attr (name : String) (value : Text) : Text := ' ' :: name.toList ++ '=' :: '"' :: value ++ ['"']

def opening (name : Text) (attributes : Text) : Text := '<' :: name ++ attributes ++ ['>']

def closing (name : Text) : Text := '<' :: '/' :: name ++ ['>']

def element (name : String) (attributes content : Text) : Text :=
  opening name.toList attributes ++ content ++ closing name.toList

end Coursebook.Html
