/-
The walk that renders a tree with its statistics. Each node is counted before
what is in it, and its HTML is added to what has been written before.
-/
import Coursebook.Render.Html
import Coursebook.Render.Stats

namespace Coursebook

/-- What has been written, the latest character first, and what has been counted. -/
structure Writer where
  written : Text := []
  stats : Stats := {}

namespace Writer

open Html

def text (w : Writer) : Text := w.written.reverse

def put (s : Text) (w : Writer) : Writer := { w with written := s.reverse ++ w.written }

/-- Counts a node itself if statistics are kept. -/
def note (o : RenderOptions) (n : Node) (w : Writer) : Writer :=
  if o.collectStats then { w with stats := w.stats.countNode n } else w

/-- Drops the white space at the end, back to where the first `start` characters end. -/
def trimSince (start : Nat) (w : Writer) : Writer :=
  let added := w.written.length - start
  { w with written := (w.written.take added).dropWhile Text.isBlank ++ w.written.drop added }

def dropLineEnd (w : Writer) : Writer :=
  match w.written with
  | '\n' :: s => { w with written := s }
  | _ => w

mutual

def node (o : RenderOptions) : Node → Writer → Writer
  | .section_ c cs, w =>
    let w := (w.note o (.section_ c cs)).put (opening "section".toList (sectionAttributes c) ++ lineEnd)
    (nodes o cs w).put (closing "section".toList ++ lineEnd)
  | .heading level cs, w =>
    let name := 'h' :: Text.ofNat (o.headingLevel level)
    let w := (w.note o (.heading level cs)).put (opening name [])
    (nodes o cs w).put (closing name ++ lineEnd)
  | .paragraph cs, w =>
    let w := (w.note o (.paragraph cs)).put (opening "p".toList [])
    ((nodes o cs w).trimSince w.written.length).put (closing "p".toList ++ lineEnd)
  | .list kind is, w =>
    let w := (w.note o (.list kind is)).put (opening kind.tag.toList [] ++ lineEnd)
    (items o is w).put (closing kind.tag.toList ++ lineEnd)
  | .math .inline s, w => (w.note o (.math .inline s)).put (o.typesetter.inline s)
  | .math .display s, w => (w.note o (.math .display s)).put (o.typesetter.display s ++ lineEnd)
  | .image i, w => (w.note o (.image i)).put (ofImage o i)
  | .emphasis style cs, w => (nodes o cs (w.put (opening style.tag.toList []))).put (closing style.tag.toList)
  | .lineBreak, w => w.put (opening "br".toList [] ++ lineEnd)
  | .code s, w => w.put (element "code" [] (escape s))
  | .codeBlock language s, w =>
    let attributes := language.elim [] fun l => attr "class" ("language-".toList ++ escapeQuoted l)
    w.put (element "pre" [] (element "code" attributes (escape s)) ++ lineEnd)
  | .link url cs, w =>
    (nodes o cs (w.put (opening "a".toList (attr "href" (escapeQuoted url))))).put (closing "a".toList)
  | .blockQuote cs, w =>
    (nodes o cs (w.put (opening "blockquote".toList [] ++ lineEnd))).put (closing "blockquote".toList ++ lineEnd)
  | .rule, w => w.put (opening "hr".toList [] ++ lineEnd)
  | .text t, w => (w.note o (.text t)).put (escape t)
  | .raw html, w => w.put html

def nodes (o : RenderOptions) : List Node → Writer → Writer
  | [], w => w
  | n :: ns, w => nodes o ns (node o n w)

def items (o : RenderOptions) : List (List Node) → Writer → Writer
  | [], w => w
  | i :: is, w =>
    items o is ((nodes o i (w.put (opening "li".toList []))).dropLineEnd.put (closing "li".toList ++ lineEnd))

end

end Writer

/-- A tree as HTML, with its statistics if they are kept. -/
def RenderOptions.render (o : RenderOptions) (ns : List Node) : Text × Stats :=
  let w := Writer.nodes o ns {}
  (Text.trimEnd w.text, w.stats)

end Coursebook
