/-
The tags of a rendered document. They depend on the nodes and not on what is
written in them: the tags of a node can be told from its shape alone
(`tagsOf_shape`), and they are what the reader of tags finds in the HTML,
whatever texts, sources, addresses and paths the node holds
(`tags?_ofNode`). They always nest.

The same holds of a page, for which the title, the language, the address of
the engine and the marker of the agent are such texts (`tags?_wrap`). Raw
HTML and further styles are the two ways to write tags of one's own.
-/
import Coursebook.PageShell
import Coursebook.Proofs.Image.Style
import Coursebook.Proofs.Text.Search

namespace Coursebook

/-! ## Shapes -/

namespace Node

mutual

/-- A node with all strings in it empty. The sizes of an image go with its path. -/
def shape : Node → Node
  | heading level cs => heading level (shapeAll cs)
  | paragraph cs => paragraph (shapeAll cs)
  | list kind items => list kind (shapeItems items)
  | math kind _ => math kind []
  | image _ => image (.ofPath [])
  | section_ c cs => section_ c (shapeAll cs)
  | emphasis style cs => emphasis style (shapeAll cs)
  | lineBreak => lineBreak
  | code _ => code []
  | codeBlock language _ => codeBlock (language.map fun _ => []) []
  | link _ cs => link [] (shapeAll cs)
  | blockQuote cs => blockQuote (shapeAll cs)
  | rule => rule
  | text _ => text []
  | raw _ => raw []

def shapeAll : List Node → List Node
  | [] => []
  | n :: ns => shape n :: shapeAll ns

def shapeItems : List (List Node) → List (List Node)
  | [] => []
  | i :: is => shapeAll i :: shapeItems is

end

mutual

/-- Whether a node holds no raw HTML. -/
def rawFree : Node → Bool
  | heading _ cs | paragraph cs | section_ _ cs | emphasis _ cs | link _ cs | blockQuote cs => rawFreeAll cs
  | list _ items => rawFreeItems items
  | raw _ => false
  | _ => true

def rawFreeAll : List Node → Bool
  | [] => true
  | n :: ns => rawFree n && rawFreeAll ns

def rawFreeItems : List (List Node) → Bool
  | [] => true
  | i :: is => rawFreeAll i && rawFreeItems is

end

mutual

theorem rawFree_shape : ∀ n : Node, n.shape.rawFree = n.rawFree
  | heading _ cs | paragraph cs | section_ _ cs | emphasis _ cs | link _ cs | blockQuote cs => rawFreeAll_shape cs
  | list _ items => rawFreeItems_shape items
  | math _ _ | image _ | lineBreak | code _ | codeBlock _ _ | rule | text _ | raw _ => rfl

theorem rawFreeAll_shape : ∀ ns : List Node, rawFreeAll (shapeAll ns) = rawFreeAll ns
  | [] => rfl
  | n :: ns => by rw [shapeAll, rawFreeAll, rawFree_shape n, rawFreeAll_shape ns, rawFreeAll]

theorem rawFreeItems_shape : ∀ is : List (List Node), rawFreeItems (shapeItems is) = rawFreeItems is
  | [] => rfl
  | i :: is => by rw [shapeItems, rawFreeItems, rawFreeAll_shape i, rawFreeItems_shape is, rawFreeItems]

end

end Node

namespace Html

/-! ## The tags of nodes -/

def mathTags : MathMode → MathKind → List Tag
  | .client, .inline => tagsAround "span".toList ["class".toList] []
  | .client, .display => tagsAround "div".toList ["class".toList] []
  | .plain, .inline => tagsAround "code".toList ["class".toList] []
  | .plain, .display => tagsAround "pre".toList ["class".toList] (tagsAround "code".toList [] [])

def headingName (level : Nat) : Text := 'h' :: Text.ofNat level

mutual

/-- The tags of a node, for a typesetter and the levels that headings are written with. -/
def tagsOf (mode : MathMode) (level : Nat → Nat) : Node → List Tag
  | .heading l cs => tagsAround (headingName (level l)) [] (tagsOfAll mode level cs)
  | .paragraph cs => tagsAround "p".toList [] (tagsOfAll mode level cs)
  | .list kind items => tagsAround kind.tag.toList [] (tagsOfItems mode level items)
  | .math kind _ => mathTags mode kind
  | .image _ => [.opening "img".toList ["class".toList, "src".toList, "alt".toList, "style".toList]]
  | .section_ _ cs => tagsAround "section".toList ["class".toList, "data-category".toList] (tagsOfAll mode level cs)
  | .emphasis style cs => tagsAround style.tag.toList [] (tagsOfAll mode level cs)
  | .lineBreak => [.opening "br".toList []]
  | .code _ => tagsAround "code".toList [] []
  | .codeBlock language _ =>
    tagsAround "pre".toList [] (tagsAround "code".toList (language.elim [] fun _ => ["class".toList]) [])
  | .link _ cs => tagsAround "a".toList ["href".toList] (tagsOfAll mode level cs)
  | .blockQuote cs => tagsAround "blockquote".toList [] (tagsOfAll mode level cs)
  | .rule => [.opening "hr".toList []]
  | .text _ | .raw _ => []

def tagsOfAll (mode : MathMode) (level : Nat → Nat) : List Node → List Tag
  | [] => []
  | n :: ns => tagsOf mode level n ++ tagsOfAll mode level ns

def tagsOfItems (mode : MathMode) (level : Nat → Nat) : List (List Node) → List Tag
  | [] => []
  | i :: is => tagsAround "li".toList [] (tagsOfAll mode level i) ++ tagsOfItems mode level is

end

variable {mode : MathMode} {level : Nat → Nat}

mutual

/-- **The tags of a node can be told from its shape.** -/
theorem tagsOf_shape : ∀ n : Node, tagsOf mode level n.shape = tagsOf mode level n
  | .heading _ cs | .paragraph cs | .section_ _ cs | .emphasis _ cs | .link _ cs | .blockQuote cs =>
    congrArg (tagsAround _ _) (tagsOfAll_shape cs)
  | .list _ items => congrArg (tagsAround _ _) (tagsOfItems_shape items)
  | .codeBlock none _ | .codeBlock (some _) _ => rfl
  | .math _ _ | .image _ | .lineBreak | .code _ | .rule | .text _ | .raw _ => rfl

theorem tagsOfAll_shape : ∀ ns : List Node, tagsOfAll mode level (Node.shapeAll ns) = tagsOfAll mode level ns
  | [] => rfl
  | n :: ns => by rw [Node.shapeAll, tagsOfAll, tagsOf_shape n, tagsOfAll_shape ns, tagsOfAll]

theorem tagsOfItems_shape :
    ∀ is : List (List Node), tagsOfItems mode level (Node.shapeItems is) = tagsOfItems mode level is
  | [] => rfl
  | i :: is => by rw [Node.shapeItems, tagsOfItems, tagsOfAll_shape i, tagsOfItems_shape is, tagsOfItems]

end

/-! ### Nesting -/

theorem isElementName_headingName (level : Nat) : isElementName (headingName level) = true := by
  have hdigit : ∀ c ∈ Text.ofNat level, isNameChar c = true := fun c hc => by
    have := Text.isDigit_of_mem_ofNat hc
    simp only [Char.isDigit, Bool.and_eq_true, decide_eq_true_eq] at this
    simp only [isNameChar, Text.isAsciiAlphanumeric, Text.isAsciiDigit, Bool.or_eq_true, Bool.and_eq_true,
      decide_eq_true_eq]
    exact .inl (.inl (.inr this))
  -- The one name with an `h` in front is that of a rule, which is no digit behind it.
  have hnames : ∀ name ∈ rawTextNames ++ voidNames, name.head? = some 'h' → 'r' ∈ name.tail := by decide
  have hmem : headingName level ∉ rawTextNames ++ voidNames := fun h => by
    have := Text.isDigit_of_mem_ofNat (hnames _ h rfl)
    exact absurd this (by decide)
  rw [List.mem_append, not_or] at hmem
  have hname : isName (headingName level) = true := by
    simp only [isName, headingName, Bool.and_eq_true, List.all_cons]
    exact ⟨by simp, by decide, List.all_eq_true.2 hdigit⟩
  simp only [isElementName, Bool.and_eq_true, decide_eq_true_eq]
  exact ⟨⟨hname, hmem.1⟩, hmem.2⟩

theorem isElementName_list (kind : Command.ListKind) : isElementName kind.tag.toList = true := by
  cases kind <;> decide

theorem isElementName_emphasis (style : EmphasisStyle) : isElementName style.tag.toList = true := by
  cases style <;> decide

theorem balanced_mathTags (kind : MathKind) : Balanced (mathTags mode kind) := by
  cases mode <;> cases kind
  · exact .around (by decide) _ .nil
  · exact .around (by decide) _ .nil
  · exact .around (by decide) _ .nil
  · exact .around (by decide) _ (.around (by decide) _ .nil)

mutual

/-- **The tags of a node nest.** -/
theorem balanced_tagsOf : ∀ n : Node, Balanced (tagsOf mode level n)
  | .heading _ cs => .around (isElementName_headingName _) _ (balanced_tagsOfAll cs)
  | .emphasis style cs => .around (isElementName_emphasis style) _ (balanced_tagsOfAll cs)
  | .list kind items => .around (isElementName_list kind) _ (balanced_tagsOfItems items)
  | .paragraph cs | .section_ _ cs | .link _ cs | .blockQuote cs => .around (by decide) _ (balanced_tagsOfAll cs)
  | .math kind _ => balanced_mathTags kind
  | .image _ | .lineBreak | .rule => .void (by decide) _
  | .code _ => .around (by decide) _ .nil
  | .codeBlock _ _ => .around (by decide) _ (.around (by decide) _ .nil)
  | .text _ | .raw _ => .nil

theorem balanced_tagsOfAll : ∀ ns : List Node, Balanced (tagsOfAll mode level ns)
  | [] => .nil
  | n :: ns => (balanced_tagsOf n).append (balanced_tagsOfAll ns)

theorem balanced_tagsOfItems : ∀ is : List (List Node), Balanced (tagsOfItems mode level is)
  | [] => .nil
  | i :: is => (Balanced.around (by decide) _ (balanced_tagsOfAll i)).append (balanced_tagsOfItems is)

end

/-! ### Rendered nodes -/

theorem isAttributes_class (value : String) (h : value.toList.all isValueChar = true) :
    IsAttributes (attr "class" value.toList) ["class".toList] := .attr (by decide) h

/-- A formula between the marks of the engine. -/
theorem tags?_marked (a b c d : Char) (h : [a, b, c, d].all isTextChar = true) (s : Text) :
    tags? (a :: b :: escape s ++ [c, d]) = some [] := by
  refine tags?_eq_nil ?_
  simp only [List.all_cons, List.all_nil, Bool.and_true, Bool.and_eq_true] at h
  simp [all_escape, h]

theorem tags?_inline (s : Text) : tags? (mode.typesetter.inline s) = some (mathTags mode .inline) := by
  cases mode with
  | client =>
    exact tags?_element (by decide) (isAttributes_class _ (by decide)) (tags?_marked _ _ _ _ (by decide) _)
  | plain => exact tags?_element (by decide) (isAttributes_class _ (by decide)) (tags?_escape s)

theorem tags?_display (s : Text) : tags? (mode.typesetter.display s) = some (mathTags mode .display) := by
  cases mode with
  | client =>
    exact tags?_element (by decide) (isAttributes_class _ (by decide)) (tags?_marked _ _ _ _ (by decide) _)
  | plain =>
    exact tags?_element (by decide) (isAttributes_class _ (by decide)) (tags?_element (by decide) .nil (tags?_escape s))

variable {o : RenderOptions}

mutual

/-- **The reader finds the tags of a node in its HTML.** -/
theorem tags?_ofNode (ho : o.typesetter = mode.typesetter) :
    ∀ n : Node, n.rawFree = true → tags? (ofNode o n) = some (tagsOf mode o.headingLevel n)
  | .heading l cs, h =>
    tags?_append_lineEnd (tags?_around (isElementName_headingName _) .nil (tags?_ofNodes ho cs h))
  | .paragraph cs, h => tags?_append_lineEnd (tags?_element (by decide) .nil (tags?_trimEnd (tags?_ofNodes ho cs h)))
  | .list kind items, h =>
    tags?_append_lineEnd (tags?_element (isElementName_list kind) .nil (tags?_lineEnd_append (tags?_ofItems ho items h)))
  | .math .inline s, _ => by
    rw [ofNode, ho]
    exact tags?_inline s
  | .math .display s, _ => by
    rw [ofNode, ho]
    exact tags?_append_lineEnd (tags?_display s)
  | .image i, _ => by
    have hsrc : IsAttributes (attr "src" (escapeQuoted (o.imagePrefix ++ i.path))) ["src".toList] :=
      .attr (by decide) (all_escapeQuoted _)
    have halt : IsAttributes (attr "alt" []) ["alt".toList] := .attr (by decide) rfl
    have hstyle : IsAttributes (attr "style" i.style) ["style".toList] := .attr (by decide) i.all_style
    exact tags?_opening (by decide) (by decide)
      ((((isAttributes_class _ (by decide)).append hsrc).append halt).append hstyle)
  | .section_ c cs, h => by
    have hclass : IsAttributes (attr "class" ("section section-".toList ++ c.name)) ["class".toList] :=
      .attr (by decide) (by cases c <;> decide)
    have hcategory : IsAttributes (attr "data-category" c.name) ["data-category".toList] :=
      .attr (by decide) (by cases c <;> decide)
    exact tags?_append_lineEnd
      (tags?_element (by decide) (hclass.append hcategory) (tags?_lineEnd_append (tags?_ofNodes ho cs h)))
  | .emphasis style cs, h => tags?_element (isElementName_emphasis style) .nil (tags?_ofNodes ho cs h)
  | .lineBreak, _ => tags?_append_lineEnd (tags?_opening (by decide) (by decide) .nil)
  | .code s, _ => tags?_element (by decide) .nil (tags?_escape s)
  | .codeBlock language s, _ => by
    refine tags?_append_lineEnd (tags?_element (by decide) .nil (tags?_element (by decide) ?_ (tags?_escape s)))
    cases language with
    | none => exact .nil
    | some l =>
      refine .attr (by decide) ?_
      rw [List.all_append, all_escapeQuoted]
      decide
  | .link url cs, h =>
    tags?_element (by decide) (.attr (by decide) (all_escapeQuoted url)) (tags?_ofNodes ho cs h)
  | .blockQuote cs, h =>
    tags?_append_lineEnd (tags?_element (by decide) .nil (tags?_lineEnd_append (tags?_ofNodes ho cs h)))
  | .rule, _ => tags?_append_lineEnd (tags?_opening (by decide) (by decide) .nil)
  | .text t, _ => tags?_escape t

theorem tags?_ofNodes (ho : o.typesetter = mode.typesetter) :
    ∀ ns : List Node, Node.rawFreeAll ns = true → tags? (ofNodes o ns) = some (tagsOfAll mode o.headingLevel ns)
  | [], _ => rfl
  | n :: ns, h => by
    obtain ⟨hn, hns⟩ := Bool.and_eq_true_iff.1 h
    exact tags?_append (tags?_ofNode ho n hn) (tags?_ofNodes ho ns hns)

theorem tags?_ofItems (ho : o.typesetter = mode.typesetter) :
    ∀ is : List (List Node), Node.rawFreeItems is = true → tags? (ofItems o is) = some (tagsOfItems mode o.headingLevel is)
  | [], _ => rfl
  | i :: is, h => by
    obtain ⟨hi, his⟩ := Bool.and_eq_true_iff.1 h
    have hitem : tags? (element "li" [] (dropLineEnd (ofNodes o i))) =
        some (tagsAround "li".toList [] (tagsOfAll mode o.headingLevel i)) :=
      tags?_element (by decide) .nil (tags?_dropLineEnd (tags?_ofNodes ho i hi))
    exact tags?_append (tags?_append_lineEnd hitem) (tags?_ofItems ho is his)

end

end Html

/-! ## Pages -/

namespace PageShell

open Html

/-- The tags of a page around those of its body. -/
def pageTags (hasTitle hasEngine hasAgent : Bool) (body : List Tag) : List Tag :=
  [.opening "!DOCTYPE".toList ["html".toList], .opening "html".toList ["lang".toList], .opening "head".toList [],
      .opening "meta".toList ["charset".toList], .opening "meta".toList ["name".toList, "content".toList]]
    ++ (if hasTitle then tagsAround "title".toList [] [] else [])
    ++ tagsAround "style".toList [] []
    ++ (if hasEngine then
        tagsAround "script".toList [] []
          ++ tagsAround "script".toList ["id".toList, "async".toList, "src".toList] []
      else [])
    ++ [.closing "head".toList, .opening "body".toList [], .opening "main".toList ["class".toList]] ++ body
    ++ [.closing "main".toList]
    ++ (if hasAgent then tagsAround "script".toList [] [] else [])
    ++ [.closing "body".toList, .closing "html".toList]

/-- Lines of raw text between the lines of its tags. -/
theorem tags?_rawLines {name a b s : Text} (hn : isName name = true) (hraw : name ∈ rawTextNames)
    (ha : a = opening name [] ++ lineEnd) (hb : b = closing name ++ lineEnd) (hs : '<' ∉ s) :
    tags? (a ++ s ++ b) = some (tagsAround name [] []) := by
  have hcontent : '<' ∉ lineEnd ++ s := by simpa [lineEnd] using hs
  have hlines : a ++ s ++ b = opening name [] ++ (lineEnd ++ s) ++ closing name ++ lineEnd := by
    simp only [ha, hb, List.append_assoc]
  rw [hlines]
  exact tags?_append_lineEnd (tags?_rawText hn hraw .nil hcontent)

theorem not_mem_toList {c : Char} {s : String} {l : Text} (hs : s = String.ofList l) (hc : c ∉ l) : c ∉ s.toList := by
  rwa [hs, String.toList_ofList]

theorem not_mem_lines {c : Char} (hc : c ≠ '\n') {ls : List String} (h : ∀ line ∈ ls, c ∉ line.toList) :
    c ∉ lines ls := by
  simpa [lines, hc] using h

set_option maxRecDepth 1024 in
theorem not_mem_styleSheet : '<' ∉ styleSheet := by
  refine not_mem_lines (by decide) ?_
  -- Line by line: the characters of a long literal are slow to look through as one text.
  repeat refine List.forall_mem_cons.2 ⟨not_mem_toList rfl (by decide +kernel), ?_⟩
  exact List.forall_mem_nil _

theorem not_mem_mathSettings : '<' ∉ mathSettings := by
  refine not_mem_lines (by decide) ?_
  repeat refine List.forall_mem_cons.2 ⟨not_mem_toList rfl (by decide +kernel), ?_⟩
  exact List.forall_mem_nil _

theorem not_mem_scriptTemplate : '<' ∉ Agent.scriptTemplate := by
  have hlines : ∀ line ∈ Agent.scriptLines, '<' ∉ line.toList := by
    repeat refine List.forall_mem_cons.2 ⟨not_mem_toList rfl (by decide +kernel), ?_⟩
    exact List.forall_mem_nil _
  exact not_mem_lines (by decide) hlines

/-- Whatever marker is asked for, the script does not end before its own closing tag. -/
theorem not_mem_script (o : AgentOptions) : '<' ∉ Agent.script o := fun h => by
  have hdigits : ∀ n, '<' ∉ Text.ofNat n := fun n hn => absurd (Text.isDigit_of_mem_ofNat hn) (by decide)
  have hmarker : '<' ∉ o.marker.filter Agent.inIdentifier := fun hm => absurd (List.mem_filter.1 hm).2 (by decide)
  rcases Text.mem_replace (by decide) h with h | h
  · exact hdigits _ h
  rcases Text.mem_replace (by decide) h with h | h
  · exact hdigits _ h
  rcases Text.mem_replace (by decide) h with h | h
  · exact hmarker h
  · exact not_mem_scriptTemplate h

variable (p : PageOptions)

theorem tags?_head : tags? (head p) = some
    ([.opening "!DOCTYPE".toList ["html".toList], .opening "html".toList ["lang".toList], .opening "head".toList [],
        .opening "meta".toList ["charset".toList], .opening "meta".toList ["name".toList, "content".toList]]
      ++ if p.title.isSome then tagsAround "title".toList [] [] else []) := by
  have hlang : tags? (opening "html".toList (attr "lang" (escapeQuoted p.lang))) =
      some [.opening "html".toList ["lang".toList]] :=
    tags?_opening (by decide) (by decide) (.attr (by decide) (all_escapeQuoted _))
  have htitle : tags? (p.title.elim [] fun t => element "title" [] (escape t) ++ ['\n']) =
      some (if p.title.isSome then tagsAround "title".toList [] [] else []) := by
    cases p.title with
    | none => rfl
    | some t => exact tags?_append_lineEnd (tags?_element (by decide) .nil (tags?_escape t))
  have hdoctype : tags? (lines ["<!DOCTYPE html>"]) = some [.opening "!DOCTYPE".toList ["html".toList]] := by decide
  have hmeta : tags? (lines ["<head>", "<meta charset=\"utf-8\">",
      "<meta name=\"viewport\" content=\"width=device-width, initial-scale=1\">"]) = some
      [.opening "head".toList [], .opening "meta".toList ["charset".toList],
        .opening "meta".toList ["name".toList, "content".toList]] := by decide +kernel
  exact tags?_append (tags?_append (tags?_append_lineEnd (tags?_append hdoctype hlang)) hmeta) htitle

variable {p} in
theorem tags?_styles (hcss : p.extraCss = none) : tags? (styles p) = some (tagsAround "style".toList [] []) := by
  rw [styles, hcss, Option.elim_none, List.append_nil]
  exact tags?_rawLines (by decide) (by decide) rfl rfl not_mem_styleSheet

theorem tags?_mathEngine : tags? (mathEngine p) = some (if p.includeMathEngine then
    tagsAround "script".toList [] [] ++ tagsAround "script".toList ["id".toList, "async".toList, "src".toList] []
    else []) := by
  unfold mathEngine
  split
  · have hid : IsAttributes (attr "id" "math-engine".toList) ["id".toList] := .attr (by decide) (by decide)
    have hasync : IsAttributes " async".toList ["async".toList] := .bare (by decide)
    have hsrc : IsAttributes (attr "src" (escapeQuoted p.mathEngineUrl)) ["src".toList] :=
      .attr (by decide) (all_escapeQuoted _)
    have hconfig : tags? (lines ["<script>"] ++ mathSettings ++ lines ["</script>"]) =
        some (tagsAround "script".toList [] []) := tags?_rawLines (by decide) (by decide) rfl rfl not_mem_mathSettings
    have hengine : tags? (opening "script".toList (attr "id" "math-engine".toList ++ " async".toList
        ++ attr "src" (escapeQuoted p.mathEngineUrl)) ++ [] ++ closing "script".toList) =
        some (tagsAround "script".toList ["id".toList, "async".toList, "src".toList] []) :=
      tags?_rawText (by decide) (by decide) ((hid.append hasync).append hsrc) (by simp)
    rw [List.append_nil] at hengine
    have h := tags?_append_lineEnd (tags?_append hconfig hengine)
    rwa [← List.append_assoc] at h
  · rfl

theorem tags?_agent : tags? (agent p) = some (if p.includeAgent then tagsAround "script".toList [] [] else []) := by
  unfold agent
  split
  · exact tags?_rawLines (by decide) (by decide) rfl rfl (not_mem_script p.agent)
  · rfl

/-- **The tags of a page** depend on its body, on whether it has a title and on the two flags. -/
theorem tags?_wrap {p : PageOptions} (hcss : p.extraCss = none) {body : Text} {ts : List Tag} (h : tags? body = some ts) :
    tags? (wrap p body) = some (pageTags p.title.isSome p.includeMathEngine p.includeAgent ts) := by
  have hbody : tags? (lines ["</head>", "<body>", "<main class=\"lesson\">"]) =
      some [.closing "head".toList, .opening "body".toList [], .opening "main".toList ["class".toList]] := by
    decide +kernel
  have hmain : tags? (lines ["</main>"]) = some [.closing "main".toList] := by decide
  have hend : tags? (lines ["</body>", "</html>"]) = some [.closing "body".toList, .closing "html".toList] := by decide
  have htop := tags?_append (tags?_append (tags?_head p) (tags?_styles hcss)) (tags?_mathEngine p)
  exact tags?_append (tags?_append (tags?_append (tags?_append_lineEnd (tags?_append (tags?_append htop hbody) h)) hmain)
    (tags?_agent p)) hend

end PageShell

/-! ## Documents -/

namespace Html

/-- **No text of an author becomes a tag.** The HTML of nodes without raw HTML is read as the tags of the
nodes, which nest. Other nodes of the same shape give the same tags, whatever strings they hold and whatever
stands in front of image paths; and so do pages around the two that have the same flags and both have a title
or both have none. -/
theorem tags?_ofDocument {o : RenderOptions} {mode : MathMode} (ho : o.typesetter = mode.typesetter) {ns : List Node}
    (h : Node.rawFreeAll ns = true) :
    tags? (ofDocument o ns) = some (tagsOfAll mode o.headingLevel ns) ∧
    nested [] (tagsOfAll mode o.headingLevel ns) = true ∧
    ∀ (front : Text) (ns' : List Node), Node.shapeAll ns' = Node.shapeAll ns →
      tags? (ofDocument { o with imagePrefix := front } ns') = tags? (ofDocument o ns) ∧
      ∀ p p' : PageOptions, p.extraCss = none → p'.extraCss = none → p.title.isSome = p'.title.isSome →
        p.includeMathEngine = p'.includeMathEngine → p.includeAgent = p'.includeAgent →
        tags? (PageShell.wrap p (ofDocument o ns)) = some (PageShell.pageTags p.title.isSome p.includeMathEngine
          p.includeAgent (tagsOfAll mode o.headingLevel ns)) ∧
        tags? (PageShell.wrap p' (ofDocument { o with imagePrefix := front } ns')) =
          tags? (PageShell.wrap p (ofDocument o ns)) := by
  have hns : tags? (ofDocument o ns) = some (tagsOfAll mode o.headingLevel ns) := tags?_trimEnd (tags?_ofNodes ho ns h)
  refine ⟨hns, (balanced_tagsOfAll ns).nested_nil, fun front ns' hshape => ?_⟩
  have hraw : Node.rawFreeAll ns' = true := by rw [← Node.rawFreeAll_shape, hshape, Node.rawFreeAll_shape, h]
  have htags : tagsOfAll mode o.headingLevel ns' = tagsOfAll mode o.headingLevel ns := by
    rw [← tagsOfAll_shape ns', hshape, tagsOfAll_shape]
  have hns' : tags? (ofDocument { o with imagePrefix := front } ns') = some (tagsOfAll mode o.headingLevel ns) := by
    rw [← htags]
    exact tags?_trimEnd (tags?_ofNodes (o := { o with imagePrefix := front }) ho ns' hraw)
  refine ⟨hns'.trans hns.symm, fun p p' hcss hcss' htitle hengine hagent => ⟨PageShell.tags?_wrap hcss hns, ?_⟩⟩
  rw [PageShell.tags?_wrap hcss hns, PageShell.tags?_wrap hcss' hns', htitle, hengine, hagent]

/-- Texts that try to end the tag or the element they stand in. -/
def hostileNodes : List Node :=
  [.heading 1 [.text "</h1><b>".toList],
    .paragraph [.link "\" onclick=\"run()".toList [.text ">".toList], .image (.ofPath "\"><script>".toList), .lineBreak],
    .list .ordered [[.paragraph [.math .inline "a</span>".toList]]],
    .codeBlock (some "\">".toList) "</code></pre>".toList]

theorem tags?_hostileNodes : Node.rawFreeAll hostileNodes = true ∧
    tags? (ofDocument {} hostileNodes) = some (tagsOfAll .client (RenderOptions.headingLevel {}) hostileNodes) ∧
    nested [] (tagsOfAll .client (RenderOptions.headingLevel {}) hostileNodes) = true ∧
    tags? (ofDocument { imagePrefix := "\">".toList } (Node.shapeAll hostileNodes)) =
      tags? (ofDocument {} hostileNodes) ∧
    tags? (PageShell.wrap { title := some [], lang := "\">".toList, agent := { marker := "</script>".toList } }
        (ofDocument { imagePrefix := "\">".toList } (Node.shapeAll hostileNodes))) =
      tags? (PageShell.wrap { title := some "</title>".toList } (ofDocument {} hostileNodes)) := by
  have ho : RenderOptions.typesetter {} = MathMode.client.typesetter := rfl
  have hraw : Node.rawFreeAll hostileNodes = true := rfl
  obtain ⟨hts, hnested, h⟩ := tags?_ofDocument ho hraw
  obtain ⟨hts', hpage⟩ := h "\">".toList (Node.shapeAll hostileNodes) rfl
  obtain ⟨-, hpages⟩ := hpage { title := some "</title>".toList }
    { title := some [], lang := "\">".toList, agent := { marker := "</script>".toList } } rfl rfl rfl rfl rfl
  exact ⟨hraw, hts, hnested, hts', hpages⟩

end Html

end Coursebook
