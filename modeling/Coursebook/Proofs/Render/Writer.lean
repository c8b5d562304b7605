/-
What the walk writes. It is the HTML of the nodes, put behind what was there
before, whether statistics are kept or not (`text_node`). Two steps look back
into what has been written, and neither reaches over the tag that was opened
last: white space goes back to the start of the paragraph, and a line ending
can only be one of the item.
-/
import Coursebook.Proofs.Text.Trim
import Coursebook.Workshop

namespace Coursebook

/-- Trimming the end is trimming the start of the reversed text. -/
theorem Text.reverse_trimEnd (s : Text) : (trimEnd s).reverse = s.reverse.dropWhile isBlank := by
  have hblank : ∀ c ∈ (trailingBlank s).reverse, isBlank c = true := by
    simpa [isBlankText] using isBlankText_trailingBlank s
  have hlast : ∀ c ∈ (trimEnd s).reverse.head?, isBlank c = false := fun c hc =>
    isBlank_of_getLast?_trimEnd (by simpa using hc)
  conv => rhs; rw [← trimEnd_append_trailingBlank s, List.reverse_append, List.dropWhile_append_of_pos hblank]
  cases h : (trimEnd s).reverse with
  | nil => rfl
  | cons c r =>
    have hc : isBlank c = false := hlast c (by simp [h])
    rw [List.dropWhile_cons_of_neg (by simp [hc])]

namespace RenderOptions

@[simp] theorem typesetter_withStats (o : RenderOptions) (keep : Bool) : (o.withStats keep).typesetter = o.typesetter := rfl

@[simp] theorem headingLevel_withStats (o : RenderOptions) (keep : Bool) (level : Nat) :
    (o.withStats keep).headingLevel level = o.headingLevel level := rfl

@[simp] theorem ofImage_withStats (o : RenderOptions) (keep : Bool) (i : Image) :
    Html.ofImage (o.withStats keep) i = Html.ofImage o i := rfl

end RenderOptions

namespace Writer

open Html

variable {o : RenderOptions} {keep : Bool} {w : Writer}

/-! ## Steps -/

@[simp] theorem text_put (s : Text) : (w.put s).text = w.text ++ s := by simp [text, put]

@[simp] theorem text_note (n : Node) : (w.note o n).text = w.text := by
  unfold note
  split <;> rfl

theorem stats_dropLineEnd : w.dropLineEnd.stats = w.stats := by
  unfold dropLineEnd
  split <;> rfl

@[simp] theorem length_written : w.written.length = w.text.length := by simp [text]

/-- What stood before is not trimmed. -/
theorem text_trimSince {before s : Text} (h : w.text = before ++ s) :
    (w.trimSince before.length).text = before ++ Text.trimEnd s := by
  have hw : w.written = s.reverse ++ before.reverse := by
    rw [← List.reverse_append, ← h, text, List.reverse_reverse]
  have hadded : w.written.length - before.length = s.reverse.length := by simp [hw]
  rw [text, trimSince, hadded, hw, List.take_left, List.drop_left, ← Text.reverse_trimEnd]
  simp

theorem text_dropLineEnd : w.dropLineEnd.text = Html.dropLineEnd w.text := by
  unfold dropLineEnd Html.dropLineEnd text
  rw [List.getLast?_reverse]
  split
  · next s hs => simp [hs]
  · next hne =>
    rw [if_neg]
    intro hh
    obtain ⟨s, hs⟩ := List.head?_eq_some_iff.1 hh
    exact hne s hs

/-- A line ending is not taken from what stood before if that does not end in one. -/
theorem dropLineEnd_append {before : Text} (h : before.getLast? ≠ some '\n') (s : Text) :
    Html.dropLineEnd (before ++ s) = before ++ Html.dropLineEnd s := by
  rcases List.eq_nil_or_concat s with rfl | ⟨s, c, rfl⟩
  · simp [Html.dropLineEnd, h]
  · simp only [Html.dropLineEnd, List.concat_eq_append, ← List.append_assoc, List.getLast?_concat, List.dropLast_concat]
    split
    · rfl
    · exact List.append_assoc _ _ _

/-! ## The walk -/

mutual

/-- **The walk writes the HTML of a node**, with statistics or without. -/
theorem text_node : ∀ (n : Node) (w : Writer), (node (o.withStats keep) n w).text = w.text ++ ofNode o n
  | .section_ _ cs, w | .emphasis _ cs, w | .link _ cs, w | .blockQuote cs, w => by
    simp [node, ofNode, element, text_nodes cs]
  | .heading _ cs, w => by simp [node, ofNode, ofHeading, text_nodes cs]
  | .paragraph cs, w => by
    have hopened : ((w.note (o.withStats keep) (.paragraph cs)).put (opening "p".toList [])).text =
        w.text ++ opening "p".toList [] := by simp
    rw [node, text_put, length_written, text_trimSince (text_nodes cs _), hopened]
    simp [ofNode, element]
  | .list _ is, w => by simp [node, ofNode, element, text_items is]
  | .math .inline _, w | .math .display _, w | .image _, w | .lineBreak, w | .code _, w | .codeBlock _ _, w | .rule, w
  | .text _, w | .raw _, w => by simp [node, ofNode]

theorem text_nodes : ∀ (ns : List Node) (w : Writer), (nodes (o.withStats keep) ns w).text = w.text ++ ofNodes o ns
  | [], w => by simp [nodes, ofNodes]
  | n :: ns, w => by rw [nodes, text_nodes ns, text_node n, ofNodes, List.append_assoc]

theorem text_items : ∀ (is : List (List Node)) (w : Writer),
    (items (o.withStats keep) is w).text = w.text ++ ofItems o is
  | [], w => by simp [items, ofItems]
  | i :: is, w => by
    have hopened : (w.text ++ opening "li".toList []).getLast? ≠ some '\n' := by simp [opening]
    rw [items, text_items is, text_put, text_dropLineEnd, text_nodes i, text_put, dropLineEnd_append hopened]
    simp [ofItems, element]

end

end Writer

/-- The HTML that goes with statistics is that of the document. -/
theorem RenderOptions.html_render (o : RenderOptions) (keep : Bool) (ns : List Node) :
    ((o.withStats keep).render ns).1 = Html.ofDocument o ns :=
  congrArg Text.trimEnd ((Writer.text_nodes ns {}).trans (List.nil_append _))

theorem Document.html_toRendering (o : RenderOptions) (d : Document) : (d.toRendering o).html = d.toHtml o :=
  o.html_render true (d.toNodes o)

theorem Edition.html_toRendering (r : Edition) : r.toRendering.html = r.toHtml := r.render.html_render true r.nodes

end Coursebook
