/-
Underline tags among the events of a markup text. They open and close
frames on the stack that starts and stops work on, but they need not match
anything. What they do is told by taking the underlines out again
(`Node.plainAll`): the tree is then the one that is built without the tags
(`plainAll_buildTree`).

On the stack, frames of underlines lie between the frames of the tags that
are open (`Fits`). Joining every underline to the frame below it gives the
stack that the events without the tags lead to (`Builder.plain`), and each
event keeps it so (`Nested.run`). A stop finds the frame of its own start
below nothing but underlines (`Above`). Two places hold no inline content, and no underline tag
may stand in them: directly in a list, whose items ask for the frame below
them, and directly in a quote inside a code block, where the nodes of the
quote are read as blocks with blank lines between them.
-/
import Coursebook.Markup.Tree

namespace Coursebook

/-! ## Trees without underlines -/

namespace Node

mutual

/-- A node without its underlines: each gives way to its children. -/
def plain : Node → List Node
  | emphasis .underline cs => plainAll cs
  | emphasis style cs => [emphasis style (plainAll cs)]
  | heading level cs => [heading level (plainAll cs)]
  | paragraph cs => [paragraph (plainAll cs)]
  | list kind items => [list kind (plainEach items)]
  | section_ c cs => [section_ c (plainAll cs)]
  | link url cs => [link url (plainAll cs)]
  | blockQuote cs => [blockQuote (plainAll cs)]
  | n => [n]

def plainAll : List Node → List Node
  | [] => []
  | n :: ns => plain n ++ plainAll ns

def plainEach : List (List Node) → List (List Node)
  | [] => []
  | i :: is => plainAll i :: plainEach is

end

theorem plainAll_append (ns ms : List Node) : plainAll (ns ++ ms) = plainAll ns ++ plainAll ms := by
  induction ns with
  | nil => rfl
  | cons n ns ih => rw [List.cons_append, plainAll, plainAll, ih, List.append_assoc]

theorem plainEach_eq (is : List (List Node)) : plainEach is = is.map plainAll := by
  induction is with
  | nil => rfl
  | cons i is ih => rw [plainEach, ih, List.map_cons]

theorem mem_plainAll {m : Node} {ns : List Node} : m ∈ plainAll ns ↔ ∃ n ∈ ns, m ∈ plain n := by
  induction ns with
  | nil => simp [plainAll]
  | cons n ns ih => simp [plainAll, ih]

theorem plainTextAll_append (ns ms : List Node) : plainTextAll (ns ++ ms) = plainTextAll ns ++ plainTextAll ms := by
  induction ns with
  | nil => rfl
  | cons n ns ih => rw [List.cons_append, plainTextAll, plainTextAll, ih, List.append_assoc]

theorem plainText_plainAll {ns : List Node} (h : ∀ n ∈ ns, plainTextAll (plain n) = plainText n) :
    plainTextAll (plainAll ns) = plainTextAll ns := by
  induction ns with
  | nil => rfl
  | cons n ns ih =>
    obtain ⟨hn, hns⟩ := List.forall_mem_cons.1 h
    rw [plainAll, plainTextAll_append, hn, ih hns, plainTextAll]

theorem plainItems_plainEach {is : List (List Node)} (h : ∀ i ∈ is, ∀ n ∈ i, plainTextAll (plain n) = plainText n) :
    plainItems (plainEach is) = plainItems is := by
  induction is with
  | nil => rfl
  | cons i is ih =>
    obtain ⟨hi, his⟩ := List.forall_mem_cons.1 h
    rw [plainEach, plainItems, plainItems, plainText_plainAll hi, ih his]

theorem plainBlocks_plainAll {ns : List Node} (h : ∀ n ∈ ns, ∃ m, plain n = [m] ∧ m.plainText = n.plainText) :
    plainBlocks (plainAll ns) = plainBlocks ns := by
  induction ns with
  | nil => rfl
  | cons n ns ih =>
    obtain ⟨⟨m, hm, htext⟩, hns⟩ := List.forall_mem_cons.1 h
    rw [plainAll, hm, List.singleton_append, plainBlocks, plainBlocks, htext, ih hns]

end Node

namespace Markup

open Node (plainAll plainTextAll)

/-! ## Nested events -/

/-- Whether an event is one of the two underline tags. -/
def Event.isUnderlineTag : Event → Bool
  | .inlineHtml h => Text.trim h = ['<', 'u', '>'] || Text.trim h = ['<', '/', 'u', '>']
  | _ => false

/-- Whether an event is content that stands for itself, other than display math. -/
def Event.isContent : Event → Bool
  | .start _ | .stop | .math .display _ => false
  | e => !e.isUnderlineTag

/-- What nodes inside some open tags have to keep when their underlines are taken out: inside a code
block their text, and directly in a quote inside a code block also their number. -/
inductive Level where
  | free
  | sameText
  | apart
deriving DecidableEq

def Level.inside : Tag → Level → Level
  | .item, l | .htmlBlock, l => l
  | .codeBlock _, _ => .sameText
  | .blockQuote, .sameText | .blockQuote, .apart => .apart
  | _, .free => .free
  | _, _ => .sameText

theorem Level.inside_ne_free {l : Level} (tag : Tag) (h : l ≠ .free) : Level.inside tag l ≠ .free := by
  cases l with
  | free => exact absurd rfl h
  | sameText | apart => cases tag <;> simp [Level.inside]

/-- The level inside some open tags, innermost first. -/
def level (opened : List Tag) : Level := opened.foldr Level.inside .free

def Tag.isList : Tag → Bool
  | .list _ => true
  | _ => false

/-- Whether the innermost of some open tags is a list. -/
def inList (opened : List Tag) : Bool := opened.head?.any Tag.isList

/-- Events that are complete inside some open tags, innermost first: every start has its stop, a list
holds only items, and there is no display math. Underline tags stand at any place that can hold inline
content: in all but a list and a quote whose nodes have to keep their number, which hold items and blocks. -/
inductive Nested : List Tag → List Event → Prop where
  | nil {opened : List Tag} : Nested opened []
  | content {opened : List Tag} {e : Event} {es : List Event} (he : e.isContent = true)
      (hl : inList opened = false) (h : Nested opened es) : Nested opened (e :: es)
  | underlineTag {opened : List Tag} {e : Event} {es : List Event} (he : e.isUnderlineTag = true)
      (hl : inList opened = false) (hs : level opened ≠ .apart) (h : Nested opened es) : Nested opened (e :: es)
  | group {opened : List Tag} (tag : Tag) (inner : List Event) {es : List Event} (ht : tag ≠ .emphasis .underline)
      (hl : inList opened = true → tag = .item) (hi : Nested (tag :: opened) inner) (h : Nested opened es) :
      Nested opened (.start tag :: (inner ++ .stop :: es))

/-! ## The stack without underlines -/

def Frame.plain (f : Frame) : Frame := ⟨f.tag, (plainAll f.children).reverse, f.items.map plainAll⟩

namespace Builder

def run (b : Builder) (es : List Event) : Builder := es.foldl event b

def push (b : Builder) (f : Frame) : Builder := { b with frames := f :: b.frames }

/-- A stack with every underline joined to the frame below it. -/
def plainFrames (nodes : List Node) : List Frame → Builder
  | [] => ⟨[], (plainAll nodes.reverse).reverse⟩
  | f :: fs =>
    if f.isUnderline then (plainFrames nodes fs).addAll (plainAll f.children) else (plainFrames nodes fs).push f.plain

def plain (b : Builder) : Builder := plainFrames b.nodes b.frames

theorem addAll_addAll (b : Builder) (ns ms : List Node) : (b.addAll ns).addAll ms = b.addAll (ns ++ ms) := by
  obtain ⟨frames, nodes⟩ := b
  cases frames <;> simp [addAll]

theorem addAll_nil (b : Builder) : b.addAll [] = b := by
  obtain ⟨frames, nodes⟩ := b
  cases frames <;> rfl

theorem plain_push_underline {f : Frame} (hf : f.isUnderline = true) (b : Builder) :
    (b.push f).plain = b.plain.addAll (plainAll f.children) := if_pos hf

theorem plain_push {f : Frame} (hf : f.isUnderline = false) (b : Builder) : (b.push f).plain = b.plain.push f.plain :=
  if_neg (by simp [hf])

/-- Nodes that are added to the stack are added to the stack without underlines. -/
theorem plain_addAll (b : Builder) (ns : List Node) : (b.addAll ns).plain = b.plain.addAll (plainAll ns) := by
  obtain ⟨frames, nodes⟩ := b
  cases frames with
  | nil => simp [addAll, plain, plainFrames, Node.plainAll_append]
  | cons f fs =>
    have hchildren : plainAll ({ f with nodes := ns.reverse ++ f.nodes } : Frame).children =
        plainAll f.children ++ plainAll ns := by
      simp [Frame.children, Node.plainAll_append]
    cases hf : f.isUnderline with
    | true =>
      have h := plain_push_underline (f := { f with nodes := ns.reverse ++ f.nodes }) hf ⟨fs, nodes⟩
      rw [hchildren, ← addAll_addAll, ← plain_push_underline hf] at h
      exact h
    | false =>
      have h := plain_push (f := { f with nodes := ns.reverse ++ f.nodes }) hf ⟨fs, nodes⟩
      rw [Frame.plain, hchildren] at h
      refine h.trans ?_
      show _ = ((push ⟨fs, nodes⟩ f).plain).addAll (plainAll ns)
      rw [plain_push hf]
      simp [push, addAll, Frame.plain]

/-- An underline that is open is the innermost frame, and goes to the frame below it when it is closed. -/
theorem closeFrame_underline {b : Builder} (h : b.underlineOpen = true) : ∃ f fs, f.isUnderline = true ∧
    b = ⟨f :: fs, b.nodes⟩ ∧ b.closeFrame = addAll ⟨fs, b.nodes⟩ [.emphasis .underline f.children] := by
  obtain ⟨frames, nodes⟩ := b
  cases frames with
  | nil => simp [underlineOpen] at h
  | cons f fs =>
    have hf : f.isUnderline = true := h
    have htag : f.tag = .emphasis .underline := by simpa [Frame.isUnderline] using hf
    refine ⟨f, fs, hf, rfl, ?_⟩
    simp only [closeFrame, addFrame, htag, add]

/-- An underline that is closed was joined to the frame below it before. -/
theorem plain_closeFrame {b : Builder} (h : b.underlineOpen = true) : b.closeFrame.plain = b.plain := by
  obtain ⟨f, fs, hf, hb, hclose⟩ := closeFrame_underline h
  rw [hclose, plain_addAll, plainAll, Node.plain, plainAll, List.append_nil, hb]
  exact (plain_push_underline hf ⟨fs, b.nodes⟩).symm

theorem plain_closeUnderlines (n : Nat) (b : Builder) : (closeUnderlines n b).plain = b.plain := by
  induction n generalizing b with
  | zero => rfl
  | succ n ih =>
    rw [closeUnderlines]
    split
    · next h => rw [ih, plain_closeFrame h]
    · rfl

theorem map_tag_addAll (b : Builder) (ns : List Node) : (b.addAll ns).frames.map Frame.tag = b.frames.map Frame.tag := by
  obtain ⟨frames, nodes⟩ := b
  cases frames <;> rfl

theorem length_closeFrame {b : Builder} (h : b.underlineOpen = true) : b.closeFrame.frames.length + 1 = b.frames.length := by
  obtain ⟨f, fs, -, hb, hclose⟩ := closeFrame_underline h
  have hlength : b.closeFrame.frames.length = fs.length := by
    rw [hclose, ← List.length_map, map_tag_addAll, List.length_map]
  rw [hlength, hb, List.length_cons]

/-- Where no list is the innermost frame, the nodes of an item stand alone. -/
theorem addItem_eq_addAll {b : Builder} {ns : List Node} (h : inList (b.frames.map Frame.tag) = false) :
    b.addItem ns = b.addAll ns := by
  unfold addItem
  split
  · next he => simp [he, inList, Tag.isList] at h
  · rfl

/-! ### Closing the underlines -/

theorem underlineOpen_eq (b : Builder) :
    b.underlineOpen = decide ((b.frames.map Frame.tag).head? = some (.emphasis .underline)) := by
  obtain ⟨frames, nodes⟩ := b
  cases frames <;> simp [underlineOpen, Frame.isUnderline]

theorem underlineOpen_plain (b : Builder) : b.plain.underlineOpen = false := by
  obtain ⟨frames, nodes⟩ := b
  show (plainFrames nodes frames).underlineOpen = false
  induction frames with
  | nil => rfl
  | cons f fs ih =>
    rw [plainFrames]
    split
    · rwa [underlineOpen_eq, map_tag_addAll, ← underlineOpen_eq]
    · next hf => exact Bool.eq_false_iff.2 hf

theorem closeUnderlines_eq_self {b : Builder} (h : b.underlineOpen = false) (n : Nat) : closeUnderlines n b = b := by
  cases n with
  | zero => rfl
  | succ n => rw [closeUnderlines, if_neg (by simp [h])]

/-- Closing as many underlines as there are frames leaves none on top. -/
theorem underlineOpen_closeUnderlines (b : Builder) : (closeUnderlines b.frames.length b).underlineOpen = false := by
  generalize hn : b.frames.length = n
  induction n generalizing b with
  | zero =>
    rw [closeUnderlines, underlineOpen_eq, List.eq_nil_of_length_eq_zero hn]
    rfl
  | succ n ih =>
    rw [closeUnderlines]
    split
    · next hu =>
      exact ih _ (Nat.add_right_cancel ((length_closeFrame hu).trans hn))
    · next hu => exact Bool.eq_false_iff.2 hu

end Builder

/-! ## Nodes that may lose their underlines -/

/-- Whether a node may lose its underlines at some level: no display math comes to light, and what the
level asks for holds. -/
structure Good (l : Level) (n : Node) : Prop where
  noDisplay : ∀ m ∈ n.plain, isDisplayMath m = false
  sameText : l ≠ .free → plainTextAll n.plain = n.plainText
  single : l = .apart → ∃ m, n.plain = [m]

namespace Good

variable {l l' : Level} {cs : List Node}

/-- A node that stays one. -/
theorem ofSingle {n m : Node} (h : n.plain = [m]) (hd : isDisplayMath m = false)
    (ht : l ≠ .free → m.plainText = n.plainText) : Good l n where
  noDisplay k hk := by
    rw [h, List.mem_singleton] at hk
    rwa [hk]
  sameText hl := by rw [h, plainTextAll, plainTextAll, List.append_nil, ht hl]
  single _ := ⟨m, h⟩

theorem plainTextAll_eq (h : ∀ n ∈ cs, Good l n) (hl : l ≠ .free) : plainTextAll (plainAll cs) = plainTextAll cs :=
  Node.plainText_plainAll fun n hn => (h n hn).sameText hl

/-- A node around others that is their text and nothing more. -/
theorem around {w : List Node → Node} (hw : ∀ cs, (w cs).plain = [w (plainAll cs)])
    (hd : ∀ cs, isDisplayMath (w cs) = false) (ht : ∀ cs, (w cs).plainText = plainTextAll cs)
    (hl : l ≠ .free → l' ≠ .free) (h : ∀ n ∈ cs, Good l' n) : Good l (w cs) :=
  ofSingle (hw cs) (hd _) fun hfree => by rw [ht, ht, plainTextAll_eq h (hl hfree)]

theorem list {kind : Command.ListKind} {is : List (List Node)} (hl : l ≠ .free → l' ≠ .free)
    (h : ∀ i ∈ is, ∀ n ∈ i, Good l' n) : Good l (.list kind is) :=
  ofSingle rfl rfl fun hfree => by
    rw [Node.plainText, Node.plainText, Node.plainItems_plainEach fun i hi n hn => (h i hi n hn).sameText (hl hfree)]

/-- A quote inside a code block keeps its nodes apart, so that their number stays too. -/
theorem blockQuote (h : ∀ n ∈ cs, Good (Level.inside .blockQuote l) n) : Good l (.blockQuote cs) := by
  refine ofSingle rfl rfl fun hfree => ?_
  have hapart : Level.inside .blockQuote l = .apart := by
    cases l with
    | free => exact absurd rfl hfree
    | sameText | apart => rfl
  rw [hapart] at h
  rw [Node.plainText, Node.plainText, Node.plainBlocks_plainAll fun n hn => ?_]
  obtain ⟨m, hm⟩ := (h n hn).single rfl
  have htext := (h n hn).sameText (by simp)
  rw [hm, plainTextAll, plainTextAll, List.append_nil] at htext
  exact ⟨m, hm, htext⟩

theorem not_isDisplayMath {n : Node} (h : Good l n) : isDisplayMath n = false := by
  cases hn : isDisplayMath n with
  | false => rfl
  | true =>
    have hplain : n.plain = [n] := by
      unfold isDisplayMath at hn
      split at hn
      · rfl
      · simp at hn
    rw [← hn, h.noDisplay n (by simp [hplain])]

theorem any_isDisplayMath (h : ∀ n ∈ cs, Good l n) :
    cs.any isDisplayMath = false ∧ (plainAll cs).any isDisplayMath = false := by
  simp only [List.any_eq_false, Bool.not_eq_true]
  refine ⟨fun n hn => (h n hn).not_isDisplayMath, fun m hm => ?_⟩
  obtain ⟨n, hn, hm⟩ := Node.mem_plainAll.1 hm
  exact (h n hn).noDisplay m hm

end Good

/-! ## Frames -/

namespace Frame

/-- Whether all nodes in a frame may lose their underlines. -/
structure Holds (l : Level) (f : Frame) : Prop where
  nodes : ∀ n ∈ f.nodes, Good l n
  items : ∀ i ∈ f.items, ∀ n ∈ i, Good l n

/-- What a closed frame leaves, if it is no item. -/
def result (f : Frame) : List Node :=
  match f.tag with
  | .paragraph => liftDisplayMath f.children
  | .heading level => [.heading level f.children]
  | .blockQuote => [.blockQuote f.children]
  | .list kind => [.list kind f.items.reverse]
  | .emphasis style => [.emphasis style f.children]
  | .link url => [.link url f.children]
  | .image url => [.image (.ofPath url)]
  | .codeBlock info => [.codeBlock (if info = [] then none else some info) (Node.plainTextAll f.children)]
  | .item | .htmlBlock => f.children

theorem addFrame_eq {f : Frame} (hf : f.tag ≠ .item) (b : Builder) : b.addFrame f = b.addAll f.result := by
  unfold Builder.addFrame result
  split <;> simp_all [Builder.add]

@[simp] theorem children_plain (f : Frame) : f.plain.children = plainAll f.children := by
  simp [Frame.plain, Frame.children]

theorem Holds.children {l : Level} {f : Frame} (h : f.Holds l) : ∀ n ∈ f.children, Good l n := fun n hn =>
  h.nodes n (by simpa [Frame.children] using hn)

theorem liftDisplayMath_eq {cs : List Node} (h : cs.any isDisplayMath = false) :
    liftDisplayMath cs = [.paragraph cs] := by
  rw [liftDisplayMath, h]
  rfl

/-- What a closed frame leaves without underlines is what the frame without underlines leaves. -/
theorem plainAll_result {l : Level} {f : Frame} (hu : f.isUnderline = false) (h : f.Holds (Level.inside f.tag l)) :
    plainAll f.result = f.plain.result := by
  have hcs := h.children
  have htag : f.plain.tag = f.tag := rfl
  rw [result, result, htag, children_plain]
  cases hf : f.tag with
  | paragraph =>
    obtain ⟨h1, h2⟩ := Good.any_isDisplayMath hcs
    simp only [liftDisplayMath_eq h1, liftDisplayMath_eq h2]
    rfl
  | list kind =>
    have hitems : f.plain.items.reverse = Node.plainEach f.items.reverse := by
      rw [Node.plainEach_eq, List.map_reverse]
      rfl
    simp only [hitems]
    rfl
  | emphasis style =>
    cases style with
    | underline => simp [isUnderline, hf] at hu
    | strong | italic | strike => rfl
  | codeBlock info =>
    rw [hf] at hcs
    simp only [Good.plainTextAll_eq hcs (by simp [Level.inside])]
    rfl
  | heading | blockQuote | link | image | item | htmlBlock => rfl

theorem good_result {l : Level} {f : Frame} (hu : f.isUnderline = false) (h : f.Holds (Level.inside f.tag l)) :
    ∀ n ∈ f.result, Good l n := by
  have hcs := h.children
  have hl := Level.inside_ne_free (l := l) f.tag
  rw [result]
  cases hf : f.tag with
  | item | htmlBlock =>
    rw [hf] at hcs
    exact hcs
  | image | codeBlock =>
    rw [List.forall_mem_singleton]
    exact .ofSingle rfl rfl fun _ => rfl
  | paragraph =>
    simp only [liftDisplayMath_eq (Good.any_isDisplayMath hcs).1, List.forall_mem_singleton]
    exact .around (fun _ => rfl) (fun _ => rfl) (fun _ => rfl) hl hcs
  | heading | link =>
    rw [List.forall_mem_singleton]
    exact .around (fun _ => rfl) (fun _ => rfl) (fun _ => rfl) hl hcs
  | emphasis style =>
    rw [List.forall_mem_singleton]
    refine .around (w := Node.emphasis style) (fun cs => ?_) (fun _ => rfl) (fun _ => rfl) hl hcs
    cases style with
    | underline => simp [isUnderline, hf] at hu
    | strong | italic | strike => rfl
  | blockQuote =>
    rw [hf] at hcs
    rw [List.forall_mem_singleton]
    exact .blockQuote hcs
  | list kind =>
    rw [List.forall_mem_singleton]
    exact .list hl fun i hi => h.items i (List.mem_reverse.1 hi)

end Frame

/-! ## The open tags and the stack -/

/-- The frames of the open tags, innermost first, with underlines between them: none of these lies
directly in a list, or where nodes have to keep their number. -/
inductive Fits : List Frame → List Tag → Prop where
  | nil : Fits [] []
  | frame {f : Frame} {fs : List Frame} {opened : List Tag} (hu : f.isUnderline = false)
      (hf : f.Holds (level (f.tag :: opened))) (h : Fits fs opened) : Fits (f :: fs) (f.tag :: opened)
  | underline {f : Frame} {fs : List Frame} {opened : List Tag} (hu : f.isUnderline = true)
      (hl : inList opened = false) (hs : level opened ≠ .apart) (hf : f.Holds (level opened)) (h : Fits fs opened) :
      Fits (f :: fs) opened

namespace Fits

variable {b : Builder} {opened : List Tag}

theorem addAll {ns : List Node} (h : Fits b.frames opened) (hn : ∀ n ∈ ns, Good (level opened) n) :
    Fits (b.addAll ns).frames opened := by
  obtain ⟨frames, nodes⟩ := b
  have hadd : ∀ {l : Level} {f : Frame}, f.Holds l → (∀ n ∈ ns, Good l n) →
      ({ f with nodes := ns.reverse ++ f.nodes } : Frame).Holds l := fun hf hn =>
    ⟨fun n hm => (List.mem_append.1 hm).elim (fun hm => hn n (List.mem_reverse.1 hm)) (hf.nodes n), hf.items⟩
  cases h with
  | nil => exact .nil
  | frame hu hf h => exact .frame hu (hadd hf hn) h
  | underline hu hl hs hf h => exact .underline hu hl hs (hadd hf hn) h

/-- Without the underlines, the stack is that of the open tags. -/
theorem map_tag {nodes : List Node} {fs : List Frame} (h : Fits fs opened) :
    (Builder.plainFrames nodes fs).frames.map Frame.tag = opened := by
  induction h with
  | nil => rfl
  | frame hu hf h ih =>
    rw [Builder.plainFrames, if_neg (by simp [hu])]
    exact congrArg _ ih
  | underline hu hl hs hf h ih => rw [Builder.plainFrames, if_pos hu, Builder.map_tag_addAll, ih]

theorem inList_frames {fs : List Frame} (h : Fits fs opened) (hl : inList opened = false) :
    inList (fs.map Frame.tag) = false := by
  cases h with
  | nil => rfl
  | frame hu hf h => exact hl
  | @underline f fs opened hu =>
    have htag : f.tag = .emphasis .underline := by simpa [Frame.isUnderline] using hu
    simp [inList, htag, Tag.isList]

/-- An item goes to the list below it, with and without the underlines. -/
theorem addItem {ns : List Node} (h : Fits b.frames opened) (hn : ∀ n ∈ ns, Good (level opened) n) :
    Fits (b.addItem ns).frames opened ∧ (b.addItem ns).plain = b.plain.addItem (plainAll ns) := by
  obtain ⟨frames, nodes⟩ := b
  cases hl : inList opened with
  | false =>
    have hplain : inList ((Builder.plain ⟨frames, nodes⟩).frames.map Frame.tag) = false := by
      rw [Builder.plain, h.map_tag, hl]
    rw [Builder.addItem_eq_addAll (h.inList_frames hl), Builder.addItem_eq_addAll hplain]
    exact ⟨h.addAll hn, Builder.plain_addAll _ ns⟩
  | true =>
    -- The frame of the list is the innermost one: no underline lies directly in a list.
    cases h with
    | nil => simp [inList] at hl
    | underline hu hl' => simp [hl] at hl'
    | @frame f fs opened hu hf h =>
      obtain ⟨tag, fnodes, items⟩ := f
      cases tag with
      | list kind =>
        have hf' : Frame.Holds (level (.list kind :: opened)) ⟨.list kind, fnodes, ns :: items⟩ :=
          ⟨hf.nodes, List.forall_mem_cons.2 ⟨hn, hf.items⟩⟩
        refine ⟨.frame hu hf' h, ?_⟩
        have h1 := Builder.plain_push (f := ⟨.list kind, fnodes, ns :: items⟩) hu ⟨fs, nodes⟩
        have h2 := Builder.plain_push (f := ⟨.list kind, fnodes, items⟩) hu ⟨fs, nodes⟩
        refine h1.trans ?_
        show _ = ((Builder.push ⟨fs, nodes⟩ ⟨.list kind, fnodes, items⟩).plain).addItem (plainAll ns)
        rw [h2]
        rfl
      | _ => simp [inList, Tag.isList] at hl

/-- **A frame is closed alike** with and without the underlines. -/
theorem closeFrame {f : Frame} {fs : List Frame} {nodes : List Node} {tag : Tag} (h : Fits (f :: fs) (tag :: opened))
    (hu : f.isUnderline = false) : f.tag = tag ∧ Fits (Builder.closeFrame ⟨f :: fs, nodes⟩).frames opened ∧
      (Builder.closeFrame ⟨f :: fs, nodes⟩).plain = (Builder.plain ⟨f :: fs, nodes⟩).closeFrame := by
  cases h with
  | underline hu' => simp [hu] at hu'
  | frame _ hf h =>
    refine ⟨rfl, ?_⟩
    have hplain : (Builder.plain ⟨f :: fs, nodes⟩).closeFrame = (Builder.plain ⟨fs, nodes⟩).addFrame f.plain := by
      rw [show (⟨f :: fs, nodes⟩ : Builder) = Builder.push ⟨fs, nodes⟩ f from rfl, Builder.plain_push hu]
      rfl
    rw [hplain, show Builder.closeFrame ⟨f :: fs, nodes⟩ = Builder.addFrame ⟨fs, nodes⟩ f from rfl]
    by_cases hitem : f.tag = .item
    · have hn : ∀ n ∈ f.children, Good (level opened) n := by
        have := hf.children
        rwa [hitem] at this
      have hadd : ∀ (b : Builder) (g : Frame), g.tag = .item → b.addFrame g = b.addItem g.children := fun b g hg => by
        rw [Builder.addFrame, hg]
      rw [hadd _ f hitem, hadd _ f.plain hitem, Frame.children_plain]
      exact addItem (b := ⟨fs, nodes⟩) h hn
    · have hf' : f.Holds (Level.inside f.tag (level opened)) := hf
      have hitem' : f.plain.tag ≠ .item := hitem
      rw [Frame.addFrame_eq hitem, Frame.addFrame_eq hitem', ← Frame.plainAll_result hu hf']
      exact ⟨addAll (b := ⟨fs, nodes⟩) h (Frame.good_result hu hf'), Builder.plain_addAll _ _⟩

theorem openFrame {tag : Tag} (h : Fits b.frames opened) (ht : tag ≠ .emphasis .underline) :
    Fits (b.openFrame tag).frames (tag :: opened) :=
  .frame (f := Frame.ofTag tag) (by simp [Frame.isUnderline, Frame.ofTag, ht])
    ⟨by simp [Frame.ofTag], by simp [Frame.ofTag]⟩ h

theorem openUnderline (h : Fits b.frames opened) (hl : inList opened = false) (hs : level opened ≠ .apart) :
    Fits (b.openFrame (.emphasis .underline)).frames opened :=
  .underline rfl hl hs ⟨by simp [Frame.ofTag], by simp [Frame.ofTag]⟩ h

theorem closeUnderline (h : Fits b.frames opened) (hu : b.underlineOpen = true) : Fits b.closeFrame.frames opened := by
  obtain ⟨f, fs, hf, hb, hclose⟩ := Builder.closeFrame_underline hu
  rw [hb] at h
  rw [hclose]
  cases h with
  | frame hf' => simp [hf] at hf'
  | underline _ hl hs hholds h =>
    refine addAll (b := ⟨fs, b.nodes⟩) h fun n hn => ?_
    obtain rfl := List.mem_singleton.1 hn
    exact
      { noDisplay := fun m hm => by
          obtain ⟨n, hn, hm⟩ := Node.mem_plainAll.1 hm
          exact (hholds.children n hn).noDisplay m hm
        sameText := Good.plainTextAll_eq hholds.children
        single := fun hl => absurd hl hs }

theorem closeUnderlines (h : Fits b.frames opened) (n : Nat) : Fits (Builder.closeUnderlines n b).frames opened := by
  induction n generalizing b with
  | zero => exact h
  | succ n ih =>
    rw [Builder.closeUnderlines]
    split
    · next hu => exact ih (h.closeUnderline hu)
    · exact h

/-- **A stop closes the innermost open tag**, with and without the underlines. -/
theorem stop {tag : Tag} (h : Fits b.frames (tag :: opened)) :
    Fits b.stop.frames opened ∧ b.stop.plain = b.plain.stop := by
  have hc := h.closeUnderlines b.frames.length
  have hplain : b.plain.stop = (Builder.closeUnderlines b.frames.length b).plain.closeFrame := by
    rw [Builder.stop, Builder.closeUnderlines_eq_self (Builder.underlineOpen_plain b), Builder.plain_closeUnderlines]
  have hu := Builder.underlineOpen_closeUnderlines b
  rw [hplain, Builder.stop]
  generalize Builder.closeUnderlines b.frames.length b = c at hc hu
  obtain ⟨frames, nodes⟩ := c
  cases frames with
  | nil => cases hc
  | cons f fs => exact (hc.closeFrame hu).2

end Fits

/-! ## Runs -/

theorem event_content {e : Event} (he : e.isContent = true) :
    ∃ n : Node, (∀ b : Builder, b.event e = b.addAll [n]) ∧ n.plain = [n] ∧ isDisplayMath n = false := by
  cases e with
  | start | stop => simp [Event.isContent] at he
  | text t => exact ⟨.text t, fun _ => rfl, rfl, rfl⟩
  | code s => exact ⟨.code s, fun _ => rfl, rfl, rfl⟩
  | math kind s =>
    cases kind with
    | inline => exact ⟨.math .inline s, fun _ => rfl, rfl, rfl⟩
    | display => simp [Event.isContent] at he
  | html h => exact ⟨.raw h, fun _ => rfl, rfl, rfl⟩
  | inlineHtml h =>
    refine ⟨.raw h, fun b => ?_, rfl, rfl⟩
    simp only [Event.isContent, Event.isUnderlineTag, Bool.not_eq_true', Bool.or_eq_false_iff,
      decide_eq_false_iff_not] at he
    simp only [Builder.event, Builder.inlineHtml, if_neg he.1, if_neg he.2, Builder.add]
  | softBreak => exact ⟨.text ['\n'], fun _ => rfl, rfl, rfl⟩
  | hardBreak => exact ⟨.lineBreak, fun _ => rfl, rfl, rfl⟩
  | rule => exact ⟨.rule, fun _ => rfl, rfl, rfl⟩

/-- An underline tag opens an underline, closes the one on top of the stack, or does nothing. -/
theorem event_underlineTag {e : Event} (he : e.isUnderlineTag = true) (b : Builder) :
    b.event e = b.openFrame (.emphasis .underline) ∨ b.underlineOpen = true ∧ b.event e = b.closeFrame ∨ b.event e = b := by
  cases e with
  | inlineHtml h =>
    simp only [Event.isUnderlineTag, Bool.or_eq_true, decide_eq_true_eq] at he
    simp only [Builder.event, Builder.inlineHtml]
    split
    · exact .inl rfl
    · next hopen =>
      rw [if_pos (he.resolve_left hopen)]
      split
      · next hu => exact .inr (.inl ⟨hu, rfl⟩)
      · exact .inr (.inr rfl)
  | _ => simp [Event.isUnderlineTag] at he

theorem Builder.run_append (b : Builder) (es es' : List Event) : b.run (es ++ es') = (b.run es).run es' :=
  List.foldl_append

theorem Builder.run_group (b : Builder) (tag : Tag) (inner es : List Event) :
    b.run (.start tag :: (inner ++ .stop :: es)) = (((b.openFrame tag).run inner).stop).run es :=
  List.foldl_append

/-- **Nested events keep the stack in step** with the one that is built without the underline tags. -/
theorem Nested.run {opened : List Tag} {es : List Event} (h : Nested opened es) {b : Builder}
    (hb : Fits b.frames opened) :
    Fits (b.run es).frames opened ∧ (b.run es).plain = b.plain.run (es.filter fun e => !e.isUnderlineTag) := by
  induction h generalizing b with
  | nil => exact ⟨hb, rfl⟩
  | @content opened e es he _ _ ih =>
    obtain ⟨n, hevent, hplain, hdisplay⟩ := event_content he
    have htag : e.isUnderlineTag = false := by cases e <;> simp_all [Event.isContent, Event.isUnderlineTag]
    have hfits : Fits (b.event e).frames opened := by
      rw [hevent]
      exact hb.addAll (by simpa using Good.ofSingle hplain hdisplay fun _ => rfl)
    have hstep : (b.event e).plain = b.plain.event e := by
      rw [hevent, hevent, Builder.plain_addAll, plainAll, hplain]
      rfl
    rw [List.filter_cons_of_pos (by simp [htag])]
    show Fits ((b.event e).run es).frames opened ∧ ((b.event e).run es).plain = (b.plain.event e).run _
    rw [← hstep]
    exact ih hfits
  | @underlineTag opened e es he hl hs _ ih =>
    rw [List.filter_cons_of_neg (by simp [he])]
    show Fits ((b.event e).run es).frames opened ∧ ((b.event e).run es).plain = _
    rcases event_underlineTag he b with hstep | ⟨hu, hstep⟩ | hstep
    · have hplain : (b.openFrame (.emphasis .underline)).plain = b.plain :=
        (Builder.plain_push_underline rfl b).trans (by simp [Builder.addAll_nil, Frame.children, Frame.ofTag, plainAll])
      rw [hstep, ← hplain]
      exact ih (hb.openUnderline hl hs)
    · rw [hstep, ← Builder.plain_closeFrame hu]
      exact ih (hb.closeUnderline hu)
    · rw [hstep]
      exact ih hb
  | @group opened tag inner es ht _ _ _ ihinner ih =>
    have hopen : (b.openFrame tag).plain = b.plain.openFrame tag :=
      Builder.plain_push (f := Frame.ofTag tag) (by simp [Frame.isUnderline, Frame.ofTag, ht]) b
    obtain ⟨hfits, hplain⟩ := ihinner (hb.openFrame ht)
    obtain ⟨hstop, hplain'⟩ := hfits.stop
    have hfilter : (Event.start tag :: (inner ++ .stop :: es)).filter (fun e => !e.isUnderlineTag) =
        .start tag :: ((inner.filter fun e => !e.isUnderlineTag) ++ .stop :: es.filter fun e => !e.isUnderlineTag) := by
      rw [List.filter_cons_of_pos rfl, List.filter_append, List.filter_cons_of_pos rfl]
    rw [hfilter, Builder.run_group, Builder.run_group, ← hopen, ← hplain, ← hplain']
    exact ih hstop

/-! ## The tree -/

/-- When every tag is closed, all that is left open are underlines. -/
theorem Fits.closeAll {b : Builder} (h : Fits b.frames []) {n : Nat} (hn : b.frames.length ≤ n) :
    (Builder.closeAll n b).frames = [] ∧ (Builder.closeAll n b).plain = b.plain := by
  induction n generalizing b with
  | zero => exact ⟨List.eq_nil_of_length_eq_zero (Nat.le_zero.1 hn), rfl⟩
  | succ n ih =>
    rw [Builder.closeAll]
    cases hu : b.underlineOpen with
    | true =>
      have hlength := Builder.length_closeFrame hu
      rw [← Builder.plain_closeFrame hu]
      exact ih (h.closeUnderline hu) (by omega)
    | false =>
      have hframes : b.frames = [] := by
        obtain ⟨frames, nodes⟩ := b
        cases h with
        | nil => rfl
        | underline hf => exact absurd hf (by simpa [Builder.underlineOpen] using hu)
      have hclose : b.closeFrame = b := by rw [Builder.closeFrame, hframes]
      rw [hclose]
      exact ih h (by simp [hframes])

theorem Fits.plainAll_finish {b : Builder} (h : Fits b.frames []) : plainAll b.finish = b.plain.finish := by
  obtain ⟨hframes, hplain⟩ := h.closeAll (Nat.le_refl _)
  have hnil : b.plain.frames = [] := List.map_eq_nil_iff.1 h.map_tag
  have hnodes : (Builder.closeAll b.frames.length b).plain.nodes.reverse =
      plainAll (Builder.closeAll b.frames.length b).nodes.reverse := by
    rw [Builder.plain, hframes, Builder.plainFrames, List.reverse_reverse]
  rw [Builder.finish, Builder.finish, hnil, List.length_nil, Builder.closeAll, ← hplain, hnodes]

/-! ## Starts and their stops -/

namespace Builder

theorem addAll_push (b : Builder) (f : Frame) (ns : List Node) :
    ∃ f' : Frame, f'.tag = f.tag ∧ (b.push f).addAll ns = b.push f' :=
  ⟨{ f with nodes := ns.reverse ++ f.nodes }, rfl, rfl⟩

theorem addFrame_push (b : Builder) (f g : Frame) :
    ∃ f' : Frame, f'.tag = f.tag ∧ (b.push f).addFrame g = b.push f' := by
  by_cases hg : g.tag = .item
  · obtain ⟨tag, nodes, items⟩ := f
    have hadd : addFrame (b.push ⟨tag, nodes, items⟩) g = (b.push ⟨tag, nodes, items⟩).addItem g.children := by
      rw [addFrame, hg]
    rw [hadd]
    cases tag with
    | list kind => exact ⟨⟨.list kind, nodes, g.children :: items⟩, rfl, rfl⟩
    | _ => exact addAll_push b _ g.children
  · rw [Frame.addFrame_eq hg]
    exact addAll_push b f g.result

end Builder

/-- The stacks on top of another one that hold the frame of one tag and, above it, only underlines. -/
inductive Above (base : Builder) (tag : Tag) : Builder → Prop where
  | frame {f : Frame} (hf : f.tag = tag) : Above base tag (base.push f)
  | underline {b : Builder} {f : Frame} (hf : f.isUnderline = true) (h : Above base tag b) : Above base tag (b.push f)

namespace Above

variable {base b : Builder} {tag : Tag}

/-- What is added to the innermost frame leaves its tag as it is. -/
theorem map (h : Above base tag b) (add : Builder → Builder)
    (hadd : ∀ b f, ∃ f' : Frame, f'.tag = f.tag ∧ add (Builder.push b f) = b.push f') : Above base tag (add b) := by
  cases h with
  | frame hf =>
    obtain ⟨f', htag, hpush⟩ := hadd base _
    rw [hpush]
    exact .frame (htag.trans hf)
  | underline hf h =>
    obtain ⟨f', htag, hpush⟩ := hadd _ _
    rw [hpush]
    exact .underline (by rwa [Frame.isUnderline, htag]) h

theorem closeUnderline (ht : tag ≠ .emphasis .underline) (h : Above base tag b) (hu : b.underlineOpen = true) :
    Above base tag b.closeFrame := by
  cases h with
  | @frame f hf => simp [Builder.underlineOpen, Builder.push, Frame.isUnderline, hf, ht] at hu
  | @underline b f _ h => exact h.map (·.addFrame f) fun b g => b.addFrame_push g f

/-- A stop closes the underlines and then the frame of the tag. -/
theorem stop (ht : tag ≠ .emphasis .underline) (h : Above base tag b) :
    ∃ f : Frame, f.tag = tag ∧ b.stop = base.addFrame f := by
  have hc : ∀ n {b}, Above base tag b → Above base tag (Builder.closeUnderlines n b) := fun n => by
    induction n with
    | zero => exact id
    | succ n ih =>
      intro b h
      rw [Builder.closeUnderlines]
      split
      · next hu => exact ih (h.closeUnderline ht hu)
      · exact h
  have hu := Builder.underlineOpen_closeUnderlines b
  rw [Builder.stop]
  generalize hclosed : Builder.closeUnderlines b.frames.length b = c at hu
  cases hclosed ▸ hc b.frames.length h with
  | @frame f hf => exact ⟨f, hf, rfl⟩
  | underline hf => exact absurd hf (by simpa [Builder.underlineOpen, Builder.push] using hu)

end Above

/-- Nested events leave the frame that they start in, and every frame below it, open. -/
theorem Nested.above {opened : List Tag} {es : List Event} (h : Nested opened es) {base b : Builder} {tag : Tag}
    (ht : tag ≠ .emphasis .underline) (hb : Above base tag b) : Above base tag (b.run es) := by
  induction h generalizing base b tag with
  | nil => exact hb
  | @content opened e es he _ _ ih =>
    obtain ⟨n, hevent, -⟩ := event_content he
    refine ih (b := b.event e) ht ?_
    rw [hevent]
    exact hb.map (·.addAll [n]) fun b f => b.addAll_push f [n]
  | @underlineTag opened e es he _ _ _ ih =>
    refine ih (b := b.event e) ht ?_
    rcases event_underlineTag he b with hstep | ⟨hu, hstep⟩ | hstep
    · rw [hstep]
      exact .underline rfl hb
    · rw [hstep]
      exact hb.closeUnderline ht hu
    · rwa [hstep]
  | @group opened tag' inner es ht' _ _ _ ihinner ih =>
    have hopen : Above b tag' (b.openFrame tag') := .frame (f := Frame.ofTag tag') rfl
    obtain ⟨f, -, hstop⟩ := (ihinner ht' hopen).stop ht'
    rw [Builder.run_group, hstop]
    exact ih ht (hb.map (·.addFrame f) fun b g => b.addFrame_push g f)

theorem Event.before_stop {e : Event} {es before after : List Event} (hne : e ≠ .stop)
    (he : e :: es = before ++ .stop :: after) : ∃ before', before = e :: before' ∧ es = before' ++ .stop :: after := by
  obtain ⟨-, hstop⟩ | h := List.cons_eq_append_iff.1 he
  · exact absurd (List.cons.inj hstop).1.symm hne
  · exact h

/-- Every stop among nested events has its own start: the events between the two are nested. -/
theorem Nested.start_of_stop {opened : List Tag} {es : List Event} (h : Nested opened es) {before after : List Event}
    (he : es = before ++ .stop :: after) : ∃ (before' : List Event) (tag : Tag) (opened' : List Tag) (inner : List Event),
      before = before' ++ .start tag :: inner ∧ tag ≠ .emphasis .underline ∧ Nested (tag :: opened') inner := by
  induction h generalizing before after with
  | nil => simp at he
  | @content _ e es hcontent _ _ ih =>
    obtain ⟨before, rfl, hes⟩ := Event.before_stop (by rintro rfl; simp [Event.isContent] at hcontent) he
    obtain ⟨before', tag, opened', inner, rfl, h⟩ := ih hes
    exact ⟨e :: before', tag, opened', inner, rfl, h⟩
  | @underlineTag _ e es htag _ _ _ ih =>
    obtain ⟨before, rfl, hes⟩ := Event.before_stop (by rintro rfl; simp [Event.isUnderlineTag] at htag) he
    obtain ⟨before', tag, opened', inner, rfl, h⟩ := ih hes
    exact ⟨e :: before', tag, opened', inner, rfl, h⟩
  | @group opened tag inner es ht _ hinner _ ihinner ih =>
    obtain ⟨before, rfl, hrest⟩ := Event.before_stop (by simp) he
    obtain ⟨between, rfl, hstop⟩ | ⟨between, rfl, hstop⟩ := List.append_eq_append_iff.1 hrest
    · -- The stop is that of the group, or comes after it.
      obtain ⟨rfl, -⟩ | ⟨between, rfl, rfl⟩ := List.cons_eq_append_iff.1 hstop
      · exact ⟨[], tag, opened, inner, by simp, ht, hinner⟩
      · obtain ⟨before', tag', opened', inner', rfl, h⟩ := ih rfl
        exact ⟨.start tag :: (inner ++ .stop :: before'), tag', opened', inner', by simp, h⟩
    · -- The stop is that of the group, or stands in it.
      obtain ⟨rfl, -⟩ | ⟨between, rfl, rfl⟩ := List.cons_eq_append_iff.1 hstop
      · exact ⟨[], tag, opened, before, rfl, ht, by simpa using hinner⟩
      · obtain ⟨before', tag', opened', inner', rfl, h⟩ := ihinner rfl
        exact ⟨.start tag :: before', tag', opened', inner', rfl, h⟩

/-! ## The tree -/

/-- **Underline tags do not disturb the blocks.** Wherever they stand among nested events, matched or
not, the tree without its underlines is the tree of the events without the tags; and every stop closes
the frame of its own start, which it adds to the stack from before that start. -/
theorem plainAll_buildTree {es : List Event} (h : Nested [] es) :
    plainAll (buildTree es) = buildTree (es.filter fun e => !e.isUnderlineTag) ∧
      ∀ before after, es = before ++ .stop :: after →
        ∃ (before' : List Event) (tag : Tag) (opened : List Tag) (inner : List Event) (f : Frame),
          before = before' ++ .start tag :: inner ∧ Nested (tag :: opened) inner ∧ f.tag = tag ∧
            Builder.empty.run (before ++ [.stop]) = (Builder.empty.run before').addFrame f := by
  refine ⟨?_, fun before after he => ?_⟩
  · obtain ⟨hfits, hplain⟩ := h.run (b := .empty) .nil
    rw [show buildTree es = (Builder.empty.run es).finish from rfl, hfits.plainAll_finish, hplain]
    rfl
  · obtain ⟨before', tag, opened, inner, rfl, ht, hinner⟩ := h.start_of_stop he
    have habove : Above (Builder.empty.run before') tag (((Builder.empty.run before').openFrame tag).run inner) :=
      hinner.above ht (.frame (f := Frame.ofTag tag) rfl)
    obtain ⟨f, hf, hstop⟩ := habove.stop ht
    refine ⟨before', tag, opened, inner, f, rfl, hinner, hf, ?_⟩
    rw [List.append_assoc, Builder.run_append, List.cons_append, Builder.run_group, hstop]
    rfl

/-- An underline that is opened in a paragraph and closed in an item, in strong text there. -/
def crossingUnderline : List Event :=
  [.start .paragraph, .text ['a'], .inlineHtml "<u>".toList, .text ['b'], .stop,
    .start (.list .unordered), .start .item, .inlineHtml "</u>".toList, .inlineHtml "<u>".toList, .text ['c'],
    .start (.emphasis .strong), .inlineHtml "</u>".toList, .text ['d'], .stop, .stop, .stop]

theorem plainAll_crossingUnderline : Nested [] crossingUnderline ∧
    plainAll (buildTree crossingUnderline) =
      [.paragraph [.text ['a'], .text ['b']],
        .list .unordered [[.text ['c'], .emphasis .strong [.text ['d']]]]] ∧
    ∃ (before : List Event) (tag : Tag) (opened : List Tag) (inner : List Event) (f : Frame),
      crossingUnderline.take 4 = before ++ .start tag :: inner ∧ Nested (tag :: opened) inner ∧ f.tag = tag ∧
        Builder.empty.run (crossingUnderline.take 4 ++ [.stop]) = (Builder.empty.run before).addFrame f := by
  have hopen : Event.isUnderlineTag (.inlineHtml "<u>".toList) = true := by decide
  have hclose : Event.isUnderlineTag (.inlineHtml "</u>".toList) = true := by decide
  have h : Nested [] crossingUnderline :=
    .group .paragraph [.text ['a'], .inlineHtml "<u>".toList, .text ['b']] (by decide) (by decide)
      (.content rfl rfl (.underlineTag hopen rfl (by decide) (.content rfl rfl .nil)))
      (.group (.list .unordered) _ (by decide) (by decide)
        (.group .item _ (by decide) (by decide)
          (.underlineTag hclose rfl (by decide) (.underlineTag hopen rfl (by decide)
            (.content rfl rfl (.group (.emphasis .strong) [.inlineHtml "</u>".toList, .text ['d']] (by decide) (by decide)
              (.underlineTag hclose rfl (by decide) (.content rfl rfl .nil)) .nil))))
          .nil)
        .nil)
  exact ⟨h, (plainAll_buildTree h).1.trans rfl, (plainAll_buildTree h).2 _ (crossingUnderline.drop 5) rfl⟩

end Markup

end Coursebook
