/-
The projection of a record, block by block. Each block that is not free text
adds one heading, and that heading announces what the block is about; the
number of an exercise is how many of them have been added (`headings_foldl`).
A block is written as its heading in a section command, if it has one, and its
own texts behind it, and the text of a record is its blocks so written
(`sources_foldl`). Parts are only ever added at the end, so the text of a record
is the beginning of the text of every record that goes on (`finish_prefix`).
-/
import Coursebook.Proofs.Section.Label
import Mathlib.Data.List.Forall2
import Mathlib.Data.List.ReduceOption

namespace Coursebook

namespace Block

/-- What a section made of a block is about; free text makes none. -/
def category? : Block → Option Category
  | .introduction _ => some .introduction
  | .definition _ _ => some .definition
  | .theorem_ _ _ _ => some .theorem_
  | .formula _ _ => some .formula
  | .example_ _ _ => some .example_
  | .exercise _ _ => some .exercise
  | .summary _ => some .summary
  | .alert _ => some .alert
  | .text _ => none

def isExercise : Block → Bool
  | .exercise _ _ => true
  | _ => false

/-- Whether a block makes a section. -/
def isSection (b : Block) : Bool := b.category?.isSome

/-- What is written of a body: nothing if it is blank. -/
def ofBody (body : Text) : List Text := if Text.trim body = [] then [] else [Text.trim body]

/-- The texts of a block that stand under its heading, if it has one. -/
def texts : Block → List Text
  | introduction body | definition _ body | formula _ body | example_ _ body | summary body | alert body | text body =>
    ofBody body
  | theorem_ _ statement proof =>
    ofBody statement ++ (proof.map fun p => "\\textit\x7bDémonstration.\x7d ".toList ++ Text.trim p).toList
  | exercise statement solution =>
    ofBody statement ++
      (solution.map fun s => "\\begin\x7bsolution\x7d\n".toList ++ Text.trim s ++ "\n\\end\x7bsolution\x7d".toList).toList

/-- What is written of a block: the command of its section, if it has a heading, and its texts. -/
def written (heading : Option Text) (b : Block) : List Text :=
  (heading.map fun t => "\\section\x7b".toList ++ t ++ ['}']).toList ++ b.texts

end Block

namespace Projection

open Block (category? isExercise isSection ofBody written)

/-! ## One block -/

theorem headings_bodyParts (body : Text) : (bodyParts body).filterMap Part.heading? = [] := by
  rw [bodyParts]
  split
  · rfl
  · rfl

theorem headings_sectionParts (label : Text) (name : Option Text) (body : Text) :
    (sectionParts label name body).filterMap Part.heading? = [titled label name] :=
  congrArg (titled label name :: ·) (headings_bodyParts body)

theorem headings_append_text (ps : List Part) {α : Type} (f : α → Text) (o : Option α) :
    (ps ++ (o.map fun a => Part.text (f a)).toList).filterMap Part.heading? = ps.filterMap Part.heading? := by
  rw [List.filterMap_append]
  cases o <;> exact List.append_nil _

/-- The heading of a block; `number` is that of the block if it is an exercise. -/
def title? (number : Nat) : Block → Option Text
  | .introduction _ => some (titled "Introduction".toList none)
  | .definition term _ => some (titled "Définition".toList term)
  | .theorem_ name _ _ => some (titled "Théorème".toList name)
  | .formula name _ => some (titled "Formule".toList name)
  | .example_ title _ => some (titled "Exemple".toList title)
  | .exercise _ _ => some (titled (exerciseLabel number) none)
  | .summary _ => some (titled "Résumé".toList none)
  | .alert _ => some (titled "Attention".toList none)
  | .text _ => none

theorem headings_blockParts (number : Nat) (b : Block) :
    (blockParts number b).filterMap Part.heading? = (title? number b).toList := by
  cases b with
  | introduction body | definition term body | formula name body | example_ title body | summary body | alert body =>
    exact headings_sectionParts _ _ body
  | theorem_ name statement proof => exact (headings_append_text _ _ proof).trans (headings_sectionParts _ name statement)
  | exercise statement solution => exact (headings_append_text _ _ solution).trans (headings_sectionParts _ none statement)
  | text body => exact headings_bodyParts body

theorem sources_bodyParts (body : Text) : (bodyParts body).map Part.source = ofBody body := by
  rw [bodyParts, ofBody]
  cases h : Text.trim body with
  | nil => exact (if_pos rfl).symm
  | cons c b => exact (if_neg (List.cons_ne_nil c b)).symm

theorem sources_sectionParts (label : Text) (name : Option Text) (body : Text) :
    (sectionParts label name body).map Part.source =
      ("\\section\x7b".toList ++ titled label name ++ ['}']) :: ofBody body :=
  congrArg (_ :: ·) (sources_bodyParts body)

theorem sources_append_text (ps : List Part) {α : Type} (f : α → Text) (o : Option α) :
    (ps ++ (o.map fun a => Part.text (f a)).toList).map Part.source = ps.map Part.source ++ (o.map f).toList := by
  rw [List.map_append]
  cases o <;> rfl

/-- A block is written as its heading and its own texts. -/
theorem sources_blockParts (number : Nat) (b : Block) :
    (blockParts number b).map Part.source = written (title? number b) b := by
  cases b with
  | introduction body | definition term body | formula name body | example_ title body | summary body | alert body =>
    rw [blockParts, sources_sectionParts]
    rfl
  | theorem_ name statement proof =>
    rw [blockParts, sources_append_text, sources_sectionParts]
    rfl
  | exercise statement solution =>
    rw [blockParts, sources_append_text, sources_sectionParts]
    rfl
  | text body => exact sources_bodyParts body

theorem announces_titled {label : Text} {c : Category} (h : (label, c) ∈ fixedLabels) (name : Option Text) :
    Announces (titled label name) c := by
  obtain ⟨hlabel, hspace, hc⟩ := isLabel_fixed _ h
  rw [titled]
  split
  · exact hlabel.announces
  · exact hlabel.announces_named hspace hc _

/-- A block that makes a section has a heading, and it announces what the block is about. -/
theorem announces_title (number : Nat) (b : Block) : Option.Rel Announces (title? number b) b.category? := by
  cases b with
  | introduction body => exact .some (announces_titled (by decide) none)
  | definition term body => exact .some (announces_titled (by decide) term)
  | theorem_ name statement proof => exact .some (announces_titled (by decide) name)
  | formula name body => exact .some (announces_titled (by decide) name)
  | example_ title body => exact .some (announces_titled (by decide) title)
  | exercise statement solution => exact .some (isLabel_exercise number).announces
  | summary body => exact .some (announces_titled (by decide) none)
  | alert body => exact .some (announces_titled (by decide) none)
  | text body => exact .none

/-! ## A run of blocks -/

/-- How many exercises there are behind a block. -/
def numberOf (n : Nat) (b : Block) : Nat := if b.isExercise then n + 1 else n

theorem exercises_addBlock (p : Projection) (b : Block) : (p.addBlock b).exercises = numberOf p.exercises b := by
  cases b <;> rfl

theorem parts_addBlock (p : Projection) (b : Block) :
    (p.addBlock b).parts = p.parts ++ blockParts (numberOf p.exercises b) b := by
  cases b <;> rfl

/-- The headings of blocks behind `n` exercises, as far as they have one. -/
def titles (n : Nat) : List Block → List (Option Text)
  | [] => []
  | b :: bs => title? (numberOf n b) b :: titles (numberOf n b) bs

theorem reduceOption_cons {α : Type} (o : Option α) (os : List (Option α)) :
    (o :: os).reduceOption = o.toList ++ os.reduceOption := by
  cases o <;> rfl

theorem headings_foldl (bs : List Block) (p : Projection) :
    (bs.foldl addBlock p).headings = p.headings ++ (titles p.exercises bs).reduceOption := by
  induction bs generalizing p with
  | nil => exact (List.append_nil _).symm
  | cons b bs ih =>
    rw [List.foldl_cons, ih, exercises_addBlock, headings, parts_addBlock, List.filterMap_append, headings_blockParts,
      List.append_assoc, titles, reduceOption_cons]
    rfl

theorem sources_foldl (bs : List Block) (p : Projection) :
    (bs.foldl addBlock p).parts.map Part.source =
      p.parts.map Part.source ++ (List.zipWith written (titles p.exercises bs) bs).flatten := by
  induction bs generalizing p with
  | nil => exact (List.append_nil _).symm
  | cons b bs ih =>
    rw [List.foldl_cons, ih, exercises_addBlock, parts_addBlock, List.map_append, sources_blockParts, List.append_assoc]
    rfl

/-- Each block has the heading that it should have. -/
theorem forall₂_titles (n : Nat) (bs : List Block) :
    List.Forall₂ (fun t b => Option.Rel Announces t b.category?) (titles n bs) bs := by
  induction bs generalizing n with
  | nil => exact .nil
  | cons b bs ih => exact .cons (announces_title _ b) (ih _)

/-- The headings of the exercises among blocks. -/
def exerciseTitles (ts : List Text) (bs : List Block) : List Text :=
  ((ts.zip (bs.filter isSection)).filter (·.2.isExercise)).map (·.1)

theorem exerciseTitles_cons (number : Nat) (b : Block) (ts : List Text) (bs : List Block) :
    exerciseTitles ((title? number b).toList ++ ts) (b :: bs) =
      (if b.isExercise then [exerciseLabel number] else []) ++ exerciseTitles ts bs := by
  cases b <;> rfl

theorem exerciseTitles_titles (n : Nat) (bs : List Block) :
    exerciseTitles (titles n bs).reduceOption bs = (List.range' (n + 1) (bs.countP isExercise)).map exerciseLabel := by
  induction bs generalizing n with
  | nil => rfl
  | cons b bs ih =>
    rw [titles, reduceOption_cons, exerciseTitles_cons, ih, numberOf, List.countP_cons]
    cases b.isExercise <;> rfl

theorem parts_prefix_foldl (bs : List Block) (p : Projection) : p.parts <+: (bs.foldl addBlock p).parts := by
  induction bs generalizing p with
  | nil => exact List.prefix_rfl
  | cons b bs ih => exact (List.prefix_append _ _).trans (ih (p.addBlock b))

theorem finish_prefix {p q : Projection} (h : p.parts <+: q.parts) : p.finish <+: q.finish :=
  Text.join_prefix _ (h.map Part.source)

end Projection

namespace Record

/-- **A record is categorised as it was authored.** Its text is its title and its blocks, each written as a section
command with a heading in it, free text apart, and the texts of the block. The headings are one for each block that
is not free text, in the same order, and each announces what its block is about, whatever names and titles spell;
exercises are numbered from one in their order; and blocks that are added at the end add text at the end. -/
theorem projection_headings (r : Record) :
    (∃ titles : List (Option Text),
      List.Forall₂ (fun t b => Option.Rel Announces t b.category?) titles r.blocks ∧
      titles.reduceOption = r.projection.headings ∧
      r.text = Text.join ['\n', '\n'] ((r.title.map fun t => '#' :: ' ' :: Text.trim t).toList ++
        (List.zipWith Block.written titles r.blocks).flatten)) ∧
    List.Forall₂ Announces r.projection.headings (r.blocks.filterMap Block.category?) ∧
    Projection.exerciseTitles r.projection.headings r.blocks =
      (List.range' 1 (r.blocks.countP Block.isExercise)).map exerciseLabel ∧
    ∀ more, r.text <+: { r with blocks := r.blocks ++ more }.text := by
  have hblocks := Projection.forall₂_titles 0 r.blocks
  have htitles : r.projection.headings = (Projection.titles 0 r.blocks).reduceOption := by
    rw [Record.projection, Projection.headings_foldl]
    cases r.title <;> rfl
  refine ⟨⟨Projection.titles 0 r.blocks, hblocks, htitles.symm, ?_⟩, ?_, ?_, fun more => Projection.finish_prefix ?_⟩
  · rw [Record.text, Projection.finish, Record.projection, Projection.sources_foldl]
    cases r.title <;> rfl
  · rw [htitles]
    exact List.rel_filterMap (fun _ _ h => h) hblocks
  · rw [htitles]
    exact Projection.exerciseTitles_titles 0 r.blocks
  · rw [Record.projection, Record.projection, List.foldl_append]
    exact Projection.parts_prefix_foldl more _

end Record

end Coursebook
