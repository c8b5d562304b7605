/-
Batches with their documents at work side by side. Each document takes two
steps, in any order with those of the others: it is read and rendered, and
what came of it is written. The program takes them one after the other, which
is one of the orders (`runBatch_eq`).

In every order the documents that cannot be loaded are told, and each other
one has a file that is the rendering of a document with the same stem. It is
its own in every order if and only if no two of these documents have a stem
in common (`batch_outputs`): the extension is left out of the name of a file,
and one rendering is put over the other.

A document cannot be loaded if it is no valid one, or if its file is one of
those that cannot be read. A write is one step here.
-/
import Coursebook.Cli.Run
import Coursebook.Proofs.File.Store
import Mathlib.Logic.Function.Basic

namespace Coursebook.Cli

/-! ## Batches step by step -/

/-- A batch: which files cannot be read, how it renders, where its documents are and where the files go, and the names
of the documents. -/
structure Batch where
  faults : Text → Option FileError
  options : RenderOptions
  page : Option PageOptions
  input : Text
  directory : Text
  documents : List Text

/-- How far a document of a batch is. -/
inductive Job where
  | waiting
  | rendered (html : Text)
  | finished (complaint : Option Complaint)

/-- A batch under way: the files, and how far each document is. -/
structure Progress where
  store : FileStore
  job : Text → Job

namespace Batch

def system (b : Batch) : FileSystem (StateM FileStore) := FileStore.systemWith b.faults

def path (b : Batch) (name : Text) : Text := Path.join b.input name

/-- The next step of a document, with the files after it. -/
def next (b : Batch) (name : Text) : Job → StateM FileStore Job
  | .waiting => do
    match ← renderFile b.system b.options b.page (b.path name) with
    | .ok html => return .rendered html
    | .error e => return .finished (some (.document (b.path name) e))
  | .rendered html => do
    match ← b.system.write (batchTarget b.directory name) html with
    | .ok () => return .finished none
    | .error e => return .finished (some (.document (b.path name) e.failure))
  | .finished complaint => return .finished complaint

def step (b : Batch) (p : Progress) (name : Text) : Progress :=
  let (j, s) := (b.next name (p.job name)).run p.store
  ⟨s, Function.update p.job name j⟩

/-- The batch after steps of these documents, in this order. -/
def play (b : Batch) (s : FileStore) (schedule : List Text) : Progress :=
  schedule.foldl b.step ⟨s, fun _ => .waiting⟩

/-- Whether all documents are finished. -/
def IsDone (b : Batch) (p : Progress) : Prop := ∀ name ∈ b.documents, ∃ complaint, p.job name = .finished complaint

/-- Whether steps are those of a whole run: steps of the documents of the batch, until all are finished. -/
def Completes (b : Batch) (s : FileStore) (schedule : List Text) : Prop :=
  (∀ name ∈ schedule, name ∈ b.documents) ∧ b.IsDone (b.play s schedule)

def complaint? : Job → Option Complaint
  | .finished complaint => complaint
  | _ => none

/-- How the program ends with these complaints. -/
def outcome (b : Batch) (complaints : List Complaint) : Outcome :=
  let done := "Done! ".toList ++ Text.ofNat (b.documents.length - complaints.length) ++ " of ".toList
    ++ Text.ofNat b.documents.length ++ " documents rendered into ".toList ++ b.directory
  if complaints = [] then .done (lines [[], done])
  else ⟨1, lines [[], done], complaints ++ [.batch complaints.length b.documents.length]⟩

/-- How the program ends once all documents are finished. -/
def result (b : Batch) (p : Progress) : Outcome := b.outcome (b.documents.filterMap fun name => complaint? (p.job name))

/-! ## Steps of one document -/

/-- One thing after the other is done on the files as the first one leaves them. -/
theorem run_bind {α β : Type} (x : StateM FileStore α) (f : α → StateM FileStore β) (s : FileStore) :
    (x >>= f).run s = (f (x.run s).1).run (x.run s).2 := rfl

theorem run_ite_pure {α : Type} (c : Prop) [Decidable c] (x y : α) (s : FileStore) :
    (if c then pure x else pure y : StateM FileStore α).run s = (if c then x else y, s) := by
  split <;> rfl

section

variable {b : Batch} {p : Progress} {name : Text}

theorem store_step : (b.step p name).store = ((b.next name (p.job name)).run p.store).2 := rfl

theorem job_step : (b.step p name).job name = ((b.next name (p.job name)).run p.store).1 := Function.update_self _ _ _

theorem job_step_of_ne {m : Text} (h : m ≠ name) : (b.step p name).job m = p.job m := Function.update_of_ne h _ _

theorem job_foldl_of_not_mem {m : Text} {schedule : List Text} (h : m ∉ schedule) :
    (schedule.foldl b.step p).job m = p.job m := by
  induction schedule generalizing p with
  | nil => rfl
  | cons n schedule ih =>
    obtain ⟨hn, hschedule⟩ := not_or.1 (mt List.mem_cons.2 h)
    rw [List.foldl_cons, ih hschedule, job_step_of_ne hn]

theorem step_finished {complaint : Option Complaint} (h : p.job name = .finished complaint) : b.step p name = p := by
  have hrun : (b.next name (p.job name)).run p.store = (p.job name, p.store) := by
    rw [h]
    rfl
  rw [step, hrun]
  exact congrArg (Progress.mk p.store) (Function.update_eq_self name p.job)

/-- What was rendered is finished with the next step. -/
theorem finished_of_rendered (b : Batch) (name html : Text) (s : FileStore) :
    ∃ complaint, ((b.next name (.rendered html)).run s).1 = .finished complaint := by
  rw [next, run_bind]
  cases (StateT.run (b.system.write (batchTarget b.directory name) html) s).1 <;> exact ⟨_, rfl⟩

/-- A document is finished after two steps. -/
theorem finished_of_two (h : p.job name = .waiting) :
    ∃ complaint, (b.step (b.step p name) name).job name = .finished complaint := by
  rw [job_step, job_step, h, next, run_bind]
  cases (StateT.run (renderFile b.system b.options b.page (b.path name)) p.store).1 with
  | ok html => exact finished_of_rendered b name html _
  | error e => exact ⟨_, rfl⟩

end

/-! ## One after the other -/

/-- The steps of the documents one after the other. -/
def inOrder (names : List Text) : List Text := names.flatMap fun name => [name, name]

theorem runOfBatch_eq (b : Batch) (name : Text) :
    runOfBatch b.system b.options b.page b.input b.directory name =
      (do return complaint? (← b.next name (← b.next name .waiting))) := by
  rw [runOfBatch, next, bind_assoc]
  refine bind_congr fun r => ?_
  cases r with
  | error e => rfl
  | ok html =>
    simp only [next, pure_bind, bind_assoc]
    refine bind_congr fun r => ?_
    cases r <;> rfl

theorem run_runOfBatch {b : Batch} {p : Progress} {name : Text} (h : p.job name = .waiting) :
    (runOfBatch b.system b.options b.page b.input b.directory name).run p.store =
      (complaint? ((b.step (b.step p name) name).job name), (b.step (b.step p name) name).store) := by
  rw [runOfBatch_eq, store_step, job_step, job_step, store_step, h]
  rfl

theorem run_mapM_runOfBatch {b : Batch} {names : List Text} (hnames : names.Nodup) {p : Progress}
    (hp : ∀ n ∈ names, p.job n = .waiting) :
    (names.mapM (runOfBatch b.system b.options b.page b.input b.directory)).run p.store =
      (names.map fun n => complaint? (((inOrder names).foldl b.step p).job n), ((inOrder names).foldl b.step p).store) := by
  induction names generalizing p with
  | nil => rfl
  | cons n names ih =>
    obtain ⟨hn, hnames⟩ := List.nodup_cons.1 hnames
    obtain ⟨hpn, hp⟩ := List.forall_mem_cons.1 hp
    have hwait : ∀ m ∈ names, (b.step (b.step p n) n).job m = .waiting := fun m hm => by
      have hmn : m ≠ n := fun h => hn (h ▸ hm)
      rw [job_step_of_ne hmn, job_step_of_ne hmn, hp m hm]
    have hlater : n ∉ inOrder names := by simpa [inOrder] using hn
    have hplay : (inOrder (n :: names)).foldl b.step p = (inOrder names).foldl b.step (b.step (b.step p n) n) := rfl
    rw [List.mapM_cons, run_bind, run_runOfBatch hpn, hplay, List.map_cons, job_foldl_of_not_mem hlater, run_bind,
      ih hnames hwait]
    rfl

theorem finished_inOrder {b : Batch} {names : List Text} (hnames : names.Nodup) {p : Progress}
    (hp : ∀ n ∈ names, p.job n = .waiting) :
    ∀ n ∈ names, ∃ complaint, ((inOrder names).foldl b.step p).job n = .finished complaint := by
  induction names generalizing p with
  | nil => exact fun n hn => absurd hn List.not_mem_nil
  | cons m names ih =>
    obtain ⟨hm, hnames⟩ := List.nodup_cons.1 hnames
    obtain ⟨hpm, hp⟩ := List.forall_mem_cons.1 hp
    have hlater : m ∉ inOrder names := by simpa [inOrder] using hm
    have hplay : (inOrder (m :: names)).foldl b.step p = (inOrder names).foldl b.step (b.step (b.step p m) m) := rfl
    rw [hplay]
    refine List.forall_mem_cons.2 ⟨?_, ih hnames fun n hn => ?_⟩
    · rw [job_foldl_of_not_mem hlater]
      exact finished_of_two hpm
    · have hnm : n ≠ m := fun h => hm (h ▸ hn)
      rw [job_step_of_ne hnm, job_step_of_ne hnm, hp n hn]

/-- The directory for the files: one in that of the documents, if no other is given. -/
def outputDirectory (input : Text) (output : Option Text) : Text := output.getD (Path.join input "html".toList)

/-- The batch of the program: the documents of a directory. -/
def ofNames (faults : Text → Option FileError) (o : RenderOptions) (page : Option PageOptions) (input : Text)
    (output : Option Text) (names : List Text) : Batch :=
  ⟨faults, o, page, input, outputDirectory input output, documentsOf names⟩

theorem mem_documentsOf {names : List Text} {n : Text} : n ∈ documentsOf names ↔ n ∈ names ∧ isDocument n = true := by
  rw [documentsOf, List.mem_mergeSort, List.mem_filter]

theorem nodup_documentsOf {names : List Text} (h : names.Nodup) : (documentsOf names).Nodup :=
  (List.mergeSort_perm _ _).nodup_iff.2 (h.filter _)

/-- **The program takes the documents one after the other.** -/
theorem runBatch_eq (faults : Text → Option FileError) (o : RenderOptions) (page : Option PageOptions) {input : Text}
    {output : Option Text} {s s' : FileStore} {names : List Text} (hlist : s.list input = .ok names)
    (hnames : names.Nodup) (hmake : s.makeDirectory (outputDirectory input output) = .ok s') :
    let b := ofNames faults o page input output names
    let p := b.play s' (inOrder b.documents)
    b.Completes s' (inOrder b.documents) ∧
      (runBatch (FileStore.systemWith faults) o page input output).run s = (b.result p, p.store) := by
  have hdocuments := nodup_documentsOf hnames
  refine ⟨⟨by simp [inOrder], finished_inOrder hdocuments fun n _ => rfl⟩, ?_⟩
  have hlisted : ((FileStore.systemWith faults).list input).run s = (.ok names, s) := congrArg (·, s) hlist
  have hmade : ((FileStore.systemWith faults).makeDirectory (outputDirectory input output)).run s = (.ok (), s') :=
    FileStore.run_updating hmake
  have hrun : ((documentsOf names).mapM (runOfBatch (FileStore.systemWith faults) o page input
      (outputDirectory input output))).run s' = _ :=
    run_mapM_runOfBatch (b := ofNames faults o page input output names) hdocuments (p := ⟨s', fun _ => .waiting⟩)
      fun n _ => rfl
  rw [runBatch, run_bind, hlisted]
  simp only
  rw [run_bind, ← outputDirectory, hmade]
  simp only
  rw [run_bind, hrun, List.filterMap_map]
  exact run_ite_pure _ _ _ _

/-! ## Where the files go -/

theorem extension_of_isDocument {name : Text} (h : isDocument name = true) :
    ∃ extension ∈ ["tex", "txt", "json"], (Path.cutExtension name).2 = some extension.toList := by
  rw [isDocument] at h
  split at h
  next e he =>
    obtain ⟨extension, hmem, heq⟩ := List.any_eq_true.1 h
    exact ⟨extension, hmem, by rw [he, of_decide_eq_true heq]⟩
  next => cases h

def outputName (name : Text) : Text := (Path.cutExtension name).1 ++ ".html".toList

/-- A file of a batch is no document. -/
theorem outputName_ne {m : Text} (hm : isDocument m = true) (n : Text) : outputName n ≠ m := by
  intro heq
  obtain ⟨extension, hmem, hextension⟩ := extension_of_isDocument hm
  have hlast := congrArg List.getLast? (heq.trans (Path.eq_of_extension hextension).1)
  rw [outputName, List.getLast?_append, List.getLast?_append] at hlast
  simp only [List.mem_cons, List.not_mem_nil, or_false] at hmem
  rcases hmem with rfl | rfl | rfl <;> simp at hlast

theorem isName_outputName {n : Text} (hn : Path.IsName n) (hdocument : isDocument n = true) : Path.IsName (outputName n) := by
  obtain ⟨extension, -, hextension⟩ := extension_of_isDocument hdocument
  have hlength : 5 ≤ (outputName n).length := by simp [outputName]
  refine ⟨fun h => ?_, fun hslash => ?_, fun h => ?_, fun h => ?_⟩
  · simp [h] at hlength
  · rcases List.mem_append.1 hslash with hstem | hend
    · exact hn.noSlash ((Path.eq_of_extension hextension).1 ▸ List.mem_append_left _ hstem)
    · exact absurd hend (by decide)
  · simp [h] at hlength
  · simp [h] at hlength

/-- The place of the file of a document. -/
def place (b : Batch) (name : Text) : List Text := Path.resolve b.directory ++ [outputName name]

theorem place_inj {b : Batch} {m n : Text} : b.place m = b.place n ↔ (Path.cutExtension m).1 = (Path.cutExtension n).1 := by
  simp [place, outputName]

/-! ## Every order -/

/-- What a document is rendered to, if it can be loaded. -/
def rendering (b : Batch) (s : FileStore) (name : Text) : Except Failure Text :=
  ((renderFile b.system b.options b.page (b.path name)).run s).1

theorem run_read {b : Batch} {s : FileStore} {path content : Text} (h : s.read path = .ok content) :
    (b.system.read path).run s = ((b.faults path).elim (.ok content) .error, s) := by
  rw [← h]
  rfl

/-- A document is rendered from its content alone, and no file is changed. -/
theorem run_renderFile {b : Batch} {s t : FileStore} {path content : Text} (hs : s.read path = .ok content)
    (ht : t.read path = .ok content) :
    (renderFile b.system b.options b.page path).run t = (((renderFile b.system b.options b.page path).run s).1, t) := by
  rw [renderFile, run_bind, run_bind, Document.load, run_bind, run_bind, run_read hs, run_read ht]
  cases b.faults path <;> rfl

/-- Whether a batch can begin: its documents are there, and the directory for the files is there and empty. -/
structure Ready (b : Batch) (s : FileStore) : Prop where
  names : ∀ n ∈ b.documents, Path.IsName n ∧ isDocument n = true
  inputInside : FileStore.isOutside b.input = false
  there : ∀ n ∈ b.documents, ∃ content, s.content? (Path.resolve b.input ++ [n]) = some content
  outputInside : FileStore.isOutside b.directory = false
  directory : s.hasDirectory (Path.resolve b.directory) = true
  empty : s.EmptyAt (Path.resolve b.directory)

/-- What a document has done by what it has become. -/
def Earned (b : Batch) (s₀ s : FileStore) (name : Text) : Job → Prop
  | .waiting => True
  | .rendered html => b.rendering s₀ name = .ok html
  | .finished none => (∃ html, b.rendering s₀ name = .ok html) ∧ (s.content? (b.place name)).isSome
  | .finished (some complaint) => ∃ e, b.rendering s₀ name = .error e ∧ complaint = .document (b.path name) e

/-- What holds of a batch at any time. -/
structure Sound (b : Batch) (s₀ : FileStore) (p : Progress) : Prop where
  inputs : ∀ n ∈ b.documents, p.store.content? (Path.resolve b.input ++ [n]) = s₀.content? (Path.resolve b.input ++ [n])
  directory : p.store.hasDirectory (Path.resolve b.directory) = true
  free : ∀ n ∈ b.documents, p.store.hasDirectory (b.place n) = false
  outputs : ∀ q, q ≠ [] → ∀ html, p.store.content? (Path.resolve b.directory ++ q) = some html →
    ∃ n ∈ b.documents, Path.resolve b.directory ++ q = b.place n ∧ b.rendering s₀ n = .ok html
  jobs : ∀ n ∈ b.documents, b.Earned s₀ p.store n (p.job n)

variable {b : Batch} {s₀ : FileStore}

theorem Ready.sound (h : b.Ready s₀) : b.Sound s₀ ⟨s₀, fun _ => .waiting⟩ where
  inputs _ _ := rfl
  directory := h.directory
  free n _ := (h.empty [outputName n] (List.cons_ne_nil _ _)).2
  outputs q hq html hhtml := by
    rw [(h.empty q hq).1] at hhtml
    cases hhtml
  jobs _ _ := trivial

namespace Sound

variable {p : Progress} {n : Text}

/-- A document becomes something else. -/
theorem setJob (h : b.Sound s₀ p) {j : Job} (hj : b.Earned s₀ p.store n j) :
    b.Sound s₀ ⟨p.store, Function.update p.job n j⟩ where
  inputs := h.inputs
  directory := h.directory
  free := h.free
  outputs := h.outputs
  jobs m hm := by
    show b.Earned s₀ p.store m (Function.update p.job n j m)
    by_cases hmn : m = n
    · subst hmn
      rwa [Function.update_self]
    · rw [Function.update_of_ne hmn]
      exact h.jobs m hm

/-- A rendering is put into its place. -/
theorem put (h : b.Sound s₀ p) (hready : b.Ready s₀) (hn : n ∈ b.documents) {html : Text}
    (hhtml : b.rendering s₀ n = .ok html) : b.Sound s₀ ⟨p.store.put (b.place n) html, p.job⟩ where
  inputs m hm := by
    have hne : Path.resolve b.input ++ [m] ≠ b.place n := by
      intro heq
      have := List.append_inj_right' heq rfl
      exact outputName_ne (hready.names m hm).2 n (List.cons.inj this).1.symm
    rw [FileStore.content?_put_of_ne hne]
    exact h.inputs m hm
  directory := FileStore.hasDirectory_put.2 (.inl h.directory)
  free m hm := by
    refine Bool.eq_false_iff.2 fun hdirectory => ?_
    rcases FileStore.hasDirectory_put.1 hdirectory with hdirectory | ⟨hbelow, hne⟩
    · rw [h.free m hm] at hdirectory
      cases hdirectory
    · exact hne (hbelow.eq_of_length (by simp [place]))
  outputs q hq html' hhtml' := by
    by_cases hplace : Path.resolve b.directory ++ q = b.place n
    · rw [hplace, FileStore.content?_put_self] at hhtml'
      cases hhtml'
      exact ⟨n, hn, hplace, hhtml⟩
    · rw [FileStore.content?_put_of_ne hplace] at hhtml'
      exact h.outputs q hq html' hhtml'
  jobs m hm := by
    have hkept : (p.store.content? (b.place m)).isSome →
        ((p.store.put (b.place n) html).content? (b.place m)).isSome := by
      intro hsome
      by_cases hplace : b.place m = b.place n
      · rw [hplace, FileStore.content?_put_self]
        rfl
      · rwa [FileStore.content?_put_of_ne hplace]
    have := h.jobs m hm
    revert this
    cases p.job m with
    | waiting => exact id
    | rendered => exact id
    | finished complaint =>
      cases complaint with
      | none => exact And.imp_right hkept
      | some => exact id

theorem read (h : b.Sound s₀ p) (hready : b.Ready s₀) (hn : n ∈ b.documents) :
    (renderFile b.system b.options b.page (b.path n)).run p.store = (b.rendering s₀ n, p.store) := by
  obtain ⟨content, hcontent⟩ := hready.there n hn
  have hname := (hready.names n hn).1
  have hbefore := FileStore.read_join hname hready.inputInside hcontent
  have hnow := FileStore.read_join hname hready.inputInside ((h.inputs n hn).trans hcontent)
  exact run_renderFile hbefore hnow

/-- **One step of a document keeps a batch sound.** -/
theorem step (h : b.Sound s₀ p) (hready : b.Ready s₀) (hn : n ∈ b.documents) : b.Sound s₀ (b.step p n) := by
  have hearned := h.jobs n hn
  cases hjob : p.job n with
  | waiting =>
    have hread := h.read hready hn
    cases hrendering : b.rendering s₀ n with
    | ok html =>
      rw [hrendering] at hread
      have hstep : b.step p n = ⟨p.store, Function.update p.job n (.rendered html)⟩ := by
        rw [Batch.step, hjob, next, run_bind, hread]
        rfl
      rw [hstep]
      exact h.setJob hrendering
    | error e =>
      rw [hrendering] at hread
      have hstep : b.step p n = ⟨p.store, Function.update p.job n (.finished (some (.document (b.path n) e)))⟩ := by
        rw [Batch.step, hjob, next, run_bind, hread]
        rfl
      rw [hstep]
      exact h.setJob ⟨e, hrendering, rfl⟩
  | rendered html =>
    rw [hjob] at hearned
    have hwrite : (b.system.write (batchTarget b.directory n) html).run p.store =
        (.ok (), p.store.put (b.place n) html) := by
      have hname := isName_outputName (hready.names n hn).1 (hready.names n hn).2
      exact FileStore.run_updating (FileStore.write_join hname hready.outputInside h.directory (h.free n hn) html)
    have hstep : b.step p n = ⟨p.store.put (b.place n) html, Function.update p.job n (.finished none)⟩ := by
      rw [Batch.step, hjob, next, run_bind, hwrite]
      rfl
    rw [hstep]
    refine (h.put hready hn hearned).setJob ⟨⟨html, hearned⟩, ?_⟩
    rw [FileStore.content?_put_self]
    rfl
  | finished complaint =>
    rw [step_finished hjob]
    exact h

/-- **A batch is sound after any steps of its documents.** -/
theorem play (hready : b.Ready s₀) {schedule : List Text} (hschedule : ∀ n ∈ schedule, n ∈ b.documents) :
    b.Sound s₀ (b.play s₀ schedule) := by
  have hrun : ∀ {schedule : List Text}, (∀ n ∈ schedule, n ∈ b.documents) → ∀ {p : Progress}, b.Sound s₀ p →
      b.Sound s₀ (schedule.foldl b.step p) := by
    intro schedule hschedule
    induction schedule with
    | nil => exact id
    | cons n schedule ih =>
      obtain ⟨hn, hschedule⟩ := List.forall_mem_cons.1 hschedule
      exact fun h => ih hschedule (h.step hready hn)
  exact hrun hschedule hready.sound

end Sound

/-! ## What comes of a batch -/

/-- The documents that cannot be loaded. -/
def failed (b : Batch) (s : FileStore) : List Text := b.documents.filter fun n => !(b.rendering s n).isOk

def Loads (b : Batch) (s : FileStore) (name : Text) : Prop := name ∈ b.documents ∧ ∃ html, b.rendering s name = .ok html

/-- What comes of a batch in any order: the failures are counted, each other document has a file, and each file is
the rendering of a document that it is the place of. -/
structure Accounted (b : Batch) (s₀ : FileStore) (p : Progress) : Prop where
  success : b.failed s₀ = [] → (b.result p).code = 0 ∧ (b.result p).complaints = []
  failure : b.failed s₀ ≠ [] → (b.result p).code = 1 ∧
    (b.result p).complaints.getLast? = some (.batch (b.failed s₀).length b.documents.length)
  written : ∀ n, b.Loads s₀ n → (p.store.content? (b.place n)).isSome
  files : ∀ q, q ≠ [] → ∀ html, p.store.content? (Path.resolve b.directory ++ q) = some html →
    ∃ n ∈ b.documents, Path.resolve b.directory ++ q = b.place n ∧ b.rendering s₀ n = .ok html

/-- Whether every document that can be loaded has a file of its own with its own rendering. -/
structure Kept (b : Batch) (s₀ : FileStore) (p : Progress) : Prop where
  own : ∀ n ∈ b.documents, ∀ html, b.rendering s₀ n = .ok html → p.store.content? (b.place n) = some html
  apart : ∀ m n, b.Loads s₀ m → b.Loads s₀ n → b.place m = b.place n → m = n

theorem Sound.complaint?_job {p : Progress} (h : b.Sound s₀ p) (hdone : b.IsDone p) {n : Text} (hn : n ∈ b.documents) :
    (complaint? (p.job n)).isSome = !(b.rendering s₀ n).isOk := by
  have hearned := h.jobs n hn
  obtain ⟨complaint, hjob⟩ := hdone n hn
  rw [hjob] at hearned ⊢
  cases complaint with
  | none =>
    obtain ⟨⟨html, hhtml⟩, -⟩ := hearned
    rw [hhtml]
    rfl
  | some complaint =>
    obtain ⟨e, he, -⟩ := hearned
    rw [he]
    rfl

theorem Sound.accounted {p : Progress} (h : b.Sound s₀ p) (hdone : b.IsDone p) : b.Accounted s₀ p := by
  have hcount : (b.documents.filterMap fun n => complaint? (p.job n)).length = (b.failed s₀).length := by
    rw [List.length_filterMap_eq_countP, failed, ← List.countP_eq_length_filter]
    exact List.countP_congr fun n hn => by rw [h.complaint?_job hdone hn]
  have hnil : (b.documents.filterMap fun n => complaint? (p.job n)) = [] ↔ b.failed s₀ = [] := by
    rw [← List.length_eq_zero_iff, hcount, List.length_eq_zero_iff]
  refine ⟨fun hnone => ?_, fun hsome => ?_, fun n hn => ?_, h.outputs⟩
  · rw [result, outcome, if_pos (hnil.2 hnone)]
    exact ⟨rfl, rfl⟩
  · rw [result, outcome, if_neg (mt hnil.1 hsome), hcount]
    exact ⟨rfl, List.getLast?_concat ..⟩
  · obtain ⟨hn, html, hhtml⟩ := hn
    have hearned := h.jobs n hn
    obtain ⟨complaint, hjob⟩ := hdone n hn
    rw [hjob] at hearned
    cases complaint with
    | none => exact hearned.2
    | some complaint =>
      obtain ⟨e, he, -⟩ := hearned
      rw [he] at hhtml
      cases hhtml

/-- Whether the documents that can be loaded have different stems. -/
def DistinctStems (b : Batch) (s : FileStore) : Prop :=
  ∀ m n, b.Loads s m → b.Loads s n → (Path.cutExtension m).1 = (Path.cutExtension n).1 → m = n

theorem Accounted.kept_iff {p : Progress} (h : b.Accounted s₀ p) : b.Kept s₀ p ↔ b.DistinctStems s₀ := by
  constructor
  · exact fun hkept m n hm hn hstem => hkept.apart m n hm hn (place_inj.2 hstem)
  · refine fun hstems => ⟨fun n hn html hhtml => ?_, fun m n hm hn hplace => hstems m n hm hn (place_inj.1 hplace)⟩
    obtain ⟨html', hhtml'⟩ := Option.isSome_iff_exists.1 (h.written n ⟨hn, html, hhtml⟩)
    obtain ⟨m, hm, hplace, hrendering⟩ := h.files [outputName n] (List.cons_ne_nil _ _) html' hhtml'
    have hnm := hstems n m ⟨hn, html, hhtml⟩ ⟨hm, html', hrendering⟩ (place_inj.1 hplace)
    subst hnm
    rw [hhtml] at hrendering
    cases hrendering
    exact hhtml'

/-- Only files that cannot be read and records can fail to load. -/
theorem Ready.loads_of_text (h : b.Ready s₀) {n : Text} (hn : n ∈ b.documents) (hread : b.faults (b.path n) = none)
    (htext : (Path.cutExtension n).2 ≠ some "json".toList) : b.Loads s₀ n := by
  obtain ⟨hname, hdocument⟩ := h.names n hn
  obtain ⟨content, hcontent⟩ := h.there n hn
  obtain ⟨extension, hmem, hextension⟩ := extension_of_isDocument hdocument
  have hcontent : s₀.read (b.path n) = .ok content := FileStore.read_join hname h.inputInside hcontent
  have hjson : Path.isJson (b.path n) = false := by
    rw [path, Path.isJson, Path.extension?_join hname, hextension, Option.any_some, decide_eq_false_iff_not]
    rw [hextension] at htext
    simp only [List.mem_cons, List.not_mem_nil, or_false] at hmem
    rcases hmem with rfl | rfl | rfl
    · decide
    · decide
    · exact absurd rfl htext
  have hfile : Document.ofFile (b.path n) content = .ok (.text content) := if_neg (by simp [hjson])
  have hload : (Document.load b.system (b.path n)).run s₀ = (.ok (.text content), s₀) := by
    rw [Document.load, run_bind, run_read hcontent, hread, ← hfile]
    rfl
  refine ⟨hn, ?_⟩
  rw [rendering, renderFile, run_bind, hload]
  exact ⟨_, rfl⟩

theorem ready_ofNames {faults : Text → Option FileError} {o : RenderOptions} {page : Option PageOptions} {input : Text}
    {output : Option Text} {s s' : FileStore} {names : List Text} (hlist : s.list input = .ok names)
    (hnames : ∀ n ∈ names, Path.IsName n) (hmake : s.makeDirectory (outputDirectory input output) = .ok s')
    (hempty : s'.EmptyAt (Path.resolve (outputDirectory input output))) :
    (ofNames faults o page input output names).Ready s' := by
  obtain ⟨hinput, hthere⟩ := FileStore.content?_of_list hlist
  obtain ⟨houtput, hfiles, hdirectory⟩ := FileStore.makeDirectory_ok hmake
  refine ⟨fun n hn => ?_, hinput, fun n hn => ?_, houtput, hdirectory, hempty⟩
  · exact ⟨hnames n (mem_documentsOf.1 hn).1, (mem_documentsOf.1 hn).2⟩
  · rw [FileStore.content?, hfiles]
    exact hthere n (mem_documentsOf.1 hn).1

/-- **What comes of a batch.** The program takes the documents one after the other. In this and in any other order the
failures are counted, every other document has a file, and every file is the rendering of a document that goes there.
The files are the documents' own in every order if and only if the documents that can be loaded have different
stems. -/
theorem batch_outputs (faults : Text → Option FileError) (o : RenderOptions) (page : Option PageOptions) {input : Text}
    {output : Option Text} {s s' : FileStore} {names : List Text} (hlist : s.list input = .ok names)
    (hnames : ∀ n ∈ names, Path.IsName n) (hdistinct : names.Nodup)
    (hmake : s.makeDirectory (outputDirectory input output) = .ok s')
    (hempty : s'.EmptyAt (Path.resolve (outputDirectory input output))) :
    let b := ofNames faults o page input output names
    (∃ schedule, b.Completes s' schedule ∧ (runBatch (FileStore.systemWith faults) o page input output).run s =
      (b.result (b.play s' schedule), (b.play s' schedule).store)) ∧
    (∀ schedule, b.Completes s' schedule → b.Accounted s' (b.play s' schedule)) ∧
    ((∀ schedule, b.Completes s' schedule → b.Kept s' (b.play s' schedule)) ↔ b.DistinctStems s') := by
  intro b
  have hready : b.Ready s' := ready_ofNames hlist hnames hmake hempty
  have haccounted : ∀ schedule, b.Completes s' schedule → b.Accounted s' (b.play s' schedule) :=
    fun schedule h => (Sound.play hready h.1).accounted h.2
  obtain ⟨hcompletes, hrun⟩ := runBatch_eq faults o page hlist hdistinct hmake
  refine ⟨⟨_, hcompletes, hrun⟩, haccounted, fun hkept => ?_, fun hstems schedule h => ?_⟩
  · exact (haccounted _ hcompletes).kept_iff.1 (hkept _ hcompletes)
  · exact (haccounted schedule h).kept_iff.2 hstems

/-- A directory with two documents of one stem, and an empty directory. -/
def sameStem : FileStore :=
  ⟨[(["in".toList, "a.tex".toList], "x".toList), (["in".toList, "a.txt".toList], "y".toList)], [["out".toList]]⟩

/-- None of two documents with the same stem fails, but one of them loses its file. -/
theorem batch_outputs_same_stem :
    let b := ofNames (fun _ => none) {} none "in".toList (some "out".toList) ["a.tex".toList, "a.txt".toList]
    b.failed sameStem = [] ∧
      ¬∀ schedule, b.Completes sameStem schedule → b.Kept sameStem (b.play sameStem schedule) := by
  intro b
  have hin : Path.IsName "in".toList := ⟨by decide, by decide, by decide, by decide⟩
  have hout : Path.IsName "out".toList := ⟨by decide, by decide, by decide, by decide⟩
  have hnames : ∀ n ∈ ["a.tex".toList, "a.txt".toList], Path.IsName n := by
    refine List.forall_mem_cons.2 ⟨⟨by decide, by decide, by decide, by decide⟩, ?_⟩
    exact List.forall_mem_singleton.2 ⟨by decide, by decide, by decide, by decide⟩
  have hlist : sameStem.list "in".toList = .ok ["a.tex".toList, "a.txt".toList] := by
    rw [FileStore.list, Path.resolve_name hin]
    decide
  have hmake : sameStem.makeDirectory (outputDirectory "in".toList (some "out".toList)) = .ok sameStem := by
    rw [FileStore.makeDirectory, outputDirectory, Option.getD_some, Path.resolve_name hout]
    rfl
  have hempty : sameStem.EmptyAt (Path.resolve (outputDirectory "in".toList (some "out".toList))) := by
    rw [outputDirectory, Option.getD_some, Path.resolve_name hout]
    refine fun q hq => ⟨?_, Bool.eq_false_iff.2 fun h => ?_⟩
    · simp [FileStore.content?, sameStem, List.lookup_cons]
    · simp [FileStore.hasDirectory_iff, sameStem, hq] at h
  have hready : b.Ready sameStem := ready_ofNames hlist hnames hmake hempty
  have hloads : ∀ n ∈ b.documents, b.Loads sameStem n := by
    intro n hn
    refine hready.loads_of_text hn rfl ?_
    have hn := (mem_documentsOf.1 hn).1
    simp only [List.mem_cons, List.not_mem_nil, or_false] at hn
    rcases hn with rfl | rfl <;> decide
  refine ⟨List.filter_eq_nil_iff.2 fun n hn => ?_, fun hkept => ?_⟩
  · obtain ⟨-, html, hhtml⟩ := hloads n hn
    simp [hhtml, Except.isOk, Except.toBool]
  · obtain ⟨-, -, hiff⟩ := batch_outputs (fun _ => none) {} none hlist hnames (by decide) hmake hempty
    have htex : "a.tex".toList ∈ b.documents := mem_documentsOf.2 (by decide)
    have htxt : "a.txt".toList ∈ b.documents := mem_documentsOf.2 (by decide)
    exact absurd (hiff.1 hkept _ _ (hloads _ htex) (hloads _ htxt) (by decide)) (by decide)

end Batch

end Coursebook.Cli
