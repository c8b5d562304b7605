/-
The script that a page carries, and the agent that it stands for: the same
delays, but not always the same marker.

The script is its template with three slots filled (`script_eq`). The slots
are filled one after the other, each all over the text; what was put into
the first one is still looked through for the other two. The delays come out
as they are in any case. The marker loses the characters that stand in no
identifier, and what is left of it loses the slots of the delays that it
spells. So the script has the agent's marker exactly if the marker is an
identifier that spells neither of them (`scriptMarker_eq_self_iff`).
-/
import Coursebook.Proofs.Capture.Agent
import Coursebook.Proofs.Capture.Discipline
import Coursebook.Proofs.Text.Numeral
import Coursebook.Proofs.Text.Search

namespace Coursebook

namespace Agent

/-! ## The constants of a script -/

/-- What the definition of a name starts with. -/
def definition (name : String) : Text := "var ".toList ++ name.toList ++ " = ".toList

/-- What a script defines a name as: the text up to the end of the statement. -/
def constant? (name : String) (s : Text) : Option Text := do
  let (_, r) ← Text.cut? (definition name) s
  let (value, _) ← Text.cut? [';'] r
  return value

/-- The number that a script defines a name as. -/
def number? (name : String) (s : Text) : Option Nat := (constant? name s).bind Text.toNat?

/-- The string that a script defines a name as; it is written without escapes. -/
def string? (name : String) (s : Text) : Option Text := do
  let literal ← constant? name s
  let opened ← Text.after? ['"'] literal
  let (content, r) ← Text.cut? ['"'] opened
  if r = [] ∧ '\\' ∉ content then some content else none

theorem constant?_eq {name : String} {s before value r : Text}
    (h : Text.cut? (definition name) s = some (before, value ++ ';' :: r)) (hvalue : ';' ∉ value) :
    constant? name s = some value := by
  simp [constant?, h, Text.cut?_singleton hvalue]

theorem string?_eq {name : String} {s content : Text} (h : constant? name s = some ('"' :: (content ++ ['"'])))
    (hquote : '"' ∉ content) (hescape : '\\' ∉ content) : string? name s = some content := by
  simp [string?, h, Text.after?, Text.cut?_singleton hquote, hescape]

/-! ## The template -/

/-- The template up to the literal of the marker. -/
def scriptStart : Text := "(function () \x7b\n  var MARKER_ID = ".toList

def beforeSettle : Text := ";\n  var SETTLE_MS =".toList

def beforeFinal : Text := "\n  var FINAL_MS =".toList

/-- The template behind its constants. -/
def scriptCode : Text := '\n' :: (scriptLines.drop 4).flatMap fun line => line.toList ++ ['\n']

/-- The script with some texts in its three places. -/
def filled (marker settle final : Text) : Text :=
  scriptStart ++ '"' :: (marker ++ '"' :: (beforeSettle ++ ' ' :: (settle ++ ';' ::
    (beforeFinal ++ ' ' :: (final ++ ';' :: scriptCode)))))

theorem scriptTemplate_eq : scriptTemplate = filled markerSlot settleSlot finalSlot := by
  have hstart : (scriptLines.take 4).flatMap (fun line => line.toList ++ ['\n']) =
      scriptStart ++ '"' :: (markerSlot ++ '"' :: (beforeSettle ++ ' ' :: (settleSlot ++ ';' ::
        (beforeFinal ++ ' ' :: (finalSlot ++ [';', '\n']))))) := by
    decide +kernel
  have hlines : scriptLines = scriptLines.take 4 ++ scriptLines.drop 4 := (List.take_append_drop 4 scriptLines).symm
  rw [scriptTemplate, hlines, List.flatMap_append, hstart, filled, scriptCode]
  simp only [List.append_assoc, List.cons_append, List.nil_append]

/-- What every slot starts with, and nothing else in the template holds. -/
def slotLead : Text := ['_', '_']

/-- Whether a text is a slot by its looks: it has the lead, and no character that stands beside a place. -/
def isSlot (slot : Text) : Bool := (Text.after? slotLead slot).isSome && ['"', ' ', ';'].all (· ∉ slot)

theorem isSlot_slots : [markerSlot, settleSlot, finalSlot].all isSlot = true := by decide

theorem cut?_toList {needle : Text} {s : String} {l : Text} (hs : s = String.ofList l)
    (h : Text.cut? needle l = none) : Text.cut? needle s.toList = none := by
  rwa [hs, String.toList_ofList]

theorem cut?_lines {needle : Text} (hne : needle ≠ []) (hend : '\n' ∉ needle) {ls : List String}
    (h : ∀ line ∈ ls, Text.cut? needle line.toList = none) :
    Text.cut? needle (ls.flatMap fun line => line.toList ++ ['\n']) = none := by
  induction ls with
  | nil => simp [Text.cut?, hne]
  | cons line ls ih =>
    obtain ⟨hline, hls⟩ := List.forall_mem_cons.1 h
    rw [List.flatMap_cons, List.append_assoc, List.singleton_append, Text.cut?_append_cons hend hline, ih hls]
    rfl

theorem cut?_scriptCode : Text.cut? slotLead scriptCode = none := by
  have hlines : ∀ line ∈ scriptLines.drop 4, Text.cut? slotLead line.toList = none := by
    repeat refine List.forall_mem_cons.2 ⟨cut?_toList rfl (by decide +kernel), ?_⟩
    exact List.forall_mem_nil _
  have hcode := cut?_lines (by decide) (by decide) hlines
  rw [scriptCode, Text.cut?, hcode]
  rfl

/-! ## Filling the slots -/

/-- A slot stays out of a text that its lead stays out of. -/
theorem replace_of_cut?_lead {slot part : Text} (hslot : isSlot slot = true) (hpart : Text.cut? slotLead part = none)
    (out : Text) : Text.replace slot out part = part := by
  rw [isSlot, Bool.and_eq_true, Text.after?_isSome_iff] at hslot
  exact Text.replace_eq_self fun hinfix => Text.cut?_eq_none_iff.1 hpart (hslot.1.isInfix.trans hinfix)

/-- A slot is replaced in the three places and nowhere else. -/
theorem replace_filled {slot : Text} (h : isSlot slot = true) (out marker settle final : Text) :
    Text.replace slot out (filled marker settle final) =
      filled (Text.replace slot out marker) (Text.replace slot out settle) (Text.replace slot out final) := by
  have hparts := h
  rw [isSlot, Bool.and_eq_true, Text.after?_isSome_iff, List.all_eq_true] at hparts
  obtain ⟨hlead, hbeside⟩ := hparts
  have hne : slot ≠ [] := fun hnil => absurd (hnil ▸ hlead) (by decide)
  have hquote : '"' ∉ slot := by simpa using hbeside '"' (by decide)
  have hspace : ' ' ∉ slot := by simpa using hbeside ' ' (by decide)
  have hsemicolon : ';' ∉ slot := by simpa using hbeside ';' (by decide)
  have hstart : Text.replace slot out scriptStart = scriptStart := replace_of_cut?_lead h (by decide +kernel) out
  have hsettle : Text.replace slot out beforeSettle = beforeSettle := replace_of_cut?_lead h (by decide +kernel) out
  have hfinal : Text.replace slot out beforeFinal = beforeFinal := replace_of_cut?_lead h (by decide +kernel) out
  have hcode : Text.replace slot out scriptCode = scriptCode := replace_of_cut?_lead h cut?_scriptCode out
  simp only [filled, Text.replace_append_cons hne hquote, Text.replace_append_cons hne hspace,
    Text.replace_append_cons hne hsemicolon, hstart, hsettle, hfinal, hcode]

theorem not_mem_ofNat {c : Char} (hc : c.isDigit = false) (n : Nat) : c ∉ Text.ofNat n := by
  intro hmem
  rw [Text.isDigit_of_mem_ofNat hmem] at hc
  cases hc

/-- What is left of a marker in the script. -/
def spelled (marker : Text) : Text := marker.filter inIdentifier

/-- What the script has for the marker: the slots of the delays are looked for in it too. -/
def scriptMarker (o : AgentOptions) : Text :=
  Text.replace finalSlot (Text.ofNat o.finalDelay) (Text.replace settleSlot (Text.ofNat o.settleDelay) (spelled o.marker))

/-- **The script is its template, filled.** -/
theorem script_eq (o : AgentOptions) :
    script o = filled (scriptMarker o) (Text.ofNat o.settleDelay) (Text.ofNat o.finalDelay) := by
  have hslots := isSlot_slots
  simp only [List.all_cons, List.all_nil, Bool.and_true, Bool.and_eq_true] at hslots
  obtain ⟨hmarker, hsettle, hfinal⟩ := hslots
  have hapart (slot other : Text) (h : Text.cut? slot other = none) (out : Text) : Text.replace slot out other = other :=
    Text.replace_eq_self (Text.cut?_eq_none_iff.1 h)
  have hdelay : Text.cut? slotLead (Text.ofNat o.settleDelay) = none :=
    Text.cut?_eq_none_of_not_mem (c := '_') (by decide) (not_mem_ofNat (by decide) _)
  rw [script, scriptTemplate_eq, replace_filled hmarker, replace_filled hsettle, replace_filled hfinal,
    Text.replace_self (by decide), hapart markerSlot settleSlot (by decide),
    hapart markerSlot finalSlot (by decide), Text.replace_self (by decide),
    hapart settleSlot finalSlot (by decide), Text.replace_self (by decide),
    replace_of_cut?_lead hfinal hdelay]
  rfl

/-- Whether a text may stand for the marker: the script can have it in quotes as it is. -/
def Spellable (marker : Text) : Prop := ∀ c ∈ marker, inIdentifier c = true

theorem Spellable.not_mem {marker : Text} (h : Spellable marker) {c : Char} (hc : inIdentifier c = false) : c ∉ marker := by
  intro hmem
  rw [h c hmem] at hc
  cases hc

/-- Apart from the slots, the marker has nothing of the script in it. -/
theorem spellable_scriptMarker (o : AgentOptions) : Spellable (scriptMarker o) := by
  intro c h
  have hdigit {n : Nat} (h : c ∈ Text.ofNat n) : inIdentifier c = true := by
    have := Text.isAsciiDigit_of_mem_ofNat h
    simp [inIdentifier, Text.isAsciiAlphanumeric, this]
  rcases Text.mem_replace (by decide) h with h | h
  · exact hdigit h
  · rcases Text.mem_replace (by decide) h with h | h
    · exact hdigit h
    · exact (List.mem_filter.1 h).2

/-! ## Reading the constants -/

theorem string?_filled {marker : Text} (h : Spellable marker) (settle final : Text) :
    string? "MARKER_ID" (filled marker settle final) = some marker := by
  have hcut : Text.cut? (definition "MARKER_ID") (filled marker settle final) =
      some ("(function () \x7b\n  ".toList, '"' :: (marker ++ '"' :: (beforeSettle ++ ' ' :: (settle ++ ';' ::
        (beforeFinal ++ ' ' :: (final ++ ';' :: scriptCode)))))) := by
    rfl
  have hend : ∀ r, '"' :: (marker ++ '"' :: (beforeSettle ++ r)) =
      '"' :: (marker ++ ['"']) ++ ';' :: (beforeSettle.tail ++ r) := by
    intro r
    rw [List.cons_append, List.append_assoc, List.singleton_append, ← List.cons_append (a := ';')]
    rfl
  rw [hend] at hcut
  have hsemicolon : ';' ∉ '"' :: (marker ++ ['"']) := by simp [h.not_mem (c := ';') (by decide)]
  exact string?_eq (constant?_eq hcut hsemicolon) (h.not_mem (by decide)) (h.not_mem (by decide))

theorem number?_settle {marker : Text} (h : Spellable marker) (settle : Nat) (final : Text) :
    number? "SETTLE_MS" (filled marker (Text.ofNat settle) final) = some settle := by
  have hmarker : Text.cut? (definition "SETTLE_MS") marker = none :=
    Text.cut?_eq_none_of_not_mem (c := ' ') (by decide) (h.not_mem (by decide))
  have hdef : ∀ r, Text.cut? (definition "SETTLE_MS") (beforeSettle ++ ' ' :: r) = some (";\n  ".toList, r) := fun r => rfl
  have hcut : ∃ before, Text.cut? (definition "SETTLE_MS") (filled marker (Text.ofNat settle) final) =
      some (before, Text.ofNat settle ++ ';' :: (beforeFinal ++ ' ' :: (final ++ ';' :: scriptCode))) := by
    rw [filled, Text.cut?_append_cons (by decide) (by decide +kernel), Text.cut?_append_cons (by decide) hmarker, hdef]
    exact ⟨_, rfl⟩
  obtain ⟨before, hcut⟩ := hcut
  rw [number?, constant?_eq hcut (not_mem_ofNat (by decide) settle)]
  exact Text.toNat?_ofNat settle

theorem number?_final {marker : Text} (h : Spellable marker) (settle final : Nat) :
    number? "FINAL_MS" (filled marker (Text.ofNat settle) (Text.ofNat final)) = some final := by
  have hmarker : Text.cut? (definition "FINAL_MS") marker = none :=
    Text.cut?_eq_none_of_not_mem (c := ' ') (by decide) (h.not_mem (by decide))
  have hsettle : Text.cut? (definition "FINAL_MS") (beforeSettle ++ ' ' :: Text.ofNat settle) = none :=
    Text.cut?_eq_none_of_not_mem (c := 'F') (by decide)
      (by simp [not_mem_ofNat (c := 'F') (by decide), show 'F' ∉ beforeSettle by decide])
  have hdef : ∀ r, Text.cut? (definition "FINAL_MS") (beforeFinal ++ ' ' :: r) = some ("\n  ".toList, r) := fun r => rfl
  have hcut : ∃ before, Text.cut? (definition "FINAL_MS") (filled marker (Text.ofNat settle) (Text.ofNat final)) =
      some (before, Text.ofNat final ++ ';' :: scriptCode) := by
    rw [filled, Text.cut?_append_cons (by decide) (by decide +kernel), Text.cut?_append_cons (by decide) hmarker,
      ← List.cons_append, ← List.append_assoc, Text.cut?_append_cons (by decide) hsettle, hdef]
    exact ⟨_, rfl⟩
  obtain ⟨before, hcut⟩ := hcut
  rw [number?, constant?_eq hcut (not_mem_ofNat (by decide) final)]
  exact Text.toNat?_ofNat final

theorem string?_script (o : AgentOptions) : string? "MARKER_ID" (script o) = some (scriptMarker o) := by
  rw [script_eq, string?_filled (spellable_scriptMarker o)]

/-! ## Script and agent -/

end Agent

def AgentCall.wait? : AgentCall → Option Nat
  | .wait milliseconds => some milliseconds
  | _ => none

def AgentCall.inserted? : AgentCall → Option Text
  | .insertMarker id => some id
  | _ => none

namespace Agent

/-- Whether runs of an agent wait for these delays, and insert this marker and no other where it is not there yet. -/
def GoesBy (a : Agent) (marker : Text) (settle final : Nat) : Prop :=
  ∀ p, (a.run p).2.2.filterMap AgentCall.wait? = [settle, final] ∧
    (a.run p).2.2.filterMap AgentCall.inserted? = if marker ∈ p.markers then [] else [marker]

theorem goesBy_options (o : AgentOptions) : GoesBy { options := o } o.marker o.settleDelay o.finalDelay := by
  intro p
  rw [run_idle]
  by_cases hmath : p.mathActive = true <;> by_cases hid : o.marker ∈ p.markers <;>
    simp [AgentCall.wait?, AgentCall.inserted?, List.filterMap_cons, hmath, hid]

theorem spelled_eq_self_iff {marker : Text} : spelled marker = marker ↔ Spellable marker := List.filter_eq_self

/-- The marker comes out as it is if it is an identifier without the slots of the delays in it. -/
theorem scriptMarker_eq_self_iff {o : AgentOptions} :
    scriptMarker o = o.marker ↔ Spellable o.marker ∧ ¬settleSlot <:+: o.marker ∧ ¬finalSlot <:+: o.marker := by
  constructor
  · intro h
    have hspellable : Spellable o.marker := h ▸ spellable_scriptMarker o
    rw [scriptMarker, spelled_eq_self_iff.2 hspellable] at h
    have hdigits (n : Nat) : '_' ∉ Text.ofNat n := not_mem_ofNat (by decide) n
    -- Each slot that is filled takes underscores away, and no number brings any.
    obtain ⟨hfirst, hsettle⟩ :=
      Text.count_replace (show '_' ∈ settleSlot by decide) (hdigits o.settleDelay) o.marker
    obtain ⟨hsecond, hfinal⟩ :=
      Text.count_replace (show '_' ∈ finalSlot by decide) (hdigits o.finalDelay)
        (Text.replace settleSlot (Text.ofNat o.settleDelay) o.marker)
    rw [h] at hsecond hfinal
    have hnone : ¬settleSlot <:+: o.marker := fun hmem => absurd (hsettle hmem) (by omega)
    rw [Text.replace_eq_self hnone] at hfinal
    exact ⟨hspellable, hnone, fun hmem => absurd (hfinal hmem) (by omega)⟩
  · rintro ⟨hspellable, hsettle, hfinal⟩
    rw [scriptMarker, spelled_eq_self_iff.2 hspellable, Text.replace_eq_self hsettle, Text.replace_eq_self hfinal]

/-- **Script and agent go by the same delays**, and a session with the agent's marker looks for that one and no
other. The script has the agent's marker if and only if it is an identifier that spells no slot of a delay; of
any other marker it has what is left after the filter and the slots. -/
theorem script_parameters (o : AgentOptions) :
    GoesBy { options := o } o.marker o.settleDelay o.finalDelay ∧
    number? "SETTLE_MS" (script o) = some o.settleDelay ∧
    number? "FINAL_MS" (script o) = some o.finalDelay ∧
    string? "MARKER_ID" (script o) = some (scriptMarker o) ∧
    (string? "MARKER_ID" (script o) = some o.marker ↔
      Spellable o.marker ∧ ¬settleSlot <:+: o.marker ∧ ¬finalSlot <:+: o.marker) ∧
    ∀ (c : Capture.Options) (b : Capture.Browser) (target : Capture.Target) (request : Capture.PrintRequest) (id : Text),
      c.marker = o.marker → Capture.Call.probe id ∈ (Capture.run c b target request).1.map Prod.snd → id = o.marker := by
  have hmarker := spellable_scriptMarker o
  refine ⟨goesBy_options o, ?_, ?_, string?_script o, ?_, fun c b target request id hc h => ?_⟩
  · rw [script_eq, number?_settle hmarker]
  · rw [script_eq, number?_final hmarker]
  · rw [string?_script, Option.some_inj, scriptMarker_eq_self_iff]
  · exact hc ▸ Capture.eq_of_probe_mem h

/-- The default marker comes out as it is, and a session with the default options looks for it. -/
theorem script_parameters_default :
    string? "MARKER_ID" (script {}) = some defaultMarker ∧
      ∀ (b : Capture.Browser) (target : Capture.Target) (request : Capture.PrintRequest) (id : Text),
        Capture.Call.probe id ∈ (Capture.run {} b target request).1.map Prod.snd → id = defaultMarker := by
  have habsent {slot : Text} (h : Text.cut? slot ({} : AgentOptions).marker = none) : ¬slot <:+: ({} : AgentOptions).marker :=
    Text.cut?_eq_none_iff.1 h
  obtain ⟨-, -, -, -, h, hprobe⟩ := script_parameters {}
  refine ⟨h.2 ⟨spelled_eq_self_iff.1 (by decide +kernel), habsent (by decide +kernel), habsent (by decide +kernel)⟩, ?_⟩
  exact fun b target request id => hprobe {} b target request id rfl

/-- A blank and an accent are lost. -/
example : string? "MARKER_ID" (script { marker := "fin prête".toList }) = some "finprte".toList := by
  rw [string?_script]
  decide +kernel

/-- What spells a slot becomes the delay. -/
example : string? "MARKER_ID" (script { marker := settleSlot }) = some "300".toList := by
  rw [string?_script]
  decide +kernel

end Agent

end Coursebook
