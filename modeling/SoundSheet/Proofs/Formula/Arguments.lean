import SoundSheet.Proofs.Formula.Raw

/-!
# Formulas, argument by argument

A formula is put together of arguments, new buses and scripts, and each argument
is put to a use: as a number with a default, as a text, as an operand, as an
oscillator or a trigger, or as a cell that is stepped through. So a property of
plans that goes by these parts (`Plan.GoesByArguments`) holds of the run of
every formula as soon as it holds of scripts (`Plan.GoesByArguments.runRaw`).
The builtins are gone through here once for all such properties.

There are two properties in one. What is known of the plan of a call as a whole
may be more than what is known of the parts that it is made of, for its value is
put to a use in turn if the call is nested.
-/

namespace SoundSheet

open SoundSheet.Script SoundSheet.Formula

/-! ## Errors of arithmetic -/

/-- **An error of the formula itself**, rather than one that it has read in a
cell. -/
def FormulaError.IsOwn : FormulaError → Prop
  | referenced _ => False
  | _ => True

namespace Formula

variable {e : FormulaError}

theorem Pending.isOwn_of_apply {p : Pending} {operands : List Float}
    (h : p.apply operands = .error e) : e.IsOwn := by
  unfold Pending.apply at h
  split at h
  · exact nomatch h
  · next op b a rest =>
    cases op with
    | div =>
      rw [Operator.apply] at h
      split at h
      · cases h
        trivial
      · exact nomatch h
    | _ => exact nomatch h
  · cases h
    trivial

theorem Pending.isOwn_of_applyAll : ∀ {pending : List Pending} {operands : List Float},
    applyAll pending operands = .error e → e.IsOwn
  | [], _, h => nomatch h
  | p :: pending, operands, h => by
    rw [applyAll] at h
    cases happly : p.apply operands with
    | ok operands =>
      rw [happly] at h
      exact isOwn_of_applyAll h
    | error e' =>
      rw [happly] at h
      cases h
      exact isOwn_of_apply happly

namespace Machine

variable {m : Machine}

theorem isOwn_of_openGroup (h : m.openGroup = .fail e) : e.IsOwn := by
  unfold openGroup at h
  split at h
  · exact nomatch h
  · cases h
    trivial

theorem isOwn_of_closeGroup (h : m.closeGroup = .fail e) : e.IsOwn := by
  unfold closeGroup at h
  split at h
  · cases h
    trivial
  split at h
  · next happly =>
    cases h
    exact Pending.isOwn_of_applyAll happly
  split at h
  · cases h
    trivial
  · exact nomatch h

theorem isOwn_of_takeOperator {op : Operator} {token : Token}
    (h : m.takeOperator op token = .fail e) : e.IsOwn := by
  unfold takeOperator pushOperator at h
  split at h
  · split at h
    · exact nomatch h
    · exact nomatch h
    · cases h
      trivial
  · split at h
    · next happly =>
      cases h
      exact Pending.isOwn_of_applyAll happly
    · exact nomatch h

theorem isOwn_of_finish (h : m.finish = .fail e) : e.IsOwn := by
  unfold finish at h
  split at h
  · cases h
    trivial
  split at h
  · next happly =>
    cases h
    exact Pending.isOwn_of_applyAll happly
  split at h
  · cases h
    trivial
  split at h
  · exact nomatch h
  · cases h
    trivial

/-- **A token fails for a reason of its own**, if not for its operand. -/
theorem isOwn_of_step {token : Token} (h : m.step (fun _ => .done 0) token = .fail e) :
    e.IsOwn := by
  unfold step at h
  split at h
  · exact isOwn_of_openGroup h
  split at h
  · exact isOwn_of_closeGroup h
  split at h
  · exact isOwn_of_takeOperator h
  · unfold takeOperand at h
    split at h
    · exact nomatch h
    · cases h
      trivial

end Machine

end Formula

/-! ## Properties that go by the arguments -/

/-- **A property of plans that goes by their arguments**, and one of the plans
of calls. -/
structure Plan.GoesByArguments (P : (α : Type) → Plan α → Prop) (N : Plan CellValue → Prop) :
    Prop where
  /-- Plans that are done have it. -/
  done : ∀ {α : Type} (a : α), P α (.done a)
  /-- Plans that fail with an error of their own have it. -/
  fail : ∀ {α : Type} {e : FormulaError}, e.IsOwn → P α (.fail e)
  /-- New buses have it. -/
  newBus : P BusId Plan.newBus
  /-- Plans that are put together of plans with it have it. -/
  bind : ∀ {α β : Type} {p : Plan α} {f : α → Plan β}, P α p → (∀ a, P β (f a)) → P β (p.bind f)
  /-- Cells that are stepped through have it. -/
  steppedCell : ∀ cell, P (Option Float) ((Plan.lookup cell).bind fun v => .done v.coerceNumber)
  /-- Number arguments have it. -/
  numberArgument : ∀ {nested : List Char → Plan CellValue}, (∀ s, N (nested s)) →
    ∀ default s, P Float (numberArgument nested default s)
  /-- Number arguments where zero counts as missing have it. -/
  nonzeroArgument : ∀ {nested : List Char → Plan CellValue}, (∀ s, N (nested s)) →
    ∀ default s, P Float (nonzeroArgument nested default s)
  /-- Text arguments have it. -/
  textArgument : ∀ {nested : List Char → Plan CellValue}, (∀ s, N (nested s)) →
    ∀ s, P String (textArgument nested s)
  /-- Operands have it. -/
  operand : ∀ {nested : List Char → Plan CellValue}, (∀ s, N (nested s)) →
    ∀ t, P Float (operand nested t)
  /-- Arguments that are inspected have it. -/
  inspected : ∀ {nested : List Char → Plan CellValue}, (∀ s, N (nested s)) →
    ∀ {β : Type} {f : CellValue → Plan β}, (∀ v, P β (f v)) →
      (∃ e : FormulaError, e.IsOwn ∧ ∀ c, f (.error c) = .fail e) →
        ∀ s, P β ((argumentValue nested s).bind f)
  /-- Calls are done with values that are no errors. -/
  doneCall : ∀ {v : CellValue}, (∀ e, v ≠ .error e) → N (.done v)
  /-- Calls may fail. -/
  failCall : ∀ {e : FormulaError}, e.IsOwn → N (.fail e)
  /-- Calls are made of plans with the property. -/
  bindCall : ∀ {α : Type} {p : Plan α} {f : α → Plan CellValue}, P α p → (∀ a, N (f a)) →
    N (p.bind f)

namespace Plan.GoesByArguments

variable {P : (α : Type) → Plan α → Prop} {N : Plan CellValue → Prop}
  (h : Plan.GoesByArguments P N)

include h

theorem ofExcept {α : Type} {r : Except FormulaError α}
    (hr : ∀ e, Plan.ofExcept r = .fail e → e.IsOwn) : P α (Plan.ofExcept r) := by
  cases r with
  | ok a => exact h.done a
  | error e => exact h.fail (hr e rfl)

theorem each {ι α : Type} {f : ι → Plan α} (hf : ∀ i, P α (f i)) :
    ∀ is : List ι, P (List α) (Plan.each f is)
  | [] => h.done _
  | i :: is => h.bind (hf i) fun _ => h.bind (each hf is) fun _ => h.done _

theorem traversalOf (s : String) : P Traversal (traversalOf s) := by
  unfold Formula.traversalOf
  cases Traversal.parse? s.toList with
  | some t => exact h.done t
  | none => exact h.fail trivial

theorem readRegion (region : Region) (traversal : Traversal) :
    P (List (Option Float)) (readRegion region traversal) := by
  unfold Formula.readRegion
  cases region.listed? traversal with
  | none => exact h.fail trivial
  | some cells => exact h.each h.steppedCell cells

/-! ## Arguments -/

section Arguments

variable {nested : List Char → Plan CellValue} (hnested : ∀ s, N (nested s))

include hnested

theorem optionalText (default : String) (s : Option (List Char)) :
    P String (optionalText nested default s) := by
  cases s with
  | some s => exact h.textArgument hnested s
  | none => exact h.done _

/-! ## The builtins -/

theorem parameters (frequency amplitude : List Char) (phase : Float) :
    P MusicObject (parameters nested frequency amplitude phase) :=
  h.bind (h.nonzeroArgument hnested _ _) fun _ =>
    h.bind (h.nonzeroArgument hnested _ _) fun _ => h.done _

theorem waveform (call : Invocation) : P MusicObject (waveform nested call) := by
  unfold Formula.waveform
  split
  · refine h.inspected hnested (fun v => ?_) ⟨.invalidOscillator, trivial, fun _ => rfl⟩ _
    split
    · exact h.done _
    · exact h.fail trivial
  · exact h.parameters hnested _ _ _
  · exact h.bind (h.nonzeroArgument hnested _ _) fun _ => h.parameters hnested _ _ _
  · exact h.fail trivial

theorem oscillator (call : Invocation) : P MusicObject (oscillator nested call) := by
  unfold Formula.oscillator
  split
  · exact h.bind (h.textArgument hnested _) fun _ =>
      h.bind (h.numberArgument hnested _ _) fun _ =>
        h.bind (h.numberArgument hnested _ _) fun _ =>
          h.bind (h.numberArgument hnested _ _) fun _ => h.done _
  · exact h.fail trivial

theorem beat (call : Invocation) : P MusicObject (beat nested call) := by
  unfold Formula.beat
  split
  · exact h.bind (h.nonzeroArgument hnested _ _) fun _ =>
      h.bind (h.textArgument hnested _) fun _ => h.bind h.newBus fun _ => h.done _
  · exact h.fail trivial

theorem metronome (setting : Setting) (call : Invocation) :
    P MusicObject (metronome nested setting call) := by
  unfold Formula.metronome
  split
  · exact h.done _
  · exact h.bind (h.nonzeroArgument hnested _ _) fun _ => h.done _
  · exact h.fail trivial

theorem concat (call : Invocation) : P String (concat nested call) := by
  unfold Formula.concat
  split
  · exact h.bind (h.textArgument hnested _) fun _ =>
      h.bind (h.each (h.textArgument hnested) _) fun _ => h.done _
  · exact h.fail trivial

theorem adsr (call : Invocation) : P MusicObject (adsr nested call) := by
  unfold Formula.adsr
  split
  · exact h.bind (h.numberArgument hnested _ _) fun _ =>
      h.bind (h.numberArgument hnested _ _) fun _ =>
        h.bind (h.numberArgument hnested _ _) fun _ =>
          h.bind (h.numberArgument hnested _ _) fun _ => h.done _
  · exact h.fail trivial

theorem voice (frequency source : List Char) (waveType : Option (List Char)) :
    P MusicObject (voice nested frequency source waveType) := by
  refine h.bind (h.nonzeroArgument hnested _ _) fun _ =>
    h.inspected hnested (fun v => ?_) ⟨.invalidTrigger, trivial, fun _ => rfl⟩ _
  cases v.triggerBus? with
  | none => exact h.fail trivial
  | some bus => exact h.bind (h.optionalText hnested _ _) fun _ => h.done _

theorem audio (call : Invocation) : P MusicObject (audio nested call) := by
  unfold Formula.audio
  split
  · exact h.voice hnested _ _ _
  · exact h.voice hnested _ _ _
  · exact h.fail trivial

theorem stepped (source bpm : List Char) (traversal : Option (List Char)) :
    P MusicObject (stepped nested source bpm traversal) := by
  unfold Formula.stepped
  cases Region.parse? source with
  | none => exact h.fail trivial
  | some region =>
    exact h.bind (h.nonzeroArgument hnested _ _) fun _ =>
      h.bind (h.bind (h.optionalText hnested _ _) h.traversalOf) fun _ =>
        h.bind (h.readRegion region _) fun _ => h.bind h.newBus fun _ => h.done _

theorem sequence (call : Invocation) : P MusicObject (sequence nested call) := by
  unfold Formula.sequence
  split
  · exact h.stepped hnested _ _ _
  · exact h.stepped hnested _ _ _
  · exact h.fail trivial

theorem rooted (root : List Char) (quality : Option (List Char)) :
    P MusicObject (rooted nested root quality) := by
  refine h.bind (h.textArgument hnested _) fun root => ?_
  dsimp only
  cases Music.Note.parse? _ with
  | none => exact h.fail trivial
  | some root =>
    cases quality with
    | none => exact h.done _
    | some quality =>
      refine h.bind (h.textArgument hnested _) fun quality => ?_
      cases Music.Quality.parse? _ with
      | none => exact h.fail trivial
      | some quality => exact h.done _

theorem chord (call : Invocation) : P MusicObject (chord nested call) := by
  unfold Formula.chord
  split
  · exact h.rooted hnested _ _
  · exact h.rooted hnested _ _
  · exact h.fail trivial

omit hnested in
theorem time (setting : Setting) (call : Invocation) : P MusicObject (time setting call) := by
  unfold Formula.time
  split
  · exact h.done _
  · exact h.fail trivial

omit hnested in
/-- A call that makes a music object. -/
theorem music {p : Plan MusicObject} (hp : P MusicObject p) :
    N (p.bind fun m => .done (.music m)) :=
  h.bindCall hp fun _ => h.doneCall fun _ heq => nomatch heq

/-- **Every builtin has the property**, if scripts do. -/
theorem invocation {setting : Setting} {call : Invocation}
    (hscript : N (script setting call)) (b : Builtin) : N (call.run setting nested b) := by
  cases b with
  | waveform => exact h.music (h.waveform hnested call)
  | oscillator => exact h.music (h.oscillator hnested call)
  | beat => exact h.music (h.beat hnested call)
  | metronome => exact h.music (h.metronome hnested setting call)
  | time => exact h.music (h.time setting call)
  | concat => exact h.bindCall (h.concat hnested call) fun _ => h.doneCall fun _ heq => nomatch heq
  | adsr => exact h.music (h.adsr hnested call)
  | audio => exact h.music (h.audio hnested call)
  | sequence => exact h.music (h.sequence hnested call)
  | chord => exact h.music (h.chord hnested call)
  | script => exact hscript

end Arguments

/-! ## Arithmetic -/

section Operands

variable {f : Token → Plan Float} (hf : ∀ t, P Float (f t))

include hf

theorem step (m : Machine) (t : Token) : P Machine (m.step f t) := by
  obtain ⟨r, hstep⟩ | hstep := m.step_asks t
  · rw [hstep f]
    exact h.ofExcept fun e he => Machine.isOwn_of_step ((hstep _).trans he)
  · rw [hstep f]
    exact h.bind (hf t) fun _ => h.done _

theorem steps : ∀ (m : Machine) (tokens : List Token), P Machine (m.steps f tokens)
  | m, [] => h.done m
  | m, t :: tokens => h.bind (h.step hf m t) fun m => steps m tokens

theorem arithmetic (tokens : List Token) : P Float (arithmetic f tokens) := by
  unfold Formula.arithmetic
  split
  · exact h.fail trivial
  · refine h.bind (h.steps hf _ tokens) fun m => ?_
    obtain ⟨r, hfinish⟩ := m.exists_finish_eq
    rw [hfinish]
    exact h.ofExcept fun e he => Machine.isOwn_of_finish (hfinish.trans he)

end Operands

/-! ## Whole formulas -/

section Whole

variable {setting : Setting} {caller : Address}
  (hscript : ∀ call : Invocation, call.caller = caller → N (script setting call))

include hscript

theorem runWithin : ∀ (room : Nat) (body : List Char), N (runWithin setting caller room body)
  | 0, _ => h.failCall trivial
  | room + 1, body => by
    have hnested := runWithin room
    unfold Formula.runWithin
    split
    · exact h.failCall trivial
    split
    · exact h.invocation hnested (hscript _ rfl) _
    · exact h.bindCall (h.arithmetic (h.operand hnested) _) fun _ =>
        h.doneCall fun _ heq => nomatch heq

/-- **The run of every raw text has the property**, if scripts of the cell
do. -/
theorem runRaw (raw : String) : N (runRaw setting caller raw) := by
  unfold Formula.runRaw
  split
  · exact h.doneCall fun _ heq => nomatch heq
  · exact h.runWithin hscript maxNesting _
  · exact h.doneCall fun _ heq => nomatch heq

end Whole

end Plan.GoesByArguments

end SoundSheet
