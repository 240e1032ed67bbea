import SoundSheet.Proofs.Bus.Matching
import SoundSheet.Sheet.Lookup

/-!
# Formulas up to the buses they read

The run of a formula asks for values and buses and goes on with the answers.
**Plans that match** ask for the same things and, as long as their answers
match, go on alike, so nothing in the run hangs on the numbers of buses.

The run of every formula matches itself (`matches_run`): each builtin is made of
readings of values that do not see buses, of buses that it hands on, and of what
the script host answers. So whatever is proved of plans that match holds of two
evaluations of one formula, whether they differ in what is remembered, in the
order of events or in the buses that were opened before.
-/

namespace SoundSheet

open SoundSheet.Script SoundSheet.Formula

/-- **Plans that match along `R`**: they make the same requests, and after
answers that match along `R` they match again; where they end, they end with the
same error or with related values. -/
inductive Plan.Matches (R : BusId → BusId → Prop) {α β : Type} (A : α → β → Prop) :
    Plan α → Plan β → Prop
  | done {a : α} {b : β} (h : A a b) : Matches R A (.done a) (.done b)
  | fail (e : FormulaError) : Matches R A (.fail e) (.fail e)
  | read (cell : Address) {next : Except FormulaError CellValue → Plan α}
      {next' : Except FormulaError CellValue → Plan β}
      (h : ∀ r r', AnswerMatches R r r' → Matches R A (next r) (next' r')) :
      Matches R A (.read cell next) (.read cell next')
  | openBus {next : BusId → Plan α} {next' : BusId → Plan β}
      (h : ∀ b b', R b b' → Matches R A (next b) (next' b')) :
      Matches R A (.openBus next) (.openBus next')
  | emit (writes : List Write) (events : List SoundEvent) {next : Plan α} {next' : Plan β}
      (h : Matches R A next next') :
      Matches R A (.emit writes events next) (.emit writes events next')

/-- Musical objects that match as values. -/
abbrev MusicObject.Matches (R : BusId → BusId → Prop) (m m' : MusicObject) : Prop :=
  CellValue.Matches R (.music m) (.music m')

namespace Plan.Matches

variable {R : BusId → BusId → Prop} {α β γ δ : Type} {A : α → β → Prop} {B : γ → δ → Prop}

/-! ## Sequencing -/

/-- **Plans that match go on alike.** -/
theorem bind {p : Plan α} {q : Plan β} {f : α → Plan γ} {g : β → Plan δ}
    (h : p.Matches R A q) (hfg : ∀ a b, A a b → (f a).Matches R B (g b)) :
    (p.bind f).Matches R B (q.bind g) := by
  induction h with
  | done hab => exact hfg _ _ hab
  | fail e => exact .fail e
  | read cell _ ih => exact .read cell fun r r' hr => ih r r' hr
  | openBus _ ih => exact .openBus fun b b' hb => ih b b' hb
  | emit writes events _ ih => exact .emit writes events ih

/-- Plans that end with equal values go on alike. -/
theorem bindEq {p q : Plan α} {f : α → Plan γ} {g : α → Plan δ}
    (h : p.Matches R Eq q) (hfg : ∀ a, (f a).Matches R B (g a)) :
    (p.bind f).Matches R B (q.bind g) :=
  h.bind fun a _ hab => hab ▸ hfg a

/-- A result matches itself. -/
theorem ofExcept {r : Except FormulaError α} {r' : Except FormulaError β}
    (h : ResultMatches A r r') : (Plan.ofExcept r).Matches R A (Plan.ofExcept r') := by
  cases h with
  | ok h => exact .done h
  | error e => exact .fail e

theorem ofExcept_self (r : Except FormulaError α) :
    (Plan.ofExcept r).Matches R Eq (Plan.ofExcept r) := by
  cases r with
  | ok a => exact .done rfl
  | error e => exact .fail e

/-- A lookup matches itself. -/
theorem lookup (cell : Address) :
    (Plan.lookup cell).Matches R (CellValue.Matches R) (Plan.lookup cell) :=
  .read cell fun _ _ h => .ofExcept h

/-- A lookup whose failure is a value matches itself. -/
theorem peek (cell : Address) :
    (Plan.peek cell).Matches R (CellValue.Matches R) (Plan.peek cell) := by
  refine .read cell fun r r' h => ?_
  cases h with
  | ok h => exact .done h
  | error e => exact .done (.plain rfl)

/-- A new bus goes with a new bus. -/
theorem newBus : Plan.newBus.Matches R R Plan.newBus :=
  .openBus fun _ _ h => .done h

/-- A lookup by name matches itself. -/
theorem lookupText (s : List Char) :
    (Plan.lookupText s).Matches R (CellValue.Matches R) (Plan.lookupText s) := by
  unfold Plan.lookupText
  cases Address.parse? s with
  | some cell => exact .lookup cell
  | none => exact .fail _

/-- Plans that match member by member match in a row. -/
theorem each {ι : Type} {f : ι → Plan α} {g : ι → Plan β}
    (h : ∀ i, (f i).Matches R A (g i)) : ∀ is : List ι,
      (Plan.each f is).Matches R (List.Forall₂ A) (Plan.each g is)
  | [] => .done .nil
  | i :: is => (h i).bind fun _ _ hab => (each h is).bind fun _ _ htail => .done (.cons hab htail)

theorem eachEq {ι : Type} {f g : ι → Plan α} (h : ∀ i, (f i).Matches R Eq (g i))
    (is : List ι) : (Plan.each f is).Matches R Eq (Plan.each g is) := by
  have heach := (each h is).bind (g := .done) (f := .done) (B := Eq)
    fun a b hab => .done (List.forall₂_eq_eq_eq ▸ hab)
  rwa [Plan.bind_done, Plan.bind_done] at heach

end Plan.Matches

/-! ## Arguments -/

namespace Formula

variable {R : BusId → BusId → Prop} {nested nested' : List Char → Plan CellValue}

theorem matches_readRegion (region : Region) (traversal : Traversal) :
    (readRegion region traversal).Matches R Eq (readRegion region traversal) := by
  unfold readRegion
  cases region.listed? traversal with
  | none => exact .fail _
  | some cells =>
    exact .eachEq (fun cell => (Plan.Matches.lookup cell).bind fun v w hvw =>
      .done (by rw [hvw.coerceNumber_eq])) cells

theorem matches_traversalOf (s : String) :
    (traversalOf s).Matches R Eq (traversalOf s) := by
  unfold traversalOf
  cases Traversal.parse? s.toList with
  | some t => exact .done rfl
  | none => exact .fail _

section Arguments

variable (h : ∀ s, (nested s).Matches R (CellValue.Matches R) (nested' s))

include h

theorem matches_argumentValue (s : List Char) :
    (argumentValue nested s).Matches R (CellValue.Matches R) (argumentValue nested' s) := by
  unfold argumentValue
  cases Argument.ofText s with
  | cell name => exact .lookupText name
  | number n => exact .done (.plain rfl)
  | call source => exact h source
  | text t => exact .done (.plain rfl)

theorem matches_numberArgument (default : Float) (s : List Char) :
    (numberArgument nested default s).Matches R Eq (numberArgument nested' default s) :=
  (matches_argumentValue h s).bind fun v w hvw => .done (by rw [hvw.coerceNumber_eq])

theorem matches_nonzeroArgument (default : Float) (s : List Char) :
    (nonzeroArgument nested default s).Matches R Eq (nonzeroArgument nested' default s) :=
  (matches_argumentValue h s).bind fun v w hvw => .done (by rw [hvw.nonzeroNumber_eq])

theorem matches_textArgument (s : List Char) :
    (textArgument nested s).Matches R Eq (textArgument nested' s) := by
  refine (matches_argumentValue h s).bind fun v w hvw => ?_
  -- a beat, a sequence or a voice is written without its bus
  cases hvw with
  | @plain v hv =>
    cases v with
    | error e => exact .fail _
    | _ => exact .done rfl
  | beat b _ => exact .done rfl
  | sequence s _ => exact .done rfl
  | audio v _ => exact .done rfl

theorem matches_optionalText (default : String) (s : Option (List Char)) :
    (optionalText nested default s).Matches R Eq (optionalText nested' default s) := by
  cases s with
  | some s => exact matches_textArgument h s
  | none => exact .done rfl

/-! ## The builtins -/

theorem matches_parameters (frequency amplitude : List Char) (phase : Float) :
    (parameters nested frequency amplitude phase).Matches R (MusicObject.Matches R)
      (parameters nested' frequency amplitude phase) :=
  (matches_nonzeroArgument h _ _).bindEq fun _ =>
    (matches_nonzeroArgument h _ _).bindEq fun _ => .done (.plain rfl)

theorem matches_waveform (call : Invocation) :
    (waveform nested call).Matches R (MusicObject.Matches R) (waveform nested' call) := by
  unfold waveform
  split
  · refine (matches_argumentValue h _).bind fun v w hvw => ?_
    cases hvw with
    | @plain v hv =>
      split
      · exact .done (.plain rfl)
      · exact .fail _
    | beat b _ => exact .fail _
    | sequence s _ => exact .fail _
    | audio v _ => exact .fail _
  · exact matches_parameters h _ _ _
  · exact (matches_nonzeroArgument h _ _).bindEq fun _ => matches_parameters h _ _ _
  · exact .fail _

theorem matches_oscillator (call : Invocation) :
    (oscillator nested call).Matches R (MusicObject.Matches R) (oscillator nested' call) := by
  unfold oscillator
  split
  · exact (matches_textArgument h _).bindEq fun _ =>
      (matches_numberArgument h _ _).bindEq fun _ =>
        (matches_numberArgument h _ _).bindEq fun _ =>
          (matches_numberArgument h _ _).bindEq fun _ => .done (.plain rfl)
  · exact .fail _

theorem matches_beat (call : Invocation) :
    (beat nested call).Matches R (MusicObject.Matches R) (beat nested' call) := by
  unfold beat
  split
  · exact (matches_nonzeroArgument h _ _).bindEq fun bpm =>
      (matches_textArgument h _).bindEq fun pattern =>
        Plan.Matches.newBus.bind fun bus bus' hbus => .done (.beat ⟨bpm, _, bus⟩ hbus)
  · exact .fail _

theorem matches_metronome (setting : Setting) (call : Invocation) :
    (metronome nested setting call).Matches R (MusicObject.Matches R)
      (metronome nested' setting call) := by
  unfold metronome
  split
  · exact .done (.plain rfl)
  · exact (matches_nonzeroArgument h _ _).bindEq fun _ => .done (.plain rfl)
  · exact .fail _

theorem matches_concat (call : Invocation) :
    (concat nested call).Matches R Eq (concat nested' call) := by
  unfold concat
  split
  · exact (matches_textArgument h _).bindEq fun _ =>
      (Plan.Matches.eachEq (matches_textArgument h) _).bindEq fun _ => .done rfl
  · exact .fail _

theorem matches_adsr (call : Invocation) :
    (adsr nested call).Matches R (MusicObject.Matches R) (adsr nested' call) := by
  unfold adsr
  split
  · exact (matches_numberArgument h _ _).bindEq fun _ =>
      (matches_numberArgument h _ _).bindEq fun _ =>
        (matches_numberArgument h _ _).bindEq fun _ =>
          (matches_numberArgument h _ _).bindEq fun _ => .done (.plain rfl)
  · exact .fail _

/-- A voice is bound to the bus of its source. -/
theorem matches_voice (frequency source : List Char) (waveType : Option (List Char)) :
    (voice nested frequency source waveType).Matches R (MusicObject.Matches R)
      (voice nested' frequency source waveType) := by
  refine (matches_nonzeroArgument h _ _).bindEq fun frequency => ?_
  refine (matches_argumentValue h _).bind fun v w hvw => ?_
  -- of the source nothing but its trigger bus is used
  have hbus := hvw.triggerBus?_rel
  generalize v.triggerBus? = x at hbus
  generalize w.triggerBus? = y at hbus
  cases hbus with
  | none => exact .fail _
  | some hbus =>
    exact (matches_optionalText h _ _).bindEq fun waveType =>
      .done (.audio ⟨frequency, waveType, _⟩ hbus)

theorem matches_audio (call : Invocation) :
    (audio nested call).Matches R (MusicObject.Matches R) (audio nested' call) := by
  unfold audio
  split
  · exact matches_voice h _ _ none
  · exact matches_voice h _ _ (some _)
  · exact .fail _

/-- A sequence has a bus of its own. -/
theorem matches_stepped (source bpm : List Char) (traversal : Option (List Char)) :
    (stepped nested source bpm traversal).Matches R (MusicObject.Matches R)
      (stepped nested' source bpm traversal) := by
  unfold stepped
  cases Region.parse? source with
  | none => exact .fail _
  | some region =>
    refine (matches_nonzeroArgument h _ _).bindEq fun bpm => ?_
    have htraversal :=
      (matches_optionalText h Traversal.vertical.name traversal).bindEq matches_traversalOf
    refine htraversal.bindEq fun traversal => ?_
    refine (matches_readRegion region traversal).bindEq fun values => ?_
    exact Plan.Matches.newBus.bind fun bus bus' hbus =>
      .done (.sequence ⟨values, 0, values.length, bpm, bus, region, traversal⟩ hbus)

theorem matches_sequence (call : Invocation) :
    (sequence nested call).Matches R (MusicObject.Matches R) (sequence nested' call) := by
  unfold sequence
  split
  · exact matches_stepped h _ _ none
  · exact matches_stepped h _ _ (some _)
  · exact .fail _

theorem matches_rooted (root : List Char) (quality : Option (List Char)) :
    (rooted nested root quality).Matches R (MusicObject.Matches R)
      (rooted nested' root quality) := by
  refine (matches_textArgument h _).bindEq fun root => ?_
  dsimp only
  cases Music.Note.parse? _ with
  | none => exact .fail _
  | some root =>
    cases quality with
    | none => exact .done (.plain rfl)
    | some quality =>
      refine (matches_textArgument h _).bindEq fun quality => ?_
      cases Music.Quality.parse? _ with
      | none => exact .fail _
      | some quality => exact .done (.plain rfl)

theorem matches_chord (call : Invocation) :
    (chord nested call).Matches R (MusicObject.Matches R) (chord nested' call) := by
  unfold chord
  split
  · exact matches_rooted h _ none
  · exact matches_rooted h _ (some _)
  · exact .fail _

/-! ## Arithmetic -/

/-- The meaning of an operand does not depend on buses. -/
theorem matches_operand (t : Token) :
    (operand nested t).Matches R Eq (operand nested' t) := by
  refine (matches_argumentValue h t).bind fun v w hvw => ?_
  cases hvw with
  | @plain v hv =>
    cases v with
    | text s =>
      -- a text may name a cell, which is then looked up in its place
      show Plan.Matches R Eq (if Address.hasShape s.toList then _ else _)
        (if Address.hasShape s.toList then _ else _)
      split
      · exact (Plan.Matches.lookupText _).bind fun v w hvw =>
          hvw.operandValue_eq ▸ .ofExcept_self _
      · exact .ofExcept_self _
    | _ => exact .ofExcept_self _
  | beat b _ => exact .ofExcept_self _
  | sequence s _ => exact .ofExcept_self _
  | audio v _ => exact .ofExcept_self _

end Arguments

theorem matches_step {f g : Token → Plan Float} (hfg : ∀ t, (f t).Matches R Eq (g t))
    (m : Machine) (t : Token) : (m.step f t).Matches R Eq (m.step g t) := by
  obtain ⟨r, hstep⟩ | hstep := m.step_asks t
  · rw [hstep f, hstep g]
    exact .ofExcept_self r
  · rw [hstep f, hstep g]
    exact (hfg t).bindEq fun n => .done rfl

theorem matches_steps {f g : Token → Plan Float} (hfg : ∀ t, (f t).Matches R Eq (g t)) :
    ∀ (m : Machine) (tokens : List Token), (m.steps f tokens).Matches R Eq (m.steps g tokens)
  | _, [] => .done rfl
  | m, t :: tokens => (matches_step hfg m t).bindEq fun m => matches_steps hfg m tokens

theorem matches_arithmetic {f g : Token → Plan Float} (hfg : ∀ t, (f t).Matches R Eq (g t))
    (tokens : List Token) : (arithmetic f tokens).Matches R Eq (arithmetic g tokens) := by
  unfold arithmetic
  split
  · exact .fail _
  · refine (matches_steps hfg _ tokens).bindEq fun m => ?_
    obtain ⟨r, hfinish⟩ := m.exists_finish_eq
    rw [hfinish]
    exact .ofExcept_self r

/-! ## Scripts -/

/-- A script hands on what the host answers. -/
theorem matches_script {setting : Setting} (hhost : setting.host.Respects R)
    (call : Invocation) :
    (script setting call).Matches R (CellValue.Matches R) (script setting call) := by
  unfold script
  refine Plan.Matches.bind (A := List.Forall₂ fun x y => x.1 = y.1 ∧ x.2.Matches R y.2)
    (.each (fun cell => (Plan.Matches.peek cell).bind fun v w hvw => .done ⟨rfl, hvw⟩) _) ?_
  intro values values' hvalues
  -- the scopes that the host is shown differ in buses only
  have houtcome := hhost (scriptCode (Text.trim call.source))
    ⟨call.caller, values, setting.tempo, setting.time⟩
    ⟨call.caller, values', setting.tempo, setting.time⟩ ⟨rfl, hvalues, rfl, rfl⟩
  generalize setting.host.run _ _ = x at houtcome
  generalize setting.host.run _ _ = y at houtcome
  cases houtcome with
  | ok h writes events => exact .emit writes events (.done h)
  | error message => exact .fail _

/-! ## Whole formulas -/

/-- **Every builtin hands its buses on and does not look at them.** -/
theorem matches_invocation {setting : Setting} (hhost : setting.host.Respects R)
    (h : ∀ s, (nested s).Matches R (CellValue.Matches R) (nested' s)) (call : Invocation)
    (b : Builtin) :
    (call.run setting nested b).Matches R (CellValue.Matches R)
      (call.run setting nested' b) := by
  cases b with
  | waveform => exact (matches_waveform h call).bind fun _ _ hm => .done hm
  | oscillator => exact (matches_oscillator h call).bind fun _ _ hm => .done hm
  | beat => exact (matches_beat h call).bind fun _ _ hm => .done hm
  | metronome => exact (matches_metronome h setting call).bind fun _ _ hm => .done hm
  | time =>
    show Plan.Matches R (CellValue.Matches R) ((time setting call).bind _)
      ((time setting call).bind _)
    unfold time
    split
    · exact .done (.plain rfl)
    · exact .fail _
  | concat => exact (matches_concat h call).bindEq fun _ => .done (.plain rfl)
  | adsr => exact (matches_adsr h call).bind fun _ _ hm => .done hm
  | audio => exact (matches_audio h call).bind fun _ _ hm => .done hm
  | sequence => exact (matches_sequence h call).bind fun _ _ hm => .done hm
  | chord => exact (matches_chord h call).bind fun _ _ hm => .done hm
  | script => exact matches_script hhost call

theorem matches_runWithin {setting : Setting} (hhost : setting.host.Respects R)
    (caller : Address) : ∀ (room : Nat) (body : List Char),
      (runWithin setting caller room body).Matches R (CellValue.Matches R)
        (runWithin setting caller room body)
  | 0, _ => .fail _
  | room + 1, body => by
    unfold runWithin
    have hnested := matches_runWithin hhost caller room
    split
    · exact .fail _
    split
    · exact matches_invocation hhost hnested _ _
    · exact (matches_arithmetic (matches_operand hnested) _).bindEq fun n => .done (.plain rfl)

/-- **The run of a formula matches itself**: nothing in it hangs on the numbers
of buses. -/
theorem matches_run {setting : Setting} (hhost : setting.host.Respects R) (caller : Address)
    (body : List Char) :
    (run setting caller body).Matches R (CellValue.Matches R) (run setting caller body) :=
  matches_runWithin hhost caller maxNesting body

/-- **The run of a raw text matches itself.** -/
theorem matches_runRaw {setting : Setting} (hhost : setting.host.Respects R) (caller : Address)
    (raw : String) :
    (runRaw setting caller raw).Matches R (CellValue.Matches R)
      (runRaw setting caller raw) := by
  unfold runRaw
  split
  · exact .done (.plain rfl)
  · exact matches_run hhost caller _
  · exact .done (.plain rfl)

end Formula

/-- **What a cell holds after runs that match** matches. -/
theorem ResultMatches.valueOf {R : BusId → BusId → Prop} {r r' : Except FormulaError CellValue}
    (h : AnswerMatches R r r') : (Sheet.valueOf r).Matches R (Sheet.valueOf r') := by
  cases h with
  | ok h => exact h
  | error e => exact .plain rfl

end SoundSheet
