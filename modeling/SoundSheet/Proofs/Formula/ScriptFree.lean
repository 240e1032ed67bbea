import SoundSheet.Proofs.Formula.Raw
import SoundSheet.Proofs.Formula.Tokens

/-!
# Formulas without scripts

A script is shown all cells that it names, and one that cannot be had is shown
to it as an error. No other builtin goes on without the value of a cell that it
has asked for: if the lookup fails, the formula fails with the very same error
(`Plan.Strict`). And none of them has to do with the host that runs scripts.

So a formula that calls no script, nor has any script called in its arguments,
runs alike with every host, and lets every lookup that fails through
(`direct_runRaw`).
-/

namespace SoundSheet

open SoundSheet.Script SoundSheet.Formula

/-! ## Strict plans -/

/-- **A strict plan**: a lookup that fails makes it fail with the same error. It
asks for values and buses only. -/
inductive Plan.Strict {α : Type} : Plan α → Prop
  | done (a : α) : Strict (.done a)
  | fail (e : FormulaError) : Strict (.fail e)
  | read {cell : Address} {next : Except FormulaError CellValue → Plan α}
      (hrefused : ∀ e, next (.error e) = .fail e) (hnext : ∀ v, Strict (next (.ok v))) :
      Strict (.read cell next)
  | openBus {next : BusId → Plan α} (hnext : ∀ bus, Strict (next bus)) : Strict (.openBus next)

theorem Plan.Strict.bind {α β : Type} {p : Plan α} {f : α → Plan β} (h : p.Strict)
    (hf : ∀ a, (f a).Strict) : (p.bind f).Strict := by
  induction h with
  | done a => exact hf a
  | fail e => exact .fail e
  | read hrefused _ ih => exact .read (fun e => congrArg (·.bind f) (hrefused e)) ih
  | openBus _ ih => exact .openBus ih

/-- **One strict plan** that is written in two ways. -/
structure Plan.Direct {α : Type} (p q : Plan α) : Prop where
  /-- The plans are the same. -/
  eq : p = q
  /-- The plan is strict. -/
  strict : p.Strict

namespace Plan.Direct

variable {α β : Type}

theorem done (a : α) : (Plan.done a).Direct (.done a) :=
  ⟨rfl, .done a⟩

theorem fail (e : FormulaError) : (Plan.fail (α := α) e).Direct (.fail e) :=
  ⟨rfl, .fail e⟩

/-- **Plans are put together of their parts.** -/
theorem bind {p q : Plan α} {f g : α → Plan β} (h : p.Direct q) (hf : ∀ a, (f a).Direct (g a)) :
    (p.bind f).Direct (q.bind g) := by
  obtain ⟨rfl, hp⟩ := h
  obtain rfl : f = g := funext fun a => (hf a).eq
  exact ⟨rfl, hp.bind fun a => (hf a).strict⟩

theorem ofExcept (r : Except FormulaError α) :
    (Plan.ofExcept r).Direct (Plan.ofExcept r) := by
  cases r with
  | ok a => exact done a
  | error e => exact fail e

theorem lookup (cell : Address) : (Plan.lookup cell).Direct (Plan.lookup cell) :=
  ⟨rfl, .read (fun _ => rfl) .done⟩

theorem lookupText (s : List Char) : (Plan.lookupText s).Direct (Plan.lookupText s) := by
  unfold Plan.lookupText
  cases Address.parse? s with
  | some cell => exact lookup cell
  | none => exact fail _

theorem newBus : Plan.newBus.Direct Plan.newBus :=
  ⟨rfl, .openBus .done⟩

theorem each {ι : Type} {f g : ι → Plan α} : ∀ {is : List ι}, (∀ i ∈ is, (f i).Direct (g i)) →
    (Plan.each f is).Direct (Plan.each g is)
  | [], _ => done _
  | _ :: _, h => (h _ List.mem_cons_self).bind fun _ =>
      (each fun i hi => h i (List.mem_cons_of_mem _ hi)).bind fun _ => done _

end Plan.Direct

namespace Formula

open SoundSheet.Text

/-! ## Calls of scripts -/

/-- The texts that a call of a builtin evaluates, from the tokens behind its
name. -/
def callTexts (tokens : List Token) : Builtin → List (List Char)
  | .waveform => plainTokens tokens
  | _ => argumentTexts tokens

/-- **The texts that a formula evaluates**: the arguments of its call, or else
the tokens of an arithmetic expression. -/
def operandTexts (body : List Char) : List (List Char) :=
  match tokenize body with
  | [] => []
  | name :: rest =>
    match Builtin.find? name with
    | some builtin => callTexts rest builtin
    | none => name :: rest

/-- **A script is called** by a formula, or by a call in its arguments. -/
inductive CallsScript : List Char → Prop
  /-- The formula is a call of a script. -/
  | self {body : List Char} {name : Token} {rest : List Token}
      (htokens : tokenize body = name :: rest) (hname : Builtin.find? name = some .script) :
      CallsScript body
  /-- A call in its arguments calls a script. -/
  | nested {body s source : List Char} (hmem : s ∈ operandTexts body)
      (hcall : Argument.ofText s = .call source) (h : CallsScript source) : CallsScript body

/-- A formula with another name, and without calls in its arguments, calls
none. -/
theorem not_callsScript {body : List Char}
    (hname : (tokenize body).head?.bind Builtin.find? ≠ some .script)
    (hargs : ∀ s ∈ operandTexts body, ∀ source, Argument.ofText s ≠ .call source) :
    ¬CallsScript body := by
  intro h
  cases h with
  | self htokens hscript =>
    rw [htokens] at hname
    exact hname hscript
  | nested hmem hcall _ => exact hargs _ hmem _ hcall

/-- **A raw text without scripts**: it is no formula, or its formula calls
none. -/
def ScriptFree (raw : String) : Prop :=
  ∀ body, body? raw = some body → ¬CallsScript body

/-! ## Arguments -/

variable {nested nested' : List Char → Plan CellValue}

theorem direct_traversalOf (s : String) : (traversalOf s).Direct (traversalOf s) := by
  unfold traversalOf
  cases Traversal.parse? s.toList with
  | some t => exact .done t
  | none => exact .fail _

theorem direct_readRegion (region : Region) (traversal : Traversal) :
    (readRegion region traversal).Direct (readRegion region traversal) := by
  unfold readRegion
  cases region.listed? traversal with
  | none => exact .fail _
  | some cells => exact .each fun cell _ => (Plan.Direct.lookup cell).bind fun _ => .done _

section Argument

variable {s : List Char} (h : (argumentValue nested s).Direct (argumentValue nested' s))

include h

theorem direct_numberArgument (default : Float) :
    (numberArgument nested default s).Direct (numberArgument nested' default s) :=
  h.bind fun _ => .done _

theorem direct_nonzeroArgument (default : Float) :
    (nonzeroArgument nested default s).Direct (nonzeroArgument nested' default s) :=
  h.bind fun _ => .done _

theorem direct_textArgument : (textArgument nested s).Direct (textArgument nested' s) := by
  refine h.bind fun v => ?_
  cases v with
  | error e => exact .fail _
  | _ => exact .done _

theorem direct_operand : (operand nested s).Direct (operand nested' s) := by
  refine h.bind fun v => ?_
  split
  · split
    · exact (Plan.Direct.lookupText _).bind fun v => .ofExcept _
    · exact .ofExcept _
  · exact .ofExcept _

end Argument

theorem direct_optionalText {default : String} {s : Option (List Char)}
    (h : ∀ t ∈ s, (argumentValue nested t).Direct (argumentValue nested' t)) :
    (optionalText nested default s).Direct (optionalText nested' default s) := by
  cases s with
  | some s => exact direct_textArgument (h s rfl)
  | none => exact .done _

/-! ## The builtins -/

section Builtins

variable {call : Invocation}

theorem direct_parameters {frequency amplitude : List Char} (phase : Float)
    (hfrequency : (argumentValue nested frequency).Direct (argumentValue nested' frequency))
    (hamplitude : (argumentValue nested amplitude).Direct (argumentValue nested' amplitude)) :
    (parameters nested frequency amplitude phase).Direct
      (parameters nested' frequency amplitude phase) :=
  (direct_nonzeroArgument hfrequency _).bind fun _ =>
    (direct_nonzeroArgument hamplitude _).bind fun _ => .done _

theorem direct_waveform (h : ∀ s ∈ plainTokens call.tokens,
      (argumentValue nested s).Direct (argumentValue nested' s)) :
    (waveform nested call).Direct (waveform nested' call) := by
  unfold waveform
  split
  · next hargs =>
    rw [hargs, List.forall_mem_cons] at h
    refine h.1.bind fun v => ?_
    split
    · exact .done _
    · exact .fail _
  · next hargs =>
    rw [hargs, List.forall_mem_cons, List.forall_mem_cons] at h
    exact direct_parameters _ h.1 h.2.1
  · next hargs =>
    rw [hargs, List.forall_mem_cons, List.forall_mem_cons, List.forall_mem_cons] at h
    exact (direct_nonzeroArgument h.2.2.1 _).bind fun _ => direct_parameters _ h.1 h.2.1
  · exact .fail _

variable (h : ∀ s ∈ argumentTexts call.tokens,
  (argumentValue nested s).Direct (argumentValue nested' s))

include h

theorem direct_oscillator : (oscillator nested call).Direct (oscillator nested' call) := by
  unfold oscillator
  split
  · next hargs =>
    rw [hargs] at h
    simp only [List.forall_mem_cons] at h
    obtain ⟨hwaveType, hfrequency, hphase, hamplitude, -⟩ := h
    exact (direct_textArgument hwaveType).bind fun _ =>
      (direct_numberArgument hfrequency _).bind fun _ =>
        (direct_numberArgument hphase _).bind fun _ =>
          (direct_numberArgument hamplitude _).bind fun _ => .done _
  · exact .fail _

theorem direct_beat : (beat nested call).Direct (beat nested' call) := by
  unfold beat
  split
  · next hargs =>
    rw [hargs] at h
    simp only [List.forall_mem_cons] at h
    exact (direct_nonzeroArgument h.1 _).bind fun _ =>
      (direct_textArgument h.2.1).bind fun _ => Plan.Direct.newBus.bind fun _ => .done _
  · exact .fail _

theorem direct_metronome {setting setting' : Setting} (htempo : setting.tempo = setting'.tempo) :
    (metronome nested setting call).Direct (metronome nested' setting' call) := by
  unfold metronome
  rw [htempo]
  split
  · exact .done _
  · next hargs =>
    rw [hargs, List.forall_mem_cons] at h
    exact (direct_nonzeroArgument h.1 _).bind fun _ => .done _
  · exact .fail _

theorem direct_concat : (concat nested call).Direct (concat nested' call) := by
  unfold concat
  split
  · next hargs =>
    rw [hargs, List.forall_mem_cons] at h
    exact (direct_textArgument h.1).bind fun _ =>
      (Plan.Direct.each fun s hs => direct_textArgument (h.2 s hs)).bind fun _ => .done _
  · exact .fail _

theorem direct_adsr : (adsr nested call).Direct (adsr nested' call) := by
  unfold adsr
  split
  · next hargs =>
    rw [hargs] at h
    simp only [List.forall_mem_cons] at h
    obtain ⟨hattack, hdecay, hsustain, hrelease, -⟩ := h
    exact (direct_numberArgument hattack _).bind fun _ =>
      (direct_numberArgument hdecay _).bind fun _ =>
        (direct_numberArgument hsustain _).bind fun _ =>
          (direct_numberArgument hrelease _).bind fun _ => .done _
  · exact .fail _

omit h in
theorem direct_voice {frequency source : List Char} {waveType : Option (List Char)}
    (hfrequency : (argumentValue nested frequency).Direct (argumentValue nested' frequency))
    (hsource : (argumentValue nested source).Direct (argumentValue nested' source))
    (hwaveType : ∀ t ∈ waveType, (argumentValue nested t).Direct (argumentValue nested' t)) :
    (voice nested frequency source waveType).Direct
      (voice nested' frequency source waveType) := by
  refine (direct_nonzeroArgument hfrequency _).bind fun _ => hsource.bind fun v => ?_
  cases v.triggerBus? with
  | none => exact .fail _
  | some bus => exact (direct_optionalText hwaveType).bind fun _ => .done _

theorem direct_audio : (audio nested call).Direct (audio nested' call) := by
  unfold audio
  split
  · next hargs =>
    rw [hargs] at h
    simp only [List.forall_mem_cons] at h
    exact direct_voice h.1 h.2.1 fun _ ht => nomatch ht
  · next hargs =>
    rw [hargs] at h
    simp only [List.forall_mem_cons] at h
    exact direct_voice h.1 h.2.1 fun _ ht => Option.some.inj ht ▸ h.2.2.1
  · exact .fail _

omit h in
theorem direct_stepped {bpm : List Char} {traversal : Option (List Char)} (source : List Char)
    (hbpm : (argumentValue nested bpm).Direct (argumentValue nested' bpm))
    (htraversal : ∀ t ∈ traversal, (argumentValue nested t).Direct (argumentValue nested' t)) :
    (stepped nested source bpm traversal).Direct (stepped nested' source bpm traversal) := by
  unfold stepped
  cases Region.parse? source with
  | none => exact .fail _
  | some region =>
    refine (direct_nonzeroArgument hbpm _).bind fun _ => ?_
    refine ((direct_optionalText htraversal).bind direct_traversalOf).bind fun _ => ?_
    exact (direct_readRegion region _).bind fun _ => Plan.Direct.newBus.bind fun _ => .done _

theorem direct_sequence : (sequence nested call).Direct (sequence nested' call) := by
  unfold sequence
  split
  · next hargs =>
    rw [hargs] at h
    simp only [List.forall_mem_cons] at h
    exact direct_stepped _ h.2.1 fun _ ht => nomatch ht
  · next hargs =>
    rw [hargs] at h
    simp only [List.forall_mem_cons] at h
    exact direct_stepped _ h.2.1 fun _ ht => Option.some.inj ht ▸ h.2.2.1
  · exact .fail _

omit h in
theorem direct_rooted {root : List Char} {quality : Option (List Char)}
    (hroot : (argumentValue nested root).Direct (argumentValue nested' root))
    (hquality : ∀ t ∈ quality, (argumentValue nested t).Direct (argumentValue nested' t)) :
    (rooted nested root quality).Direct (rooted nested' root quality) := by
  refine (direct_textArgument hroot).bind fun root => ?_
  dsimp only
  cases Music.Note.parse? _ with
  | none => exact .fail _
  | some root =>
    cases quality with
    | none => exact .done _
    | some quality =>
      refine (direct_textArgument (hquality quality rfl)).bind fun quality => ?_
      cases Music.Quality.parse? _ with
      | none => exact .fail _
      | some quality => exact .done _

theorem direct_chord : (chord nested call).Direct (chord nested' call) := by
  unfold chord
  split
  · next hargs =>
    rw [hargs, List.forall_mem_cons] at h
    exact direct_rooted h.1 fun _ ht => nomatch ht
  · next hargs =>
    rw [hargs] at h
    simp only [List.forall_mem_cons] at h
    exact direct_rooted h.1 fun _ ht => Option.some.inj ht ▸ h.2.1
  · exact .fail _

end Builtins

/-! ## Arithmetic -/

section Operands

variable {f g : Token → Plan Float}

theorem direct_step {t : Token} (hfg : (f t).Direct (g t)) (m : Machine) :
    (m.step f t).Direct (m.step g t) := by
  obtain ⟨r, hstep⟩ | hstep := m.step_asks t
  · rw [hstep f, hstep g]
    exact .ofExcept r
  · rw [hstep f, hstep g]
    exact hfg.bind fun n => .done _

theorem direct_steps : ∀ {tokens : List Token}, (∀ t ∈ tokens, (f t).Direct (g t)) →
    ∀ m : Machine, (m.steps f tokens).Direct (m.steps g tokens)
  | [], _, m => .done m
  | _ :: _, hfg, m => (direct_step (hfg _ List.mem_cons_self) m).bind
      (direct_steps fun t ht => hfg t (List.mem_cons_of_mem _ ht))

theorem direct_arithmetic {tokens : List Token} (hfg : ∀ t ∈ tokens, (f t).Direct (g t)) :
    (arithmetic f tokens).Direct (arithmetic g tokens) := by
  unfold arithmetic
  split
  · exact .fail _
  · refine (direct_steps hfg _).bind fun m => ?_
    obtain ⟨r, hfinish⟩ := m.exists_finish_eq
    rw [hfinish]
    exact .ofExcept r

end Operands

/-! ## Whole formulas -/

/-- **Every builtin but scripts** is made of its arguments. -/
theorem direct_invocation {setting setting' : Setting} (htempo : setting.tempo = setting'.tempo)
    (htime : setting.time = setting'.time) {call : Invocation} {b : Builtin} (hb : b ≠ .script)
    (h : ∀ s ∈ callTexts call.tokens b, (argumentValue nested s).Direct (argumentValue nested' s)) :
    (call.run setting nested b).Direct (call.run setting' nested' b) := by
  cases b with
  | waveform => exact (direct_waveform h).bind fun _ => .done _
  | oscillator => exact (direct_oscillator h).bind fun _ => .done _
  | beat => exact (direct_beat h).bind fun _ => .done _
  | metronome => exact (direct_metronome h htempo).bind fun _ => .done _
  | time =>
    show ((time setting call).bind _).Direct ((time setting' call).bind _)
    unfold time
    rw [htime]
    split
    · exact .done _
    · exact .fail _
  | concat => exact (direct_concat h).bind fun _ => .done _
  | adsr => exact (direct_adsr h).bind fun _ => .done _
  | audio => exact (direct_audio h).bind fun _ => .done _
  | sequence => exact (direct_sequence h).bind fun _ => .done _
  | chord => exact (direct_chord h).bind fun _ => .done _
  | script => exact absurd rfl hb

/-- Text and cell of a call matter to scripts only. -/
theorem run_eq_of_ne_script (setting : Setting) (nested : List Char → Plan CellValue)
    (tokens : List Token) (source source' : List Char) (caller caller' : Address) {b : Builtin}
    (hb : b ≠ .script) :
    Invocation.run setting nested ⟨tokens, source', caller'⟩ b =
      Invocation.run setting nested ⟨tokens, source, caller⟩ b := by
  cases b with
  | script => exact absurd rfl hb
  | _ => rfl

section Setting

variable {setting setting' : Setting} (htempo : setting.tempo = setting'.tempo)
  (htime : setting.time = setting'.time)

include htempo htime

/-- **A formula without scripts runs alike** on behalf of any cell, however it
is spaced. -/
theorem direct_runWithin_of_tokenize_eq (caller caller' : Address) : ∀ (room : Nat)
    {body body' : List Char}, ¬CallsScript body → tokenize body' = tokenize body →
      (runWithin setting caller room body).Direct (runWithin setting' caller' room body')
  | 0, _, _, _, _ => .fail _
  | room + 1, body, body', hbody, htokens' => by
    have hargument : ∀ s ∈ operandTexts body,
        (argumentValue (runWithin setting caller room) s).Direct
          (argumentValue (runWithin setting' caller' room) s) := by
      intro s hs
      unfold argumentValue
      cases hcall : Argument.ofText s with
      | cell name => exact .lookupText name
      | number n => exact .done _
      | call source =>
        exact direct_runWithin_of_tokenize_eq caller caller' room
          (fun hsource => hbody (.nested hs hcall hsource)) rfl
      | text t => exact .done _
    unfold runWithin
    rw [htokens']
    cases htokens : tokenize body with
    | nil => exact .fail _
    | cons name rest =>
      unfold operandTexts at hargument
      rw [htokens] at hargument
      dsimp only at hargument ⊢
      cases hname : Builtin.find? name with
      | none =>
        rw [hname] at hargument
        exact (direct_arithmetic fun t ht => direct_operand (hargument t ht)).bind
          fun _ => .done _
      | some b =>
        rw [hname] at hargument
        have hb : b ≠ .script := fun heq => hbody (.self htokens (heq ▸ hname))
        show (Invocation.run setting _ ⟨rest, _, caller⟩ b).Direct
          (Invocation.run setting' _ ⟨rest, _, caller'⟩ b)
        rw [run_eq_of_ne_script setting' _ rest ((trimStart body).drop name.length) _ caller _ hb]
        exact direct_invocation htempo htime hb hargument

/-- **So it may be trimmed**, and run on behalf of another cell. -/
theorem run_trim (caller caller' : Address) {body : List Char} (hbody : ¬CallsScript body) :
    run setting' caller' (trim body) = run setting caller body :=
  (direct_runWithin_of_tokenize_eq htempo htime caller caller' maxNesting hbody
    (tokenize_trim body)).eq.symm

variable (caller : Address)

theorem direct_runWithin (room : Nat) {body : List Char} (hbody : ¬CallsScript body) :
    (runWithin setting caller room body).Direct (runWithin setting' caller room body) :=
  direct_runWithin_of_tokenize_eq htempo htime caller caller room hbody rfl

/-- **A raw text without scripts runs alike with every host, and strictly.** -/
theorem direct_runRaw {raw : String} (hraw : ScriptFree raw) :
    (runRaw setting caller raw).Direct (runRaw setting' caller raw) := by
  cases hbody : body? raw with
  | some body =>
    rw [runRaw_of_body? setting caller hbody, runRaw_of_body? setting' caller hbody]
    exact direct_runWithin htempo htime caller maxNesting (hraw body hbody)
  | none =>
    rw [runRaw_of_body?_eq_none setting caller hbody, runRaw_of_body?_eq_none setting' caller hbody]
    exact .done _

end Setting

end Formula

end SoundSheet
