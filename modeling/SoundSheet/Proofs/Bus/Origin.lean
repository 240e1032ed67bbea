import SoundSheet.Proofs.Formula.Raw
import SoundSheet.Script.Language

/-!
# Where buses come from

A formula that makes a beat or a sequence opens the bus for it. A formula that
makes a voice takes the bus from the second argument of its call: the voice
shares the bus of a cell that it names there, or it has one that a nested call
has opened. No other value has a bus (`BusOrigin`).

What a plan ends with depends on the answers that it gets. `Plan.Ensures` says
what holds of the end if the answers are such as a relation between cells and
values allows, and the buses such as a property of buses allows; its rule for
sequencing is the usual one. With it the builtins are gone through one by one,
and put together to `ensures_runRaw`.

Scripts are left out of this by what is asked of their host: it returns no
musical object. The hosts of the script language do not
(`Script.returnsNoMusic_hostDrawing`).
-/

namespace SoundSheet

open SoundSheet.Script SoundSheet.Formula

/-! ## What a plan ensures -/

/-- **What a plan ends with**, if it ends with a value at all: something with
the property `P`, when the values that it is answered with are allowed by `K`
and the buses by `O`. -/
inductive Plan.Ensures {α : Type} (K : Address → CellValue → Prop) (O : BusId → Prop)
    (P : α → Prop) : Plan α → Prop
  | done {a : α} (h : P a) : Ensures K O P (.done a)
  | fail (e : FormulaError) : Ensures K O P (.fail e)
  | read {cell : Address} {next : Except FormulaError CellValue → Plan α}
      (h : ∀ r, (∀ v, r = .ok v → K cell v) → Ensures K O P (next r)) :
      Ensures K O P (.read cell next)
  | openBus {next : BusId → Plan α} (h : ∀ bus, O bus → Ensures K O P (next bus)) :
      Ensures K O P (.openBus next)
  | emit {writes : List Write} {events : List SoundEvent} {next : Plan α}
      (h : Ensures K O P next) : Ensures K O P (.emit writes events next)

namespace Plan.Ensures

variable {K : Address → CellValue → Prop} {O : BusId → Prop} {α β : Type} {P : α → Prop}
  {Q : β → Prop}

/-- **Plans go on from what they ensure.** -/
theorem bind {p : Plan α} {f : α → Plan β} (h : p.Ensures K O P)
    (hf : ∀ a, P a → (f a).Ensures K O Q) : (p.bind f).Ensures K O Q := by
  induction h with
  | done ha => exact hf _ ha
  | fail e => exact .fail e
  | read _ ih => exact .read fun r hr => ih r hr
  | openBus _ ih => exact .openBus fun bus hbus => ih bus hbus
  | emit _ ih => exact .emit ih

/-- What is ensured may be weakened. -/
theorem mono {P' : α → Prop} {p : Plan α} (h : p.Ensures K O P) (hP : ∀ a, P a → P' a) :
    p.Ensures K O P' := by
  have hbind := h.bind (f := .done) (Q := P') fun a ha => .done (hP a ha)
  rwa [Plan.bind_done] at hbind

/-- Every plan ensures nothing. -/
theorem trivial (p : Plan α) : p.Ensures K O fun _ => True := by
  induction p with
  | done a => exact .done True.intro
  | fail e => exact .fail e
  | read cell next ih => exact .read fun r _ => ih r
  | openBus next ih => exact .openBus fun bus _ => ih bus
  | emit writes events next ih => exact .emit ih

/-- Where the first part of a plan does not matter. -/
theorem bindAny {p : Plan α} {f : α → Plan β} (hf : ∀ a, (f a).Ensures K O Q) :
    (p.bind f).Ensures K O Q :=
  (trivial p).bind fun a _ => hf a

/-- **Plans that go on alike** from all that a plan can end with, whatever the
answers, are the same plan. -/
theorem bind_congr {p : Plan α} {f g : α → Plan β}
    (h : p.Ensures (fun _ _ => True) (fun _ => True) P) (hfg : ∀ a, P a → f a = g a) :
    p.bind f = p.bind g := by
  induction h with
  | done ha => exact hfg _ ha
  | fail e => rfl
  | read _ ih => exact congrArg (Plan.read _) (funext fun r => ih r fun _ _ => True.intro)
  | openBus _ ih => exact congrArg Plan.openBus (funext fun bus => ih bus True.intro)
  | emit _ ih => exact congrArg (Plan.emit _ _) ih

/-- A lookup ends with a value that the cell is answered with. -/
theorem lookup (cell : Address) : (Plan.lookup cell).Ensures K O (K cell) := by
  refine .read fun r hr => ?_
  cases r with
  | ok v => exact .done (hr v rfl)
  | error e => exact .fail e

theorem newBus : Plan.newBus.Ensures K O O :=
  .openBus fun _ hbus => .done hbus

end Plan.Ensures

/-! ## The bus of a value -/

namespace Formula

open SoundSheet.Text

/-- **What a voice is bound to**: the second argument of a formula that calls
for a voice. -/
def sourceArgument? (body : List Char) : Option Argument :=
  match tokenize body with
  | [] => none
  | name :: rest =>
    if Builtin.find? name = some .audio then (argumentTexts rest)[1]?.map Argument.ofText else none

end Formula

/-- **The origin of the bus of a value**, which is that of a formula with the
second argument `argument?`, if the formula calls for a voice. The cells that it
has read are answered as `K` says, and the buses that it has opened are such as
`O` says. -/
inductive BusOrigin (K : Address → CellValue → Prop) (O : BusId → Prop)
    (argument? : Option Argument) : CellValue → Prop
  /-- The value has no bus. -/
  | none {v : CellValue} (h : v.bus? = .none) : BusOrigin K O argument? v
  /-- The bus is one that the formula has opened. -/
  | own {v : CellValue} {bus : BusId} (h : v.triggerBus? = some bus) (hbus : O bus) :
      BusOrigin K O argument? v
  /-- The bus is that of the cell that the voice names. -/
  | shared {voice : Voice} {name : List Char} {cell : Address} {v : CellValue}
      (hargument : argument? = some (.cell name)) (hname : Address.parse? name = some cell)
      (hread : K cell v) (hbus : v.triggerBus? = some voice.source) :
      BusOrigin K O argument? (.music (.audio voice))
  /-- The bus is one that a call in the formula has opened for the voice. -/
  | nested {voice : Voice} {source : List Char} (hargument : argument? = some (.call source))
      (hbus : O voice.source) : BusOrigin K O argument? (.music (.audio voice))

/-- The bus of a beat or a sequence is one that the formula has opened. -/
theorem BusOrigin.opened {K : Address → CellValue → Prop} {O : BusId → Prop}
    {argument? : Option Argument} {v : CellValue} (h : BusOrigin K O argument? v) {bus : BusId}
    (hbus : v.triggerBus? = some bus) : O bus := by
  cases h with
  | none h =>
    unfold CellValue.bus? at h
    split at h
    · exact nomatch h
    · exact nomatch h.symm.trans hbus
  | own h hopened => exact Option.some.inj (h.symm.trans hbus) ▸ hopened
  | shared => exact nomatch hbus
  | nested => exact nomatch hbus

/-- **A voice has the bus of the cell that it names, or one that a call has
opened for it.** -/
theorem BusOrigin.voice_cases {K : Address → CellValue → Prop} {O : BusId → Prop}
    {argument? : Option Argument} {voice : Voice}
    (h : BusOrigin K O argument? (.music (.audio voice))) :
    (∃ name cell v, argument? = some (.cell name) ∧ Address.parse? name = some cell ∧ K cell v
        ∧ v.triggerBus? = some voice.source)
      ∨ ∃ source, argument? = some (.call source) ∧ O voice.source := by
  cases h with
  | none h => exact nomatch h
  | own h _ => exact nomatch h
  | shared hargument hname hread hbus => exact .inl ⟨_, _, _, hargument, hname, hread, hbus⟩
  | nested hargument hbus => exact .inr ⟨_, hargument, hbus⟩

/-- A musical object without a bus. -/
abbrev MusicObject.Mute (m : MusicObject) : Prop :=
  (CellValue.music m).bus? = none

/-! ## Hosts -/

/-- **A host that returns no musical object**. -/
def Script.Host.ReturnsNoMusic (h : Host) : Prop :=
  ∀ code scope outcome, h.run code scope = .ok outcome → ∀ m, outcome.value ≠ .music m

namespace Script

/-- A script returns a number, a text or nothing. -/
theorem not_music_of_runCode {code : List Char} {scope : Scope} {outcome : Outcome}
    {draws : Address → Draws} (h : runCode draws code scope = .ok outcome) (m : MusicObject) :
    outcome.value ≠ .music m := by
  obtain ⟨d, hd⟩ := exists_value_of_runCode draws h
  rw [hd]
  cases d <;> exact fun heq => nomatch heq

theorem returnsNoMusic_hostDrawing (draws : Address → Draws) :
    (hostDrawing draws).ReturnsNoMusic :=
  fun _ _ _ h => not_music_of_runCode h

theorem returnsNoMusic_plainHost : plainHost.ReturnsNoMusic :=
  returnsNoMusic_hostDrawing evenDraws

end Script

/-! ## The builtins -/

namespace Formula

open SoundSheet.Text

variable {K : Address → CellValue → Prop} {O : BusId → Prop}
  {nested : List Char → Plan CellValue}

theorem mute_parameters (frequency amplitude : List Char) (phase : Float) :
    (parameters nested frequency amplitude phase).Ensures K O MusicObject.Mute :=
  .bindAny fun _ => .bindAny fun _ => .done rfl

theorem mute_waveform (call : Invocation) :
    (waveform nested call).Ensures K O MusicObject.Mute := by
  unfold waveform
  split
  · refine .bindAny fun v => ?_
    split
    · exact .done rfl
    · exact .fail _
  · exact mute_parameters _ _ _
  · exact .bindAny fun _ => mute_parameters _ _ _
  · exact .fail _

theorem mute_oscillator (call : Invocation) :
    (oscillator nested call).Ensures K O MusicObject.Mute := by
  unfold oscillator
  split
  · exact .bindAny fun _ => .bindAny fun _ => .bindAny fun _ => .bindAny fun _ => .done rfl
  · exact .fail _

theorem mute_metronome (setting : Setting) (call : Invocation) :
    (metronome nested setting call).Ensures K O MusicObject.Mute := by
  unfold metronome
  split
  · exact .done rfl
  · exact .bindAny fun _ => .done rfl
  · exact .fail _

theorem mute_time (setting : Setting) (call : Invocation) :
    (time setting call).Ensures K O MusicObject.Mute := by
  unfold time
  split
  · exact .done rfl
  · exact .fail _

theorem mute_adsr (call : Invocation) : (adsr nested call).Ensures K O MusicObject.Mute := by
  unfold adsr
  split
  · exact .bindAny fun _ => .bindAny fun _ => .bindAny fun _ => .bindAny fun _ => .done rfl
  · exact .fail _

theorem mute_rooted (root : List Char) (quality : Option (List Char)) :
    (rooted nested root quality).Ensures K O MusicObject.Mute := by
  refine .bindAny fun root => ?_
  dsimp only
  cases Music.Note.parse? _ with
  | none => exact .fail _
  | some root =>
    cases quality with
    | none => exact .done rfl
    | some quality =>
      refine .bindAny fun quality => ?_
      cases Music.Quality.parse? _ with
      | none => exact .fail _
      | some quality => exact .done rfl

theorem mute_chord (call : Invocation) : (chord nested call).Ensures K O MusicObject.Mute := by
  unfold chord
  split
  · exact mute_rooted _ none
  · exact mute_rooted _ (some _)
  · exact .fail _

/-- **A beat opens its bus.** -/
theorem ensures_beat (call : Invocation) :
    (beat nested call).Ensures K O fun m => ∃ b, m = .beat b ∧ O b.bus := by
  unfold beat
  split
  · exact .bindAny fun bpm => .bindAny fun pattern =>
      Plan.Ensures.newBus.bind fun bus hbus => .done ⟨⟨bpm, _, bus⟩, rfl, hbus⟩
  · exact .fail _

/-- **So does a sequence.** -/
theorem ensures_stepped (source bpm : List Char) (traversal : Option (List Char)) :
    (stepped nested source bpm traversal).Ensures K O fun m =>
      ∃ s, m = .sequence s ∧ O s.bus := by
  unfold stepped
  cases Region.parse? source with
  | none => exact .fail _
  | some region =>
    exact .bindAny fun bpm => .bindAny fun traversal => .bindAny fun values =>
      Plan.Ensures.newBus.bind fun bus hbus =>
        .done ⟨⟨values, 0, values.length, bpm, bus, region, traversal⟩, rfl, hbus⟩

theorem ensures_sequence (call : Invocation) :
    (sequence nested call).Ensures K O fun m => ∃ s, m = .sequence s ∧ O s.bus := by
  unfold sequence
  split
  · exact ensures_stepped _ _ none
  · exact ensures_stepped _ _ (some _)
  · exact .fail _

section Nested

variable (hnested : ∀ s, (nested s).Ensures K O fun v => ∀ bus, v.triggerBus? = some bus → O bus)

include hnested

/-- **An argument that triggers** names a cell, or is a call that has opened the
bus. -/
theorem ensures_argumentValue (s : List Char) :
    (argumentValue nested s).Ensures K O fun v => ∀ voice : Voice,
      v.triggerBus? = some voice.source →
        BusOrigin K O (some (Argument.ofText s)) (.music (.audio voice)) := by
  unfold argumentValue
  cases Argument.ofText s with
  | cell name =>
    unfold Plan.lookupText
    dsimp only
    cases hname : Address.parse? name with
    | none => exact .fail _
    | some cell =>
      exact (Plan.Ensures.lookup cell).mono fun v hv voice hbus => .shared rfl hname hv hbus
  | number n => exact .done fun voice hbus => nomatch hbus
  | call source => exact (hnested source).mono fun v hv voice hbus => .nested rfl (hv _ hbus)
  | text t => exact .done fun voice hbus => nomatch hbus

/-- **A voice is bound to its second argument.** -/
theorem ensures_voice (frequency source : List Char) (waveType : Option (List Char)) :
    (voice nested frequency source waveType).Ensures K O fun m =>
      BusOrigin K O (some (Argument.ofText source)) (.music m) := by
  refine .bindAny fun frequency => (ensures_argumentValue hnested source).bind fun v hv => ?_
  cases hbus : v.triggerBus? with
  | none => exact .fail _
  | some bus => exact .bindAny fun waveType => .done (hv ⟨frequency, waveType, bus⟩ hbus)

theorem ensures_audio (call : Invocation) :
    (audio nested call).Ensures K O fun m =>
      BusOrigin K O ((argumentTexts call.tokens)[1]?.map Argument.ofText) (.music m) := by
  unfold audio
  split
  · next hargs => rw [hargs]; exact ensures_voice hnested _ _ none
  · next hargs => rw [hargs]; exact ensures_voice hnested _ _ (some _)
  · exact .fail _

/-! ## Whole formulas -/

/-- **Every builtin leaves a value whose bus has an origin.** -/
theorem ensures_invocation {setting : Setting} (hhost : setting.host.ReturnsNoMusic)
    (call : Invocation) (b : Builtin) :
    (call.run setting nested b).Ensures K O
      (BusOrigin K O
        (if some b = some .audio then (argumentTexts call.tokens)[1]?.map Argument.ofText
          else none)) := by
  have hmute : ∀ {argument? : Option Argument} {p : Plan MusicObject},
      p.Ensures K O MusicObject.Mute →
        (p.bind fun m => .done (.music m)).Ensures K O (BusOrigin K O argument?) :=
    fun h => h.bind fun m hm => .done (.none hm)
  cases b with
  | waveform => exact hmute (mute_waveform call)
  | oscillator => exact hmute (mute_oscillator call)
  | metronome => exact hmute (mute_metronome setting call)
  | time => exact hmute (mute_time setting call)
  | adsr => exact hmute (mute_adsr call)
  | chord => exact hmute (mute_chord call)
  | concat => exact .bindAny fun s => .done (.none rfl)
  | beat =>
    refine (ensures_beat call).bind fun m hm => ?_
    obtain ⟨b, rfl, hbus⟩ := hm
    exact .done (.own rfl hbus)
  | sequence =>
    refine (ensures_sequence call).bind fun m hm => ?_
    obtain ⟨s, rfl, hbus⟩ := hm
    exact .done (.own rfl hbus)
  | audio => exact (ensures_audio hnested call).bind fun m hm => .done hm
  | script =>
    show (script setting call).Ensures K O _
    refine .bindAny fun values => ?_
    cases hrun : setting.host.run _ _ with
    | error message => exact .fail _
    | ok outcome =>
      refine .emit (.done (.none ?_))
      have hvalue := hhost _ _ outcome hrun
      cases hout : outcome.value with
      | music m => exact absurd hout (hvalue m)
      | _ => rfl

end Nested

theorem ensures_runWithin {setting : Setting} (hhost : setting.host.ReturnsNoMusic)
    (caller : Address) : ∀ (room : Nat) (body : List Char),
      (runWithin setting caller room body).Ensures K O (BusOrigin K O (sourceArgument? body))
  | 0, _ => .fail _
  | room + 1, body => by
    have hnested : ∀ s, (runWithin setting caller room s).Ensures K O fun v =>
        ∀ bus, v.triggerBus? = some bus → O bus :=
      fun s => (ensures_runWithin hhost caller room s).mono fun v hv bus hbus => hv.opened hbus
    unfold runWithin sourceArgument?
    cases tokenize body with
    | nil => exact .fail _
    | cons name rest =>
      dsimp only
      cases Builtin.find? name with
      | none => exact .bindAny fun n => .done (.none rfl)
      | some b =>
        exact ensures_invocation hnested hhost
          ⟨rest, (trimStart body).drop name.length, caller⟩ b

/-- **The bus of every value that a raw text leads to has an origin.** -/
theorem ensures_runRaw {setting : Setting} (hhost : setting.host.ReturnsNoMusic)
    (caller : Address) (raw : String) :
    (runRaw setting caller raw).Ensures K O
      (BusOrigin K O ((body? raw).bind sourceArgument?)) := by
  cases hbody : body? raw with
  | some body =>
    rw [runRaw_of_body? setting caller hbody]
    exact ensures_runWithin hhost caller maxNesting body
  | none =>
    rw [runRaw_of_body?_eq_none setting caller hbody]
    exact .done (.none (bus?_literal raw))

end Formula

end SoundSheet
